/-!
# File errors

Why a file could not be read, written or reached, in the words of the operating
system.
-/

namespace BrowserSuite

/-- Why something could not be done with a file. -/
inductive FileError where
  | notFound
  | alreadyExists
  | notDirectory
  | isDirectory
  | nameTooLong
  | notText
  | zeroInPath
  | other (description : String)
  deriving DecidableEq, Repr, Inhabited

/-- The description of a file error. -/
def FileError.message : FileError → String
  | notFound => "No such file or directory (os error 2)"
  | alreadyExists => "File exists (os error 17)"
  | notDirectory => "Not a directory (os error 20)"
  | isDirectory => "Is a directory (os error 21)"
  | nameTooLong => "File name too long (os error 36)"
  | notText => "stream did not contain valid UTF-8"
  | zeroInPath => "file name contained an unexpected NUL byte"
  | other description => description

end BrowserSuite
