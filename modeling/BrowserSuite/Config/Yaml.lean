import BrowserSuite.Config.Source
import BrowserSuite.Json.Printer
import BrowserSuite.Yaml.Meaning
import BrowserSuite.Yaml.Node

/-!
# Configurations in YAML

A group is a mapping; nothing at all is a group without settings.  Any scalar
can stand for a text, while a number or a truth value has to be plain.
-/

namespace BrowserSuite.Config

open Yaml

/-- What a whole number that fits into a double word is in the words of an error,
and whether it does not fit into a single one. -/
def wideKind (sign : String) (n limit : Nat) : String :=
  "integer \x60" ++ sign ++ toString n ++ "\x60" ++
    (if sign.isEmpty && n < limit || !sign.isEmpty && n ≤ limit then "" else " as " ++
      (if sign.isEmpty then "u128" else "i128"))

/-- What a plain text stands for, in the words of an error. -/
def plainKind (text : String) : String :=
  let natural := (natural? text).filter (· < Nat.pow 2 128)
  let negative := (negative? text).filter (· ≤ Nat.pow 2 127)
  match isNull text, bool? text, natural, negative, real? text with
  | true, _, _, _, _ => "unit value"
  | _, some b, _, _, _ => "boolean \x60" ++ toString b ++ "\x60"
  | _, _, some n, _, _ => wideKind "" n (Nat.pow 2 64)
  | _, _, _, some n, _ => wideKind "-" n (Nat.pow 2 63)
  | _, _, _, _, some (.double x) => "floating point \x60" ++ x.positional ++ "\x60"
  | _, _, _, _, some (.infinite negative) =>
    "floating point \x60" ++ (if negative then "-inf" else "inf") ++ "\x60"
  | _, _, _, _, some .notANumber => "floating point \x60NaN\x60"
  | _, _, _, _, none => "string " ++ String.ofList (Json.quote text.toList)

/-- What a node is, in the words of an error. -/
def yamlKind : Node → String
  | .scalar text .plain _ => plainKind text
  | .scalar text _ _ => "string " ++ String.ofList (Json.quote text.toList)
  | .sequence _ _ => "sequence"
  | .mapping _ _ => "map"
  | .broken fault => fault.message

/-- An error about the value at the end of some names. -/
def yamlError (path : List String) (problem : String) (mark : Mark) : String :=
  let place := if mark.line = 0 ∧ mark.column = 0 then "" else " at " ++ mark.describe
  (if path.isEmpty then "" else ".".intercalate path ++ ": ") ++ problem ++ place

/-- Reads from a node. -/
abbrev YamlReading := ReaderT Node (Except String)

namespace YamlReading

/-- Reads from a node that is no part of the one that is being read. -/
def within {α : Type} (reading : YamlReading α) (n : Node) : YamlReading α :=
  fun _ => reading.run n

/-- Refuses a node that is something else than expected. -/
def mismatch {α : Type} (path : List String) (expected : String) : YamlReading α := do
  let n ← read
  match n with
  | .broken fault => throw fault.message
  | n => throw (yamlError path ("invalid type: " ++ yamlKind n ++ ", expected " ++ expected) n.mark)

/-- A whole number of 64 bits.  A number with a minus sign is read before it is
refused, because minus zero is not. -/
def natural (path : List String) (expected : String) : YamlReading Nat := do
  match ← read with
  | .scalar text .plain mark =>
    match natural? text, negative? text with
    | some n, _ => if n < Nat.pow 2 64 then pure n else mismatch path expected
    | _, some 0 => pure 0
    | _, some n =>
      if n ≤ Nat.pow 2 63 then
        throw (yamlError path
          ("invalid value: integer \x60-" ++ toString n ++ "\x60, expected " ++ expected) mark)
      else mismatch path expected
    | _, _ => mismatch path expected
  | _ => mismatch path expected

/-- A text, which any scalar can stand for. -/
def text (path : List String) : YamlReading String := do
  match ← read with
  | .scalar text _ _ => pure text
  | _ => mismatch path "a string"

/-- A truth value. -/
def truth (path : List String) : YamlReading Bool := do
  match ← read with
  | .scalar text .plain _ =>
    match bool? text with
    | some b => pure b
    | none => mismatch path "a boolean"
  | _ => mismatch path "a boolean"

variable {S : Type}

/-- Reads the members of a mapping, given the names that have been met. -/
def members (path names : List String) (mark : Mark) (member : S → String → YamlReading S) :
    List (Node × Node) → List String → S → YamlReading S
  | [], _, found => pure found
  | (key, value) :: rest, met, found => do
    let name ← (text path).within key <|> (mismatch path "field identifier").within key
    if !names.contains name then
      match value.fault? with
      | some fault => throw fault.message
      | none => members path names mark member rest (name :: met) found
    else if met.contains name then
      throw (yamlError path ("duplicate field \x60" ++ name ++ "\x60") mark)
    else members path names mark member rest (name :: met) (← (member found name).within value)

/-- Reads a group of settings. -/
def group (path : List String) (expected : String) (names : List String) (initial : S)
    (member : S → String → YamlReading S) : YamlReading S := do
  match ← read with
  | .mapping ms mark => members path names mark member ms [] initial
  | .scalar text .plain _ => if isNull text then pure initial else mismatch path expected
  | _ => mismatch path expected

end YamlReading

/-- How the nodes of a YAML document are read. -/
def yamlSource : Source YamlReading where
  natural := YamlReading.natural
  text := YamlReading.text
  truth := YamlReading.truth
  group := YamlReading.group

/-- The configuration that a YAML text stands for. -/
def ofYaml (text : String) : Except String Config := do
  let (root, behind) := Node.read text
  let config ← (ofSource yamlSource).run root
  match behind with
  | some fault => throw fault.message
  | none => pure config

end BrowserSuite.Config
