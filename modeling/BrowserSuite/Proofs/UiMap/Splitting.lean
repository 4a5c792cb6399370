import BrowserSuite.Proofs.Text.Occurrences
import BrowserSuite.Proofs.UiMap.Margins

/-!
# Fields of a line

The line of an action is cut at its delimiters and at nothing else: the fields with the
delimiter between them are the line again, whatever the delimiter, and there are as many
parameters as the line has delimiters from left to right.  Where the delimiter is one character,
the way back is open too, and every command with parameters that do not contain it can be
written as a line (`ofLine_joins_and_parts`).

Here a line is the text that an action is made of.  What is trimmed off it before is the matter
of `page_keeps_fields_iff`.
-/

namespace BrowserSuite.Action

/-- The first field of a line is the name of the command before it is trimmed, and the others
are the parameters. -/
theorem exists_fields_of_line (text : String) {delimiter : String} (hdelimiter : delimiter ≠ "")
    (n : Nat) :
    ∃ name params, ofLine text delimiter n = ⟨Text.trim name, params, n⟩ ∧
      Text.fieldsBy delimiter.toList text.toList = (name :: params).map String.toList := by
  have hne : delimiter.toList ≠ [] := by simpa using hdelimiter
  obtain ⟨field, fs, hfields⟩ := Text.exists_fieldsBy_eq_cons delimiter.toList text.toList
  have hsplit : Text.split delimiter text = String.ofList field :: fs.map String.ofList := by
    rw [Text.split_eq hdelimiter, hfields, List.map_cons]
  refine ⟨_, _, ofLine_of_split hsplit n, ?_⟩
  rw [hfields]
  simp [Function.comp_def]

/-- Cutting a line loses nothing, and it can be undone.

The fields of a line, the first of them not yet trimmed, are the line again when they are
written with the delimiter between them.  None of them contains the delimiter, and there are as
many parameters as leftmost occurrences of it that do not overlap.

A command that has no blanks around it and any parameters are what their line is cut into, as
long as none of them contains the delimiter and this is one character. -/
theorem ofLine_joins_and_parts (n : Nat) :
    (∀ text delimiter : String, delimiter ≠ "" →
      ∃ name params, ofLine text delimiter n = ⟨Text.trim name, params, n⟩ ∧
        Text.join delimiter (name :: params) = text ∧
        (∀ field ∈ name :: params, ¬ delimiter.toList <:+: field.toList) ∧
        (∃ starts, Text.Leftmost delimiter.toList text.toList starts) ∧
        ∀ starts, Text.Leftmost delimiter.toList text.toList starts →
          params.length = starts.length) ∧
    ∀ (d : Char) (command : String) (params : List String), Text.trim command = command →
      (∀ field ∈ command :: params, d ∉ field.toList) →
      ofLine (Text.join (String.singleton d) (command :: params)) (String.singleton d) n =
        ⟨command, params, n⟩ := by
  constructor
  · intro text delimiter hdelimiter
    have hne : delimiter.toList ≠ [] := by simpa using hdelimiter
    obtain ⟨name, params, haction, hfields⟩ := exists_fields_of_line text hdelimiter n
    obtain ⟨starts, hstarts, hlength⟩ := Text.exists_leftmost hne text.toList
    refine ⟨name, params, haction, ?_, fun field hfield => ?_, ⟨starts, hstarts⟩,
      fun others hothers => ?_⟩
    · rw [← String.toList_inj, Text.toList_join, ← hfields, Text.joinFields_fieldsBy]
    · refine Text.not_infix_of_mem_fieldsBy (s := text.toList) hne ?_
      rw [hfields]
      exact List.mem_map_of_mem hfield
    · rw [← hstarts.unique hne hothers]
      rw [hfields] at hlength
      simpa using hlength
  · intro d command params htrim hfree
    rw [ofLine_of_split (Text.split_join (List.cons_ne_nil _ _) hfree), htrim]

/-- A delimiter that overlaps itself, and parameters with blanks or nothing in them. -/
theorem ofLine_joins_and_parts_bars :
    (∃ name params, ofLine "log|||||  hi " "||" 1 = ⟨Text.trim name, params, 1⟩ ∧
      Text.join "||" (name :: params) = "log|||||  hi " ∧ params = ["", "|  hi "] ∧
      ∀ starts, Text.Leftmost "||".toList "log|||||  hi ".toList starts → 2 = starts.length) ∧
    ofLine (Text.join "|" ["type", "id", "", "  padded "]) "|" 1 =
      ⟨"type", ["id", "", "  padded "], 1⟩ := by
  obtain ⟨hcut, hback⟩ := ofLine_joins_and_parts 1
  constructor
  · obtain ⟨name, params, haction, hjoin, -, -, hcount⟩ :=
      hcut "log|||||  hi " "||" (by decide)
    have hline : ofLine "log|||||  hi " "||" 1 = ⟨"log", ["", "|  hi "], 1⟩ := by decide +kernel
    have hparams : params = ["", "|  hi "] :=
      (congrArg Action.params (haction.symm.trans hline) :)
    exact ⟨name, params, haction, hjoin, hparams, fun starts h => by
      rw [← hcount starts h, hparams]
      rfl⟩
  · exact hback '|' "type" ["id", "", "  padded "] (by decide +kernel) (by decide +kernel)

end BrowserSuite.Action
