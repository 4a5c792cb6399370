import BrowserSuite.Proofs.Text.Fields
import BrowserSuite.Proofs.UiMap.Contents

/-!
# Blanks at the ends of a line

The parameters of an action are kept as they are written, blanks included, but the action is
made of a line that has been trimmed as a whole.  So blanks at the end of a line are lost to
the last parameter, and if the separator is a blank itself, empty fields at either end are
lost with them.

The loss is described exactly.  An action has the fields of its line in the file if and only
if the blanks in front of the line are blanks of its first field and, unless there are no
other fields, no blank is at its end (`Text.MarginsInFirst`).  Where that is so, the name of
the command is that of the line in the file, and the line is rejected only if its own fields
are wrong (`page_keeps_fields_iff`).
-/

namespace BrowserSuite

/-! ## The action of a trimmed line -/

section Line

variable {delimiter line field : String} {fields : List String} {n : Nat}

/-- What a line is split into, as fields of characters. -/
theorem exists_of_split_eq_cons (hdelimiter : delimiter ≠ "")
    (h : Text.split delimiter line = field :: fields) :
    ∃ fs, Text.fieldsBy delimiter.toList line.toList = field.toList :: fs ∧
      fields = fs.map String.ofList := by
  have hne : delimiter.toList ≠ [] := by simpa using hdelimiter
  rw [Text.split, Text.fields, if_neg hne] at h
  obtain ⟨first, fs, hfields⟩ := Text.exists_fieldsBy_eq_cons delimiter.toList line.toList
  rw [hfields, List.map_cons, List.cons.injEq] at h
  obtain ⟨rfl, rfl⟩ := h
  exact ⟨fs, by simpa using hfields, rfl⟩

theorem Action.ofLine_of_split (h : Text.split delimiter line = field :: fields) (n : Nat) :
    Action.ofLine line delimiter n = ⟨Text.trim field, fields, n⟩ := by
  rw [ofLine, h]

/-- The action of a trimmed line has the fields of the line if and only if nothing is trimmed
off a parameter. -/
theorem Action.ofLine_trim_eq_iff (hdelimiter : delimiter ≠ "")
    (h : Text.split delimiter line = field :: fields) (n : Nat) :
    ofLine (Text.trim line) delimiter n = ⟨Text.trim field, fields, n⟩ ↔
      Text.MarginsInFirst line.toList field.toList fields := by
  have hne : delimiter.toList ≠ [] := by simpa using hdelimiter
  obtain ⟨fs, hfs, rfl⟩ := exists_of_split_eq_cons hdelimiter h
  have hmargins : Text.MarginsInFirst line.toList field.toList (fs.map String.ofList) ↔
      Text.MarginsInFirst line.toList field.toList fs := by
    simp [Text.MarginsInFirst]
  rw [hmargins]
  constructor
  · intro heq
    obtain ⟨first, others, htrim⟩ : ∃ first others,
        Text.split delimiter (Text.trim line) = first :: others := by
      obtain ⟨first, others, htrim⟩ :=
        Text.exists_fieldsBy_eq_cons delimiter.toList (Text.trim line).toList
      exact ⟨_, _, by rw [Text.split, Text.fields, if_neg hne, htrim, List.map_cons]⟩
    rw [ofLine_of_split htrim, Action.mk.injEq] at heq
    obtain ⟨gs, hgs, rfl⟩ := exists_of_split_eq_cons hdelimiter htrim
    rw [Text.toList_trim] at hgs
    have hparams : gs = fs :=
      List.map_injective_iff.mpr (fun _ _ => String.ofList_injective) heq.2.1
    exact Text.marginsInFirst_of_fieldsBy_trimChars hne hfs (hparams ▸ hgs)
  · intro hkept
    obtain ⟨first, hfirst, hcommand⟩ := Text.exists_fieldsBy_trimChars hne hfs hkept
    have htrim : Text.split delimiter (Text.trim line) =
        String.ofList first :: fs.map String.ofList := by
      rw [Text.split, Text.fields, if_neg hne, Text.toList_trim, hfirst, List.map_cons]
    rw [ofLine_of_split htrim, Text.trim, String.toList_ofList, hcommand]
    rfl

end Line

/-! ## The page of a UI map -/

/-- Of the lines that count, one has the number of a line that does. -/
theorem ListsEffective.filter_eq {content text : String} {lines : List (Nat × String)} {n : Nat}
    (hlines : ListsEffective content lines) (hline : IsEffectiveLine content n text) :
    lines.filter (·.1 = n) = [(n, text)] := by
  obtain ⟨hsorted, hmem⟩ := hlines
  obtain ⟨before, after, rfl⟩ := List.append_of_mem ((hmem n text).mpr hline)
  rw [List.pairwise_append, List.pairwise_cons] at hsorted
  obtain ⟨-, ⟨hafter, -⟩, hbefore⟩ := hsorted
  have hnone : before.filter (·.1 = n) = [] := by
    refine List.filter_eq_nil_iff.mpr fun l hl => ?_
    have hlt := hbefore l hl (n, text) (List.mem_cons_self ..)
    simpa using Nat.ne_of_lt hlt
  have hnone' : after.filter (·.1 = n) = [] := by
    refine List.filter_eq_nil_iff.mpr fun l hl => ?_
    simpa using Nat.ne_of_gt (hafter l hl)
  simp [hnone, hnone']

/-- For a line of a UI map that counts, and its fields in the file.

If the UI map is loaded, there is one action with the number of the line.  It has the name
and the parameters that stand in the file if and only if the margins of the line are in its
first field.  If they are, the UI map is not rejected for this line when its fields satisfy
the command. -/
theorem page_keeps_fields_iff (t : FileTree) (delimiter : String) (maps : Path) (name : String)
    {content line field : String} {fields : List String} {n : Nat} (hdelimiter : delimiter ≠ "")
    (hread : t.read (maps.join ⟨name⟩) = .ok content)
    (hline : Text.IsLine content.toList n line.toList)
    (heffective : isEffective (Text.trim line) = true)
    (hfields : Text.split delimiter line = field :: fields) :
    (∀ page, (t.run (Loading.page delimiter maps name)).1 = .ok page →
      ∃ action, page.actions.filter (·.line = n) = [action] ∧
        (action.command = Text.trim field ∧ action.params = fields ↔
          Text.MarginsInFirst line.toList field.toList fields)) ∧
    (Text.MarginsInFirst line.toList field.toList fields →
      (∃ c, Command.ofName? (Text.trim field) = some c ∧ c.arity ≤ fields.length) →
      ∀ file cause, (t.run (Loading.page delimiter maps name)).1 = .error (.badAction file cause) →
        cause.line? ≠ some n) := by
  have hrun : (t.run (Loading.page delimiter maps name)).1 = t.page delimiter maps name :=
    congrArg Prod.fst (t.reads_page delimiter maps name)
  have hcounts : IsEffectiveLine content n (Text.trim line) := ⟨line, hline, rfl, heffective⟩
  have hiff := Action.ofLine_trim_eq_iff hdelimiter hfields n
  rw [hrun]
  constructor
  · intro page hpage
    obtain ⟨-, content', lines, hread', hlines, hactions⟩ := FileTree.isPage_of_page hpage
    cases hread.symm.trans hread'
    refine ⟨Action.ofLine (Text.trim line) delimiter n, ?_, ?_⟩
    · have hfilter := congrArg (actionsOf delimiter) (hlines.filter_eq hcounts)
      rw [hactions, actionsOf, List.filter_map]
      simpa [actionsOf, Function.comp_def] using hfilter
    · rw [← hiff, Action.mk.injEq]
      simp
  · intro hmargins hsound file cause herror heq
    have hfault := t.fault?_page delimiter maps name
    rw [herror] at hfault
    obtain ⟨-, content', m, text, hread', hcounts', hmistake, hm, -⟩ :=
      FileTree.exists_of_head?_mapFaults hfault.symm
    cases hread.symm.trans hread'
    cases hm.symm.trans heq
    -- The line that is rejected is this one, and there is nothing wrong with it.
    obtain ⟨line', hline', rfl, -⟩ := hcounts'
    have hnone : (⟨Text.trim field, fields, n⟩ : Action).mistake? = none :=
      Action.mistake?_eq_none_iff.mpr hsound
    rw [← hline.unique hline', hiff.mpr hmargins, hnone] at hmistake
    cases hmistake

/-- A UI map with blanks in front of a parameter, two with an empty parameter at the end, and
one with blanks behind a parameter. -/
def paddedMaps : FileTree :=
  ⟨[(["ui_maps"], .directory),
    (["ui_maps", "front"], .file (.text "# padded\r\n  type |id|x|  padded\r\n")),
    (["ui_maps", "tabs"], .file (.text "open\t\n")),
    (["ui_maps", "bars"], .file (.text "open|\n")),
    (["ui_maps", "back"], .file (.text "log|hi  \n"))], []⟩

/-- Blanks in front of a parameter are kept. -/
theorem page_keeps_fields_iff_front :
    let page : Page := ⟨"front", [⟨"type", ["id", "x", "  padded"], 2⟩]⟩
    (paddedMaps.run (Loading.page "|" ⟨"/ui_maps"⟩ "front")).1 = .ok page ∧
      ∃ action, page.actions.filter (·.line = 2) = [action] ∧
        action.command = Text.trim "  type " ∧ action.params = ["id", "x", "  padded"] := by
  intro page
  have hload : (paddedMaps.run (Loading.page "|" ⟨"/ui_maps"⟩ "front")).1 = .ok page := by
    decide +kernel
  have hline : Text.IsLine "# padded\r\n  type |id|x|  padded\r\n".toList 2
      "  type |id|x|  padded".toList := isLine_iff_getElem?_lines.mpr (by decide +kernel)
  have hfields : Text.split "|" "  type |id|x|  padded" =
      ["  type ", "id", "x", "  padded"] := by decide +kernel
  have hlast : "  type |id|x|  padded".toList.getLast? = some 'd' := by decide +kernel
  have hmargins : Text.MarginsInFirst "  type |id|x|  padded".toList "  type ".toList
      ["id", "x", "  padded"] := by
    refine ⟨by decide +kernel, .inr fun c hc => ?_⟩
    cases hlast.symm.trans hc
    rfl
  obtain ⟨haction, -⟩ := page_keeps_fields_iff paddedMaps "|" ⟨"/ui_maps"⟩ "front" (by decide)
    (by decide +kernel) hline (by decide +kernel) hfields
  obtain ⟨action, hfilter, hiff⟩ := haction page hload
  exact ⟨hload, action, hfilter, hiff.mpr hmargins⟩

/-- If a blank separates the fields, an empty parameter at the end is lost, and the line is
rejected although it has as many parameters as its command needs; with another separator it is
kept.  Blanks behind the last parameter are lost in any case. -/
theorem page_loses_blank_end :
    Text.split "\t" "open\t" = ["open", ""] ∧
      (paddedMaps.run (Loading.page "\t" ⟨"/ui_maps"⟩ "tabs")).1 =
        .error (.badAction ⟨"/ui_maps/tabs"⟩ (.arity "open" 1 0 1)) ∧
      Text.split "|" "open|" = ["open", ""] ∧
      (paddedMaps.run (Loading.page "|" ⟨"/ui_maps"⟩ "bars")).1 =
        .ok ⟨"bars", [⟨"open", [""], 1⟩]⟩ ∧
      Text.split "|" "log|hi  " = ["log", "hi  "] ∧
      (paddedMaps.run (Loading.page "|" ⟨"/ui_maps"⟩ "back")).1 =
        .ok ⟨"back", [⟨"log", ["hi"], 1⟩]⟩ := by
  refine ⟨?_, ?_, ?_, ?_, ?_, ?_⟩ <;> decide +kernel

end BrowserSuite
