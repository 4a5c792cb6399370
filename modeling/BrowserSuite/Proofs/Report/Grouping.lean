import BrowserSuite.Report.Log
import Mathlib.Data.List.Induction

/-!
# Grouping the log

Grouping loses nothing and mixes nothing: `groupsOf_grouped` says that a suite with
messages has exactly one group, which holds its messages in the order in which they
were written, and that a suite without messages has none.
-/

namespace BrowserSuite

variable {e : LogEntry} {name : String} {groups : GroupedLog}

/-- The entries of one suite. -/
def entriesOf (name : String) (log : List LogEntry) : List LogEntry :=
  log.filter fun e => e.suite == name

/-- The messages of one suite. -/
def messagesOf (name : String) (log : List LogEntry) : List String :=
  (entriesOf name log).map LogEntry.message

@[simp] theorem messagesOf_append (log more : List LogEntry) :
    messagesOf name (log ++ more) = messagesOf name log ++ messagesOf name more := by
  simp [messagesOf, entriesOf]

/-- Lines that are written under one name. -/
theorem messagesOf_map_mk (time : Moment) (suite name : String) (lines : List String) :
    messagesOf name (lines.map (⟨time, suite, ·⟩)) = if suite = name then lines else [] := by
  unfold messagesOf entriesOf
  split <;> rename_i h
  · rw [List.filter_eq_self.mpr (by simp [h]), List.map_map]
    exact List.map_id' lines
  · rw [List.filter_eq_nil_iff.mpr (by simp [h]), List.map_nil]

/-- Lines that one suite writes are no messages of another one. -/
theorem messagesOf_append_map_of_ne {time : Moment} {suite name : String} (h : suite ≠ name)
    (log : List LogEntry) (lines : List String) :
    messagesOf name (log ++ lines.map (⟨time, suite, ·⟩)) = messagesOf name log := by
  rw [messagesOf_append, messagesOf_map_mk, if_neg h, List.append_nil]

/-- Lines that a suite writes are added to its messages. -/
theorem messagesOf_append_map_self {time : Moment} (suite : String) (log : List LogEntry)
    (lines : List String) :
    messagesOf suite (log ++ lines.map (⟨time, suite, ·⟩)) = messagesOf suite log ++ lines := by
  rw [messagesOf_append, messagesOf_map_mk, if_pos rfl]

theorem messagesOf_flatMap {α : Type} (xs : List α) (f : α → List LogEntry) :
    messagesOf name (xs.flatMap f) = xs.flatMap fun x => messagesOf name (f x) := by
  simp [messagesOf, entriesOf, List.filter_flatMap, List.map_flatMap]

/-- The groups of one suite. -/
def groupsOf (name : String) (groups : GroupedLog) : GroupedLog :=
  groups.filter fun g => g.1 == name

/-- An entry does not touch the groups of other suites. -/
theorem groupsOf_addToGroup_of_ne (h : e.suite ≠ name) :
    groupsOf name (addToGroup e groups) = groupsOf name groups := by
  unfold groupsOf
  induction groups with
  | nil => simp [addToGroup, h]
  | cons g groups ih =>
      unfold addToGroup
      split
      · rename_i hg
        simp [hg, h]
      · simp [List.filter_cons, ih]

/-- The first entry of a suite opens a group. -/
theorem groupsOf_addToGroup_of_nil (h : groupsOf e.suite groups = []) :
    groupsOf e.suite (addToGroup e groups) = [(e.suite, [e])] := by
  unfold groupsOf at *
  induction groups with
  | nil => simp [addToGroup]
  | cons g groups ih =>
      have hne : g.1 ≠ e.suite := by
        intro hg
        simp [hg] at h
      have hrest : groups.filter (fun g => g.1 == e.suite) = [] := by simpa [hne] using h
      unfold addToGroup
      simp [hne, ih hrest]

/-- Every other entry goes to the end of its suite's group. -/
theorem groupsOf_addToGroup_of_singleton {entries : List LogEntry}
    (h : groupsOf e.suite groups = [(e.suite, entries)]) :
    groupsOf e.suite (addToGroup e groups) = [(e.suite, entries ++ [e])] := by
  unfold groupsOf at *
  induction groups with
  | nil => cases h
  | cons g groups ih =>
      unfold addToGroup
      split
      · rename_i hg
        rw [List.filter_cons_of_pos (by simpa using hg)] at h
        obtain ⟨hfirst, hrest⟩ := List.cons_eq_cons.mp h
        simp [hfirst, hrest]
      · rename_i hg
        have hrest : groups.filter (fun g => g.1 == e.suite) = [(e.suite, entries)] := by
          simpa [hg] using h
        simp [hg, ih hrest]

theorem grouped_append_singleton (log : List LogEntry) (e : LogEntry) :
    grouped (log ++ [e]) = addToGroup e (grouped log) := by
  simp [grouped]

/-- A suite with entries has one group, and it holds them in their order. -/
theorem groupsOf_grouped (name : String) (log : List LogEntry) :
    groupsOf name (grouped log) =
      if entriesOf name log = [] then [] else [(name, entriesOf name log)] := by
  induction log using List.reverseRecOn with
  | nil => rfl
  | append_singleton log e ih =>
      rw [grouped_append_singleton]
      by_cases he : e.suite = name
      · subst he
        have hentries : entriesOf e.suite (log ++ [e]) = entriesOf e.suite log ++ [e] := by
          simp [entriesOf]
        by_cases hnil : entriesOf e.suite log = []
        · rw [if_pos hnil] at ih
          rw [groupsOf_addToGroup_of_nil ih, hentries, hnil]
          simp
        · rw [if_neg hnil] at ih
          rw [groupsOf_addToGroup_of_singleton ih, hentries]
          simp
      · have hentries : entriesOf name (log ++ [e]) = entriesOf name log := by
          simp [entriesOf, he]
        rw [groupsOf_addToGroup_of_ne he, ih, hentries]

/-- What is written in the groups of one suite are its messages. -/
theorem messages_grouped (name : String) (log : List LogEntry) :
    (groupsOf name (grouped log)).flatMap (fun g => g.2.map LogEntry.message) =
      messagesOf name log := by
  rw [groupsOf_grouped]
  by_cases h : entriesOf name log = []
  · simp [messagesOf, h]
  · simp [messagesOf, h]

end BrowserSuite
