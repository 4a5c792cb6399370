import BrowserSuite.Proofs.Report.Grouping
import Mathlib.Data.List.Basic

/-!
# The groups of a log

The report shows a log suite by suite.  No suite has two groups, the suites stand in the order
in which they first wrote something, and a group holds what its suite wrote, in order.  So the
groups are the log itself in another order, and not even that for a single suite
(`grouped_rearranges`).

## Strategy

What a group holds follows from `groupsOf_grouped`.  The order of the groups is an invariant of
the log's growth: an entry of a suite that has a group leaves the names alone, and any other
entry adds its suite's name behind all names that the log already had.
-/

namespace BrowserSuite

/-- The names of groups, in order. -/
def namesOf (groups : GroupedLog) : List String := groups.map Prod.fst

/-! ## Entries -/

/-- An entry goes into exactly one group. -/
theorem perm_addToGroup (e : LogEntry) (groups : GroupedLog) :
    List.Perm ((addToGroup e groups).flatMap Prod.snd) (groups.flatMap Prod.snd ++ [e]) := by
  induction groups with
  | nil => exact .refl _
  | cons g groups ih =>
      unfold addToGroup
      split
      · have hswap : List.Perm ([e] ++ groups.flatMap Prod.snd)
            (groups.flatMap Prod.snd ++ [e]) := List.perm_append_comm
        simpa using hswap.append_left g.2
      · simpa using ih.append_left g.2

/-- The groups hold the log. -/
theorem perm_grouped (log : List LogEntry) :
    List.Perm ((grouped log).flatMap Prod.snd) log := by
  induction log using List.reverseRecOn with
  | nil => exact .refl _
  | append_singleton log e ih =>
      rw [grouped_append_singleton]
      exact (perm_addToGroup e (grouped log)).trans (ih.append_right [e])

/-- A group holds what its suite wrote, and there is something of it. -/
theorem eq_entriesOf_of_mem_grouped {log : List LogEntry} {g : String × List LogEntry}
    (hg : g ∈ grouped log) : g.2 = entriesOf g.1 log ∧ g.2 ≠ [] := by
  have hmem : g ∈ groupsOf g.1 (grouped log) := List.mem_filter.mpr ⟨hg, by simp⟩
  rw [groupsOf_grouped] at hmem
  split at hmem
  · cases hmem
  · rename_i hne
    have heq : g.2 = entriesOf g.1 log := congrArg Prod.snd (List.mem_singleton.mp hmem)
    exact ⟨heq, heq ▸ hne⟩

/-- What a suite wrote is among the entries of all groups in its old order. -/
theorem entriesOf_flatMap_grouped (name : String) (log : List LogEntry) :
    entriesOf name ((grouped log).flatMap Prod.snd) = entriesOf name log := by
  have hgroup : ∀ g ∈ grouped log, entriesOf name g.2 = if g.1 = name then g.2 else [] := by
    intro g hg
    rw [(eq_entriesOf_of_mem_grouped hg).1]
    unfold entriesOf
    rw [List.filter_filter]
    split <;> rename_i h
    · simp [h]
    · refine List.filter_eq_nil_iff.mpr fun e _ hboth => h ?_
      obtain ⟨hname, hsuite⟩ := Bool.and_eq_true_iff.mp hboth
      exact (eq_of_beq hsuite).symm.trans (eq_of_beq hname)
  calc entriesOf name ((grouped log).flatMap Prod.snd)
      = (grouped log).flatMap (fun g => entriesOf name g.2) := List.filter_flatMap
    _ = (grouped log).flatMap (fun g => if g.1 = name then g.2 else []) :=
        List.flatMap_congr hgroup
    _ = (groupsOf name (grouped log)).flatMap Prod.snd := by
        unfold groupsOf
        induction grouped log with
        | nil => rfl
        | cons g groups ih => by_cases h : g.1 = name <;> simp [h, ih]
    _ = entriesOf name log := by
        rw [groupsOf_grouped]
        split
        · rename_i h
          exact h.symm
        · simp

/-! ## Names -/

/-- Only the first entry of a suite adds a name, at the end. -/
theorem namesOf_addToGroup (e : LogEntry) (groups : GroupedLog) :
    namesOf (addToGroup e groups) =
      if e.suite ∈ namesOf groups then namesOf groups else namesOf groups ++ [e.suite] := by
  induction groups with
  | nil => rfl
  | cons g groups ih =>
      unfold addToGroup
      split
      · rename_i hg
        simp [namesOf, hg]
      · rename_i hg
        have hmem : e.suite ∈ namesOf (g :: groups) ↔ e.suite ∈ namesOf groups := by
          simp [namesOf, Ne.symm hg]
        have hcons : namesOf ((g.1, g.2) :: addToGroup e groups) =
            g.1 :: namesOf (addToGroup e groups) := rfl
        rw [hcons, ih]
        simp only [hmem]
        split <;> rfl

/-- The suites with a group are those that wrote something. -/
theorem mem_namesOf_grouped_iff (name : String) (log : List LogEntry) :
    name ∈ namesOf (grouped log) ↔ name ∈ log.map LogEntry.suite := by
  induction log using List.reverseRecOn with
  | nil => simp [namesOf, grouped]
  | append_singleton log e ih =>
      rw [grouped_append_singleton, namesOf_addToGroup, List.map_append, List.mem_append, ← ih]
      split
      · rename_i h
        refine (or_iff_left_of_imp fun hname => ?_).symm
        rw [List.mem_singleton.mp hname]
        exact h
      · exact List.mem_append

/-- The groups stand in the order in which their suites first wrote something. -/
theorem pairwise_namesOf_grouped (log : List LogEntry) :
    (namesOf (grouped log)).Pairwise fun a b =>
      (log.map LogEntry.suite).idxOf a < (log.map LogEntry.suite).idxOf b := by
  induction log using List.reverseRecOn with
  | nil => exact .nil
  | append_singleton log e ih =>
      -- Whoever has a group has it for an entry of the shorter log.
      have hfirst : ∀ name ∈ namesOf (grouped log),
          ((log ++ [e]).map LogEntry.suite).idxOf name = (log.map LogEntry.suite).idxOf name := by
        intro name hname
        rw [List.map_append]
        exact List.idxOf_append_of_mem ((mem_namesOf_grouped_iff name log).mp hname)
      have hold : (namesOf (grouped log)).Pairwise fun a b =>
          ((log ++ [e]).map LogEntry.suite).idxOf a <
            ((log ++ [e]).map LogEntry.suite).idxOf b :=
        ih.imp_of_mem fun ha hb hlt => by rwa [hfirst _ ha, hfirst _ hb]
      rw [grouped_append_singleton, namesOf_addToGroup]
      split
      · exact hold
      · rename_i hnew
        refine List.pairwise_append.mpr ⟨hold, List.pairwise_singleton .., ?_⟩
        intro a ha b hb
        rw [List.mem_singleton.mp hb, hfirst a ha, List.map_append]
        rw [mem_namesOf_grouped_iff] at ha hnew
        rw [List.idxOf_append_of_notMem hnew]
        exact Nat.lt_of_lt_of_le (List.idxOf_lt_length_of_mem ha) (Nat.le_add_right ..)

/-- Grouping rearranges a log.  No two groups have one name, the groups stand in the order of
their suites' first entries, every suite with an entry has a group, no group is empty, and each
holds the entries of its suite in their order.  All groups together are a permutation of the
log that keeps the order of every suite's entries. -/
theorem grouped_rearranges (log : List LogEntry) :
    (namesOf (grouped log)).Nodup ∧
      ((namesOf (grouped log)).Pairwise fun a b =>
        (log.map LogEntry.suite).idxOf a < (log.map LogEntry.suite).idxOf b) ∧
      (∀ name, name ∈ namesOf (grouped log) ↔ ∃ e ∈ log, e.suite = name) ∧
      (∀ g ∈ grouped log, g.2 ≠ [] ∧ g.2 = log.filter fun e => e.suite == g.1) ∧
      List.Perm ((grouped log).flatMap Prod.snd) log ∧
      ∀ name, (((grouped log).flatMap Prod.snd).filter fun e => e.suite == name) =
        log.filter fun e => e.suite == name := by
  have hordered := pairwise_namesOf_grouped log
  refine ⟨hordered.imp fun hlt heq => ?_, hordered, fun name => ?_, fun g hg => ?_,
    perm_grouped log, fun name => entriesOf_flatMap_grouped name log⟩
  · rw [heq] at hlt
    exact Nat.lt_irrefl _ hlt
  · rw [mem_namesOf_grouped_iff, List.mem_map]
  · exact (eq_entriesOf_of_mem_grouped hg).symm

end BrowserSuite
