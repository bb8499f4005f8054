/-
Module: MonitorSplit.Proofs.Settings.Table
Purpose: Tables and settings as finite maps, and what all their entries have in common.
Main exports:
  Table.find?_put, Table.find?_remove, Table.Proper, Contents.Proper, Contents.mapValues_adjust
-/
import Mathlib
import MonitorSplit.Settings.Contents

namespace MonitorSplit.Settings

variable {β γ : Type}

namespace Table

/-!
### Names and values
-/

variable {name other : String} {value : β} {table : Table β}

/-- Just the names that are not in a table have no value. -/
theorem find?_eq_none_iff : find? name table = none ↔ name ∉ names table := by
  rw [← find?_isSome_iff, Option.not_isSome_iff_eq_none]

/-- A value that is found is that of an entry. -/
theorem mem_of_find? (found : find? name table = some value) : (name, value) ∈ table := by
  induction table with
  | nil => cases found
  | cons entry rest inductionHypothesis =>
      obtain ⟨known, first⟩ := entry
      rw [find?] at found
      split at found
      · rename_i same
        rw [← same, ← Option.some.inj found]
        exact List.mem_cons_self
      · exact List.mem_cons_of_mem _ (inductionHypothesis found)

/-- A value put under one name changes what is found under no other. -/
theorem find?_put (name other : String) (value : β) (table : Table β) :
    find? other (put name value table) =
      if other = name then some value else find? other table := by
  split
  · rename_i same
    rw [same, find?_put_self]
  · rename_i different
    exact find?_put_of_ne different value table

/-- Forgetting a name forgets no other. -/
theorem find?_remove (nodup : (names table).Nodup) (name other : String) :
    find? other (remove name table) = if other = name then none else find? other table := by
  induction table with
  | nil => simp [remove, find?]
  | cons entry rest inductionHypothesis =>
      obtain ⟨known, first⟩ := entry
      obtain ⟨fresh, later⟩ := List.nodup_cons.mp nodup
      rw [remove]
      split
      · rename_i same
        subst same
        split
        · rename_i isName
          rw [isName]
          exact find?_eq_none_iff.mpr fresh
        · rename_i different
          rw [find?, if_neg (Ne.symm different)]
      · rename_i different
        rw [find?, inductionHypothesis later, find?]
        by_cases isKnown : known = other
        · rw [if_pos isKnown, if_pos isKnown, if_neg (isKnown ▸ different)]
        · rw [if_neg isKnown, if_neg isKnown]

/-- A new name comes last. -/
theorem put_of_not_mem (fresh : name ∉ names table) (value : β) :
    put name value table = table ++ [(name, value)] := by
  induction table with
  | nil => rfl
  | cons entry rest inductionHypothesis =>
      obtain ⟨known, first⟩ := entry
      obtain ⟨different, later⟩ : name ≠ known ∧ name ∉ names rest :=
        List.ne_and_not_mem_of_not_mem_cons fresh
      rw [put, if_neg (Ne.symm different), inductionHypothesis later, List.cons_append]

/-- Names that a table does not have are still new when one more name is added to it. -/
theorem forall_not_mem_concat {rest : Table γ} (different : name ∉ names rest)
    (fresh : ∀ other ∈ names rest, other ∉ names table) (value : β) :
    ∀ other ∈ names rest, other ∉ names (table ++ [(name, value)]) := by
  intro other member known
  rw [names, List.map_append, List.mem_append] at known
  rcases known with old | new
  · exact fresh other member old
  · have same : other = name := List.mem_singleton.mp new
    exact different (same ▸ member)

/-- What has just been put under a new name can be changed before it is put there. -/
theorem adjust_put (change : β → β) (fresh : name ∉ names table) (value : β) :
    adjust name change (put name value table) = put name (change value) table := by
  induction table with
  | nil => simp [put, adjust]
  | cons entry rest inductionHypothesis =>
      obtain ⟨known, first⟩ := entry
      obtain ⟨different, later⟩ : name ≠ known ∧ name ∉ names rest :=
        List.ne_and_not_mem_of_not_mem_cons fresh
      rw [put, put, if_neg (Ne.symm different), if_neg (Ne.symm different), adjust,
        if_neg (Ne.symm different), inductionHypothesis later]

/-- Only the last entry is changed if no other has its name. -/
theorem adjust_concat (change : β → β) (fresh : name ∉ names table) (value : β) :
    adjust name change (table ++ [(name, value)]) = table ++ [(name, change value)] := by
  rw [← put_of_not_mem fresh, adjust_put change fresh, put_of_not_mem fresh]

/-- A change under one name changes what is found under no other. -/
theorem find?_adjust (name other : String) (change : β → β) (table : Table β) :
    find? other (adjust name change table) =
      if other = name then (find? name table).map change else find? other table := by
  induction table with
  | nil => simp [adjust, find?]
  | cons entry rest inductionHypothesis =>
      obtain ⟨known, first⟩ := entry
      by_cases isKnown : known = name
      · subst isKnown
        by_cases same : other = known
        · simp [adjust, find?, same]
        · simp [adjust, find?, same, Ne.symm same]
      · rw [adjust, if_neg isKnown, find?, inductionHypothesis, find?, find?]
        by_cases same : known = other
        · rw [if_pos same, if_pos same, if_neg (same ▸ isKnown)]
        · rw [if_neg same, if_neg same, if_neg isKnown]

/-- A table has one name more only if the name is new. -/
theorem names_put (name : String) (value : β) (table : Table β) :
    names (put name value table) =
      if name ∈ names table then names table else names table ++ [name] := by
  induction table with
  | nil => simp [put, names]
  | cons entry rest inductionHypothesis =>
      obtain ⟨known, first⟩ := entry
      by_cases same : known = name
      · simp [put, names, same]
      · have step : names ((known, first) :: put name value rest) =
            known :: names (put name value rest) := rfl
        rw [put, if_neg same, step, inductionHypothesis]
        by_cases later : name ∈ names rest
        · simp_all [names]
        · simp_all [names, Ne.symm same]

/-- Changing a value changes no names. -/
theorem names_adjust (name : String) (change : β → β) (table : Table β) :
    names (adjust name change table) = names table := by
  induction table with
  | nil => rfl
  | cons entry rest inductionHypothesis =>
      obtain ⟨known, first⟩ := entry
      rw [adjust]
      split
      · rfl
      · exact congrArg (known :: ·) inductionHypothesis

/-- All entries but the one that is put were there before. -/
theorem mem_put {entry : String × β} (member : entry ∈ put name value table) :
    entry = (name, value) ∨ entry ∈ table := by
  induction table with
  | nil => exact .inl (List.mem_singleton.mp member)
  | cons first rest inductionHypothesis =>
      obtain ⟨known, old⟩ := first
      rw [put] at member
      split at member
      · rename_i same
        rcases List.mem_cons.mp member with rfl | later
        · exact .inl (by rw [same])
        · exact .inr (List.mem_cons_of_mem _ later)
      · rcases List.mem_cons.mp member with rfl | later
        · exact .inr List.mem_cons_self
        · exact (inductionHypothesis later).imp_right (List.mem_cons_of_mem _)

/-- Every entry was there before, but for the value that is changed. -/
theorem mem_adjust {change : β → β} {entry : String × β}
    (member : entry ∈ adjust name change table) :
    (∃ old, (name, old) ∈ table ∧ entry = (name, change old)) ∨ entry ∈ table := by
  induction table with
  | nil => exact .inr member
  | cons first rest inductionHypothesis =>
      obtain ⟨known, old⟩ := first
      rw [adjust] at member
      split at member
      · rename_i same
        subst same
        rcases List.mem_cons.mp member with rfl | later
        · exact .inl ⟨old, List.mem_cons_self, rfl⟩
        · exact .inr (List.mem_cons_of_mem _ later)
      · rcases List.mem_cons.mp member with rfl | later
        · exact .inr List.mem_cons_self
        · rcases inductionHypothesis later with ⟨before, listed, rfl⟩ | other
          · exact .inl ⟨before, List.mem_cons_of_mem _ listed, rfl⟩
          · exact .inr (List.mem_cons_of_mem _ other)

/-- A change that leaves the value of a name as it is leaves the table as it is. -/
theorem adjust_of_same {change : β → β}
    (same : ∀ value, find? name table = some value → change value = value) :
    adjust name change table = table := by
  induction table with
  | nil => rfl
  | cons entry rest inductionHypothesis =>
      obtain ⟨known, first⟩ := entry
      rw [adjust]
      split
      · rename_i isName
        rw [same first (if_pos isName)]
      · rename_i different
        rw [inductionHypothesis fun value found => same value ((if_neg different).trans found)]

/-- There is nothing to forget under a name that is not in the table. -/
theorem remove_of_not_mem (absent : name ∉ names table) : remove name table = table := by
  induction table with
  | nil => rfl
  | cons entry rest inductionHypothesis =>
      obtain ⟨known, first⟩ := entry
      obtain ⟨different, later⟩ : name ≠ known ∧ name ∉ names rest :=
        List.ne_and_not_mem_of_not_mem_cons absent
      rw [remove, if_neg (Ne.symm different), inductionHypothesis later]

theorem remove_sublist (name : String) (table : Table β) : (remove name table).Sublist table := by
  induction table with
  | nil => exact .slnil
  | cons entry rest inductionHypothesis =>
      obtain ⟨known, first⟩ := entry
      rw [remove]
      split
      · exact List.sublist_cons_self _ _
      · exact inductionHypothesis.cons_cons _

/-!
### Values changed by a function
-/

/-- Changing all values changes no names. -/
theorem names_mapValues (change : β → γ) (table : Table β) :
    names (mapValues change table) = names table := by
  rw [names, mapValues, List.map_map]
  rfl

/-- What is found among changed values is the change of what was found. -/
theorem find?_mapValues (change : β → γ) (name : String) (table : Table β) :
    find? name (mapValues change table) = (find? name table).map change := by
  induction table with
  | nil => rfl
  | cons entry rest inductionHypothesis =>
      obtain ⟨known, first⟩ := entry
      rw [mapValues, List.map_cons, find?, find?]
      split
      · rfl
      · exact inductionHypothesis

/-- A change that makes no difference to what the values are changed to. -/
theorem mapValues_adjust {change : β → γ} {here : β → β}
    (same : ∀ value, change (here value) = change value) (name : String) (table : Table β) :
    mapValues change (adjust name here table) = mapValues change table := by
  induction table with
  | nil => rfl
  | cons entry rest inductionHypothesis =>
      obtain ⟨known, first⟩ := entry
      rw [adjust]
      split
      · exact congrArg (fun value => (known, value) :: mapValues change rest) (same first)
      · exact congrArg ((known, change first) :: ·) inductionHypothesis

/-!
### What holds of all entries
-/

/-- No name comes twice, and something holds of every name and its value. -/
structure Proper (holds : String → β → Prop) (table : Table β) : Prop where
  nodup : (names table).Nodup
  each : ∀ entry ∈ table, holds entry.1 entry.2

namespace Proper

variable {holds : String → β → Prop} {holdsAfter : String → γ → Prop}

theorem nil : Proper holds [] := ⟨List.nodup_nil, fun _ member => by cases member⟩

/-- What holds of all entries holds of what is found. -/
theorem of_find? (proper : Proper holds table) (found : find? name table = some value) :
    holds name value := proper.each _ (mem_of_find? found)

/-- A table stays proper if what is put into it is good. -/
theorem put (proper : Proper holds table) (good : holds name value) :
    Proper holds (put name value table) := by
  constructor
  · rw [names_put]
    split
    · exact proper.nodup
    · rename_i fresh
      refine List.nodup_append.mpr ⟨proper.nodup, List.nodup_singleton name, ?_⟩
      exact fun known old new isNew same => fresh (List.mem_singleton.mp isNew ▸ same ▸ old)
  · intro entry member
    rcases mem_put member with rfl | old
    · exact good
    · exact proper.each entry old

/-- Forgetting a name leaves nothing that was not there. -/
theorem remove (proper : Proper holds table) (name : String) :
    Proper holds (remove name table) where
  nodup := proper.nodup.sublist ((remove_sublist name table).map Prod.fst)
  each entry member := proper.each entry ((remove_sublist name table).subset member)

/-- A table stays proper if the change keeps values good. -/
theorem adjust (proper : Proper holds table) {change : β → β}
    (keeps : ∀ value, holds name value → holds name (change value)) :
    Proper holds (adjust name change table) := by
  constructor
  · rw [names_adjust]
    exact proper.nodup
  · intro entry member
    rcases mem_adjust member with ⟨old, listed, rfl⟩ | other
    · exact keeps old (proper.each _ listed)
    · exact proper.each entry other

/-- What holds of the values that all are changed to holds of the new table. -/
theorem mapValues (proper : Proper holds table) {change : β → γ}
    (keeps : ∀ name value, holds name value → holdsAfter name (change value)) :
    Proper holdsAfter (mapValues change table) := by
  constructor
  · rw [names_mapValues]
    exact proper.nodup
  · intro entry member
    obtain ⟨first, listed, rfl⟩ := List.mem_map.mp member
    exact keeps _ _ (proper.each first listed)

end Proper

end Table

namespace Contents

/-!
### Settings
-/

variable {name : String} {contents : Contents β}

/-- The sections have proper names, and something holds of every key and its value. -/
structure Proper (named : String → Prop) (holds : String → β → Prop) (contents : Contents β) :
    Prop where
  defaults : contents.defaults.Proper holds
  sections : contents.sections.Proper fun name table => named name ∧ table.Proper holds

namespace Proper

variable {named : String → Prop} {holds : String → β → Prop} {holdsAfter : String → γ → Prop}

theorem empty : Proper named holds ({} : Contents β) := ⟨.nil, .nil⟩

/-- Settings stay proper if the change keeps tables so. -/
theorem adjust (proper : Proper named holds contents) {change : Table β → Table β}
    (keeps : ∀ table, table.Proper holds → (change table).Proper holds) :
    Proper named holds (contents.adjust name change) := by
  unfold Contents.adjust
  split
  · exact ⟨keeps _ proper.defaults, proper.sections⟩
  · exact ⟨proper.defaults, proper.sections.adjust fun table good => ⟨good.1, keeps table good.2⟩⟩

/-- A new section of a proper name has no entries that could be wrong. -/
theorem withSection (proper : Proper named holds contents) (good : named name) :
    Proper named holds (contents.withSection name) := by
  unfold Contents.withSection
  split
  · exact proper
  · exact ⟨proper.defaults, proper.sections.put ⟨good, .nil⟩⟩

/-- Settings stay proper if a proper section is given a good value. -/
theorem set (proper : Proper named holds contents) (good : named name) {key : String} {value : β}
    (kept : holds (Text.lowercase key) value) : Proper named holds (contents.set name key value) :=
  (proper.withSection good).adjust fun _ table => table.put kept

/-- What holds of the values that all are changed to holds of the new settings. -/
theorem mapValues (proper : Proper named holds contents) {change : β → γ}
    (keeps : ∀ name value, holds name value → holdsAfter name (change value)) :
    Proper named holdsAfter (contents.mapValues change) where
  defaults := proper.defaults.mapValues keeps
  sections := proper.sections.mapValues fun _ _ good => ⟨good.1, good.2.mapValues keeps⟩

end Proper

/-- A change of a section that makes no difference to what its values are changed to. -/
theorem mapValues_adjust {change : β → γ} {here : Table β → Table β}
    (same : ∀ table, Table.mapValues change (here table) = Table.mapValues change table)
    (name : String) (contents : Contents β) :
    (contents.adjust name here).mapValues change = contents.mapValues change := by
  unfold adjust
  split
  · simp only [mapValues, same]
  · simp only [mapValues, Table.mapValues_adjust same]

/-- The entries of a section among changed values are its entries with changed values. -/
theorem entries_mapValues (change : β → γ) (name : String) (contents : Contents β) :
    (contents.mapValues change).entries name = Table.mapValues change (contents.entries name) := by
  unfold entries
  split
  · rfl
  · rw [mapValues, Table.find?_mapValues]
    cases contents.sections.find? name <;> rfl

end Contents

end MonitorSplit.Settings
