/-
Module: MonitorSplit.Proofs.Settings.Profile
Purpose: Which saved profiles can be used, and what saving one does to the others.
Main exports:
  Keeps, Storable, saveProfile_keeps_iff, comment_not_kept
-/
import MonitorSplit.Proofs.Settings.Store

namespace MonitorSplit.Settings

open Text (trim splitLines lowercase)

/-!
### Saved profiles

The expression of a profile is checked before it is saved, but its name is written as it is.
Whether the profile is found again is decided by the name alone: it has to have the form of a
key, and must not be taken for a header.  The other profiles stay as they are unless the first
one to be saved makes profiles of the defaults.
-/

/-- The text can be read, and the profile is found in it.  All others are as they were in the
store. -/
structure Keeps (store : Store) (text name expression : String) : Prop where
  readable : ∃ contents, contentsOf (some text) = .ok contents
  found : profile? (some text) name = .ok (some expression)
  others : ∀ other, lowercase other ≠ lowercase name →
    profile? (some text) other = profile? store other

/-- A name under which a profile can be found again, among what a store holds. -/
structure Storable (name : String) (contents : Contents String) : Prop where
  form : KeyForm name.toList
  noHeader : ¬ HeaderForm name.toList
  hidden : contents.sections.find? profilesSection = none →
    ∀ key ∈ contents.defaults.names, key = lowercase name

section

variable {store : Store} {contents : Contents String} {name expression : String} {dimensions : Int}
  {ratio : Ratio}

/-- The text of a ratio has no bracket, so it does not make a header of the line that it is on. -/
theorem headerForm_entry_iff (nonempty : name.toList ≠ [])
    (parsed : Ratio.parse dimensions expression.toList = .ok ratio) :
    HeaderForm (name.toList ++ (" = ".toList ++ expression.toList)) ↔ HeaderForm name.toList := by
  refine ⟨fun form => ⟨?_, ?_⟩, fun form => form.of_isPrefix (List.prefix_append _ _)⟩
  · exact List.head?_append_of_ne_nil _ nonempty ▸ form.1
  · have closed := form.2
    rw [List.drop_append] at closed
    rcases List.mem_append.mp closed with inName | behind
    · exact inName
    · rcases List.mem_append.mp (List.mem_of_mem_drop behind) with sign | value
      · exact absurd sign (by decide)
      · rcases Ratio.mem_of_parse parsed value with digit | plus | colon
        · exact absurd digit (by decide)
        · exact absurd plus (by decide)
        · exact absurd colon (by decide)

theorem saveProfile_eq (readable : contentsOf store = .ok contents)
    (parsed : Ratio.parse dimensions expression.toList = .ok ratio) :
    saveProfile store name expression dimensions =
      .ok (render (contents.set profilesSection name expression)) := by
  rw [saveProfile, parsed]
  simp only [readable]

/-- The profiles before and after one is saved, as long as the text can be read. -/
theorem lookup_put (contents : Contents String) (name expression other : String) :
    (contents.view.put profilesSection name expression).lookup profilesSection other =
      if other = name then some expression
      else if contents.sections.find? profilesSection = none then contents.defaults.find? other
      else contents.view.lookup profilesSection other := by
  rw [View.lookup, View.lookup, View.sections_put, if_pos rfl, Contents.sections_view,
    Option.bind_some, Function.update_apply]
  cases contents.sections.find? profilesSection <;> split <;> simp [View.put]

/-- A profile that a file can hold is found in the text that it is saved in.  The other profiles
stay as they are just if no default becomes one. -/
theorem keeps_iff_of_holds (readable : contentsOf store = .ok contents)
    (holds : Holds (lowercase name) expression) :
    Keeps store (render (contents.set profilesSection name expression)) name expression ↔
      (contents.sections.find? profilesSection = none →
        ∀ key ∈ contents.defaults.names, key = lowercase name) := by
  have sound := sound_of_contentsOf readable
  have written := contentsOf_render (sound.set isName_profilesSection holds)
  have before := (observes readable).profile
  have after (other : String) := (observes written).profile other
  simp only [Contents.view_set (show profilesSection ≠ defaultsName by decide), lookup_put] at after
  constructor
  · intro keeps absent key listed
    by_contra different
    obtain ⟨value, given⟩ := Option.isSome_iff_exists.mp (Table.find?_isSome_iff.mpr listed)
    have lower : lowercase key = key := (sound.defaults.of_find? given).lines.isKey.lower
    have same := keeps.others key (by rwa [lower])
    rw [after, before, lower, if_neg different, if_pos absent, View.lookup, Contents.sections_view,
      absent, Option.map_none, Option.bind_none, Except.ok.injEq] at same
    exact Table.find?_eq_none_iff.mp same listed
  · intro hidden
    refine ⟨⟨_, written⟩, ?_, fun other different => ?_⟩
    · rw [after, if_pos rfl]
    · rw [after, before, if_neg different]
      split
      · rename_i absent
        have unknown : contents.defaults.find? (lowercase other) = none :=
          Table.find?_eq_none_iff.mpr fun listed => different (hidden absent _ listed)
        rw [unknown, View.lookup, Contents.sections_view, absent, Option.map_none, Option.bind_none]
      · rfl

/-- What is found in a text that is read has the form that it needs to be found. -/
theorem holds_of_keeps {text : String} (keeps : Keeps store text name expression) :
    Holds (lowercase name) expression := by
  obtain ⟨after, read⟩ := keeps.readable
  have found := (observes read).profile name
  rw [keeps.found] at found
  exact Contents.holds_of_lookup (sound_of_contentsOf read) (Except.ok.inj found).symm

theorem holds_iff_of_parse (parsed : Ratio.parse dimensions expression.toList = .ok ratio) :
    Holds (lowercase name) expression ↔ KeyForm name.toList ∧ ¬ HeaderForm name.toList := by
  have plain := plainValue_of_parse parsed
  constructor
  · intro holds
    have form := (isKey_lowercase_iff name).mp holds.lines.isKey
    have noHeader := holds.lines.noHeader
    rw [Text.splitLines_of_noFeed plain.single.1, List.headD_cons, entryLine, List.append_assoc,
      headerForm_lowercase_iff, headerForm_entry_iff form.nonempty parsed] at noHeader
    exact ⟨form, noHeader⟩
  · rintro ⟨form, noHeader⟩
    exact holds_of_keyForm form plain ((headerForm_entry_iff form.nonempty parsed).not.mpr noHeader)

/-- Saving a profile whose expression is accepted always gives a text.  The profile can be used
from it, and the others as before, exactly if the name can be found again and no default becomes
a profile. -/
theorem saveProfile_keeps_iff (readable : contentsOf store = .ok contents)
    (parsed : Ratio.parse dimensions expression.toList = .ok ratio) :
    ∃ text, saveProfile store name expression dimensions = .ok text ∧
      (Keeps store text name expression ↔ Storable name contents) := by
  refine ⟨_, saveProfile_eq readable parsed, ?_⟩
  constructor
  · intro keeps
    have holds := holds_of_keeps keeps
    obtain ⟨form, noHeader⟩ := (holds_iff_of_parse parsed).mp holds
    exact ⟨form, noHeader, (keeps_iff_of_holds readable holds).mp keeps⟩
  · intro storable
    have holds := (holds_iff_of_parse parsed).mpr ⟨storable.form, storable.noHeader⟩
    exact (keeps_iff_of_holds readable holds).mpr storable.hidden

end

theorem halves_parsed : ∃ ratio, Ratio.parse 2 "1+1:".toList = .ok ratio :=
  ⟨{ sums := [{ addends := [some 1, some 1] }, { addends := [none] }] },
    Ratio.parse_of_judge (by decide) (by cbv)⟩

theorem halves_keeps_iff :
    contentsOf none = .ok {} ∧ (∃ ratio, Ratio.parse 2 "1+1:".toList = .ok ratio) ∧
      ∃ text, saveProfile none "Halves" "1+1:" 2 = .ok text ∧
        (Keeps none text "Halves" "1+1:" ↔ Storable "Halves" {}) := by
  obtain ⟨ratio, parsed⟩ := halves_parsed
  exact ⟨rfl, ⟨ratio, parsed⟩, saveProfile_keeps_iff rfl parsed⟩

/-- A name that begins like a comment is accepted, but its profile is lost at once. -/
theorem comment_not_kept :
    contentsOf none = .ok {} ∧ "#a".toList ≠ [] ∧ SingleLine "#a".toList ∧
      (∃ ratio, Ratio.parse 2 "1+1:".toList = .ok ratio) ∧
      ∃ text, saveProfile none "#a" "1+1:" 2 = .ok text ∧ profile? (some text) "#a" = .ok none := by
  obtain ⟨ratio, parsed⟩ := halves_parsed
  refine ⟨rfl, by decide, ⟨by decide, by decide⟩, ⟨ratio, parsed⟩, _,
    saveProfile_eq rfl parsed, ?_⟩
  decide +kernel

end MonitorSplit.Settings
