/-
Module: MonitorSplit.Proofs.Settings.Store
Purpose: A store of settings is a finite map, whatever text keeps it.
Main exports:
  View, Contents.view, Update, Update.run, runAll, Update.Plain, Observes, store_refines_map,
  capital_not_listed
-/
import MonitorSplit.Proofs.Ratio.Rendering
import MonitorSplit.Proofs.Settings.Reader
import MonitorSplit.Proofs.Settings.Writer
import MonitorSplit.Settings.Profiles

namespace MonitorSplit.Settings

open Text (trim trimEnd isBlank isFrame splitLines lowercase)

/-!
### Contents as finite maps

Nothing is left of the order of sections and keys.  Names and keys that are not there have no
value.
-/

/-- The value of every key in the defaults and in each section that there is. -/
@[ext]
structure View where
  defaults : String → Option String
  sections : String → Option (String → Option String)

namespace View

/-- Give a key of a section a value.  A section that is not there comes to be. -/
def put (name key value : String) (view : View) : View :=
  let keys := (view.sections name).getD fun _ => none
  { view with
    sections := Function.update view.sections name (some (Function.update keys key (some value))) }

/-- Take the value of a key of a section away. -/
def erase (name key : String) (view : View) : View :=
  { view with
    sections := Function.update view.sections name
      ((view.sections name).map fun keys => Function.update keys key none) }

/-- The value of a key in a section that is there, or else its default. -/
def lookup (name key : String) (view : View) : Option String :=
  (view.sections name).bind fun keys => (keys key).or (view.defaults key)

variable (name key value : String) (view : View)

theorem sections_put (other : String) :
    (view.put name key value).sections other =
      if other = name then
        some (Function.update ((view.sections name).getD fun _ => none) key (some value))
      else view.sections other :=
  Function.update_apply _ _ _ _

theorem sections_erase (other : String) :
    (view.erase name key).sections other =
      if other = name then (view.sections name).map fun keys => Function.update keys key none
      else view.sections other :=
  Function.update_apply _ _ _ _

end View

namespace Contents

/-- The finite maps that contents stand for. -/
def view (contents : Contents String) : View where
  defaults key := contents.defaults.find? key
  sections name := (contents.sections.find? name).map fun table key => table.find? key

@[simp] theorem defaults_view (contents : Contents String) (key : String) :
    contents.view.defaults key = contents.defaults.find? key := rfl

@[simp] theorem sections_view (contents : Contents String) (name : String) :
    contents.view.sections name =
      (contents.sections.find? name).map fun table key => table.find? key := rfl

theorem lookup_eq (contents : Contents String) (name key : String) :
    contents.lookup name key = contents.view.lookup name (lowercase key) := by
  rw [lookup, View.lookup, sections_view]
  cases contents.sections.find? name <;> rfl

variable {contents : Contents String} {name key value : String}

theorem defaults_adjust (ordinary : name ≠ defaultsName) (change : Table String → Table String) :
    (contents.adjust name change).defaults = contents.defaults := by
  rw [adjust, if_neg ordinary]

theorem defaults_withSection (contents : Contents String) (name : String) :
    (contents.withSection name).defaults = contents.defaults := by
  unfold withSection
  split <;> rfl

theorem find?_withSection (contents : Contents String) (name other : String) :
    (contents.withSection name).sections.find? other =
      if other = name then some ((contents.sections.find? name).getD [])
      else contents.sections.find? other := by
  unfold withSection
  split
  · rename_i table found
    split
    · rename_i same
      rw [same, found]
      rfl
    · rfl
  · rename_i absent
    rw [absent]
    exact Table.find?_put _ _ _ _

theorem find?_adjust (ordinary : name ≠ defaultsName) (change : Table String → Table String)
    (other : String) :
    (contents.adjust name change).sections.find? other =
      if other = name then (contents.sections.find? name).map change
      else contents.sections.find? other := by
  rw [adjust, if_neg ordinary]
  exact Table.find?_adjust _ _ _ _

theorem mem_keys_iff : key ∈ contents.keys name ↔ contents.view.lookup name key ≠ none := by
  rw [View.lookup, sections_view, keys]
  cases contents.sections.find? name with
  | none => simp
  | some table =>
      have known (table : Table String) : key ∈ table.names ↔ table.find? key ≠ none := by
        rw [Ne, Table.find?_eq_none_iff, not_not]
      dsimp only
      rw [(List.mergeSort_perm _ _).mem_iff, List.mem_append, List.mem_filter, known, known]
      cases own : table.find? key <;> simp [← Table.find?_isSome_iff, own]

theorem pairwise_keys (sound : contents.Sound) (name : String) :
    (contents.keys name).Pairwise (· < ·) := by
  rw [keys]
  cases found : contents.sections.find? name with
  | none => exact .nil
  | some table =>
      dsimp only
      have own := (sound.sections.of_find? found).2.nodup
      have others := sound.defaults.nodup.filter (!table.names.contains ·)
      have distinct : (table.names ++
          contents.defaults.names.filter (!table.names.contains ·)).Nodup :=
        List.nodup_append.mpr ⟨own, others, fun key inOwn other inOthers same => by
          have absent := (List.mem_filter.mp inOthers).2
          simp_all⟩
      generalize table.names ++ contents.defaults.names.filter (!table.names.contains ·) = all
        at distinct
      have sorted : (all.mergeSort (· ≤ ·)).Pairwise fun left right => decide (left ≤ right) :=
        List.pairwise_mergeSort (fun _ _ _ => by simpa using le_trans)
          (fun left right => by simpa using le_total left right) all
      have ascending : (all.mergeSort (· ≤ ·)).Pairwise (· ≤ ·) := by simpa using sorted
      exact ascending.imp₂ (fun _ _ lower differ => lt_of_le_of_ne lower differ)
        ((List.mergeSort_perm all _).nodup_iff.mpr distinct)

/-- Whatever is found is held by the file, be it in the section or in the defaults. -/
theorem holds_of_lookup (sound : contents.Sound)
    (given : contents.view.lookup name key = some value) : Holds key value := by
  rw [View.lookup, sections_view] at given
  obtain ⟨keys, isSection, found⟩ := Option.bind_eq_some_iff.mp given
  obtain ⟨table, listed, rfl⟩ := Option.map_eq_some_iff.mp isSection
  rcases Option.or_eq_some_iff.mp found with own | ⟨-, default⟩
  · exact (sound.sections.of_find? listed).2.of_find? own
  · exact sound.defaults.of_find? default

/-- Keys are kept in lower case. -/
theorem lowercase_of_lookup (sound : contents.Sound)
    (given : contents.view.lookup name key ≠ none) : lowercase key = key := by
  obtain ⟨value, lookup⟩ := Option.ne_none_iff_exists'.mp given
  exact (holds_of_lookup sound lookup).lines.isKey.lower

theorem view_set (ordinary : name ≠ defaultsName) :
    (contents.set name key value).view = contents.view.put name (lowercase key) value := by
  refine View.ext (funext fun known => ?_) (funext fun other => ?_)
  · rw [defaults_view, set, defaults_adjust ordinary, defaults_withSection]
    rfl
  · rw [View.sections_put, sections_view, sections_view, sections_view, set, find?_adjust ordinary,
      find?_withSection, find?_withSection, if_pos rfl]
    split
    · rw [Option.map_some, Option.map_some, Option.some_inj]
      funext known
      rw [Table.find?_put, Function.update_apply]
      cases contents.sections.find? name <;> rfl
    · rfl

/-- Forgetting a key that is not there changes nothing. -/
theorem remove?_getD (ordinary : name ≠ defaultsName) :
    (contents.remove? name key).getD contents =
      contents.adjust name (Table.remove (lowercase key)) := by
  rw [remove?]
  split
  · rename_i absent
    have same (table : Table String) (found : contents.sections.find? name = some table) :
        Table.remove (lowercase key) table = table := by
      rw [found] at absent
      exact Table.remove_of_not_mem (Table.find?_eq_none_iff.mp absent)
    rw [Option.getD_none, adjust, if_neg ordinary, Table.adjust_of_same same]
  · rfl

theorem view_adjust_remove (sound : contents.Sound) (ordinary : name ≠ defaultsName) :
    (contents.adjust name (Table.remove key)).view = contents.view.erase name key := by
  refine View.ext (funext fun known => ?_) (funext fun other => ?_)
  · rw [defaults_view, defaults_adjust ordinary]
    rfl
  · rw [View.sections_erase, sections_view, sections_view, sections_view, find?_adjust ordinary]
    split
    · cases found : contents.sections.find? name with
      | none => rfl
      | some table =>
          have proper := (sound.sections.of_find? found).2
          rw [Option.map_some, Option.map_some, Option.map_some, Option.map_some, Option.some_inj]
          funext known
          rw [Table.find?_remove proper.nodup, Function.update_apply]
    · rfl

end Contents

/-!
### Stores

Each operation reads the whole text and writes it anew.  What is written is read back, so the
text makes no difference to what a store holds.
-/

/-- What can be asked of a store to change it. -/
inductive Update where
  | save (name expression : String) (dimensions : Int)
  | delete (name : String)
  | assign (key value : String)

namespace Update

/-- The store after an update.  It stays as it is if a profile to be deleted is not there. -/
def run (store : Store) : Update → Except StoreFailure Store
  | save name expression dimensions => (saveProfile store name expression dimensions).map some
  | delete name => ((deleteProfile store name).mapError .read).map (·.or store)
  | assign key value => ((setSetting store key value).mapError .read).map some

/-- The finite maps after an update, which goes to a name or key in lower case. -/
def onView (view : View) : Update → View
  | save name expression _ => view.put profilesSection (lowercase name) expression
  | delete name => view.erase profilesSection (lowercase name)
  | assign key value => view.put settingsSection (lowercase key) value

/-- The contents after an update. -/
def onContents (contents : Contents String) : Update → Contents String
  | save name expression _ => contents.set profilesSection name expression
  | delete name => contents.adjust profilesSection (Table.remove (lowercase name))
  | assign key value => contents.set settingsSection key value

end Update

/-- The store after some updates, one after the other. -/
def runAll (store : Store) (updates : List Update) : Except StoreFailure Store :=
  updates.foldlM Update.run store

/-- A name that can be written as a key: it is not empty, has no blanks at its ends, no line end
and no delimiter, and begins neither a comment nor a header. -/
structure PlainName (name : List Char) : Prop where
  nonempty : name ≠ []
  trimmed : trim name = name
  single : SingleLine name
  undelimited : '=' ∉ name ∧ ':' ∉ name
  begins : ∀ c ∈ name.head?, c ≠ '#' ∧ c ≠ ';' ∧ c ≠ '['

/-- A value on one line without blanks at its ends. -/
structure PlainValue (value : List Char) : Prop where
  single : SingleLine value
  trimmed : trim value = value

/-- The names, keys and values are plain, and the expression is one of a ratio. -/
def Update.Plain : Update → Prop
  | save name expression dimensions =>
      PlainName name.toList ∧ ∃ ratio, Ratio.parse dimensions expression.toList = .ok ratio
  | delete _ => True
  | assign key value => PlainName key.toList ∧ PlainValue value.toList

theorem PlainName.keyForm {name : List Char} (plain : PlainName name) : KeyForm name where
  nonempty := plain.nonempty
  single := plain.single
  trimmed := plain.trimmed
  undelimited c member := by
    have equals : c ≠ '=' := fun same => plain.undelimited.1 (same ▸ member)
    have colon : c ≠ ':' := fun same => plain.undelimited.2 (same ▸ member)
    simp [isDelimiter, equals, colon]
  uncommented c first := by
    obtain ⟨hash, semicolon, -⟩ := plain.begins c first
    simp [isCommentMark, hash, semicolon]

theorem PlainName.noHeader {name : List Char} (plain : PlainName name) (after : List Char) :
    ¬ HeaderForm (name ++ after) := by
  intro form
  have first := form.1
  rw [List.head?_append_of_ne_nil _ plain.nonempty] at first
  exact (plain.begins '[' first).2.2 rfl

/-- The text of a ratio is a plain value. -/
theorem plainValue_of_parse {dimensions : Int} {text : List Char} {ratio : Ratio}
    (parsed : Ratio.parse dimensions text = .ok ratio) : PlainValue text := by
  have solid (c : Char) (member : c ∈ text) : isBlank c = false := by
    rcases Ratio.mem_of_parse parsed member with digit | rfl | rfl
    · exact Text.isBlank_of_isPlainDigit digit
    · decide
    · decide
  refine ⟨⟨fun feed => ?_, fun back => ?_⟩, Text.trim_of_ends ?_ ?_⟩
  · exact absurd (solid '\n' feed) (by decide)
  · exact absurd (solid '\r' back) (by decide)
  · exact fun c first => solid c (List.mem_of_head? first)
  · exact fun c last => solid c (List.mem_of_getLast? last)

/-- A file can hold a plain value of whatever has the form of a key, unless both together have
the form of a header. -/
theorem holds_of_keyForm {name value : String} (form : KeyForm name.toList)
    (plain : PlainValue value.toList)
    (noHeader : ¬ HeaderForm (name.toList ++ (" = ".toList ++ value.toList))) :
    Holds (lowercase name) value := by
  have cut : splitLines value.toList = [value.toList] := Text.splitLines_of_noFeed plain.single.1
  refine ⟨⟨(isKey_lowercase_iff name).mpr form, ⟨Text.splitLines_ne_nil _, ?_, ?_, ?_⟩, ?_⟩, ?_⟩
  · rw [cut]
    exact List.forall_mem_singleton.mpr plain.single
  · rw [cut]
    exact List.forall_mem_singleton.mpr plain.trimmed
  · rw [cut]
    exact fun line member => by cases member
  · rw [cut, List.headD_cons, entryLine, List.append_assoc, headerForm_lowercase_iff]
    exact noHeader
  · exact Text.trimEnd_of_getLast? (Text.trim_eq_self_iff.mp plain.trimmed).2

section

variable {store : Store} {contents : Contents String}

theorem sound_of_contentsOf (readable : contentsOf store = .ok contents) : contents.Sound := by
  cases store with
  | none =>
      cases readable
      exact .empty
  | some text => exact sound_of_read readable

theorem contentsOf_render (sound : contents.Sound) :
    contentsOf (some (render contents)) = .ok contents := read_render sound

theorem isName_profilesSection : IsName profilesSection := ⟨by decide, by decide, by decide⟩

theorem isName_settingsSection : IsName settingsSection := ⟨by decide, by decide, by decide⟩

namespace Update

variable {update : Update}

theorem sound_onContents (sound : contents.Sound) (plain : update.Plain) :
    (update.onContents contents).Sound := by
  cases update with
  | save name expression dimensions =>
      obtain ⟨plainName, ratio, parsed⟩ := plain
      exact sound.set isName_profilesSection
        (holds_of_keyForm plainName.keyForm (plainValue_of_parse parsed) (plainName.noHeader _))
  | delete name => exact sound.adjust fun table proper => proper.remove _
  | assign key value =>
      obtain ⟨plainKey, plainValue⟩ := plain
      exact sound.set isName_settingsSection
        (holds_of_keyForm plainKey.keyForm plainValue (plainKey.noHeader _))

theorem view_onContents (sound : contents.Sound) (update : Update) :
    (update.onContents contents).view = update.onView contents.view := by
  cases update with
  | save name expression dimensions => exact Contents.view_set (by decide)
  | delete name => exact Contents.view_adjust_remove sound (by decide)
  | assign key value => exact Contents.view_set (by decide)

/-- One update: the store that it gives is read as the contents that it changes. -/
theorem exists_run (readable : contentsOf store = .ok contents) (plain : update.Plain) :
    ∃ after, update.run store = .ok after ∧
      contentsOf after = .ok (update.onContents contents) := by
  have sound := sound_of_contentsOf readable
  have written := contentsOf_render (sound_onContents sound plain)
  cases update with
  | save name expression dimensions =>
      obtain ⟨-, ratio, parsed⟩ := plain
      refine ⟨_, ?_, written⟩
      rw [run, saveProfile, parsed]
      simp only [readable]
      rfl
  | delete name =>
      have result : onContents contents (.delete name) =
          (contents.remove? profilesSection name).getD contents :=
        (Contents.remove?_getD (by decide)).symm
      rw [run, deleteProfile, readable]
      rw [result] at written ⊢
      cases removed : contents.remove? profilesSection name with
      | none => exact ⟨store, by simp [Except.map, Except.mapError, removed], readable⟩
      | some left =>
          rw [removed] at written
          exact ⟨some (render left), by simp [Except.map, Except.mapError, removed], written⟩
  | assign key value =>
      refine ⟨_, ?_, written⟩
      rw [run, setSetting, readable]
      rfl

end Update

/-- All updates, one after the other. -/
theorem exists_runAll {updates : List Update} (readable : contentsOf store = .ok contents)
    (plain : ∀ update ∈ updates, update.Plain) :
    ∃ final after, runAll store updates = .ok final ∧ contentsOf final = .ok after ∧
      after.view = updates.foldl Update.onView contents.view := by
  induction updates generalizing store contents with
  | nil => exact ⟨store, contents, rfl, readable, rfl⟩
  | cons update rest inductionHypothesis =>
      obtain ⟨head, tail⟩ := List.forall_mem_cons.mp plain
      obtain ⟨middle, run, read⟩ := Update.exists_run readable head
      obtain ⟨final, after, runs, result, view⟩ := inductionHypothesis read tail
      refine ⟨final, after, ?_, result, ?_⟩
      · rw [runAll, List.foldlM_cons, run]
        exact runs
      · rw [view, Update.view_onContents (sound_of_contentsOf readable), List.foldl_cons]

/-- What is asked of the store is answered from the finite maps.  All names are listed in
ascending order, each once, and they are those that have a profile. -/
structure Observes (store : Store) (view : View) : Prop where
  profile : ∀ name, profile? store name = .ok (view.lookup profilesSection (lowercase name))
  setting : ∀ key, setting? store key = .ok (view.lookup settingsSection (lowercase key))
  names : ∃ names, profileNames store = .ok names ∧ names.Pairwise (· < ·) ∧
    (∀ name, name ∈ names ↔ view.lookup profilesSection name ≠ none) ∧
    (∀ name ∈ names, lowercase name = name) ∧
    ∀ name, lowercase name ∈ names ↔ profile? store name ≠ .ok none

theorem observes (readable : contentsOf store = .ok contents) : Observes store contents.view := by
  have sound := sound_of_contentsOf readable
  have profile (name : String) :
      profile? store name = .ok (contents.view.lookup profilesSection (lowercase name)) := by
    rw [profile?, readable, ← Contents.lookup_eq]
    rfl
  refine ⟨profile, fun key => ?_, contents.keys profilesSection, ?_, ?_, ?_, ?_, ?_⟩
  · rw [setting?, readable, ← Contents.lookup_eq]
    rfl
  · rw [profileNames, readable]
    rfl
  · exact Contents.pairwise_keys sound profilesSection
  · exact fun name => Contents.mem_keys_iff
  · exact fun name listed => Contents.lowercase_of_lookup sound (Contents.mem_keys_iff.mp listed)
  · intro name
    rw [Contents.mem_keys_iff, profile name, Ne, Ne, Except.ok.injEq]

end

/-- A store that can be read is a finite map: after any plain updates it can be read again, it
holds what they make of what it held, and all that is asked of it is answered from that. -/
theorem store_refines_map {store : Store} {contents : Contents String} {updates : List Update}
    (readable : contentsOf store = .ok contents) (plain : ∀ update ∈ updates, update.Plain) :
    ∃ final after, runAll store updates = .ok final ∧ contentsOf final = .ok after ∧
      after.view = updates.foldl Update.onView contents.view ∧ Observes final after.view := by
  obtain ⟨final, after, runs, result, view⟩ := exists_runAll readable plain
  exact ⟨final, after, runs, result, view, observes result⟩

/-- A settings file with a default, a continued value and a key in capitals. -/
def mixedText : String :=
  "[DEFAULT]\nwide = 1:1\n[profiles]\nHALF: 1+1:\n[xrpex]\nmonitor =\n  DP-1\n"

/-- What that file holds. -/
def mixedContents : Contents String where
  defaults := [("wide", "1:1")]
  sections := [("profiles", [("half", "1+1:")]), ("xrpex", [("monitor", "\nDP-1")])]

/-- A profile saved, another one deleted, and a setting. -/
def mixedUpdates : List Update :=
  [.save "Thirds" "1+1+1:" 2, .delete "Half", .assign "Scale" "large ; # one"]

theorem mixed_refines_map :
    contentsOf (some mixedText) = .ok mixedContents ∧
      (∀ update ∈ mixedUpdates, update.Plain) ∧
      ∃ final after, runAll (some mixedText) mixedUpdates = .ok final ∧
        contentsOf final = .ok after ∧
        after.view = mixedUpdates.foldl Update.onView mixedContents.view ∧
        Observes final after.view := by
  have readable : contentsOf (some mixedText) = .ok mixedContents := by decide +kernel
  have thirds : PlainName "Thirds".toList :=
    ⟨by decide, by decide, by decide, by decide, fun c first => by
      cases first
      decide⟩
  have scale : PlainName "Scale".toList :=
    ⟨by decide, by decide, by decide, by decide, fun c first => by
      cases first
      decide⟩
  have large : PlainValue "large ; # one".toList :=
    ⟨by decide, by decide⟩
  have plain : ∀ update ∈ mixedUpdates, update.Plain := List.forall_mem_cons.mpr
    ⟨⟨thirds, { sums := [{ addends := [some 1, some 1, some 1] }, { addends := [none] }] },
        Ratio.parse_of_judge (by decide) (by cbv)⟩,
      List.forall_mem_cons.mpr ⟨trivial, List.forall_mem_singleton.mpr ⟨scale, large⟩⟩⟩
  exact ⟨readable, plain, store_refines_map readable plain⟩

/-- A profile saved under a capital letter. -/
def capitalUpdate : Update := .save "A" "1:1" 2

/-- The settings file that this makes. -/
def capitalText : String := "[profiles]\na = 1:1\n\n"

/-- The profile is found under the capital letter and listed under the small one alone. -/
theorem capital_not_listed :
    ¬ ∀ (store : Store) (contents : Contents String) (updates : List Update),
      contentsOf store = .ok contents → (∀ update ∈ updates, update.Plain) →
      ∃ final names, runAll store updates = .ok final ∧ profileNames final = .ok names ∧
        ∀ name, name ∈ names ↔ profile? final name ≠ .ok none := by
  intro listed
  have plainName : PlainName "A".toList :=
    ⟨by decide, by decide, by decide, by decide, fun c first => by
      cases first
      decide⟩
  have plain : capitalUpdate.Plain :=
    ⟨plainName, { sums := [{ addends := [some 1] }, { addends := [some 1] }] },
      Ratio.parse_of_judge (by decide) (by cbv)⟩
  have stored : runAll none [capitalUpdate] = .ok (some capitalText) := by decide +kernel
  have shown : profileNames (some capitalText) = .ok ["a"] := by decide +kernel
  have found : profile? (some capitalText) "A" = .ok (some "1:1") := by decide +kernel
  obtain ⟨final, names, runs, read, exactly_found⟩ :=
    listed none {} [capitalUpdate] rfl (List.forall_mem_singleton.mpr plain)
  obtain rfl := Except.ok.inj (stored.symm.trans runs)
  obtain rfl := Except.ok.inj (shown.symm.trans read)
  have capital : "A" ∈ ["a"] := (exactly_found "A").mpr (by rw [found]; decide)
  exact absurd capital (by decide)

end MonitorSplit.Settings
