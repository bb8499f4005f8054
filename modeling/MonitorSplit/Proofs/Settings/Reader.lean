/-
Module: MonitorSplit.Proofs.Settings.Reader
Purpose: Whatever is read from a settings file, a settings file can hold.
Main exports:
  Reading.Step, Reading.step_of_readLine, Reading.Step.sound, Reading.sound_of_readLines,
  sound_of_read
-/
import MonitorSplit.Proofs.Settings.Sound

namespace MonitorSplit.Settings

open Text (trim trimEnd isBlank splitLines lowercase)

namespace Reading

/-!
### One line

What a line does depends on what it is taken for.
-/

/-- What a line makes of what has been read before it. -/
inductive Step (number : Nat) (text : List Char) (before after : Reading) : Prop where
  | empty (result : after = before.continueValue [])
  | comment (result : after = before)
  | further (uncommented : ∀ c ∈ (trim text).head?, isCommentMark c = false)
      (result : after = before.continueValue (trim text))
  | header {name : List Char} {indent : Nat} (form : readHeader? (trim text) = some name)
      (result : { before with indent }.beginSection number (String.ofList name) = .ok after)
  | pair {place : String} {indent : Nat} (form : ¬ HeaderForm (trim text))
      (uncommented : ∀ c ∈ (trim text).head?, isCommentMark c = false)
      (result : { before with indent }.readPair number text (trim text) place = .ok after)

/-- A line that is read is taken for one of the five. -/
theorem step_of_readLine {number : Nat} {text : List Char} {before after : Reading}
    (read : readLine number text before = .ok after) : Step number text before after := by
  unfold readLine at read
  dsimp only at read
  split at read
  · exact .empty (Except.ok.inj read).symm
  rename_i first others trimmed
  split at read
  · exact .comment (Except.ok.inj read).symm
  rename_i ordinary
  have uncommented : ∀ c ∈ (trim text).head?, isCommentMark c = false := by
    rw [trimmed]
    intro c same
    rw [← Option.some.inj same]
    exact Bool.eq_false_of_not_eq_true ordinary
  split at read
  · exact .further uncommented (trimmed ▸ (Except.ok.inj read).symm)
  split at read
  · rename_i form
    exact .header (trimmed ▸ form) read
  · cases read
  · rename_i form _
    exact .pair (readHeader?_eq_none_iff.mp form) uncommented read

/-!
### What is read can be held

A malformed line fails the whole file in the end, so nothing has to be said of what is read
after it.
-/

/-- So far only what a file can hold has been read, unless some line was malformed. -/
def Sound (reading : Reading) : Prop :=
  reading.malformed = [] → reading.contents.Proper IsName HoldsLines

variable {reading before after : Reading} {number : Nat}

/-- A trimmed line that is no comment may continue any value. -/
theorem Sound.continueValue (sound : reading.Sound) {line : List Char} (single : SingleLine line)
    (trimmed : trim line = line) (uncommented : ∀ c ∈ line.head?, isCommentMark c = false) :
    (reading.continueValue line).Sound := by
  unfold Reading.continueValue
  split
  · intro regular
    exact (sound regular).adjust fun table proper =>
      proper.adjust fun lines holds => holds.concat single trimmed uncommented
  · exact sound

/-- A section may begin under any name of a single line. -/
theorem Sound.beginSection (sound : before.Sound) {name : String} (nonempty : name.toList ≠ [])
    (single : SingleLine name.toList) (begun : before.beginSection number name = .ok after) :
    after.Sound := by
  unfold Reading.beginSection at begun
  split at begun
  · rw [← Except.ok.inj begun]
    exact sound
  rename_i ordinary
  split at begun
  · cases begun
  · rw [← Except.ok.inj begun]
    exact fun regular => (sound regular).withSection ⟨nonempty, single, ordinary⟩

/-- A value that begins has to be one its key can have. -/
theorem Sound.beginValue (sound : before.Sound) {place key : String} {value : List Char}
    (holds : before.malformed = [] → HoldsLines key [value])
    (begun : before.beginValue number place key value = .ok after) : after.Sound := by
  unfold Reading.beginValue at begun
  split at begun
  · cases begun
  · rw [← Except.ok.inj begun]
    exact fun regular => (sound regular).adjust fun table proper => proper.put (holds regular)

/-- A malformed line is not forgotten. -/
theorem not_sound_addMalformed (reading : Reading) (text : List Char) :
    (reading.addMalformed number text).malformed ≠ [] :=
  List.append_ne_nil_of_right_ne_nil _ (List.cons_ne_nil _ _)

/-- A key and its value are what the first delimiter divides, without the blanks beside it. -/
theorem exists_of_readPair? {line key value : List Char}
    (read : readPair? line = some (key, value)) :
    ∃ before mark after, line = before ++ mark :: after ∧
      (∀ c ∈ before, isDelimiter c = false) ∧ key = trimEnd before ∧ value = trim after := by
  unfold readPair? at read
  split at read
  · rename_i mark after dropped
    obtain ⟨rfl, rfl⟩ := Prod.mk.inj (Option.some.inj read)
    refine ⟨_, mark, after, ?_, fun c member => ?_, rfl, rfl⟩
    · rw [← dropped, List.takeWhile_append_dropWhile]
    · simpa using List.mem_takeWhile_imp member
  · cases read

/-- A key in front of a delimiter has the form of a key, and it is no header with what follows
the delimiter either. -/
theorem holdsLines_of_readPair? {line key value : List Char} (single : SingleLine line)
    (trimmed : trim line = line) (uncommented : ∀ c ∈ line.head?, isCommentMark c = false)
    (form : ¬ HeaderForm line) (read : readPair? line = some (key, value)) (filled : key ≠ []) :
    HoldsLines (lowercase (String.ofList key)) [value] := by
  obtain ⟨before, mark, after, rfl, undelimited, rfl, rfl⟩ := exists_of_readPair? read
  have front := Text.isPrefix_trimEnd before
  have head : ∀ c ∈ (trimEnd before).head?, (before ++ mark :: after).head? = some c := by
    intro c first
    obtain ⟨blanks, joined⟩ := front
    rw [← joined, List.append_assoc, List.head?_append, first]
    rfl
  have keyInside : trimEnd before ⊆ before ++ mark :: after :=
    fun c member => List.mem_append_left _ (front.subset member)
  have valueInside : trim after ⊆ before ++ mark :: after := fun c member =>
    List.mem_append_right _ (List.mem_cons_of_mem _ (Text.subset_trim after member))
  refine ⟨(isKey_lowercase_iff _).mpr ?_, ?_, ?_⟩
  · rw [String.toList_ofList]
    constructor
    · exact filled
    · exact single.of_subset keyInside
    · rw [Text.trim_eq_self_iff]
      exact ⟨fun c first => (Text.trim_eq_self_iff.mp trimmed).1 c (head c first),
        Text.getLast?_trimEnd before⟩
    · exact fun c member => undelimited c (front.subset member)
    · exact fun c first => uncommented c (head c first)
  · refine ⟨List.cons_ne_nil _ _, ?_, ?_, fun line member => by cases member⟩
    · exact List.forall_mem_singleton.mpr (single.of_subset valueInside)
    · exact List.forall_mem_singleton.mpr (Text.trim_trim after)
  · rw [entryLine, List.append_assoc, headerForm_lowercase_iff, String.toList_ofList]
    rintro ⟨opens, closed⟩
    have first : (trimEnd before).head? = some '[' :=
      List.head?_append_of_ne_nil _ filled ▸ opens
    refine form ⟨head '[' first, ?_⟩
    rw [List.drop_append] at closed
    rcases List.mem_append.mp closed with inKey | behind
    · exact ((front.trans (List.prefix_append before _)).drop 2).subset inKey
    · have inside : ']' ∈ after := by
        rcases List.mem_append.mp (List.mem_of_mem_drop behind) with sign | value
        · exact absurd sign (by decide)
        · exact Text.subset_trim after value
      -- something stands before the delimiter, so all that follows it is behind two characters
      obtain ⟨c, others, rfl⟩ := List.exists_cons_of_ne_nil (fun empty : before = [] =>
        filled (List.prefix_nil.mp (empty ▸ front)))
      cases others with
      | nil => exact inside
      | cons next rest => exact List.mem_append_right rest (List.mem_cons_of_mem mark inside)

/-- A line without a delimiter or a key is malformed.  Any other one begins a value. -/
theorem Sound.readPair (sound : before.Sound) {text line : List Char} {place : String}
    (single : SingleLine line) (trimmed : trim line = line)
    (uncommented : ∀ c ∈ line.head?, isCommentMark c = false) (form : ¬ HeaderForm line)
    (result : before.readPair number text line place = .ok after) : after.Sound := by
  unfold Reading.readPair at result
  split at result
  · rw [← Except.ok.inj result]
    exact fun regular => absurd regular (not_sound_addMalformed before text)
  · rename_i key value read
    dsimp only at result
    split at result
    · refine Sound.beginValue (fun regular => ?_) (fun regular => ?_) result
      · exact absurd regular (not_sound_addMalformed before text)
      · exact absurd regular (not_sound_addMalformed before text)
    · rename_i filled
      exact sound.beginValue
        (fun _ => holdsLines_of_readPair? single trimmed uncommented form read filled) result

/-- No line brings in what a file cannot hold. -/
theorem Step.sound {text : List Char} (step : Step number text before after)
    (single : SingleLine (trim text)) (sound : before.Sound) : after.Sound := by
  have trimmed := Text.trim_trim text
  cases step with
  | empty result =>
      rw [result]
      refine sound.continueValue ⟨List.not_mem_nil, List.not_mem_nil⟩ rfl ?_
      exact fun c first => by cases first
  | comment result =>
      rw [result]
      exact sound
  | further uncommented result =>
      rw [result]
      exact sound.continueValue single trimmed uncommented
  | @header name indent form result =>
      obtain ⟨nonempty, inside⟩ := exists_of_readHeader? form
      have indented : ({ before with indent } : Reading).Sound := sound
      refine indented.beginSection ?_ ?_ result
      · rw [String.toList_ofList]
        exact nonempty
      · rw [String.toList_ofList]
        exact single.of_subset inside
  | @pair place indent form uncommented result =>
      have indented : ({ before with indent } : Reading).Sound := sound
      exact indented.readPair single trimmed uncommented form result

/-- Lines bring in nothing that a file cannot hold, by induction on them. -/
theorem sound_of_readLines {lines : List (List Char)}
    (single : ∀ text ∈ lines, SingleLine (trim text)) (sound : before.Sound)
    (read : readLines number lines before = .ok after) : after.Sound := by
  induction lines generalizing number before with
  | nil =>
      rw [← Except.ok.inj read]
      exact sound
  | cons text rest inductionHypothesis =>
      obtain ⟨head, tail⟩ := List.forall_mem_cons.mp single
      rw [readLines] at read
      split at read
      · cases read
      · rename_i middle first
        exact inductionHypothesis tail ((step_of_readLine first).sound head sound) read

end Reading

/-- A line of a text with unified line ends holds no line end inside. -/
theorem single_of_mem_keepLines {text line : List Char}
    (member : line ∈ Text.keepLines (Text.unifyLineEnds text)) : SingleLine (trim line) := by
  obtain ⟨body, noFeed, either, inside⟩ := Text.exists_of_mem_keepLines member
  have same : trim line = trim body := by
    rcases either with rfl | rfl
    · rfl
    · exact Text.trim_concat (by decide) body
  rw [same]
  refine SingleLine.of_subset ⟨noFeed, fun back => ?_⟩ (Text.subset_trim body)
  exact Text.noReturn_unifyLineEnds text (inside back)

/-- What is read from a file, a file can hold. -/
theorem sound_of_read {text : String} {contents : Contents String}
    (success : read text = .ok contents) : contents.Sound := by
  unfold read at success
  split at success
  · cases success
  rename_i reading lines
  unfold Reading.finish at success
  split at success
  · rename_i regular
    have sound := Reading.sound_of_readLines (fun line member => single_of_mem_keepLines member)
      (fun _ => Contents.Proper.empty) lines
    rw [← Except.ok.inj success]
    exact (sound regular).mapValues fun _ _ holds => holds.holds_joinValue
  · cases success

end MonitorSplit.Settings
