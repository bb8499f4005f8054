/-
Module: MonitorSplit.Proofs.Text.Lowercase
Purpose: What lower-casing keeps, and that it settles at once.
Main exports:
  Text.settled_of_mem_caseRuns, Text.isFrame, Text.LowersTo, Text.exists_lowercaseFrom_cons,
  Text.lowercase_lowercase, Text.forall_mem_lowercase_iff, Text.forall_head?_lowercase_iff
-/
import Mathlib
import MonitorSplit.Text.Blank
import MonitorSplit.Text.Lowercase

namespace MonitorSplit.Text

/-!
### Runs apart

Two runs have no member in common if one ends before the other begins, or if the members of
one are odd and those of the other even.  Whether runs are apart in this way can be seen from
their ends, without going through their members.
-/

namespace CaseRun

/-- All members are odd, or all are even. -/
def oneParity (run : CaseRun) : Bool := run.stride == 2 || run.first == run.last

/-- The ends tell that the runs have no member in common. -/
def apart (run other : CaseRun) : Bool :=
  Nat.blt run.last other.first || Nat.blt other.last run.first ||
    (run.oneParity && other.oneParity && run.first % 2 != other.first % 2)

/-- What the members lower to. -/
def image (run : CaseRun) : CaseRun where
  first := (run.first + run.shift).toNat
  last := (run.last + run.shift).toNat
  stride := run.stride
  shift := 0

/-- A run of neighbours that are no capitals. -/
def still (first last : Nat) : CaseRun where
  first
  last
  stride := 1
  shift := 0

variable {run other : CaseRun} {code : Nat}

/-- A run holds every code at its stride from the first to the last. -/
theorem holds_iff : run.holds code = true ↔
    run.first ≤ code ∧ code ≤ run.last ∧ (code - run.first) % run.stride = 0 := by
  simp [holds, and_assoc]

theorem holds_still_iff {first last : Nat} :
    (still first last).holds code = true ↔ first ≤ code ∧ code ≤ last := by
  simp [holds_iff, still, Nat.mod_one]

theorem mod_two_of_oneParity (parity : run.oneParity = true) (held : run.holds code = true) :
    code % 2 = run.first % 2 := by
  obtain ⟨least, most, step⟩ := holds_iff.mp held
  rcases Bool.or_eq_true_iff.mp parity with stride | single
  · rw [beq_iff_eq.mp stride] at step
    omega
  · have same := beq_iff_eq.mp single
    rw [show code = run.first by omega]

/-- What one run holds, a run apart from it does not. -/
theorem not_holds_of_apart (distinct : run.apart other = true) (held : run.holds code = true) :
    other.holds code = false := by
  rw [← Bool.not_eq_true]
  intro both
  obtain ⟨least, most, -⟩ := holds_iff.mp held
  obtain ⟨otherLeast, otherMost, -⟩ := holds_iff.mp both
  simp only [apart, Bool.or_eq_true, Bool.and_eq_true, Nat.blt_eq, bne_iff_ne] at distinct
  rcases distinct with (before | after) | ⟨⟨parity, otherParity⟩, different⟩
  · omega
  · omega
  · exact different ((mod_two_of_oneParity parity held).symm.trans
      (mod_two_of_oneParity otherParity both))

/-- The lower case of a member, as a code point. -/
def lowered (run : CaseRun) (code : Nat) : Nat := (code + run.shift).toNat

/-- Lowering a code leads into the image of its run. -/
theorem image_holds (nonneg : 0 ≤ run.first + run.shift) (held : run.holds code = true) :
    run.image.holds (run.lowered code) = true := by
  obtain ⟨least, most, step⟩ := holds_iff.mp held
  refine holds_iff.mpr ⟨?_, ?_, ?_⟩ <;> simp only [image, lowered]
  · omega
  · omega
  · rw [show (code + run.shift).toNat - (run.first + run.shift).toNat = code - run.first by omega]
    exact step

end CaseRun

/-!
### The runs of the table

The table is gone through once, for everything that lower-casing relies on.
-/

/-- Characters that mark where texts, keys, comments and headers begin and end: blanks and
some punctuation. -/
def frameRuns : List CaseRun :=
  [.still 9 13, .still 0x1C 0x20, .still 0x23 0x23, .still 0x3A 0x3B, .still 0x3D 0x3D,
    .still 0x5B 0x5B, .still 0x5D 0x5D, .still 0x85 0x85, .still 0xA0 0xA0, .still 0x1680 0x1680,
    .still 0x2000 0x200A, .still 0x2028 0x2029, .still 0x202F 0x202F, .still 0x205F 0x205F,
    .still 0x3000 0x3000]

/-- The dotted capital I, which has no run. -/
def dottedRun : CaseRun := .still 0x130 0x130

/-- What lowers goes to where nothing lowers, and nothing that marks an end is on either side. -/
structure CaseRun.Settled (run : CaseRun) : Prop where
  nonneg : 0 ≤ run.first + run.shift
  valid : run.last + run.shift < 0xD800 ∨
    0xDFFF < run.first + run.shift ∧ run.last + run.shift < 0x110000
  images : ∀ other ∈ caseRuns, run.image.apart other = true
  dotted : run.image.apart dottedRun = true
  frames : ∀ frame ∈ frameRuns, run.apart frame = true ∧ run.image.apart frame = true

theorem settled_of_mem_caseRuns {run : CaseRun} (listed : run ∈ caseRuns) : run.Settled := by
  have checked : (caseRuns.all fun run =>
      decide (0 ≤ run.first + run.shift) && decide (run.last + run.shift < 0xD800 ∨
        0xDFFF < run.first + run.shift ∧ run.last + run.shift < 0x110000) &&
        caseRuns.all run.image.apart && run.image.apart dottedRun &&
        frameRuns.all fun frame => run.apart frame && run.image.apart frame) = true := by
    decide +kernel
  have each := List.all_eq_true.mp checked run listed
  simp only [Bool.and_eq_true, decide_eq_true_eq, List.all_eq_true] at each
  obtain ⟨⟨⟨⟨nonneg, valid⟩, images⟩, dotted⟩, frames⟩ := each
  exact { nonneg, valid, images, dotted, frames }

/-!
### Single characters
-/

/-- A character that marks an end. -/
def isFrame (c : Char) : Bool := frameRuns.any (·.holds c.toNat)

/-- A character that lower-casing leaves as it is, wherever it stands. -/
def IsSettled (c : Char) : Prop := c.toNat ≠ 0x3A3 ∧ lowerChar c = [c]

/-- What a character may lower to: a mark of an end to itself, and any other to characters that
are in lower case and no such marks. -/
structure LowersTo (c : Char) (here : List Char) : Prop where
  nonempty : here ≠ []
  settled : ∀ d ∈ here, IsSettled d
  frame : isFrame c = true → here = [c]
  other : isFrame c = false → ∀ d ∈ here, isFrame d = false

theorem isFrame_of_isBlank {c : Char} (blank : isBlank c = true) : isFrame c = true := by
  have ranges := blank
  simp only [isBlank, Bool.or_eq_true, Bool.and_eq_true, decide_eq_true_eq, beq_iff_eq] at ranges
  simp only [isFrame, frameRuns, List.any_cons, List.any_nil, Bool.or_eq_true,
    CaseRun.holds_still_iff, Bool.false_eq_true]
  omega

namespace LowersTo

variable {c mark : Char} {here : List Char}

/-- No mark of the format appears or disappears when a letter is lowered. -/
theorem mem_iff (lowers : LowersTo c here) (frame : isFrame mark = true) :
    mark ∈ here ↔ mark = c := by
  cases framed : isFrame c with
  | true => rw [lowers.frame framed, List.mem_singleton]
  | false =>
      refine iff_of_false (fun member => ?_) fun same => ?_
      · exact absurd ((lowers.other framed mark member).symm.trans frame) Bool.false_ne_true
      · exact absurd (framed.symm.trans (same ▸ frame)) Bool.false_ne_true

theorem head?_iff (lowers : LowersTo c here) (frame : isFrame mark = true) :
    here.head? = some mark ↔ mark = c := by
  constructor
  · exact fun first => (lowers.mem_iff frame).mp (List.mem_of_head? first)
  · intro same
    rw [lowers.frame (same ▸ frame), same]
    rfl

theorem getLast?_iff (lowers : LowersTo c here) (frame : isFrame mark = true) :
    here.getLast? = some mark ↔ mark = c := by
  constructor
  · exact fun last => (lowers.mem_iff frame).mp (List.mem_of_getLast? last)
  · intro same
    rw [lowers.frame (same ▸ frame), same]
    rfl

/-- Behind the first character that one lowers to there is no mark of an end. -/
theorem not_mem_drop (lowers : LowersTo c here) (frame : isFrame mark = true) :
    mark ∉ here.drop 1 := by
  intro later
  have same := (lowers.mem_iff frame).mp (List.mem_of_mem_drop later)
  rw [lowers.frame (same ▸ frame)] at later
  cases later

end LowersTo

/-- A letter is lowered by the run that holds it. -/
theorem lowerChar_of_find? {c : Char} {run : CaseRun} (plain : c.toNat ≠ 0x130)
    (found : caseRuns.find? (·.holds c.toNat) = some run) :
    lowerChar c = [Char.ofNat (run.lowered c.toNat)] := by
  rw [lowerChar, if_neg plain, found, CaseRun.lowered]

/-- A character that no run holds is left as it is. -/
theorem isSettled_of_not_holds {c : Char} (plain : c.toNat ≠ 0x130)
    (lower : ∀ run ∈ caseRuns, run.holds c.toNat = false) : IsSettled c := by
  constructor
  · intro sigma
    have capital := lower ⟨0x3A3, 0x3AB, 1, 32⟩ (by decide)
    rw [sigma] at capital
    cases capital
  · have none_found : caseRuns.find? (·.holds c.toNat) = none :=
      List.find?_eq_none.mpr fun run listed => by simp [lower run listed]
    rw [lowerChar, if_neg plain, none_found]

theorem toNat_lowered {run : CaseRun} {code : Nat} (settled : run.Settled)
    (held : run.holds code = true) :
    (Char.ofNat (run.lowered code)).toNat = run.lowered code := by
  obtain ⟨least, most, -⟩ := CaseRun.holds_iff.mp held
  have valid : (run.lowered code).isValidChar := by
    have nonneg := settled.nonneg
    have range := settled.valid
    unfold Nat.isValidChar CaseRun.lowered
    omega
  rw [Char.toNat_ofNat, if_pos valid]

/-- A letter of a run apart from the marks of the format is none of them. -/
theorem isFrame_eq_false_of_apart {c : Char} {run : CaseRun} (held : run.holds c.toNat = true)
    (distinct : ∀ frame ∈ frameRuns, run.apart frame = true) : isFrame c = false :=
  List.any_eq_false.mpr fun frame listed => by
    rw [CaseRun.not_holds_of_apart (distinct frame listed) held]
    exact Bool.false_ne_true

/-- A capital with a run lowers to a character in lower case, and neither marks an end. -/
theorem lowersTo_of_find? {c : Char} {run : CaseRun} (plain : c.toNat ≠ 0x130)
    (found : caseRuns.find? (·.holds c.toNat) = some run) : LowersTo c (lowerChar c) := by
  have held : run.holds c.toNat = true := by simpa using List.find?_some found
  have settled := settled_of_mem_caseRuns (List.mem_of_find?_eq_some found)
  have image : run.image.holds (Char.ofNat (run.lowered c.toNat)).toNat = true := by
    rw [toNat_lowered settled held]
    exact CaseRun.image_holds settled.nonneg held
  rw [lowerChar_of_find? plain found]
  constructor
  · exact List.cons_ne_nil _ _
  · intro d member
    rw [List.mem_singleton.mp member]
    refine isSettled_of_not_holds (fun dotted => ?_) fun other listed =>
      CaseRun.not_holds_of_apart (settled.images other listed) image
    have apart := CaseRun.not_holds_of_apart settled.dotted image
    rw [dotted] at apart
    cases apart
  · intro frame
    have none_held :=
      isFrame_eq_false_of_apart held fun frame listed => (settled.frames frame listed).1
    rw [none_held] at frame
    cases frame
  · intro _ d member
    rw [List.mem_singleton.mp member]
    exact isFrame_eq_false_of_apart image fun frame listed => (settled.frames frame listed).2

/-- Every character is lowered to characters that stay as they are. -/
theorem lowersTo_lowerChar (c : Char) : LowersTo c (lowerChar c) := by
  by_cases dotted : c.toNat = 0x130
  · have same : c = Char.ofNat 0x130 := by rw [← dotted, Char.ofNat_toNat]
    have lowers : lowerChar c = [Char.ofNat 0x69, Char.ofNat 0x307] := if_pos dotted
    rw [lowers]
    exact {
      nonempty := List.cons_ne_nil _ _
      settled := by
        have marked : IsSettled (Char.ofNat 0x69) ∧ IsSettled (Char.ofNat 0x307) := by
          unfold IsSettled
          decide +kernel
        exact List.forall_mem_cons.mpr ⟨marked.1, List.forall_mem_singleton.mpr marked.2⟩
      frame := by
        rw [same]
        decide
      other := fun _ => List.forall_mem_cons.mpr
        ⟨by decide, List.forall_mem_singleton.mpr (by decide)⟩ }
  · cases found : caseRuns.find? (·.holds c.toNat) with
    | some run => exact lowersTo_of_find? dotted found
    | none =>
        have lower (run : CaseRun) (listed : run ∈ caseRuns) : run.holds c.toNat = false := by
          simpa using List.find?_eq_none.mp found run listed
        have settled := isSettled_of_not_holds dotted lower
        rw [settled.2]
        constructor
        · exact List.cons_ne_nil _ _
        · exact fun d member => List.mem_singleton.mp member ▸ settled
        · exact fun _ => rfl
        · exact fun other d member => List.mem_singleton.mp member ▸ other

/-- A capital sigma lowers to one of two characters. -/
theorem lowersTo_sigma (final : Bool) {c : Char} (sigma : c.toNat = 0x3A3) :
    LowersTo c [Char.ofNat (if final then 0x3C2 else 0x3C3)] := by
  have same : c = Char.ofNat 0x3A3 := by rw [← sigma, Char.ofNat_toNat]
  have forms : IsSettled (Char.ofNat 0x3C2) ∧ IsSettled (Char.ofNat 0x3C3) := by
    unfold IsSettled
    decide +kernel
  subst same
  constructor
  · exact List.cons_ne_nil _ _
  · intro d member
    rw [List.mem_singleton.mp member]
    cases final
    · exact forms.2
    · exact forms.1
  · intro frame
    exact absurd frame (by decide)
  · intro _ d member
    rw [List.mem_singleton.mp member]
    cases final <;> decide

/-!
### Texts
-/

/-- Lower-casing goes on behind the characters that the first one lowers to. -/
theorem exists_lowercaseFrom_cons (casedBefore : Bool) (c : Char) (rest : List Char) :
    ∃ here casedHere, LowersTo c here ∧
      lowercaseFrom casedBefore (c :: rest) = here ++ lowercaseFrom casedHere rest := by
  rw [lowercaseFrom]
  by_cases sigma : c.toNat = 0x3A3
  · rw [if_pos sigma]
    exact ⟨_, _, lowersTo_sigma _ sigma, rfl⟩
  · rw [if_neg sigma]
    exact ⟨_, _, lowersTo_lowerChar c, rfl⟩

/-- Lower case is settled, by induction on the text.  The final sigma is settled like the other. -/
theorem isSettled_of_mem_lowercaseFrom {casedBefore : Bool} {text : List Char} {d : Char}
    (member : d ∈ lowercaseFrom casedBefore text) : IsSettled d := by
  induction text generalizing casedBefore with
  | nil => cases member
  | cons c rest inductionHypothesis =>
      obtain ⟨here, casedHere, lowers, lowered⟩ := exists_lowercaseFrom_cons casedBefore c rest
      rw [lowered] at member
      rcases List.mem_append.mp member with first | later
      · exact lowers.settled d first
      · exact inductionHypothesis later

/-- A text of settled characters is its own lower case. -/
theorem lowercaseFrom_of_settled {text : List Char} (settled : ∀ c ∈ text, IsSettled c)
    (casedBefore : Bool) : lowercaseFrom casedBefore text = text := by
  induction text generalizing casedBefore with
  | nil => rfl
  | cons c rest inductionHypothesis =>
      obtain ⟨head, tail⟩ := List.forall_mem_cons.mp settled
      rw [lowercaseFrom, if_neg head.1, head.2, inductionHypothesis tail, List.singleton_append]

/-- What is in lower case stays as it is. -/
theorem lowercase_lowercase (text : String) : lowercase (lowercase text) = lowercase text := by
  have settled : ∀ c ∈ lowercaseFrom false text.toList, IsSettled c :=
    fun c member => isSettled_of_mem_lowercaseFrom member
  rw [lowercase, lowercase, String.toList_ofList, lowercaseFrom_of_settled settled]

section

variable {casedBefore : Bool} {text : List Char} {mark : Char}

theorem lowercaseFrom_eq_nil_iff : lowercaseFrom casedBefore text = [] ↔ text = [] := by
  cases text with
  | nil => exact Iff.rfl
  | cons c rest =>
      obtain ⟨here, casedHere, lowers, lowered⟩ := exists_lowercaseFrom_cons casedBefore c rest
      rw [lowered]
      refine iff_of_false (fun empty => ?_) (List.cons_ne_nil c rest)
      exact lowers.nonempty (List.append_eq_nil_iff.mp empty).1

/-- The marks of a text are those of its lower case. -/
theorem mem_lowercaseFrom_iff (frame : isFrame mark = true) :
    mark ∈ lowercaseFrom casedBefore text ↔ mark ∈ text := by
  induction text generalizing casedBefore with
  | nil => exact Iff.rfl
  | cons c rest inductionHypothesis =>
      obtain ⟨here, casedHere, lowers, lowered⟩ := exists_lowercaseFrom_cons casedBefore c rest
      rw [lowered, List.mem_append, lowers.mem_iff frame, inductionHypothesis, List.mem_cons]

/-- A text begins with a mark just if its lower case does. -/
theorem head?_lowercaseFrom_iff (frame : isFrame mark = true) :
    (lowercaseFrom casedBefore text).head? = some mark ↔ text.head? = some mark := by
  cases text with
  | nil => exact Iff.rfl
  | cons c rest =>
      obtain ⟨here, casedHere, lowers, lowered⟩ := exists_lowercaseFrom_cons casedBefore c rest
      rw [lowered, List.head?_append_of_ne_nil _ lowers.nonempty, lowers.head?_iff frame,
        List.head?_cons, Option.some_inj, eq_comm]

/-- And it ends with a mark just if its lower case does. -/
theorem getLast?_lowercaseFrom_iff (frame : isFrame mark = true) :
    (lowercaseFrom casedBefore text).getLast? = some mark ↔ text.getLast? = some mark := by
  induction text generalizing casedBefore with
  | nil => exact Iff.rfl
  | cons c rest inductionHypothesis =>
      obtain ⟨here, casedHere, lowers, lowered⟩ := exists_lowercaseFrom_cons casedBefore c rest
      rw [lowered]
      cases rest with
      | nil =>
          rw [lowercaseFrom, List.append_nil, lowers.getLast?_iff frame, List.getLast?_singleton,
            Option.some_inj, eq_comm]
      | cons next others =>
          have more : lowercaseFrom casedHere (next :: others) ≠ [] := fun empty =>
            List.cons_ne_nil next others (lowercaseFrom_eq_nil_iff.mp empty)
          rw [List.getLast?_append_of_ne_nil _ more, inductionHypothesis, List.getLast?_cons_cons]

/-- The marks behind the first character of a text are those behind the first of its lower case. -/
theorem mem_drop_lowercaseFrom_iff (frame : isFrame mark = true) :
    mark ∈ (lowercaseFrom casedBefore text).drop 1 ↔ mark ∈ text.drop 1 := by
  cases text with
  | nil => exact Iff.rfl
  | cons c rest =>
      obtain ⟨here, casedHere, lowers, lowered⟩ := exists_lowercaseFrom_cons casedBefore c rest
      have shorter : 1 ≤ here.length := List.length_pos_iff.mpr lowers.nonempty
      rw [lowered, List.drop_append_of_le_length shorter, List.mem_append,
        mem_lowercaseFrom_iff frame, or_iff_right (lowers.not_mem_drop frame), List.drop_one,
        List.tail_cons]

end

/-!
### Classes of marks

A class of characters, each of which marks an end, has the same places in a text as in its
lower case.
-/

section

variable {inClass : Char → Bool} (marks : ∀ c, inClass c = true → isFrame c = true) (text : String)
include marks

theorem forall_mem_lowercase_iff :
    (∀ c ∈ (lowercase text).toList, inClass c = false) ↔ ∀ c ∈ text.toList, inClass c = false := by
  simp only [← Bool.not_eq_true, lowercase, String.toList_ofList]
  exact forall_congr' fun c => ⟨
    fun lower member holds => lower ((mem_lowercaseFrom_iff (marks c holds)).mpr member) holds,
    fun upper member holds => upper ((mem_lowercaseFrom_iff (marks c holds)).mp member) holds⟩

theorem forall_head?_lowercase_iff :
    (∀ c ∈ (lowercase text).toList.head?, inClass c = false) ↔
      ∀ c ∈ text.toList.head?, inClass c = false := by
  simp only [← Bool.not_eq_true, lowercase, String.toList_ofList]
  exact forall_congr' fun c => ⟨
    fun lower first holds => lower ((head?_lowercaseFrom_iff (marks c holds)).mpr first) holds,
    fun upper first holds => upper ((head?_lowercaseFrom_iff (marks c holds)).mp first) holds⟩

theorem forall_getLast?_lowercase_iff :
    (∀ c ∈ (lowercase text).toList.getLast?, inClass c = false) ↔
      ∀ c ∈ text.toList.getLast?, inClass c = false := by
  simp only [← Bool.not_eq_true, lowercase, String.toList_ofList]
  exact forall_congr' fun c => ⟨
    fun lower last holds => lower ((getLast?_lowercaseFrom_iff (marks c holds)).mpr last) holds,
    fun upper last holds => upper ((getLast?_lowercaseFrom_iff (marks c holds)).mp last) holds⟩

end

end MonitorSplit.Text
