/-
Module: MonitorSplit.Proofs.Monitor.Names
Purpose: What the name of a partition tells of its parent and its place.
Main exports:
  placeText_inj, mark_isPrefix_iff, partitionName_inj, isPartitionName_partitionName_iff
-/
import MonitorSplit.Proofs.Monitor.Listing
import MonitorSplit.Proofs.Monitor.Split

namespace MonitorSplit

/-!
### Places

The end of a partition's name is its place: two numbers, each behind a hyphen.  A number
takes its own minus sign with it and ends before the next hyphen, so both can be read back.
-/

/-- The place of a partition as its name tells it. -/
def placeText (x y : Int) : List Char :=
  '-' :: ((toString x).toList ++ '-' :: (toString y).toList)

/-- A place is written with digits and hyphens. -/
theorem mem_placeText {x y : Int} {c : Char} (member : c ∈ placeText x y) :
    c = '-' ∨ Text.isPlainDigit c = true := by
  have number {value : Int} (inside : c ∈ (toString value).toList) :
      c = '-' ∨ Text.isPlainDigit c = true := by
    rw [toList_toString_int] at inside
    split at inside
    · exact .inr (Text.isPlainDigit_of_mem_toDigits inside)
    · exact (List.mem_cons.mp inside).imp_right Text.isPlainDigit_of_mem_toDigits
  rcases List.mem_cons.mp member with hyphen | later
  · exact .inl hyphen
  · rcases List.mem_append.mp later with inside | others
    · exact number inside
    · exact (List.mem_cons.mp others).elim .inl number

theorem placeText_inj {x y x' y' : Int} : placeText x y = placeText x' y' ↔ x = x' ∧ y = y' := by
  refine ⟨fun same => ?_, fun both => by rw [both.1, both.2]⟩
  have ends (value : Int) : Listing.EndsNumber ('-' :: (toString value).toList) :=
    Listing.endsNumber_cons (by decide) _
  have read := congrArg Listing.readSigned (List.cons.inj same).2
  rw [Listing.readSigned_append x (ends y), Listing.readSigned_append x' (ends y')] at read
  obtain ⟨first, rest⟩ := Prod.mk.inj (Option.some.inj read)
  have second : toString y = toString y' := String.toList_inj.mp (List.cons.inj rest).2
  exact ⟨Listing.Figure.of_injective first, Int.repr_inj.mp second⟩

/-!
### Marks

A name may hold the mark more than once, since a parent may have it in its own name.  No
place has a letter, so the last mark of a partition's name is the one before its place.  And
two marks never overlap, since the mark has a hyphen at its beginning only.
-/

/-- No occurrence of a character is later than the last one. -/
theorem isPrefix_of_last {α : Type} {c : α} {before after other rest : List α} (last : c ∉ after)
    (same : before ++ c :: after = other ++ c :: rest) : other <+: before := by
  rcases List.append_eq_append_iff.mp same with ⟨between, rfl, found⟩ | ⟨between, rfl, -⟩
  · cases between with
    | nil => rw [List.append_nil]
    | cons d between =>
        obtain ⟨-, later⟩ := List.cons.inj found
        exact absurd (later ▸ List.mem_append_right between List.mem_cons_self) last
  · exact List.prefix_append other between

theorem toList_partitionMark : partitionMark.toList = ['-', 'X'] ++ 'R' :: ['P', 'E', 'X'] := rfl

/-- A mark that begins within a marked text is its last mark, or comes before that one. -/
theorem mark_isPrefix_iff {text other tail : List Char} (noLetter : 'R' ∉ tail) :
    text ++ partitionMark.toList <+: other ++ (partitionMark.toList ++ tail) ↔
      other = text ∨ text ++ partitionMark.toList <+: other := by
  constructor
  · rintro ⟨rest, same⟩
    have marked : other ++ ['-', 'X'] ++ 'R' :: (['P', 'E', 'X'] ++ tail) =
        text ++ ['-', 'X'] ++ 'R' :: (['P', 'E', 'X'] ++ rest) := by
      simpa [toList_partitionMark] using same.symm
    have opening : text ++ ['-', 'X'] <+: other ++ ['-', 'X'] :=
      isPrefix_of_last (by simpa using noLetter) marked
    have begins : text <+: other := by
      refine List.prefix_of_prefix_length_le ((List.prefix_append _ _).trans opening)
        (List.prefix_append _ _) ?_
      simpa using opening.length_le
    obtain ⟨between, rfl⟩ := begins
    rw [List.append_assoc, List.append_assoc, List.append_cancel_left_eq] at same
    rcases List.append_eq_append_iff.mp same with ⟨later, rfl, -⟩ | ⟨overlap, marked, follows⟩
    · exact .inr ⟨later, List.append_assoc _ _ _⟩
    · cases between with
      | nil => exact .inl (List.append_nil text)
      | cons first between =>
          cases overlap with
          | nil =>
              rw [marked, List.append_nil]
              exact .inr List.prefix_rfl
          | cons c overlap =>
              -- the second mark would begin with the hyphen inside the first one
              rw [toList_partitionMark] at marked follows
              obtain ⟨rfl, -⟩ := List.cons.inj follows
              have later : ['X', 'R', 'P', 'E', 'X'] = between ++ '-' :: overlap :=
                (List.cons.inj marked).2
              have inside : '-' ∈ ['X', 'R', 'P', 'E', 'X'] :=
                later ▸ List.mem_append_right between List.mem_cons_self
              exact absurd inside (by decide)
  · rintro (rfl | marked)
    · exact ⟨tail, List.append_assoc _ _ _⟩
    · exact marked.trans (List.prefix_append _ _)

/-!
### Names
-/

theorem noLetter_placeText (x y : Int) : 'R' ∉ placeText x y := by
  intro member
  rcases mem_placeText member with hyphen | digit
  · exact absurd hyphen (by decide)
  · exact absurd digit (by decide)

theorem toList_partitionName_placeText (parent : String) (x y : Int) :
    (partitionName parent x y).toList =
      parent.toList ++ (partitionMark.toList ++ placeText x y) := by
  simp [Monitor.toList_partitionName, placeText]

/-- A partition's name tells its parent and its place. -/
theorem partitionName_inj {parent other : String} {x y x' y' : Int} :
    partitionName parent x y = partitionName other x' y' ↔ parent = other ∧ x = x' ∧ y = y' := by
  refine ⟨fun same => ?_, fun ⟨parents, first, second⟩ => by rw [parents, first, second]⟩
  have text := congrArg String.toList same
  rw [toList_partitionName_placeText, toList_partitionName_placeText] at text
  have marked : parent.toList ++ ['-', 'X'] ++ 'R' :: (['P', 'E', 'X'] ++ placeText x y) =
      other.toList ++ ['-', 'X'] ++ 'R' :: (['P', 'E', 'X'] ++ placeText x' y') := by
    simpa [toList_partitionMark] using text
  have last (x y : Int) : 'R' ∉ ['P', 'E', 'X'] ++ placeText x y := by
    simpa using noLetter_placeText x y
  have before : parent.toList ++ ['-', 'X'] = other.toList ++ ['-', 'X'] :=
    (isPrefix_of_last (last x' y') marked.symm).eq_of_length_le
      (isPrefix_of_last (last x y) marked).length_le
  obtain rfl : parent = other := String.toList_inj.mp (List.append_cancel_right before)
  simp only [List.append_cancel_left_eq] at text
  exact ⟨rfl, placeText_inj.mp text⟩

/-- A parent's partitions, and those of parents that have its mark in their names, are all
that its mark finds among partitions. -/
theorem isPartitionName_partitionName_iff {parent other : String} {x y : Int} :
    isPartitionName (partitionName other x y) parent = true ↔
      other = parent ∨ isPartitionName other parent = true := by
  simp only [isPartitionName, List.isPrefixOf_iff_prefix, String.toList_append,
    toList_partitionName_placeText, mark_isPrefix_iff (noLetter_placeText x y), String.toList_inj]

end MonitorSplit
