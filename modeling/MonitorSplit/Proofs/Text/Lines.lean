/-
Module: MonitorSplit.Proofs.Text.Lines
Purpose: Texts cut into lines, words without blanks, and blanks at the ends of a text.
Main exports:
  Text.not_mem_intercalate, Text.mem_intercalate_of_mem, Text.IsWord, Text.trim_eq_self_iff,
  Text.trim_padded, Text.splitLines_flatMap, Text.isPrefix_splitLines_trimEnd,
  Text.keepLines_flatMap, Text.noReturn_unifyLineEnds, Text.filterMap_splitLines_trim
-/
import Mathlib.Data.List.Basic
import Mathlib.Data.List.Infix
import Mathlib.Data.List.TakeWhile
import MonitorSplit.Proofs.Text.Decimal
import MonitorSplit.Text.Blank
import MonitorSplit.Text.Lines

namespace MonitorSplit.Text

/-!
### Texts joined
-/

/-- What is in no list and not between them is not in the lists joined. -/
theorem not_mem_intercalate {α : Type} {member : α} {separator : List α} {lists : List (List α)}
    (between : member ∉ separator) (inside : ∀ list ∈ lists, member ∉ list) :
    member ∉ List.intercalate separator lists := by
  induction lists with
  | nil => simp [List.intercalate]
  | cons list rest inductionHypothesis =>
      obtain ⟨head, tail⟩ := List.forall_mem_cons.mp inside
      have later := inductionHypothesis tail
      cases rest with
      | nil => simpa [List.intercalate] using head
      | cons next others =>
          simp only [List.intercalate, List.intersperse_cons_cons, List.flatten_cons,
            List.mem_append, not_or] at later ⊢
          exact ⟨head, between, later⟩

/-- What is in one of the lists is in the lists joined. -/
theorem mem_intercalate_of_mem {α : Type} {member : α} {separator list : List α}
    {lists : List (List α)} (among : list ∈ lists) (inside : member ∈ list) :
    member ∈ List.intercalate separator lists := by
  induction lists with
  | nil => cases among
  | cons head rest inductionHypothesis =>
      cases rest with
      | nil =>
          rw [List.intercalate_singleton, ← List.mem_singleton.mp among]
          exact inside
      | cons next others =>
          rw [List.intercalate_cons_cons, List.mem_append, List.mem_append]
          rcases List.mem_cons.mp among with rfl | later
          · exact Or.inl (Or.inl inside)
          · exact Or.inr (inductionHypothesis later)

/-- A joined list is still there as a whole. -/
theorem isInfix_intercalate_of_mem {α : Type} {separator list : List α} {lists : List (List α)}
    (among : list ∈ lists) : list <:+: List.intercalate separator lists := by
  induction lists with
  | nil => cases among
  | cons first rest inductionHypothesis =>
      cases rest with
      | nil =>
          rcases List.mem_singleton.mp among with rfl
          simp [List.intercalate]
      | cons second others =>
          have joined : List.intercalate separator (first :: second :: others) =
              first ++ (separator ++ List.intercalate separator (second :: others)) := by
            simp [List.intercalate]
          rw [joined]
          rcases List.mem_cons.mp among with rfl | later
          · exact List.infix_append' [] list _
          · have tail := inductionHypothesis later
            exact tail.trans ((List.suffix_append _ _).trans (List.suffix_append _ _)).isInfix

/-- Lists joined, with the separator after the last one too. -/
theorem intercalate_append_separator {α : Type} (separator first : List α) (rest : List (List α)) :
    List.intercalate separator (first :: rest) ++ separator =
      (first :: rest).flatMap (· ++ separator) := by
  induction rest generalizing first with
  | nil => simp
  | cons next others inductionHypothesis =>
      simp only [List.intercalate_cons_cons, List.append_assoc, inductionHypothesis,
        List.flatMap_cons]

/-- An empty list joined behind others leaves the separator before it. -/
theorem intercalate_concat_nil {α : Type} (separator : List α) (lists : List (List α)) :
    List.intercalate separator (lists ++ [[]]) = lists.flatMap (· ++ separator) := by
  induction lists with
  | nil => rfl
  | cons list rest inductionHypothesis =>
      have more : rest ++ [[]] ≠ [] := List.append_ne_nil_of_right_ne_nil rest (List.cons_ne_nil _ _)
      rw [List.flatMap_cons, ← inductionHypothesis, List.cons_append,
        List.intercalate_cons_of_ne_nil more]

/-!
### Words

A word is not empty and holds no blank.  In particular it holds no line feed.
-/

/-- A text that is not empty and has no blank. -/
def IsWord (text : List Char) : Prop := text ≠ [] ∧ ∀ c ∈ text, isBlank c = false

-- the members are few and the characters many, so it is the members that are gone through
instance (text : List Char) : Decidable (IsWord text) :=
  have := List.decidableBAll (fun c => isBlank c = false) text
  inferInstanceAs (Decidable (text ≠ [] ∧ ∀ c ∈ text, isBlank c = false))

theorem IsWord.noFeed {text : List Char} (isWord : IsWord text) : '\n' ∉ text :=
  fun member => absurd (isWord.2 '\n' member) (by decide)

/-- Two words written together are one. -/
theorem IsWord.append {word other : List Char} (isWord : IsWord word) (isOther : IsWord other) :
    IsWord (word ++ other) := by
  refine ⟨fun empty => isWord.1 (List.append_eq_nil_iff.mp empty).1, fun c member => ?_⟩
  exact (List.mem_append.mp member).elim (isWord.2 c) (isOther.2 c)

theorem isBlank_of_isPlainDigit {c : Char} (plain : isPlainDigit c = true) : isBlank c = false := by
  have bounds : 0x30 ≤ c.toNat ∧ c.toNat ≤ 0x39 := by
    simpa [isPlainDigit, Char.le_def, UInt32.le_iff_toNat_le] using plain
  simp only [isBlank, Bool.or_eq_false_iff, Bool.and_eq_false_iff, decide_eq_false_iff_not,
    beq_eq_false_iff_ne]
  omega

theorem isWord_toDigits (number : Nat) : IsWord (Nat.toDigits 10 number) :=
  ⟨Nat.toDigits_ne_nil, fun _ member => isBlank_of_isPlainDigit (isPlainDigit_of_mem_toDigits member)⟩

/-- A written number is a word. -/
theorem isWord_toString_int (number : Int) : IsWord (toString number).toList := by
  rw [toList_toString_int]
  split
  · exact isWord_toDigits _
  · refine ⟨List.cons_ne_nil _ _, fun c member => ?_⟩
    rcases List.mem_cons.mp member with rfl | digit
    · decide
    · exact (isWord_toDigits _).2 c digit

/-- What begins with a word begins with no blank. -/
theorem IsWord.head?_append {word : List Char} (isWord : IsWord word) (rest : List Char) :
    ∀ c ∈ (word ++ rest).head?, isBlank c = false := by
  obtain ⟨first, others, rfl⟩ := List.exists_cons_of_ne_nil isWord.1
  intro c member
  cases member
  exact isWord.2 first List.mem_cons_self

/-- What ends with a word ends with no blank. -/
theorem IsWord.getLast?_append {word : List Char} (isWord : IsWord word) (front : List Char) :
    ∀ c ∈ (front ++ word).getLast?, isBlank c = false := by
  intro c member
  have last : word.getLast isWord.1 = c := by
    rw [List.getLast?_append, List.getLast?_eq_some_getLast isWord.1, Option.some_or] at member
    exact Option.some.inj member
  exact isWord.2 c (last ▸ List.getLast_mem isWord.1)

theorem isWord_firstWord {text : List Char} (some_word : (firstWord text).1 ≠ []) :
    IsWord (firstWord text).1 :=
  ⟨some_word, fun c member => by simpa using List.mem_takeWhile_imp member⟩

/-- A word that blanks or the end of the text follow is the first word of the text. -/
theorem firstWord_append_of_isWord {word rest : List Char} (isWord : IsWord word)
    (ends : ∀ c ∈ rest.head?, isBlank c = true) : firstWord (word ++ rest) = (word, rest) := by
  have solid : ∀ c ∈ word, (!isBlank c) = true := fun c member => by rw [isWord.2 c member]; rfl
  have stops : rest.takeWhile (!isBlank ·) = [] ∧ rest.dropWhile (!isBlank ·) = rest := by
    cases rest with
    | nil => exact ⟨rfl, rfl⟩
    | cons c rest => simp [ends c rfl]
  rw [firstWord, List.takeWhile_append_of_pos solid, List.dropWhile_append_of_pos solid, stops.1,
    stops.2, List.append_nil]

/-!
### Blanks at the ends
-/

theorem trimStart_of_head {text : List Char} (begins : ∀ c ∈ text.head?, isBlank c = false) :
    trimStart text = text := by
  cases text with
  | nil => rfl
  | cons c rest => simp [trimStart, begins c rfl]

/-- A text that begins and ends with no blank has none to trim. -/
theorem trim_of_ends {text : List Char} (begins : ∀ c ∈ text.head?, isBlank c = false)
    (ends : ∀ c ∈ text.getLast?, isBlank c = false) : trim text = text := by
  have last : trimStart text.reverse = text.reverse :=
    trimStart_of_head (by rwa [List.head?_reverse])
  rw [trim, trimStart_of_head begins, trimEnd]
  exact (congrArg List.reverse last).trans (List.reverse_reverse text)

theorem head?_trimStart (text : List Char) : ∀ c ∈ (trimStart text).head?, isBlank c = false := by
  intro c first
  have head := List.head?_dropWhile_not isBlank text
  rw [show (text.dropWhile isBlank).head? = some c from first] at head
  exact head

/-- Blanks are taken from the last part that has anything else. -/
theorem trimEnd_append (text rest : List Char) :
    trimEnd (text ++ rest) = if trimEnd rest = [] then trimEnd text else text ++ trimEnd rest := by
  simp only [trimEnd, List.reverse_append, List.dropWhile_append, List.isEmpty_iff,
    List.reverse_eq_nil_iff]
  split
  · rfl
  · rw [List.reverse_append, List.reverse_reverse]

theorem isPrefix_trimEnd (text : List Char) : trimEnd text <+: text := by
  have suffix := List.reverse_prefix.mpr (List.dropWhile_suffix (l := text.reverse) isBlank)
  rwa [List.reverse_reverse] at suffix

theorem getLast?_trimEnd (text : List Char) : ∀ c ∈ (trimEnd text).getLast?, isBlank c = false := by
  rw [trimEnd, List.getLast?_reverse]
  exact head?_trimStart text.reverse

/-- A text that ends in no blank is left as it is. -/
theorem trimEnd_of_getLast? {text : List Char} (ends : ∀ c ∈ text.getLast?, isBlank c = false) :
    trimEnd text = text := by
  rw [trimEnd, show text.reverse.dropWhile isBlank = text.reverse from
    trimStart_of_head (by rwa [List.head?_reverse]), List.reverse_reverse]

theorem subset_trim (text : List Char) : trim text ⊆ text := fun _ member =>
  (List.dropWhile_suffix isBlank).subset ((isPrefix_trimEnd _).subset member)

/-- A text has nothing to trim if no blank begins or ends it. -/
theorem trim_eq_self_iff {text : List Char} :
    trim text = text ↔
      (∀ c ∈ text.head?, isBlank c = false) ∧ ∀ c ∈ text.getLast?, isBlank c = false := by
  refine ⟨fun trimmed => ⟨?_, ?_⟩, fun ends => trim_of_ends ends.1 ends.2⟩
  · intro c first
    rw [← trimmed] at first
    have head : (trimStart text).head? = some c := by
      obtain ⟨rest, joined⟩ := isPrefix_trimEnd (trimStart text)
      rw [← joined, List.head?_append, show (trimEnd (trimStart text)).head? = some c from first]
      rfl
    exact head?_trimStart text c head
  · rw [← trimmed]
    exact getLast?_trimEnd (trimStart text)

/-- A blank in front makes no difference. -/
theorem trim_cons {c : Char} (blank : isBlank c = true) (text : List Char) :
    trim (c :: text) = trim text := by
  rw [trim, trimStart, List.dropWhile_cons_of_pos blank, trim, trimStart]

/-- Nor does one behind. -/
theorem trim_concat {c : Char} (blank : isBlank c = true) (text : List Char) :
    trim (text ++ [c]) = trim text := by
  have step : ∀ kept : List Char, trimEnd (kept ++ [c]) = trimEnd kept := by
    intro kept
    rw [trimEnd, List.reverse_append, List.reverse_singleton, List.singleton_append,
      List.dropWhile_cons_of_pos blank, trimEnd]
  unfold trim trimStart
  rw [List.dropWhile_append]
  split
  · rename_i empty
    rw [List.isEmpty_iff.mp empty, List.dropWhile_cons_of_pos blank]
    rfl
  · exact step _

/-- Blanks around a text make no difference to it trimmed. -/
theorem trim_padded {before after : List Char} (blankBefore : ∀ c ∈ before, isBlank c = true)
    (blankAfter : ∀ c ∈ after, isBlank c = true) (text : List Char) :
    trim (before ++ text ++ after) = trim text := by
  have start : trim (before ++ text) = trim text := by
    induction before with
    | nil => rfl
    | cons c rest inductionHypothesis =>
        obtain ⟨head, tail⟩ := List.forall_mem_cons.mp blankBefore
        rw [List.cons_append, trim_cons head, inductionHypothesis tail]
  induction after using List.reverseRecOn with
  | nil => rw [List.append_nil, start]
  | append_singleton rest c inductionHypothesis =>
      obtain ⟨front, last⟩ := List.forall_mem_append.mp blankAfter
      rw [← List.append_assoc, trim_concat (last c (List.mem_singleton_self c)),
        inductionHypothesis front]

/-- What is trimmed off are blanks. -/
theorem exists_padding (text : List Char) :
    ∃ before after, (∀ c ∈ before, isBlank c = true) ∧ (∀ c ∈ after, isBlank c = true) ∧
      text = before ++ trim text ++ after := by
  have start : text = text.takeWhile isBlank ++ trimStart text := List.takeWhile_append_dropWhile.symm
  have stop (kept : List Char) : kept = trimEnd kept ++ (kept.reverse.takeWhile isBlank).reverse := by
    rw [trimEnd, ← List.reverse_append, List.takeWhile_append_dropWhile, List.reverse_reverse]
  refine ⟨text.takeWhile isBlank, ((trimStart text).reverse.takeWhile isBlank).reverse,
    fun c member => List.mem_takeWhile_imp member,
    fun c member => List.mem_takeWhile_imp (List.mem_reverse.mp member), ?_⟩
  rw [trim, List.append_assoc, ← stop]
  exact start

theorem isInfix_trim (text : List Char) : trim text <:+: text := by
  obtain ⟨before, after, -, -, padded⟩ := exists_padding text
  exact ⟨before, after, padded.symm⟩

theorem trim_trim (text : List Char) : trim (trim text) = trim text := by
  obtain ⟨before, after, blankBefore, blankAfter, padded⟩ := exists_padding text
  rw [← trim_padded blankBefore blankAfter, ← padded]

/-!
### Lines
-/

/-- A line feed ends a line. -/
theorem splitLines_append_feed {line : List Char} (noFeed : '\n' ∉ line) (rest : List Char) :
    splitLines (line ++ '\n' :: rest) = line :: splitLines rest := by
  induction line with
  | nil => rfl
  | cons c line inductionHypothesis =>
      obtain ⟨head, tail⟩ := by simpa using noFeed
      rw [List.cons_append, splitLines, if_neg (fun same => head same.symm), inductionHypothesis tail]

/-- Lines with a line feed after each are cut where they were joined. -/
theorem splitLines_flatMap_append {lines : List (List Char)} (noFeed : ∀ line ∈ lines, '\n' ∉ line)
    (last : List Char) :
    splitLines (lines.flatMap (· ++ ['\n']) ++ last) = lines ++ splitLines last := by
  induction lines with
  | nil => rfl
  | cons line rest inductionHypothesis =>
      obtain ⟨head, tail⟩ := List.forall_mem_cons.mp noFeed
      rw [List.flatMap_cons, List.append_assoc, List.append_assoc, List.singleton_append,
        splitLines_append_feed head, inductionHypothesis tail, List.cons_append]

/-- Ended lines are split into just these, and an empty rest. -/
theorem splitLines_flatMap {lines : List (List Char)} (noFeed : ∀ line ∈ lines, '\n' ∉ line) :
    splitLines (lines.flatMap (· ++ ['\n'])) = lines ++ [[]] := by
  rw [← List.append_nil (lines.flatMap _), splitLines_flatMap_append noFeed, splitLines]

theorem splitLines_of_noFeed {line : List Char} (noFeed : '\n' ∉ line) :
    splitLines line = [line] := by
  induction line with
  | nil => rfl
  | cons c line inductionHypothesis =>
      obtain ⟨head, tail⟩ := by simpa using noFeed
      rw [splitLines, if_neg (fun same => head same.symm), inductionHypothesis tail]

/-- Trimming lines joined, none of which has blanks at its end, drops lines at the end, all of
them empty. -/
theorem isPrefix_splitLines_trimEnd {first : List Char} {rest : List (List Char)}
    (noFeed : ∀ line ∈ first :: rest, '\n' ∉ line)
    (trimmed : ∀ line ∈ first :: rest, trimEnd line = line) :
    splitLines (trimEnd (List.intercalate ['\n'] (first :: rest))) <+: first :: rest := by
  induction rest generalizing first with
  | nil =>
      rw [List.intercalate_singleton, trimmed first List.mem_cons_self,
        splitLines_of_noFeed (noFeed first List.mem_cons_self)]
  | cons next others inductionHypothesis =>
      obtain ⟨head, tail⟩ := List.forall_mem_cons.mp noFeed
      obtain ⟨headTrimmed, tailTrimmed⟩ := List.forall_mem_cons.mp trimmed
      have later := inductionHypothesis tail tailTrimmed
      rw [List.intercalate_cons_cons, trimEnd_append]
      split
      · have feed : trimEnd (first ++ ['\n']) = first := by
          rw [trimEnd_append, if_pos (by decide), headTrimmed]
        rw [feed, splitLines_of_noFeed head]
        exact ⟨next :: others, rfl⟩
      · rw [List.append_assoc, List.singleton_append, splitLines_append_feed head]
        exact List.cons_prefix_cons.mpr ⟨rfl, later⟩

/-- A character after a text changes its last line, or begins a new one. -/
theorem exists_splitLines_concat (text : List Char) (c : Char) :
    ∃ front last, splitLines text = front ++ [last] ∧
      splitLines (text ++ [c]) = front ++ if c = '\n' then [last, []] else [last ++ [c]] := by
  induction text with
  | nil =>
      refine ⟨[], [], rfl, ?_⟩
      by_cases feed : c = '\n' <;> simp [splitLines, feed]
  | cons first rest inductionHypothesis =>
      obtain ⟨front, last, lines, extended⟩ := inductionHypothesis
      by_cases feed : first = '\n'
      · exact ⟨[] :: front, last, by simp [splitLines, feed, lines],
          by simp [splitLines, feed, extended]⟩
      · cases front with
        | nil =>
            refine ⟨[], first :: last, by simp [splitLines, feed, lines], ?_⟩
            rw [List.cons_append, splitLines, if_neg feed, extended]
            by_cases last_feed : c = '\n' <;> simp [last_feed]
        | cons line front =>
            refine ⟨(first :: line) :: front, last, by simp [splitLines, feed, lines], ?_⟩
            rw [List.cons_append, splitLines, if_neg feed, extended]
            rfl

theorem keepLines_append_feed {line : List Char} (noFeed : '\n' ∉ line) (rest : List Char) :
    keepLines (line ++ '\n' :: rest) = (line ++ ['\n']) :: keepLines rest := by
  induction line with
  | nil => rfl
  | cons c line inductionHypothesis =>
      obtain ⟨head, tail⟩ := by simpa using noFeed
      rw [List.cons_append, keepLines, if_neg (fun same => head same.symm),
        inductionHypothesis tail]
      rfl

/-- Lines that keep their ends are the ended lines. -/
theorem keepLines_flatMap {lines : List (List Char)} (noFeed : ∀ line ∈ lines, '\n' ∉ line) :
    keepLines (lines.flatMap (· ++ ['\n'])) = lines.map (· ++ ['\n']) := by
  induction lines with
  | nil => rfl
  | cons line rest inductionHypothesis =>
      obtain ⟨head, tail⟩ := List.forall_mem_cons.mp noFeed
      rw [List.flatMap_cons, List.append_assoc, List.singleton_append, keepLines_append_feed head,
        inductionHypothesis tail, List.map_cons]

/-- A line has no line feed but the one that ends it. -/
theorem exists_of_mem_keepLines {text line : List Char} (member : line ∈ keepLines text) :
    ∃ body, '\n' ∉ body ∧ (line = body ∨ line = body ++ ['\n']) ∧ body ⊆ text := by
  induction text generalizing line with
  | nil => cases member
  | cons c rest inductionHypothesis =>
      have later {line : List Char} (listed : line ∈ keepLines rest) :
          ∃ body, '\n' ∉ body ∧ (line = body ∨ line = body ++ ['\n']) ∧ body ⊆ c :: rest :=
        (inductionHypothesis listed).imp fun _ found =>
          ⟨found.1, found.2.1, List.subset_cons_of_subset c found.2.2⟩
      rw [keepLines] at member
      split at member
      · rename_i feed
        rcases List.mem_cons.mp member with rfl | listed
        · exact ⟨[], List.not_mem_nil, .inr (congrArg ([·]) feed), List.nil_subset _⟩
        · exact later listed
      · rename_i other
        cases lines : keepLines rest with
        | nil =>
            rw [lines] at member
            rw [List.mem_singleton.mp member]
            exact ⟨[c], by simpa using Ne.symm other, .inl rfl, by simp⟩
        | cons first more =>
            rw [lines] at member
            rcases List.mem_cons.mp member with rfl | listed
            · obtain ⟨body, noFeed, either, inside⟩ :=
                inductionHypothesis (lines ▸ List.mem_cons_self)
              refine ⟨c :: body, List.not_mem_cons_of_ne_of_not_mem (Ne.symm other) noFeed, ?_,
                List.cons_subset_cons c inside⟩
              exact either.imp (congrArg (c :: ·)) (congrArg (c :: ·))
            · exact later (lines ▸ List.mem_cons_of_mem _ listed)

theorem unifyLineEnds_of_not_mem {text : List Char} (noReturn : '\r' ∉ text) :
    unifyLineEnds text = text := by
  induction text using unifyLineEnds.induct with
  | case1 => rfl
  | case2 rest _ => exact absurd List.mem_cons_self noReturn
  | case3 rest _ _ => exact absurd List.mem_cons_self noReturn
  | case4 c rest _ _ inductionHypothesis =>
      have later : '\r' ∉ rest := fun member => noReturn (List.mem_cons_of_mem c member)
      rw [unifyLineEnds, inductionHypothesis later] <;> assumption

theorem noReturn_unifyLineEnds (text : List Char) : '\r' ∉ unifyLineEnds text := by
  induction text using unifyLineEnds.induct with
  | case1 => exact List.not_mem_nil
  | case2 rest inductionHypothesis =>
      exact List.not_mem_cons_of_ne_of_not_mem (by decide) inductionHypothesis
  | case3 rest other inductionHypothesis =>
      rw [unifyLineEnds]
      · exact List.not_mem_cons_of_ne_of_not_mem (by decide) inductionHypothesis
      · exact other
  | case4 c rest pair single inductionHypothesis =>
      rw [unifyLineEnds]
      · exact List.not_mem_cons_of_ne_of_not_mem (Ne.symm single) inductionHypothesis
      · exact pair
      · exact single

section

variable {β : Type} {read : List Char → Option β}

/-- Lines that are read without their blanks at the ends are read alike in a trimmed text. -/
theorem filterMap_splitLines_trim (trims : ∀ line, read line = read (trim line))
    (skips : read [] = none) (text : List Char) :
    (splitLines (trim text)).filterMap read = (splitLines text).filterMap read := by
  have start (c : Char) (blank : isBlank c = true) (text : List Char) :
      (splitLines (c :: text)).filterMap read = (splitLines text).filterMap read := by
    obtain ⟨line, lines, found⟩ := List.exists_cons_of_ne_nil (splitLines_ne_nil text)
    by_cases feed : c = '\n'
    · simp [splitLines, feed, skips]
    · have same : read (c :: line) = read line := by rw [trims, trim_cons blank, ← trims]
      simp [splitLines, feed, found, List.filterMap_cons, same]
  have stop (c : Char) (blank : isBlank c = true) (text : List Char) :
      (splitLines (text ++ [c])).filterMap read = (splitLines text).filterMap read := by
    obtain ⟨front, last, lines, extended⟩ := exists_splitLines_concat text c
    rw [lines, extended]
    by_cases feed : c = '\n'
    · simp [feed, skips, List.filterMap_append, List.filterMap_cons]
    · have same : read (last ++ [c]) = read last := by rw [trims, trim_concat blank, ← trims]
      simp [feed, List.filterMap_append, List.filterMap_cons, same]
  have fromStart (text : List Char) :
      (splitLines (trimStart text)).filterMap read = (splitLines text).filterMap read := by
    induction text with
    | nil => rfl
    | cons c rest inductionHypothesis =>
        by_cases blank : isBlank c = true
        · rw [start c blank, ← inductionHypothesis, trimStart, List.dropWhile_cons_of_pos blank,
            trimStart]
        · rw [trimStart, List.dropWhile_cons_of_neg blank]
  have fromEnd (text : List Char) :
      (splitLines (trimEnd text)).filterMap read = (splitLines text).filterMap read := by
    induction text using List.reverseRecOn with
    | nil => rfl
    | append_singleton rest c inductionHypothesis =>
        by_cases blank : isBlank c = true
        · rw [stop c blank, ← inductionHypothesis, trimEnd, List.reverse_append,
            List.reverse_singleton, List.singleton_append, List.dropWhile_cons_of_pos blank, trimEnd]
        · rw [trimEnd, List.reverse_append, List.reverse_singleton, List.singleton_append,
            List.dropWhile_cons_of_neg blank]
          simp
  rw [trim, fromEnd, fromStart]

end

end MonitorSplit.Text
