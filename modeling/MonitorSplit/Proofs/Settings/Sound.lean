/-
Module: MonitorSplit.Proofs.Settings.Sound
Purpose: Names, keys and values that a settings file can hold.
Main exports:
  HeaderForm, readHeader?_eq_none_iff, SingleLine, IsName, KeyForm, IsKey, isKey_lowercase_iff,
  ValueLines, HoldsLines, Holds, HoldsLines.holds_joinValue, Contents.Sound
-/
import MonitorSplit.Proofs.Settings.Table
import MonitorSplit.Proofs.Text.Lines
import MonitorSplit.Proofs.Text.Lowercase
import MonitorSplit.Settings.Reader

namespace MonitorSplit.Settings

open Text (trim trimEnd isBlank isFrame splitLines lowercase lowercaseFrom)
open Reading (joinValue)

/-!
### Headers

A line is taken for a header if it begins with an opening bracket and has a closing one
somewhere behind the next character.  The last closing bracket ends the name.
-/

/-- A line begins like a header and has a bracket that closes it. -/
def HeaderForm (line : List Char) : Prop := line.head? = some '[' ∧ ']' ∈ line.drop 2

theorem readHeader?_of_not_mem {rest : List Char} (unclosed : ']' ∉ rest) :
    readHeader? ('[' :: rest) = none := by
  have dropped : rest.reverse.dropWhile (· ≠ ']') = [] := by
    rw [List.dropWhile_eq_nil_iff]
    intro c member
    simpa using fun same : c = ']' => unclosed (same ▸ List.mem_reverse.mp member)
  rw [readHeader?, dropped]

/-- What the last closing bracket ends is the name, unless it is empty. -/
theorem readHeader?_of_last {name after : List Char} (last : ']' ∉ after) :
    readHeader? ('[' :: (name ++ ']' :: after)) = if name = [] then none else some name := by
  have dropped : (name ++ ']' :: after).reverse.dropWhile (· ≠ ']') = ']' :: name.reverse := by
    have passed : ∀ c ∈ after.reverse, decide (c ≠ ']') = true := fun c member =>
      decide_eq_true fun same => last (same ▸ List.mem_reverse.mp member)
    rw [List.reverse_append, List.reverse_cons, List.append_assoc, List.singleton_append,
      List.dropWhile_append_of_pos passed]
    rfl
  rw [readHeader?, dropped]
  split
  · rename_i first before reversed
    have same : name = (first :: before).reverse := by
      rw [← (List.cons.inj reversed).2, List.reverse_reverse]
    rw [if_neg (by rw [same]; simp), same]
  · rename_i other
    split
    · rfl
    · rename_i nonempty
      obtain ⟨first, before, reversed⟩ :=
        List.exists_cons_of_ne_nil (fun empty => nonempty (List.reverse_eq_nil_iff.mp empty))
      exact absurd (congrArg (']' :: ·) reversed) (other ']' first before)

/-- The last place of a character in a text. -/
theorem exists_last_of_mem {c : Char} {text : List Char} (member : c ∈ text) :
    ∃ before after, text = before ++ c :: after ∧ c ∉ after := by
  obtain ⟨after, before, reversed, fresh⟩ :=
    List.eq_append_cons_of_mem (List.mem_reverse.mpr member)
  refine ⟨before.reverse, after.reverse, ?_, fun later => fresh (List.mem_reverse.mp later)⟩
  rw [← List.reverse_reverse text, reversed]
  simp

theorem readHeader?_eq_none_iff {line : List Char} :
    readHeader? line = none ↔ ¬ HeaderForm line := by
  unfold HeaderForm
  by_cases opens : line.head? = some '['
  · obtain ⟨rest, rfl⟩ : ∃ rest, line = '[' :: rest := List.head?_eq_some_iff.mp opens
    simp only [opens, true_and, List.drop_succ_cons]
    by_cases closed : ']' ∈ rest
    · obtain ⟨name, after, rfl, last⟩ := exists_last_of_mem closed
      rw [readHeader?_of_last last]
      cases name with
      | nil => simpa using last
      | cons first others => simp
    · rw [readHeader?_of_not_mem closed]
      exact iff_of_true rfl fun later => closed (List.mem_of_mem_drop later)
  · have other : readHeader? line = none := by
      unfold readHeader?
      split
      · exact absurd rfl opens
      · rfl
    exact iff_of_true other fun form => opens form.1

theorem readHeader?_header {name : List Char} (nonempty : name ≠ []) :
    readHeader? ('[' :: name ++ [']']) = some name := by
  rw [List.cons_append, readHeader?_of_last List.not_mem_nil, if_neg nonempty]

theorem exists_of_readHeader? {line name : List Char} (read : readHeader? line = some name) :
    name ≠ [] ∧ name ⊆ line := by
  have form : HeaderForm line := by
    by_contra other
    rw [readHeader?_eq_none_iff.mpr other] at read
    cases read
  obtain ⟨rest, rfl⟩ : ∃ rest, line = '[' :: rest := List.head?_eq_some_iff.mp form.1
  have closed : ']' ∈ rest := List.mem_of_mem_drop form.2
  obtain ⟨before, after, rfl, last⟩ := exists_last_of_mem closed
  rw [readHeader?_of_last last] at read
  split at read
  · cases read
  · rename_i nonempty
    rw [← Option.some.inj read]
    exact ⟨nonempty, List.subset_cons_of_subset _ (List.subset_append_left _ _)⟩

/-- A line has the form of a header just if it has that form with what it begins with in lower
case. -/
theorem headerForm_lowercase_iff (name : String) (after : List Char) :
    HeaderForm ((lowercase name).toList ++ after) ↔ HeaderForm (name.toList ++ after) := by
  have opening : isFrame '[' = true := by decide
  have closing : isFrame ']' = true := by decide
  rw [lowercase, String.toList_ofList]
  by_cases opens : name.toList.head? = some '['
  · obtain ⟨rest, text⟩ : ∃ rest, name.toList = '[' :: rest := List.head?_eq_some_iff.mp opens
    obtain ⟨here, casedHere, lowers, lowered⟩ := Text.exists_lowercaseFrom_cons false '[' rest
    rw [text, lowered, lowers.frame opening]
    simp only [HeaderForm, List.cons_append, List.nil_append, List.head?_cons, true_and,
      List.drop_succ_cons]
    cases rest with
    | nil => exact Iff.rfl
    | cons next others =>
        have some_here : lowercaseFrom casedHere (next :: others) ≠ [] := fun empty =>
          List.cons_ne_nil next others (Text.lowercaseFrom_eq_nil_iff.mp empty)
        rw [List.drop_append_of_le_length (List.length_pos_iff.mpr some_here),
          List.drop_append_of_le_length (Nat.le_add_left 1 others.length), List.mem_append,
          List.mem_append, Text.mem_drop_lowercaseFrom_iff closing]
  · have neither (text : List Char) (other : text.head? ≠ some '[') (filled : text ≠ []) :
        ¬ HeaderForm (text ++ after) := fun form =>
      other (List.head?_append_of_ne_nil _ filled ▸ form.1)
    by_cases filled : name.toList = []
    · rw [filled]
      exact Iff.rfl
    · refine iff_of_false (neither _ ?_ ?_) (neither _ opens filled)
      · exact fun first => opens ((Text.head?_lowercaseFrom_iff opening).mp first)
      · exact fun empty => filled (Text.lowercaseFrom_eq_nil_iff.mp empty)

/-!
### Names and keys
-/

/-- A text without line ends. -/
def SingleLine (text : List Char) : Prop := '\n' ∉ text ∧ '\r' ∉ text

instance (text : List Char) : Decidable (SingleLine text) :=
  inferInstanceAs (Decidable ('\n' ∉ text ∧ '\r' ∉ text))

theorem SingleLine.of_subset {text part : List Char} (single : SingleLine text)
    (inside : part ⊆ text) : SingleLine part :=
  ⟨fun feed => single.1 (inside feed), fun back => single.2 (inside back)⟩

/-- The name of a section other than the one that gives defaults. -/
structure IsName (name : String) : Prop where
  nonempty : name.toList ≠ []
  single : SingleLine name.toList
  ordinary : name ≠ defaultsName

/-- A text that a line can begin with as a key: it is found again up to the delimiter, and the
line is no comment. -/
structure KeyForm (key : List Char) : Prop where
  nonempty : key ≠ []
  single : SingleLine key
  trimmed : trim key = key
  undelimited : ∀ c ∈ key, isDelimiter c = false
  uncommented : ∀ c ∈ key.head?, isCommentMark c = false

/-- A key as it is kept: in lower case. -/
structure IsKey (key : String) : Prop where
  form : KeyForm key.toList
  lower : lowercase key = key

theorem isFrame_of_isDelimiter (c : Char) (delimits : isDelimiter c = true) : isFrame c = true := by
  have either : c = '=' ∨ c = ':' := by simpa [isDelimiter] using delimits
  rcases either with rfl | rfl <;> decide

theorem isFrame_of_isCommentMark (c : Char) (begins : isCommentMark c = true) :
    isFrame c = true := by
  have either : c = '#' ∨ c = ';' := by simpa [isCommentMark] using begins
  rcases either with rfl | rfl <;> decide

theorem keyForm_lowercase_iff (name : String) :
    KeyForm (lowercase name).toList ↔ KeyForm name.toList := by
  have blanks (c : Char) (blank : isBlank c = true) : isFrame c = true :=
    Text.isFrame_of_isBlank blank
  have member (mark : Char) (frame : isFrame mark = true) :
      mark ∈ (lowercase name).toList ↔ mark ∈ name.toList := by
    rw [lowercase, String.toList_ofList]
    exact Text.mem_lowercaseFrom_iff frame
  have nonempty : (lowercase name).toList ≠ [] ↔ name.toList ≠ [] := by
    rw [lowercase, String.toList_ofList, Ne, Text.lowercaseFrom_eq_nil_iff]
  have single : SingleLine (lowercase name).toList ↔ SingleLine name.toList := by
    rw [SingleLine, SingleLine, member '\n' (by decide), member '\r' (by decide)]
  have trimmed : trim (lowercase name).toList = (lowercase name).toList ↔
      trim name.toList = name.toList := by
    rw [Text.trim_eq_self_iff, Text.trim_eq_self_iff, Text.forall_head?_lowercase_iff blanks,
      Text.forall_getLast?_lowercase_iff blanks]
  have undelimited := Text.forall_mem_lowercase_iff isFrame_of_isDelimiter name
  have uncommented := Text.forall_head?_lowercase_iff isFrame_of_isCommentMark name
  constructor
  · intro form
    exact ⟨nonempty.mp form.nonempty, single.mp form.single, trimmed.mp form.trimmed,
      undelimited.mp form.undelimited, uncommented.mp form.uncommented⟩
  · intro form
    exact ⟨nonempty.mpr form.nonempty, single.mpr form.single, trimmed.mpr form.trimmed,
      undelimited.mpr form.undelimited, uncommented.mpr form.uncommented⟩

theorem isKey_lowercase_iff (name : String) : IsKey (lowercase name) ↔ KeyForm name.toList :=
  ⟨fun key => (keyForm_lowercase_iff name).mp key.form,
    fun form => ⟨(keyForm_lowercase_iff name).mpr form, Text.lowercase_lowercase name⟩⟩

/-!
### Values

While a file is read, a value is a list of lines.  What they are joined to is the value that is
kept, and its own lines are the first ones of these: only empty lines at the end are lost.
-/

/-- The first line of a key and its value. -/
def entryLine (key : String) (first : List Char) : List Char := key.toList ++ " = ".toList ++ first

/-- Lines that a value may have: trimmed, and none but the first one like a comment. -/
structure ValueLines (lines : List (List Char)) : Prop where
  nonempty : lines ≠ []
  single : ∀ line ∈ lines, SingleLine line
  trimmed : ∀ line ∈ lines, trim line = line
  further : ∀ line ∈ lines.tail, ∀ c ∈ line.head?, isCommentMark c = false

/-- A file can hold the lines as the value of the key: the first line of it is no header. -/
structure HoldsLines (key : String) (lines : List (List Char)) : Prop where
  isKey : IsKey key
  isValue : ValueLines lines
  noHeader : ¬ HeaderForm (entryLine key (lines.headD []))

/-- A file can hold the value of the key. -/
structure Holds (key value : String) : Prop where
  lines : HoldsLines key (splitLines value.toList)
  trimmed : trimEnd value.toList = value.toList

/-- Contents that a file can hold. -/
def Contents.Sound (contents : Contents String) : Prop := contents.Proper IsName Holds

theorem joinValue_splitLines {value : String} (trimmed : trimEnd value.toList = value.toList) :
    joinValue (splitLines value.toList) = value := by
  rw [joinValue, Text.intercalate_splitLines, trimmed, String.ofList_toList]

theorem joinValue_concat_nil (lines : List (List Char)) :
    joinValue (lines ++ [[]]) = joinValue lines := by
  cases lines with
  | nil => rfl
  | cons first rest =>
      rw [joinValue, joinValue, Text.intercalate_concat_nil, ← Text.intercalate_append_separator,
        Text.trimEnd_append, if_pos (by decide)]

namespace HoldsLines

variable {key : String} {lines : List (List Char)}

theorem of_isPrefix (holds : HoldsLines key lines) {front : List (List Char)}
    (some_lines : front ≠ []) (begins : front <+: lines) : HoldsLines key front := by
  obtain ⟨rest, rfl⟩ := begins
  obtain ⟨first, others, rfl⟩ := List.exists_cons_of_ne_nil some_lines
  refine ⟨holds.isKey, ⟨some_lines, ?_, ?_, ?_⟩, holds.noHeader⟩
  · exact fun line member => holds.isValue.single line (List.mem_append_left rest member)
  · exact fun line member => holds.isValue.trimmed line (List.mem_append_left rest member)
  · exact fun line member => holds.isValue.further line (List.mem_append_left rest member)

theorem concat (holds : HoldsLines key lines) {line : List Char} (single : SingleLine line)
    (trimmed : trim line = line) (uncommented : ∀ c ∈ line.head?, isCommentMark c = false) :
    HoldsLines key (lines ++ [line]) := by
  obtain ⟨first, others, rfl⟩ := List.exists_cons_of_ne_nil holds.isValue.nonempty
  refine ⟨holds.isKey, ⟨List.cons_ne_nil _ _, ?_, ?_, ?_⟩, holds.noHeader⟩
  · exact List.forall_mem_append.mpr ⟨holds.isValue.single, List.forall_mem_singleton.mpr single⟩
  · exact List.forall_mem_append.mpr ⟨holds.isValue.trimmed, List.forall_mem_singleton.mpr trimmed⟩
  · exact List.forall_mem_append.mpr
      ⟨holds.isValue.further, List.forall_mem_singleton.mpr uncommented⟩

/-- What the lines are joined to can be held in their place. -/
theorem holds_joinValue (holds : HoldsLines key lines) : Holds key (joinValue lines) := by
  obtain ⟨first, others, rfl⟩ := List.exists_cons_of_ne_nil holds.isValue.nonempty
  have cut : splitLines (joinValue (first :: others)).toList <+: first :: others := by
    rw [joinValue, String.toList_ofList]
    refine Text.isPrefix_splitLines_trimEnd (fun line member => (holds.isValue.single line member).1)
      fun line member => ?_
    exact Text.trimEnd_of_getLast? (Text.trim_eq_self_iff.mp (holds.isValue.trimmed line member)).2
  refine ⟨holds.of_isPrefix (Text.splitLines_ne_nil _) cut, ?_⟩
  rw [joinValue, String.toList_ofList]
  exact Text.trimEnd_of_getLast? (Text.getLast?_trimEnd _)

end HoldsLines

end MonitorSplit.Settings
