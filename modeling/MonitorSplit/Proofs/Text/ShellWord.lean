/-
Module: MonitorSplit.Proofs.Text.ShellWord
Purpose: Shell lines are single lines, and a shell reads back the words that they are made of.
Main exports:
  Text.noFeed_quoteShellWord, Text.noFeed_shellLine, Text.readShellLine, Text.readBack,
  Text.content_readBack, Text.readShellLine_shellLine
-/
import MonitorSplit.Proofs.Text.Lines
import MonitorSplit.Text.ShellWord

namespace MonitorSplit.Text

/-!
### Single lines
-/

/-- Quoting adds quotes only. -/
theorem noFeed_quoteShellWord {word : List Char} (noFeed : '\n' ∉ word) :
    '\n' ∉ quoteShellWord word := by
  have quoted : '\n' ∉ word.flatMap quoteShellChar := by
    intro member
    obtain ⟨c, present, fed⟩ := List.mem_flatMap.mp member
    unfold quoteShellChar at fed
    split at fed
    · exact absurd fed (by decide)
    · exact noFeed (List.mem_singleton.mp fed ▸ present)
  unfold quoteShellWord
  split
  · exact noFeed
  · simp only [List.cons_append, List.mem_cons, List.mem_append, List.not_mem_nil, or_false, not_or]
    exact ⟨by decide, quoted, by decide⟩

/-- Words without line feeds make one line. -/
theorem noFeed_shellLine {words : List String} (noFeed : ∀ word ∈ words, '\n' ∉ word.toList) :
    '\n' ∉ (shellLine words).toList := by
  rw [shellLine, String.toList_intercalate]
  refine not_mem_intercalate (by decide) ?_
  simpa [List.map_map] using fun word member => noFeed_quoteShellWord (noFeed word member)

/-!
### Lines as a shell reads them

Blanks separate words.  Between single quotes every character stands for itself, and between
double quotes all but those that begin an expansion.  A quoted part need not be a whole word.
What is left outside of quotes stands for itself unless a shell has a use for it.
-/

/-- A character of a word, and whether it stood between quotes. -/
structure ReadChar where
  content : Char
  quoted : Bool
deriving DecidableEq, Repr, Inhabited

/-- Where a shell is in a line: outside of quotes, possibly with a word under way, or between
quotes of a kind, with what the word has up to there. -/
inductive Place where
  | outside (under : Option (List ReadChar))
  | between (quote : Char) (under : List ReadChar)
deriving DecidableEq, Repr

/-- A character that separates words. -/
def separatesWords (c : Char) : Bool := c = ' ' || c = '\t'

/-- A character that a shell does not take for itself, if it stands outside of quotes. -/
def hasShellMeaning (c : Char) : Bool := "|&;<>()$`\\\n*?[]#~!^".toList.contains c

/-- A character that a shell does not take for itself between double quotes. -/
def isExpanded (c : Char) : Bool := "$`\\".toList.contains c

/-- The words of the rest of a line.  A line is refused if it ends between quotes, or if a shell
would not take a character of it for itself. -/
def readShellFrom : Place → List Char → Option (List (List ReadChar))
  | .outside under, [] => some under.toList
  | .between _ _, [] => none
  | .outside under, c :: rest =>
      if separatesWords c then (readShellFrom (.outside none) rest).map (under.toList ++ ·)
      else if c = singleQuote || c = doubleQuote then
        readShellFrom (.between c (under.getD [])) rest
      else if hasShellMeaning c then none
      else
        readShellFrom (.outside (some (under.getD [] ++ [{ content := c, quoted := false }]))) rest
  | .between quote under, c :: rest =>
      if c = quote then readShellFrom (.outside (some under)) rest
      else if quote = doubleQuote && isExpanded c then none
      else readShellFrom (.between quote (under ++ [{ content := c, quoted := true }])) rest

/-- The words of a line as a shell reads them. -/
def readShellLine (line : List Char) : Option (List (List ReadChar)) :=
  readShellFrom (.outside none) line

/-- Characters of a word, all quoted or none. -/
def markAll (quoted : Bool) (word : List Char) : List ReadChar :=
  word.map fun content => { content, quoted }

/-- A word in shell form as it is read: not quoted if all of it is harmless, else quoted. -/
def readBack (word : List Char) : List ReadChar :=
  markAll (!decide (word ≠ [] ∧ word.all isPlainShellChar = true)) word

theorem content_readBack (word : List Char) : (readBack word).map ReadChar.content = word := by
  rw [readBack, markAll, List.map_map]
  exact List.map_id word

/-- What is not quoted is harmless. -/
theorem isPlainShellChar_of_mem_readBack {word : List Char} {c : ReadChar}
    (member : c ∈ readBack word) (unquoted : c.quoted = false) :
    isPlainShellChar c.content = true := by
  obtain ⟨content, inside, rfl⟩ := List.mem_map.mp member
  have harmless : word ≠ [] ∧ word.all isPlainShellChar = true :=
    of_decide_eq_true (Bool.not_eq_eq_eq_not.mp unquoted)
  exact List.all_eq_true.mp harmless.2 content inside

/-- A shell takes a harmless character for itself. -/
theorem takes_plain {c : Char} (plain : isPlainShellChar c = true) :
    separatesWords c = false ∧ (c = singleQuote || c = doubleQuote) = false ∧
      hasShellMeaning c = false := by
  have unlike (special : Char) (notPlain : isPlainShellChar special = false) : c ≠ special := by
    rintro rfl
    rw [plain] at notPlain
    cases notPlain
  have uses : "|&;<>()$`\\\n*?[]#~!^".toList.all (!isPlainShellChar ·) = true := by decide
  refine ⟨?_, ?_, ?_⟩
  · simp [separatesWords, unlike ' ' (by decide), unlike '\t' (by decide)]
  · simp [unlike singleQuote (by decide), unlike doubleQuote (by decide)]
  · rw [hasShellMeaning, ← Bool.not_eq_true, List.contains_iff_mem]
    intro member
    exact unlike c (by simpa using List.all_eq_true.mp uses c member) rfl

theorem readShellFrom_plain {word : List Char} (plain : ∀ c ∈ word, isPlainShellChar c = true)
    (under : List ReadChar) (rest : List Char) :
    readShellFrom (.outside (some under)) (word ++ rest) =
      readShellFrom (.outside (some (under ++ markAll false word))) rest := by
  induction word generalizing under with
  | nil => rw [markAll, List.map_nil, List.append_nil, List.nil_append]
  | cons c word inductionHypothesis =>
      obtain ⟨head, tail⟩ := List.forall_mem_cons.mp plain
      obtain ⟨separates, quotes, means⟩ := takes_plain head
      simp only [List.cons_append, readShellFrom, separates, quotes, means, Bool.false_eq_true,
        if_false, Option.getD_some, inductionHypothesis tail, markAll, List.map_cons,
        List.append_assoc, List.nil_append]

/-- Between single quotes a character in its quoted form is read as that character, and the
quoted part goes on after it. -/
theorem readShellFrom_quoteShellChar (c : Char) (under : List ReadChar) (rest : List Char) :
    readShellFrom (.between singleQuote under) (quoteShellChar c ++ rest) =
      readShellFrom (.between singleQuote (under ++ [{ content := c, quoted := true }])) rest := by
  unfold quoteShellChar
  split
  · rename_i single
    subst single
    have separates : separatesWords singleQuote = false ∧ separatesWords doubleQuote = false := by
      decide
    have other : singleQuote ≠ doubleQuote ∧ isExpanded singleQuote = false := by decide
    simp [readShellFrom, separates, other]
  · rename_i plain
    have kind : singleQuote ≠ doubleQuote := by decide
    simp [readShellFrom, plain, kind]

/-- A quoted part is read as the word that it is made of. -/
theorem readShellFrom_quoted (word : List Char) (under : List ReadChar) (rest : List Char) :
    readShellFrom (.between singleQuote under)
        (word.flatMap quoteShellChar ++ singleQuote :: rest) =
      readShellFrom (.outside (some (under ++ markAll true word))) rest := by
  induction word generalizing under with
  | nil => simp [readShellFrom, markAll]
  | cons c word inductionHypothesis =>
      rw [List.flatMap_cons, List.append_assoc, readShellFrom_quoteShellChar, inductionHypothesis]
      simp [markAll]

/-- A word in shell form is read as one word, and it is still under way after it. -/
theorem readShellFrom_quoteShellWord (word rest : List Char) :
    readShellFrom (.outside none) (quoteShellWord word ++ rest) =
      readShellFrom (.outside (some (readBack word))) rest := by
  unfold quoteShellWord readBack
  split
  · rename_i harmless
    have plain := List.all_eq_true.mp harmless.2
    -- a first character begins the word, so that the rest of it extends one under way
    have begins : readShellFrom (.outside none) (word ++ rest) =
        readShellFrom (.outside (some [])) (word ++ rest) := by
      obtain ⟨c, others, rfl⟩ := List.exists_cons_of_ne_nil harmless.1
      obtain ⟨separates, quotes, means⟩ := takes_plain (plain c List.mem_cons_self)
      simp only [List.cons_append, readShellFrom, separates, quotes, means, Bool.false_eq_true,
        if_false, Option.getD_some, Option.getD_none]
    rw [begins, readShellFrom_plain plain, List.nil_append, decide_eq_true harmless, Bool.not_true]
  · rename_i quoted
    have separates : separatesWords singleQuote = false := by decide
    have opens : readShellFrom (.outside none)
          (singleQuote :: word.flatMap quoteShellChar ++ [singleQuote] ++ rest) =
        readShellFrom (.between singleQuote [])
          (word.flatMap quoteShellChar ++ singleQuote :: rest) := by
      simp [readShellFrom, separates]
    rw [opens, readShellFrom_quoted, List.nil_append, decide_eq_false quoted, Bool.not_false]

/-- A shell reads a line as the words that it was made of. -/
theorem readShellLine_shellLine (words : List String) :
    readShellLine (shellLine words).toList = some (words.map fun word => readBack word.toList) := by
  rw [readShellLine, shellLine, String.toList_intercalate, List.map_map]
  induction words with
  | nil => rfl
  | cons word words inductionHypothesis =>
      cases words with
      | nil =>
          have alone := readShellFrom_quoteShellWord word.toList []
          rw [List.append_nil] at alone
          simpa [readShellFrom] using alone
      | cons next others =>
          have blank : separatesWords ' ' = true := by decide
          simp only [List.map_cons, List.intercalate_cons_cons, Function.comp_apply,
            List.append_assoc] at inductionHypothesis ⊢
          rw [String.toList_ofList, readShellFrom_quoteShellWord]
          have separator : " ".toList = [' '] := rfl
          rw [separator, List.singleton_append, readShellFrom, if_pos blank, ← separator,
            inductionHypothesis]
          rfl

end MonitorSplit.Text
