/-
Module: MonitorSplit.Text.ShellWord
Purpose: Words written so that a shell reads them back unchanged.
Main exports:
  isPlainShellChar, quoteShellWord, shellLine
-/
import MonitorSplit.Text.Quoted

namespace MonitorSplit.Text

/-!
A word of harmless characters stands as it is.  Any other word stands between
single quotes, where a shell takes every character literally; a single quote of the
word itself is written as `'"'"'`: the quoted part ends, a single quote follows
between double quotes, and a new quoted part begins.  The empty word is `''`.
-/

/-- A character that no shell gives a meaning of its own. -/
def isPlainShellChar (c : Char) : Bool :=
  ('A' ≤ c && c ≤ 'Z') || ('a' ≤ c && c ≤ 'z') || ('0' ≤ c && c ≤ '9') ||
    "_@%+=:,./-".toList.contains c

/-- One character between single quotes. -/
def quoteShellChar (c : Char) : List Char :=
  if c = singleQuote then [singleQuote, doubleQuote, singleQuote, doubleQuote, singleQuote]
  else [c]

/-- A word in the form that a shell reads back as that word. -/
def quoteShellWord (word : List Char) : List Char :=
  if word ≠ [] ∧ word.all isPlainShellChar then word
  else singleQuote :: word.flatMap quoteShellChar ++ [singleQuote]

/-- A command line: its words in shell form, one blank between them. -/
def shellLine (words : List String) : String :=
  " ".intercalate (words.map fun word => String.ofList (quoteShellWord word.toList))

end MonitorSplit.Text
