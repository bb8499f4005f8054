/-
Module: MonitorSplit.Text.Lowercase
Purpose: The lower case of a text.
Main exports:
  CaseRun.holds, lowerChar, lowercase
-/
import MonitorSplit.Text.CaseTable

namespace MonitorSplit.Text

/-!
Every character lowers on its own, but for the capital sigma, which has a special
form at the end of a word: after a cased character and not before one.  Ignorable
characters, such as apostrophes and combining marks, do not count as neighbours.
One capital lowers to two characters: the dotted I keeps its dot as a mark.
-/

/-- The run holds the code point. -/
def CaseRun.holds (run : CaseRun) (code : Nat) : Bool :=
  run.first ≤ code && code ≤ run.last && (code - run.first) % run.stride == 0

/-- The lower case of a character, its neighbours left aside. -/
def lowerChar (c : Char) : List Char :=
  if c.toNat = 0x130 then [Char.ofNat 0x69, Char.ofNat 0x307]
  else
    match caseRuns.find? (·.holds c.toNat) with
    | some run => [Char.ofNat (c.toNat + run.shift).toNat]
    | none => [c]

/-- The next character that counts as a neighbour is cased. -/
def casedAhead (text : List Char) : Bool :=
  ((text.dropWhile caseIgnorable.contains).head?.map cased.contains).getD false

/-- The lower case of the rest of a text.  `casedBefore` tells whether the last
neighbour before it is cased. -/
def lowercaseFrom (casedBefore : Bool) : List Char → List Char
  | [] => []
  | c :: rest =>
      let here :=
        if c.toNat = 0x3A3 then
          [Char.ofNat (if casedBefore && !casedAhead rest then 0x3C2 else 0x3C3)]
        else lowerChar c
      let casedHere := if caseIgnorable.contains c then casedBefore else cased.contains c
      here ++ lowercaseFrom casedHere rest

/-- The lower case of a text. -/
def lowercase (text : String) : String :=
  String.ofList (lowercaseFrom false text.toList)

end MonitorSplit.Text
