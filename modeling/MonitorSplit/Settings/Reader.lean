/-
Module: MonitorSplit.Settings.Reader
Purpose: Settings files read line by line.
Main exports:
  ReadFailure, ReadFailure.message, Reading, Reading.readLine, read
-/
import MonitorSplit.Settings.Contents
import MonitorSplit.Text.Blank
import MonitorSplit.Text.Lines
import MonitorSplit.Text.Quoted

namespace MonitorSplit.Settings

/-!
Each line of a settings file is one of the following, the first that fits.

* A comment begins with `#` or `;` after blanks.  It has no effect.
* An empty line continues the value under way by an empty line.
* A line indented deeper than the last one that was neither continuation, comment nor
  empty continues the value under way.
* A header `[name]` begins a section.  The name reaches to the last closing bracket.
* `key = value` or `key: value`, the first delimiter deciding, gives a key a value.
* Any other line is malformed.

A malformed line, or a key without characters, fails the whole file in the end; a
repeated section or key, or a line before the first header, fails it at once.  The lines
of a value are joined by line feeds, and blanks at its end are cut off.
-/

/-- Why a settings file cannot be read.  Lines count from one. -/
inductive ReadFailure where
  | noSection (line : Nat) (text : List Char)
  | repeatedSection (line : Nat) (name : String)
  | repeatedKey (line : Nat) (name key : String)
  | malformed (lines : List (Nat × List Char))
deriving DecidableEq, Repr, Inhabited

/-- A line number in brackets, at least two characters wide. -/
def renderLineNumber (line : Nat) : String :=
  let digits := toString line
  "[line " ++ String.ofList (List.replicate (2 - digits.length) ' ') ++ digits ++ "]"

/-- The wording of a failure to read the file of a name. -/
def ReadFailure.message (file : String) (failure : ReadFailure) : String :=
  let file := Text.quoteText file.toList
  match failure with
  | .noSection line text =>
      "File contains no section headers.\nfile: " ++ file ++ s!", line: {line}\n" ++
        Text.quoteText text
  | .repeatedSection line name =>
      s!"While reading from {file} {renderLineNumber line}: section " ++
        s!"{Text.quoteText name.toList} already exists"
  | .repeatedKey line name key =>
      s!"While reading from {file} {renderLineNumber line}: option " ++
        s!"{Text.quoteText key.toList} in section {Text.quoteText name.toList} already exists"
  | .malformed lines =>
      s!"Source contains parsing errors: {file}" ++
        String.join (lines.map fun (line, text) =>
          "\n\t" ++ renderLineNumber line ++ ": " ++ Text.quoteText text)

/-- What has been read so far.  Values are kept as lists of lines.  `place` is the
section under way and `key` the key whose value further lines continue; `indent` is the
indentation that a continuation has to exceed. -/
structure Reading where
  contents : Contents (List (List Char)) := {}
  place : Option String := none
  key : Option String := none
  indent : Nat := 0
  malformed : List (Nat × List Char) := []
deriving DecidableEq, Repr, Inhabited

/-- The name in a section header: what stands between an opening bracket at the start
and the last closing one, at least one character. -/
def readHeader? : List Char → Option (List Char)
  | '[' :: rest =>
      match rest.reverse.dropWhile (· ≠ ']') with
      | _ :: first :: before => some (first :: before).reverse
      | _ => none
  | _ => none

/-- A delimiter between key and value. -/
def isDelimiter (c : Char) : Bool := c = '=' || c = ':'

/-- Key and value of a line: what stands before the first delimiter and after it. -/
def readPair? (line : List Char) : Option (List Char × List Char) :=
  match line.dropWhile (!isDelimiter ·) with
  | _ :: value => some (Text.trimEnd (line.takeWhile (!isDelimiter ·)), Text.trim value)
  | [] => none

/-- A character that begins a comment. -/
def isCommentMark (c : Char) : Bool := c = '#' || c = ';'

namespace Reading

/-- Continue the value under way by a line, if there is one. -/
def continueValue (line : List Char) (reading : Reading) : Reading :=
  match reading.place, reading.key with
  | some place, some key =>
      { reading with
        contents := reading.contents.adjust place (Table.adjust key (· ++ [line])) }
  | _, _ => reading

/-- Begin a section. -/
def beginSection (number : Nat) (name : String) (reading : Reading) :
    Except ReadFailure Reading :=
  if name = defaultsName then .ok { reading with place := some name, key := none }
  else
    match reading.contents.sections.find? name with
    | some _ => .error (.repeatedSection number name)
    | none =>
        .ok { reading with
          contents := reading.contents.withSection name, place := some name, key := none }

/-- Give a key of the section under way the first line of its value. -/
def beginValue (number : Nat) (place key : String) (value : List Char) (reading : Reading) :
    Except ReadFailure Reading :=
  match (reading.contents.entries place).find? key with
  | some _ => .error (.repeatedKey number place key)
  | none =>
      .ok { reading with
        contents := reading.contents.adjust place (Table.put key [value])
        key := if key = "" then none else some key }

/-- Remember a malformed line. -/
def addMalformed (number : Nat) (text : List Char) (reading : Reading) : Reading :=
  { reading with malformed := reading.malformed ++ [(number, text)] }

/-- Read a line of the section under way that is no header. -/
def readPair (number : Nat) (text trimmed : List Char) (place : String) (reading : Reading) :
    Except ReadFailure Reading :=
  match readPair? trimmed with
  | none => .ok (reading.addMalformed number text)
  | some (key, value) =>
      let reading := if key = [] then reading.addMalformed number text else reading
      reading.beginValue number place (Text.lowercase (String.ofList key)) value

/-- Read one line, given with its line end. -/
def readLine (number : Nat) (text : List Char) (reading : Reading) : Except ReadFailure Reading :=
  let trimmed := Text.trim text
  match trimmed with
  | [] => .ok (reading.continueValue [])
  | first :: _ =>
      let indent := (text.takeWhile Text.isBlank).length
      if isCommentMark first then .ok reading
      else if reading.key.isSome && reading.indent < indent then
        .ok (reading.continueValue trimmed)
      else
        let reading := { reading with indent }
        match readHeader? trimmed, reading.place with
        | some name, _ => reading.beginSection number (String.ofList name)
        | none, none => .error (.noSection number text)
        | none, some place => reading.readPair number text trimmed place

/-- Read lines, the first of which has a number. -/
def readLines (number : Nat) : List (List Char) → Reading → Except ReadFailure Reading
  | [], reading => .ok reading
  | text :: rest, reading =>
      match reading.readLine number text with
      | .error failure => .error failure
      | .ok reading => readLines (number + 1) rest reading

/-- The value that lines make up. -/
def joinValue (lines : List (List Char)) : String :=
  String.ofList (Text.trimEnd (List.intercalate ['\n'] lines))

/-- What was read, once all lines are. -/
def finish (reading : Reading) : Except ReadFailure (Contents String) :=
  if reading.malformed = [] then .ok (reading.contents.mapValues joinValue)
  else .error (.malformed reading.malformed)

end Reading

/-- Read the text of a settings file. -/
def read (text : String) : Except ReadFailure (Contents String) :=
  match Reading.readLines 1 (Text.keepLines (Text.unifyLineEnds text.toList)) {} with
  | .error failure => .error failure
  | .ok reading => reading.finish

end MonitorSplit.Settings
