/-
Module: MonitorSplit.Proofs.Settings.Writer
Purpose: A settings file that is written is read back as what was written.
Main exports:
  contentLines, render_eq, Takes, Contents.opening, exists_takes_section, read_render
-/
import MonitorSplit.Proofs.Settings.Sound
import MonitorSplit.Settings.Writer

namespace MonitorSplit.Settings

open Text (trim trimEnd isBlank splitLines lowercase)
open Reading (joinValue readLine readLines)

/-!
### The lines written

Each line of a value but the first is indented by a tab.  An empty line ends every section.
-/

/-- The lines of a key and the lines of its value. -/
def entryLines (key : String) : List (List Char) → List (List Char)
  | [] => []
  | first :: further => entryLine key first :: further.map ('\t' :: ·)

/-- The lines of a section. -/
def sectionLines (name : String) (entries : Table String) : List (List Char) :=
  ('[' :: name.toList ++ [']']) ::
    entries.flatMap (fun (key, value) => entryLines key (splitLines value.toList)) ++ [[]]

/-- The lines of a settings file. -/
def contentLines (contents : Contents String) : List (List Char) :=
  (if contents.defaults = [] then [] else sectionLines defaultsName contents.defaults) ++
    contents.sections.flatMap fun (name, entries) => sectionLines name entries

/-- Indenting what follows a line feed is joining the lines by a line feed and a tab. -/
theorem flatMap_renderValueChar (value : List Char) :
    value.flatMap renderValueChar = List.intercalate ['\n', '\t'] (splitLines value) := by
  induction value with
  | nil => rfl
  | cons c rest inductionHypothesis =>
      obtain ⟨first, further, pieces⟩ := List.exists_cons_of_ne_nil (Text.splitLines_ne_nil rest)
      rw [List.flatMap_cons, inductionHypothesis, Text.splitLines, pieces, renderValueChar]
      split
      · rfl
      · cases further <;> simp [List.intercalate]

theorem intercalate_indented (first : List Char) (further : List (List Char)) :
    List.intercalate ['\n', '\t'] (first :: further) ++ ['\n'] =
      (first :: further.map ('\t' :: ·)).flatMap (· ++ ['\n']) := by
  induction further generalizing first with
  | nil => simp
  | cons next others inductionHypothesis =>
      rw [List.intercalate_cons_cons, List.append_assoc, inductionHypothesis]
      simp

/-- An entry is written as lines, each of them ended. -/
theorem renderEntry_eq (key value : String) :
    renderEntry key value = (entryLines key (splitLines value.toList)).flatMap (· ++ ['\n']) := by
  obtain ⟨first, further, pieces⟩ :=
    List.exists_cons_of_ne_nil (Text.splitLines_ne_nil value.toList)
  rw [renderEntry, flatMap_renderValueChar, pieces, List.append_assoc, intercalate_indented,
    entryLines, entryLine]
  simp

/-- So is a section. -/
theorem renderSection_eq (name : String) (entries : Table String) :
    renderSection name entries = (sectionLines name entries).flatMap (· ++ ['\n']) := by
  simp [renderSection, sectionLines, renderEntry_eq, List.flatMap_assoc]

/-- And so are the contents of a file. -/
theorem render_eq (contents : Contents String) :
    (render contents).toList = (contentLines contents).flatMap (· ++ ['\n']) := by
  have sections : contents.sections.flatMap (fun (name, entries) => renderSection name entries) =
      (contents.sections.flatMap fun (name, entries) => sectionLines name entries).flatMap
        (· ++ ['\n']) := by
    rw [List.flatMap_assoc]
    exact congrArg contents.sections.flatMap (funext fun entry => renderSection_eq entry.1 entry.2)
  rw [render, String.toList_ofList, contentLines, List.flatMap_append, sections]
  split
  · rfl
  · rw [renderSection_eq]

/-- No line of an entry holds a line end. -/
theorem single_of_mem_entryLines {key : String} {lines : List (List Char)}
    (holds : HoldsLines key lines) {line : List Char} (member : line ∈ entryLines key lines) :
    SingleLine line := by
  obtain ⟨first, further, rfl⟩ := List.exists_cons_of_ne_nil holds.isValue.nonempty
  obtain ⟨head, tail⟩ := List.forall_mem_cons.mp holds.isValue.single
  rcases List.mem_cons.mp member with rfl | later
  · have mark : SingleLine " = ".toList := by decide
    have isKey := holds.isKey.form.single
    simp only [SingleLine, entryLine, List.mem_append, not_or] at mark isKey head ⊢
    exact ⟨⟨⟨isKey.1, mark.1⟩, head.1⟩, ⟨isKey.2, mark.2⟩, head.2⟩
  · obtain ⟨source, listed, rfl⟩ := List.mem_map.mp later
    have single := tail source listed
    exact ⟨List.not_mem_cons_of_ne_of_not_mem (by decide) single.1,
      List.not_mem_cons_of_ne_of_not_mem (by decide) single.2⟩

theorem single_of_mem_sectionLines {name : String} {entries : Table String}
    (isName : SingleLine name.toList) (proper : entries.Proper Holds) {line : List Char}
    (member : line ∈ sectionLines name entries) : SingleLine line := by
  rcases List.mem_append.mp member with front | last
  · rcases List.mem_cons.mp front with rfl | entry
    · simp only [SingleLine, List.cons_append, List.mem_cons, List.mem_append, List.not_mem_nil,
        or_false, not_or] at isName ⊢
      exact ⟨⟨by decide, isName.1, by decide⟩, by decide, isName.2, by decide⟩
    · obtain ⟨source, listed, inside⟩ := List.mem_flatMap.mp entry
      exact single_of_mem_entryLines (proper.each source listed).lines inside
  · rw [List.mem_singleton.mp last]
    exact ⟨List.not_mem_nil, List.not_mem_nil⟩

/-- No line of a file holds a line end, so the file is divided into just these lines again. -/
theorem single_of_mem_contentLines {contents : Contents String} (sound : contents.Sound)
    {line : List Char} (member : line ∈ contentLines contents) : SingleLine line := by
  rcases List.mem_append.mp member with first | later
  · split at first
    · cases first
    · exact single_of_mem_sectionLines (by decide) sound.defaults first
  · obtain ⟨source, listed, inside⟩ := List.mem_flatMap.mp later
    obtain ⟨isName, proper⟩ := sound.sections.each source listed
    exact single_of_mem_sectionLines isName.single proper inside

/-!
### Lines taken

A written line is read as what it was written for: its indentation tells a further line of a
value from a header or a key.
-/

/-- Lines are read one after the other, and counted on. -/
theorem readLines_append {number : Nat} {lines : List (List Char)} {before middle : Reading}
    (first : readLines number lines before = .ok middle) (more : List (List Char)) :
    readLines number (lines ++ more) before = readLines (number + lines.length) more middle := by
  induction lines generalizing number before with
  | nil =>
      rw [← Except.ok.inj first]
      rfl
  | cons line rest inductionHypothesis =>
      rw [readLines] at first
      rw [List.cons_append, readLines]
      cases step : readLine number line before with
      | error failure =>
          rw [step] at first
          cases first
      | ok reading =>
          rw [step] at first
          rw [List.length_cons, show number + (rest.length + 1) = number + 1 + rest.length by omega]
          exact inductionHypothesis first

/-- Reading the lines, each with its line feed, leads from one state to the other. -/
def Takes (lines : List (List Char)) (before after : Reading) : Prop :=
  ∀ number, readLines number (lines.map (· ++ ['\n'])) before = .ok after

namespace Takes

variable {lines more : List (List Char)} {line : List Char} {before middle after : Reading}

theorem nil (reading : Reading) : Takes [] reading reading := fun _ => rfl

theorem single (taken : ∀ number, readLine number (line ++ ['\n']) before = .ok after) :
    Takes [line] before after := by
  intro number
  rw [List.map_singleton, readLines, taken number]
  rfl

theorem append (first : Takes lines before middle) (second : Takes more middle after) :
    Takes (lines ++ more) before after := by
  intro number
  rw [List.map_append, readLines_append (first number)]
  exact second _

end Takes

/-- An empty line adds an empty line to the value under way. -/
theorem takes_empty (reading : Reading) : Takes [[]] reading (reading.continueValue []) :=
  .single fun number => by
    have blank : trim ([] ++ ['\n']) = [] := by decide
    rw [readLine]
    simp only [blank]

/-- An indented line continues the value that is being read. -/
theorem takes_further {line : List Char} {reading : Reading} (trimmed : trim line = line)
    (uncommented : ∀ c ∈ line.head?, isCommentMark c = false) (under : reading.key.isSome = true)
    (indent : reading.indent = 0) : Takes ['\t' :: line] reading (reading.continueValue line) :=
  .single fun number => by
    have same : trim ('\t' :: line ++ ['\n']) = line := by
      rw [Text.trim_concat (by decide), Text.trim_cons (by decide), trimmed]
    have deeper : 0 < (('\t' :: line ++ ['\n']).takeWhile isBlank).length := by
      rw [List.cons_append, List.takeWhile_cons_of_pos (by decide)]
      exact Nat.zero_lt_succ _
    rw [readLine]
    simp only [same]
    cases line with
    | nil => rfl
    | cons first others =>
        simp only [uncommented first rfl, under, indent, deeper, Bool.false_eq_true, if_false,
          decide_true, Bool.and_self, if_true]

/-- A line that is not indented, and no comment, is a header or begins a value. -/
theorem readLine_of_even {line : List Char} {first : Char} {others : List Char} {reading : Reading}
    (even : isBlank first = false) (trimmed : trim (first :: line) = first :: others)
    (uncommented : isCommentMark first = false) (number : Nat) :
    readLine number (first :: line) reading =
      match readHeader? (first :: others), reading.place with
      | some name, _ => { reading with indent := 0 }.beginSection number (String.ofList name)
      | none, none => .error (.noSection number (first :: line))
      | none, some place =>
          { reading with indent := 0 }.readPair number (first :: line) (first :: others) place := by
  have indent : ((first :: line).takeWhile isBlank).length = 0 := by
    rw [List.takeWhile_cons_of_neg (by rw [even]; exact Bool.false_ne_true), List.length_nil]
  cases header : readHeader? (first :: others) <;> cases place : reading.place <;>
    simp only [readLine, trimmed, uncommented, indent, header, place, Nat.not_lt_zero,
      decide_false, Bool.and_false, Bool.false_eq_true, if_false]

/-!
### Sections under way
-/

namespace Contents

variable {β γ : Type}

/-- The contents with a section that comes last, or with the defaults if that is its name. -/
def opening (name : String) (table : Table β) (contents : Contents β) : Contents β :=
  if name = defaultsName then { contents with defaults := table }
  else { contents with sections := contents.sections ++ [(name, table)] }

variable {name : String} {contents : Contents β}

theorem entries_opening (fresh : name ∉ contents.sections.names) (table : Table β) :
    (contents.opening name table).entries name = table := by
  unfold entries opening
  split
  · rfl
  · simp only [← Table.put_of_not_mem fresh, Table.find?_put_self, Option.getD_some]

/-- Changing the section that was opened last changes its table. -/
theorem adjust_opening (fresh : name ∉ contents.sections.names) (change : Table β → Table β)
    (table : Table β) :
    (contents.opening name table).adjust name change = contents.opening name (change table) := by
  unfold adjust opening
  split
  · rfl
  · rw [Table.adjust_concat change fresh]

theorem mapValues_opening (change : β → γ) (name : String) (table : Table β)
    (contents : Contents β) :
    (contents.opening name table).mapValues change =
      (contents.mapValues change).opening name (Table.mapValues change table) := by
  unfold opening
  split
  · rfl
  · simp [mapValues, Table.mapValues]

end Contents

/-- A section is under way: it comes last in what has been read, or it gives the defaults. -/
structure Within (outer : Contents (List (List Char))) (name : String)
    (table : Table (List (List Char))) (reading : Reading) : Prop where
  contents : reading.contents = outer.opening name table
  place : reading.place = some name
  indent : reading.indent = 0
  regular : reading.malformed = []

/-- A header opens its section. -/
theorem exists_takes_header {name : String} {before : Reading} (nonempty : name.toList ≠ [])
    (fresh : name ∉ before.contents.sections.names) (bare : before.contents.entries name = [])
    (regular : before.malformed = []) :
    ∃ after, Takes ['[' :: name.toList ++ [']']] before after ∧
      Within before.contents name [] after := by
  let after : Reading := { before with
    contents := before.contents.opening name [], place := some name, key := none, indent := 0 }
  have begun (number : Nat) :
      ({ before with indent := 0 } : Reading).beginSection number name = .ok after := by
    unfold Reading.beginSection
    split
    · rename_i isDefaults
      have same : before.contents.opening name [] = before.contents := by
        rw [Contents.entries, if_pos isDefaults] at bare
        rw [Contents.opening, if_pos isDefaults, ← bare]
      simp only [after, same]
    · rename_i ordinary
      have opened : before.contents.withSection name = before.contents.opening name [] := by
        rw [Contents.withSection, Table.find?_eq_none_iff.mpr fresh, Contents.opening,
          if_neg ordinary]
        simp only [Table.put_of_not_mem fresh]
      simp only [Table.find?_eq_none_iff.mpr fresh, opened, after]
  have trimmed :
      trim ('[' :: (name.toList ++ [']'] ++ ['\n'])) = '[' :: (name.toList ++ [']']) := by
    rw [← List.cons_append, Text.trim_concat (by decide), ← List.cons_append,
      Text.trim_of_ends (fun c first => by cases first; decide) (fun c last => ?_)]
    rw [List.getLast?_concat] at last
    cases last
    decide
  refine ⟨after, .single fun number => ?_, rfl, rfl, rfl, regular⟩
  rw [List.cons_append, List.cons_append, readLine_of_even (by decide) trimmed (by decide),
    ← List.cons_append, readHeader?_header nonempty]
  simp only [String.ofList_toList]
  exact begun number

/-- What begins like a header is one. -/
theorem HeaderForm.of_isPrefix {front line : List Char} (form : HeaderForm front)
    (begins : front <+: line) : HeaderForm line := by
  refine ⟨?_, (begins.drop 2).subset form.2⟩
  obtain ⟨rest, rfl⟩ := begins
  rw [List.head?_append, form.1]
  rfl

/-- Blanks are trimmed from the first line of an entry only behind the delimiter, and they do
not belong to the value. -/
theorem exists_trim_entryLine {key : String} (form : KeyForm key.toList) {first : List Char}
    (trimmed : trim first = first) :
    ∃ behind, trim (entryLine key first ++ ['\n']) = key.toList ++ ' ' :: '=' :: behind ∧
      trim behind = first ∧ key.toList ++ ' ' :: '=' :: behind <+: entryLine key first := by
  have ends := Text.trim_eq_self_iff.mp form.trimmed
  have isLine : entryLine key first = key.toList ++ [' ', '='] ++ ' ' :: first := by
    rw [entryLine, show " = ".toList = [' ', '='] ++ [' '] from rfl]
    simp
  have start (rest : List Char) : ∀ c ∈ (key.toList ++ rest).head?, isBlank c = false := by
    rw [List.head?_append_of_ne_nil _ form.nonempty]
    exact ends.1
  rw [isLine, Text.trim_concat (by decide)]
  cases first with
  | nil =>
      refine ⟨[], ?_, rfl, ?_⟩
      · rw [Text.trim_concat (by decide)]
        refine Text.trim_of_ends (start _) fun c last => ?_
        rw [List.getLast?_append] at last
        cases last
        decide
      · exact List.prefix_append _ _
  | cons c others =>
      refine ⟨' ' :: c :: others, ?_, ?_, ?_⟩
      · rw [List.append_assoc, Text.trim_of_ends (start _) fun last isLast => ?_]
        · rfl
        · rw [← List.append_assoc, List.getLast?_append, List.getLast?_cons_cons,
            List.getLast?_eq_some_getLast (List.cons_ne_nil c others), Option.some_or,
            ← List.getLast?_eq_some_getLast] at isLast
          exact (Text.trim_eq_self_iff.mp trimmed).2 last isLast
      · rw [Text.trim_cons (by decide), trimmed]
      · simp

/-- A key is read up to the equals sign in front of its value. -/
theorem readPair?_entry {key : List Char} (form : KeyForm key) (behind : List Char) :
    readPair? (key ++ ' ' :: '=' :: behind) = some (key, trim behind) := by
  have passed : ∀ c ∈ key ++ [' '], (!isDelimiter c) = true := by
    refine List.forall_mem_append.mpr ⟨fun c member => ?_, List.forall_mem_singleton.mpr rfl⟩
    rw [form.undelimited c member]
    rfl
  have trimmed : trimEnd (key ++ [' ']) = key := by
    rw [Text.trimEnd_append, if_pos (by decide)]
    exact Text.trimEnd_of_getLast? (Text.trim_eq_self_iff.mp form.trimmed).2
  rw [readPair?, show key ++ ' ' :: '=' :: behind = (key ++ [' ']) ++ '=' :: behind by simp,
    List.dropWhile_append_of_pos passed, List.takeWhile_append_of_pos passed]
  simp [isDelimiter, trimmed]

section

variable {outer : Contents (List (List Char))} {name key : String}
  {table : Table (List (List Char))} {before : Reading}

/-- The first line of an entry begins its value. -/
theorem exists_takes_entryLine (fresh : name ∉ outer.sections.names)
    (within : Within outer name table before) (unused : key ∉ table.names) {first : List Char}
    {further : List (List Char)} (holds : HoldsLines key (first :: further)) :
    ∃ after, Takes [entryLine key first] before after ∧
      Within outer name (table ++ [(key, [first])]) after ∧ after.key = some key := by
  let after : Reading := { before with
    contents := before.contents.adjust name (Table.put key [first])
    place := some name, key := some key, indent := 0 }
  have form := holds.isKey.form
  obtain ⟨behind, trimmed, isFirst, begins⟩ :=
    exists_trim_entryLine form (holds.isValue.trimmed first List.mem_cons_self)
  obtain ⟨c, others, text⟩ := List.exists_cons_of_ne_nil form.nonempty
  have noHeader : readHeader? (key.toList ++ ' ' :: '=' :: behind) = none :=
    readHeader?_eq_none_iff.mpr fun header => holds.noHeader (header.of_isPrefix begins)
  have begun (number : Nat) :
      ({ before with place := some name, indent := 0 } : Reading).beginValue number name key first =
        .ok after := by
    have absent : (before.contents.entries name).find? key = none := by
      rw [within.contents, Contents.entries_opening fresh]
      exact Table.find?_eq_none_iff.mpr unused
    have filled : key ≠ "" := fun empty => form.nonempty (empty ▸ rfl)
    unfold Reading.beginValue
    simp only [absent, if_neg filled, after]
  have read (number : Nat) :
      readLine number (entryLine key first ++ ['\n']) before = .ok after := by
    have ends := (Text.trim_eq_self_iff.mp form.trimmed).1
    have uncommented := form.uncommented
    have isLine : entryLine key first ++ ['\n'] =
        c :: (others ++ " = ".toList ++ first ++ ['\n']) := by
      rw [entryLine, text]
      rfl
    rw [text] at ends uncommented
    rw [isLine, text, List.cons_append] at trimmed
    rw [text, List.cons_append] at noHeader
    rw [isLine, readLine_of_even (ends c rfl) trimmed (uncommented c rfl), noHeader, within.place]
    dsimp only
    rw [Reading.readPair, ← List.cons_append, ← text, readPair?_entry form, isFirst]
    simp only [form.nonempty, if_false, String.ofList_toList, holds.isKey.lower]
    exact begun number
  refine ⟨after, .single read, ⟨?_, rfl, rfl, within.regular⟩, rfl⟩
  simp only [after, within.contents, Contents.adjust_opening fresh, Table.put_of_not_mem unused]

/-- Further lines go to the value that was begun last. -/
theorem exists_takes_further (fresh : name ∉ outer.sections.names) (unused : key ∉ table.names)
    {further done : List (List Char)} (trimmed : ∀ line ∈ further, trim line = line)
    (uncommented : ∀ line ∈ further, ∀ c ∈ line.head?, isCommentMark c = false)
    (within : Within outer name (table ++ [(key, done)]) before) (under : before.key = some key) :
    ∃ after, Takes (further.map ('\t' :: ·)) before after ∧
      Within outer name (table ++ [(key, done ++ further)]) after := by
  induction further generalizing before done with
  | nil =>
      rw [List.append_nil]
      exact ⟨before, .nil before, within⟩
  | cons line rest inductionHypothesis =>
      obtain ⟨headTrimmed, tailTrimmed⟩ := List.forall_mem_cons.mp trimmed
      obtain ⟨head, tail⟩ := List.forall_mem_cons.mp uncommented
      have taken := takes_further headTrimmed head (under ▸ rfl) within.indent
      have continued : Within outer name (table ++ [(key, done ++ [line])])
          (before.continueValue line) ∧ (before.continueValue line).key = some key := by
        unfold Reading.continueValue
        rw [within.place, under]
        dsimp only
        refine ⟨⟨?_, rfl, within.indent, within.regular⟩, rfl⟩
        simp only [within.contents, Contents.adjust_opening fresh, Table.adjust_concat _ unused]
      obtain ⟨after, takes, reached⟩ := inductionHypothesis tailTrimmed tail continued.1 continued.2
      rw [List.append_assoc] at reached
      exact ⟨after, taken.append takes, reached⟩

/-- An entry whose key is new is added to the section being read. -/
theorem exists_takes_entry (fresh : name ∉ outer.sections.names)
    (within : Within outer name table before) (unused : key ∉ table.names)
    {lines : List (List Char)} (holds : HoldsLines key lines) :
    ∃ after, Takes (entryLines key lines) before after ∧
      Within outer name (table ++ [(key, lines)]) after := by
  obtain ⟨first, further, rfl⟩ := List.exists_cons_of_ne_nil holds.isValue.nonempty
  obtain ⟨middle, begins, reached, under⟩ := exists_takes_entryLine fresh within unused holds
  obtain ⟨after, continues, ends⟩ := exists_takes_further fresh unused
    (List.forall_mem_cons.mp holds.isValue.trimmed).2 holds.isValue.further reached under
  exact ⟨after, begins.append continues, ends⟩

/-- The values of a table as lists of lines. -/
def linesOf (entries : Table String) : Table (List (List Char)) :=
  entries.mapValues fun value => splitLines value.toList

/-- The entries of a section are read in their order, by induction on them. -/
theorem exists_takes_entries (fresh : name ∉ outer.sections.names) {entries : Table String}
    (proper : entries.Proper Holds) (unused : ∀ key ∈ entries.names, key ∉ table.names)
    (within : Within outer name table before) :
    ∃ after, Takes (entries.flatMap fun (key, value) => entryLines key (splitLines value.toList))
        before after ∧
      Within outer name (table ++ linesOf entries) after := by
  induction entries generalizing before table with
  | nil =>
      rw [linesOf, Table.mapValues, List.map_nil, List.append_nil]
      exact ⟨before, .nil before, within⟩
  | cons entry rest inductionHypothesis =>
      obtain ⟨key, value⟩ := entry
      obtain ⟨different, nodup⟩ := List.nodup_cons.mp proper.nodup
      obtain ⟨head, tail⟩ := List.forall_mem_cons.mp proper.each
      obtain ⟨headUnused, tailUnused⟩ := List.forall_mem_cons.mp unused
      obtain ⟨middle, first, reached⟩ := exists_takes_entry fresh within headUnused head.lines
      have later := Table.forall_not_mem_concat different tailUnused (splitLines value.toList)
      obtain ⟨after, others, ends⟩ := inductionHypothesis ⟨nodup, tail⟩ later reached
      rw [List.append_assoc] at ends
      exact ⟨after, first.append others, ends⟩

end

/-!
### Files read back

The empty line behind a section adds an empty line to its last value, if there is one.  That
line is lost again when the lines of the value are joined.
-/

theorem mapValues_continueValue_nil (reading : Reading) :
    (reading.continueValue []).contents.mapValues joinValue =
      reading.contents.mapValues joinValue := by
  unfold Reading.continueValue
  split
  · rename_i key _ _
    exact Contents.mapValues_adjust (Table.mapValues_adjust joinValue_concat_nil key) _ _
  · rfl

/-- Values divided into lines are joined to the same values. -/
theorem mapValues_linesOf {entries : Table String} (proper : entries.Proper Holds) :
    (linesOf entries).mapValues joinValue = entries := by
  rw [linesOf, Table.mapValues, Table.mapValues, List.map_map]
  refine (List.map_congr_left fun entry member => ?_).trans (List.map_id entries)
  exact Prod.ext rfl (joinValue_splitLines (proper.each entry member).trimmed)

/-- A section that is new is read as what was written. -/
theorem exists_takes_section {name : String} {entries : Table String} {contents : Contents String}
    {before : Reading} (nonempty : name.toList ≠ []) (fresh : name ∉ contents.sections.names)
    (bare : contents.entries name = []) (proper : entries.Proper Holds)
    (seen : before.contents.mapValues joinValue = contents) (regular : before.malformed = []) :
    ∃ after, Takes (sectionLines name entries) before after ∧
      after.contents.mapValues joinValue = contents.opening name entries ∧
        after.malformed = [] := by
  subst seen
  have freshBefore : name ∉ before.contents.sections.names := by
    rwa [Contents.mapValues, Table.names_mapValues] at fresh
  have bareBefore : before.contents.entries name = [] := by
    rw [Contents.entries_mapValues] at bare
    exact List.map_eq_nil_iff.mp bare
  obtain ⟨opened, header, begun⟩ :=
    exists_takes_header nonempty freshBefore bareBefore regular
  obtain ⟨filled, lines, ended⟩ := exists_takes_entries freshBefore proper
    (fun key _ known => by cases known) begun
  refine ⟨filled.continueValue [], (header.append lines).append (takes_empty filled), ?_, ?_⟩
  · rw [mapValues_continueValue_nil, ended.contents, List.nil_append, Contents.mapValues_opening,
      mapValues_linesOf proper]
  · unfold Reading.continueValue
    split
    · exact ended.regular
    · exact ended.regular

/-- Sections are opened and filled in their order, by induction on them. -/
theorem exists_takes_sections {sections : Table (Table String)} {contents : Contents String}
    {before : Reading}
    (proper : sections.Proper fun name table => IsName name ∧ table.Proper Holds)
    (fresh : ∀ name ∈ sections.names, name ∉ contents.sections.names)
    (seen : before.contents.mapValues joinValue = contents) (regular : before.malformed = []) :
    ∃ after,
      Takes (sections.flatMap fun (name, entries) => sectionLines name entries) before after ∧
      after.contents.mapValues joinValue =
        { contents with sections := contents.sections ++ sections } ∧ after.malformed = [] := by
  induction sections generalizing contents before with
  | nil =>
      rw [List.append_nil]
      exact ⟨before, .nil before, seen, regular⟩
  | cons entry rest inductionHypothesis =>
      obtain ⟨name, entries⟩ := entry
      obtain ⟨different, nodup⟩ := List.nodup_cons.mp proper.nodup
      obtain ⟨⟨isName, head⟩, tail⟩ := List.forall_mem_cons.mp proper.each
      obtain ⟨headFresh, tailFresh⟩ := List.forall_mem_cons.mp fresh
      have bare : contents.entries name = [] := by
        rw [Contents.entries, if_neg isName.ordinary, Table.find?_eq_none_iff.mpr headFresh]
        rfl
      obtain ⟨middle, first, reached, still⟩ :=
        exists_takes_section isName.nonempty headFresh bare head seen regular
      rw [Contents.opening, if_neg isName.ordinary] at reached
      have later := Table.forall_not_mem_concat different tailFresh entries
      obtain ⟨after, others, ends, done⟩ := inductionHypothesis ⟨nodup, tail⟩ later reached still
      rw [List.append_assoc] at ends
      exact ⟨after, first.append others, ends, done⟩

/-- All that a file holds is read from its lines. -/
theorem exists_takes_contents {contents : Contents String} (sound : contents.Sound) :
    ∃ after, Takes (contentLines contents) {} after ∧
      after.contents.mapValues joinValue = contents ∧ after.malformed = [] := by
  have defaults : ∃ after,
      Takes (if contents.defaults = [] then [] else sectionLines defaultsName contents.defaults)
        {} after ∧
      after.contents.mapValues joinValue = { defaults := contents.defaults } ∧
        after.malformed = [] := by
    split
    · rename_i empty
      rw [empty]
      exact ⟨{}, .nil {}, rfl, rfl⟩
    · exact exists_takes_section (by decide) List.not_mem_nil rfl sound.defaults rfl rfl
  obtain ⟨middle, first, reached, still⟩ := defaults
  obtain ⟨after, others, ends, done⟩ :=
    exists_takes_sections sound.sections (fun _ _ known => by cases known) reached still
  exact ⟨after, first.append others, ends, done⟩

/-- What a file can hold is read back from the file that it is written to. -/
theorem read_render {contents : Contents String} (sound : contents.Sound) :
    read (render contents) = .ok contents := by
  have single (line : List Char) (member : line ∈ contentLines contents) : SingleLine line :=
    single_of_mem_contentLines sound member
  have noReturn : '\r' ∉ (contentLines contents).flatMap (· ++ ['\n']) := by
    intro back
    obtain ⟨line, member, inside⟩ := List.mem_flatMap.mp back
    rcases List.mem_append.mp inside with within | feed
    · exact (single line member).2 within
    · exact absurd (List.mem_singleton.mp feed) (by decide)
  obtain ⟨after, takes, seen, regular⟩ := exists_takes_contents sound
  rw [read, render_eq, Text.unifyLineEnds_of_not_mem noReturn,
    Text.keepLines_flatMap fun line member => (single line member).1, takes 1]
  dsimp only
  rw [Reading.finish, if_pos regular, seen]

end MonitorSplit.Settings
