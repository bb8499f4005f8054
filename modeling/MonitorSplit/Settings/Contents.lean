/-
Module: MonitorSplit.Settings.Contents
Purpose: What a settings file holds.
Main exports:
  Contents, Contents.lookup, Contents.set, Contents.remove?, Contents.keys
-/
import MonitorSplit.Settings.Table
import MonitorSplit.Text.Lowercase

namespace MonitorSplit.Settings

/-!
A settings file holds sections, each with keys and their values.  One section of a
reserved name gives defaults: a key that another section lacks has its value from
there.  Keys are written in lower case, however they are asked for.
-/

/-- The defaults and the sections of a settings file, with values of some type. -/
structure Contents (β : Type) where
  defaults : Table β := []
  sections : Table (Table β) := []
deriving DecidableEq, Repr, Inhabited

/-- The name of the section that gives defaults. -/
def defaultsName : String := "DEFAULT"

namespace Contents

variable {β γ : Type}

/-- Change the keys of a section, or the defaults if that is its name. -/
def adjust (name : String) (change : Table β → Table β) (contents : Contents β) : Contents β :=
  if name = defaultsName then { contents with defaults := change contents.defaults }
  else { contents with sections := contents.sections.adjust name change }

/-- The keys and values of a section, or the defaults if that is its name. -/
def entries (name : String) (contents : Contents β) : Table β :=
  if name = defaultsName then contents.defaults
  else (contents.sections.find? name).getD []

/-- The section with this name, with no keys if it is new. -/
def withSection (name : String) (contents : Contents β) : Contents β :=
  match contents.sections.find? name with
  | some _ => contents
  | none => { contents with sections := contents.sections.put name [] }

/-- Every value changed by a function. -/
def mapValues (change : β → γ) (contents : Contents β) : Contents γ where
  defaults := contents.defaults.mapValues change
  sections := contents.sections.mapValues (Table.mapValues change)

/-- The value of a key of a section, or its default.  A section that does not exist has
no defaults. -/
def lookup (name key : String) (contents : Contents β) : Option β :=
  match contents.sections.find? name with
  | none => none
  | some entries =>
      let key := Text.lowercase key
      (entries.find? key).or (contents.defaults.find? key)

/-- Give a key of a section a value.  A new section comes last, as does a new key. -/
def set (name key : String) (value : β) (contents : Contents β) : Contents β :=
  (contents.withSection name).adjust name (Table.put (Text.lowercase key) value)

/-- The contents without a key of a section, if it is there.  Defaults stay. -/
def remove? (name key : String) (contents : Contents β) : Option (Contents β) :=
  let key := Text.lowercase key
  match (contents.sections.find? name).bind (Table.find? key) with
  | none => none
  | some _ => some (contents.adjust name (Table.remove key))

/-- The keys that a section or the defaults give a value, in ascending order.  A section
that does not exist has none. -/
def keys (name : String) (contents : Contents β) : List String :=
  match contents.sections.find? name with
  | none => []
  | some entries =>
      let own := entries.names
      (own ++ contents.defaults.names.filter (!own.contains ·)).mergeSort (· ≤ ·)

end Contents

end MonitorSplit.Settings
