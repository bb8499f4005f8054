/-
Module: MonitorSplit.Settings.Table
Purpose: Named values in the order in which the names first came.
Main exports:
  Table, Table.find?, Table.put, Table.adjust, Table.remove, Table.names
-/

namespace MonitorSplit.Settings

/-- Named values, in the order in which the names first came. -/
abbrev Table (β : Type) := List (String × β)

namespace Table

variable {β γ : Type}

/-- The value of a name. -/
def find? (name : String) : Table β → Option β
  | [] => none
  | (known, value) :: rest => if known = name then some value else find? name rest

/-- Give a name a value: in its place if it is known, otherwise at the end. -/
def put (name : String) (value : β) : Table β → Table β
  | [] => [(name, value)]
  | (known, old) :: rest =>
      if known = name then (known, value) :: rest else (known, old) :: put name value rest

/-- Change the value of a name, if it is known. -/
def adjust (name : String) (change : β → β) : Table β → Table β
  | [] => []
  | (known, value) :: rest =>
      if known = name then (known, change value) :: rest
      else (known, value) :: adjust name change rest

/-- Forget a name. -/
def remove (name : String) : Table β → Table β
  | [] => []
  | (known, value) :: rest => if known = name then rest else (known, value) :: remove name rest

/-- The names, in order. -/
def names (table : Table β) : List String := table.map Prod.fst

/-- Every value changed by a function. -/
def mapValues (change : β → γ) (table : Table β) : Table γ :=
  table.map fun (name, value) => (name, change value)

/-- A name that was given a value has it. -/
@[simp] theorem find?_put_self (name : String) (value : β) (table : Table β) :
    find? name (put name value table) = some value := by
  induction table with
  | nil => simp [put, find?]
  | cons entry rest inductionHypothesis =>
      rcases entry with ⟨known, old⟩
      by_cases same : known = name <;> simp [put, find?, same, inductionHypothesis]

/-- Giving a name a value leaves all others as they were. -/
theorem find?_put_of_ne {name other : String} (different : other ≠ name) (value : β)
    (table : Table β) : find? other (put name value table) = find? other table := by
  induction table with
  | nil => simp [put, find?, different.symm]
  | cons entry rest inductionHypothesis =>
      rcases entry with ⟨known, old⟩
      by_cases same : known = name
      · subst same
        simp [put, find?, different.symm]
      · simp [put, find?, same, inductionHypothesis]

/-- A name is known exactly when it has a value. -/
theorem find?_isSome_iff {name : String} {table : Table β} :
    (find? name table).isSome = true ↔ name ∈ names table := by
  induction table with
  | nil => simp [find?, names]
  | cons entry rest inductionHypothesis =>
      rcases entry with ⟨known, old⟩
      by_cases same : known = name
      · simp [find?, names, same]
      · rw [find?, if_neg same, inductionHypothesis]
        simp [names, Ne.symm same]

end Table

end MonitorSplit.Settings
