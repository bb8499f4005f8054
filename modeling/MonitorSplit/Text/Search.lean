/-
Module: MonitorSplit.Text.Search
Purpose: Texts within texts.
Main exports:
  holdsText
-/

namespace MonitorSplit.Text

/-- Some place of a text begins with a part. -/
def holdsText (part : List Char) : List Char → Bool
  | [] => part.isEmpty
  | c :: rest => part.isPrefixOf (c :: rest) || holdsText part rest

/-- A text holds a part exactly when it is something, the part, and something. -/
theorem holdsText_iff {part text : List Char} :
    holdsText part text = true ↔ ∃ before after, text = before ++ part ++ after := by
  induction text with
  | nil =>
      simp only [holdsText, List.isEmpty_iff]
      constructor
      · rintro rfl
        exact ⟨[], [], rfl⟩
      · rintro ⟨before, after, same⟩
        simp at same
        exact same.2.1
  | cons c rest inductionHypothesis =>
      rw [holdsText, Bool.or_eq_true, List.isPrefixOf_iff_prefix, inductionHypothesis]
      constructor
      · rintro (⟨after, same⟩ | ⟨before, after, rfl⟩)
        · exact ⟨[], after, by simpa using same.symm⟩
        · exact ⟨c :: before, after, by simp⟩
      · rintro ⟨before, after, same⟩
        cases before with
        | nil => exact Or.inl ⟨after, by simpa using same.symm⟩
        | cons first before =>
            simp only [List.cons_append, List.cons.injEq] at same
            exact Or.inr ⟨before, after, same.2⟩

end MonitorSplit.Text
