/-
Module: MonitorSplit.Proofs.Ratio.Pairing
Purpose: Lists that are related member by member, as axes are to their solutions.
Main exports:
  exists_of_mem_left, exists_of_mem_right, forall₂_imp_of_mem, forall₂_comp, forall₂_zip_left,
  exists_error_iff, bind_eq_ok_iff, mapError_eq_ok_iff, forall₂_of_mapM, exists_mapM_error_iff
-/
import Mathlib

namespace MonitorSplit

section

variable {α β γ : Type} {relation : α → β → Prop} {other : β → γ → Prop}
  {members : List α} {results : List β} {others : List γ}

theorem exists_of_mem_left (related : List.Forall₂ relation members results) {member : α}
    (listed : member ∈ members) : ∃ result ∈ results, relation member result := by
  induction related with
  | nil => cases listed
  | cons head _ inductionHypothesis =>
      rcases List.mem_cons.mp listed with rfl | later
      · exact ⟨_, List.mem_cons_self, head⟩
      · rcases inductionHypothesis later with ⟨result, present, holds⟩
        exact ⟨result, List.mem_cons_of_mem _ present, holds⟩

theorem exists_of_mem_right (related : List.Forall₂ relation members results) {result : β}
    (listed : result ∈ results) : ∃ member ∈ members, relation member result :=
  exists_of_mem_left (List.Forall₂.flip (R := flip relation) related) listed

/-- What follows for the members of both lists follows for the lists. -/
theorem forall₂_imp_of_mem {weaker : α → β → Prop}
    (related : List.Forall₂ relation members results)
    (follows : ∀ member ∈ members, ∀ result ∈ results, relation member result →
      weaker member result) : List.Forall₂ weaker members results := by
  refine List.forall₂_iff_zip.mpr ⟨related.length_eq, fun {member result} pair => ?_⟩
  obtain ⟨listed, found⟩ := List.of_mem_zip pair
  exact follows member listed result found (List.forall₂_zip related pair)

/-- Results that each go with something go with a list. -/
theorem exists_forall₂_left (each : ∀ result ∈ results, ∃ member, relation member result) :
    ∃ members, List.Forall₂ relation members results := by
  induction results with
  | nil => exact ⟨[], .nil⟩
  | cons result rest inductionHypothesis =>
      obtain ⟨head, tail⟩ := List.forall_mem_cons.mp each
      obtain ⟨member, related⟩ := head
      obtain ⟨members, others⟩ := inductionHypothesis tail
      exact ⟨member :: members, .cons related others⟩

/-- Members that go with the same results go with each other. -/
theorem forall₂_comp (related : List.Forall₂ relation members results)
    (goes_on : List.Forall₂ other results others) :
    List.Forall₂ (fun member last => ∃ result ∈ results, relation member result ∧ other result last)
      members others := by
  induction related generalizing others with
  | nil =>
      cases goes_on
      exact .nil
  | cons head _ inductionHypothesis =>
      cases goes_on with
      | cons next rest =>
          apply List.Forall₂.cons
          · exact ⟨_, List.mem_cons_self, head, next⟩
          · apply (inductionHypothesis rest).imp
            rintro member last ⟨result, listed, both⟩
            exact ⟨result, List.mem_cons_of_mem _ listed, both⟩

/-- Taken together, they go with those results. -/
theorem forall₂_zip_left (related : List.Forall₂ relation members results)
    (goes_on : List.Forall₂ other results others) :
    List.Forall₂ (fun pair result => relation pair.1 result ∧ other result pair.2)
      (members.zip others) results := by
  induction related generalizing others with
  | nil => exact .nil
  | cons head _ inductionHypothesis =>
      cases goes_on with
      | cons next rest => exact .cons ⟨head, next⟩ (inductionHypothesis rest)

end

section

variable {ε α β : Type} {step : α → Except ε β} {members : List α} {results : List β}

/-- There is a failure just if there is no result. -/
theorem exists_error_iff {first : Except ε α} :
    (∃ cause, first = .error cause) ↔ ∀ value, first ≠ .ok value := by
  cases first <;> simp

/-- What is done with a result comes to something just if there is a result. -/
theorem bind_eq_ok_iff {first : Except ε α} {next : α → Except ε β} {result : β} :
    first >>= next = .ok result ↔ ∃ value, first = .ok value ∧ next value = .ok result := by
  cases first <;> simp [bind, Except.bind]

/-- Another name for a failure makes no difference to a result. -/
theorem mapError_eq_ok_iff {δ : Type} {first : Except ε α} {wrap : ε → δ} {value : α} :
    first.mapError wrap = .ok value ↔ first = .ok value := by
  cases first <;> simp [Except.mapError]

/-- Results gathered one by one are those of the members. -/
theorem forall₂_of_mapM (gathered : members.mapM step = .ok results) :
    List.Forall₂ (fun member result => step member = .ok result) members results := by
  induction members generalizing results with
  | nil =>
      cases gathered
      exact .nil
  | cons member rest inductionHypothesis =>
      rw [List.mapM_cons] at gathered
      cases first : step member with
      | error cause =>
          rw [first] at gathered
          cases gathered
      | ok result =>
          cases others : rest.mapM step with
          | error cause =>
              rw [first, others] at gathered
              cases gathered
          | ok later =>
              rw [first, others] at gathered
              cases gathered
              exact .cons first (inductionHypothesis others)

/-- They cannot be gathered just if one of them is missing. -/
theorem exists_mapM_error_iff :
    (∃ cause, members.mapM step = .error cause) ↔
      ∃ member ∈ members, ∃ cause, step member = .error cause := by
  induction members with
  | nil => simp [pure, Except.pure]
  | cons head tail inductionHypothesis =>
      rw [List.mapM_cons, List.exists_mem_cons_iff, ← inductionHypothesis]
      cases step head <;> cases tail.mapM step <;> simp [bind, Except.bind, pure, Except.pure]

end

end MonitorSplit
