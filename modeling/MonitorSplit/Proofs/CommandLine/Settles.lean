/-
Module: MonitorSplit.Proofs.CommandLine.Settles
Purpose: When splitting a listed monitor comes to arguments or to a failure that is reported.
Main exports:
  argumentsFor, Settles, Settles.isReported, settles_find_iff, settles_findParent_iff,
  settles_iff_not_defies
-/
import MonitorSplit.CommandLine.Desk
import MonitorSplit.Proofs.Display.Split
import MonitorSplit.Proofs.Monitor.Faults
import MonitorSplit.Proofs.Monitor.Listing
import MonitorSplit.Proofs.Ratio.Rendering

namespace MonitorSplit.CommandLine

open Display (Session Reply Action Yields findMonitor findParentMonitor splitArguments listCall)

/-!
### Splits that settle

A command reports a monitor that is not listed and a ratio that does not fit.  Faults of
arithmetic are no such failures: they are passed on as they are.
-/

/-- The arguments that split the monitor which a search finds. -/
def argumentsFor (search : Action Monitor) (ratio : Ratio) : Action (List String) := do
  let monitor ← search
  splitArguments monitor ratio

/-- The outcome of splitting the monitor of a name can be told: arguments, or a failure of the
name or of the ratio. -/
inductive Settles (name : String) : Except Display.Failure (List String) → Prop where
  | arguments (words : List String) : Settles name (.ok words)
  | noSuchMonitor : Settles name (.error (.find (.noSuchMonitor name)))
  | unfit (cause : RatioFailure) : Settles name (.error (.split (.unfit name cause)))

theorem Settles.isReported {name : String} {failure : Display.Failure}
    (settles : Settles name (.error failure)) : (Failure.display failure).isReported = true := by
  cases settles with
  | noSuchMonitor => rfl
  | unfit cause => rfl

section

variable {name : String} {monitor : Monitor} {ratio : Ratio} {session : Session}

/-- What is found is split without a call. -/
theorem argumentsFor_eq {search : Action Monitor} {plan : List (List String)}
    {outcome : Except Display.Failure Monitor} (searched : Yields search session plan outcome) :
    (argumentsFor search ratio session).1 = outcome >>= fun monitor =>
      ((monitor.split ratio).mapError .split).map Split.arguments :=
  (searched.bind fun monitor middle _ _ =>
    Display.yields_splitArguments monitor ratio middle).outcome_eq

theorem settles_split_iff (measurable : monitor.Measurable) (nonneg : ratio.KnownNonneg)
    (plane : ratio.dimensions = 2) (named : monitor.name = name) :
    Settles name (((monitor.split ratio).mapError .split).map Split.arguments) ↔
      ¬ monitor.Defies ratio := by
  rw [← Monitor.exists_fault_iff measurable nonneg plane]
  cases result : monitor.split ratio with
  | ok split =>
      constructor
      · rintro - ⟨_, failed, -⟩
        cases failed
      · exact fun _ => .arguments split.arguments
  | error failure =>
      constructor
      · rintro settles ⟨_, same, other⟩
        cases same
        cases settles
        exact other _ _ rfl
      · intro expected
        cases failure with
        | unfit called cause =>
            rw [← named, ← Monitor.name_of_split_unfit result]
            exact .unfit cause
        | shape cause => exact absurd ⟨_, rfl, by simp⟩ expected
        | zeroScale => exact absurd ⟨_, rfl, by simp⟩ expected
        | millimetres cause => exact absurd ⟨_, rfl, by simp⟩ expected
        | overlong => exact absurd ⟨_, rfl, by simp⟩ expected

/-- A monitor settles just if it is not listed or does not defy the ratio. -/
theorem settles_find_iff {monitors : List Monitor} (listed : session.listing 0 = .ok monitors)
    (measurable : ∀ monitor ∈ monitors, monitor.Measurable) (nonneg : ratio.KnownNonneg)
    (plane : ratio.dimensions = 2) :
    Settles name (argumentsFor (findMonitor name) ratio session).1 ↔
      ∀ monitor, find name monitors = .ok monitor → ¬ monitor.Defies ratio := by
  have searched := Display.yields_findMonitor name session
  rw [listed] at searched
  rw [argumentsFor_eq searched]
  change Settles name (Display.foundIn name monitors >>= _) ↔ _
  unfold Display.foundIn
  cases found : find name monitors with
  | ok monitor =>
      have settles_iff := settles_split_iff (measurable monitor (mem_of_find found)) nonneg plane
        (name_of_find found)
      exact settles_iff.trans (by simp)
  | error cause =>
      cases find_eq_error found
      exact iff_of_true .noSuchMonitor nofun

/-- A parent settles just if it is not listed in parts either or it does not defy the ratio. -/
theorem settles_findParent_iff {monitors : List Monitor} (listed : session.listing 0 = .ok monitors)
    (measurable : ∀ monitor ∈ monitors, monitor.Measurable) (nonneg : ratio.KnownNonneg)
    (plane : ratio.dimensions = 2) :
    Settles name (argumentsFor (findParentMonitor name) ratio session).1 ↔
      ¬ ParentDefies name monitors ratio := by
  have searched := Display.yields_findParentMonitor name session
  rw [listed] at searched
  rw [argumentsFor_eq searched, ← exists_parent_fault_iff measurable]
  change Settles name (Display.parentIn name monitors >>= _) ↔ _
  unfold Display.parentIn
  cases found : findParent name monitors with
  | ok parent =>
      have settles_iff := settles_split_iff (measurable_of_findParent measurable found) nonneg plane
        (name_of_findParent found)
      exact settles_iff.trans (by simp)
  | error cause =>
      cases cause with
      | noSuchMonitor missing =>
          cases findParent_eq_noSuchMonitor found
          exact iff_of_true .noSuchMonitor (by simp)
      | millimetres fault =>
          have unsettled : ¬ Settles name (.error (.find (.millimetres fault))) := by rintro ⟨⟩
          exact iff_of_false unsettled (by simp)

end

/-!
### Splits by a listing

Numbers of so many digits keep the millimetres of a listed monitor below the limit.  They do not keep
its lengths above zero, nor the millimetres of a rebuilt monitor below the limit.
-/

theorem measurable_of_mem_monitors {listing : String} {monitors : List Monitor} {monitor : Monitor}
    (few : Listing.DigitsAtMost 300 listing.toList) (read : Listing.monitors listing = .ok monitors)
    (member : monitor ∈ monitors) : monitor.Measurable := by
  obtain ⟨plane, width, height, widthMm, heightMm, left, top⟩ :=
    Listing.sized_of_mem_monitors read member few
  have far : (10 : Int) * 10 ^ 300 ≤ reach :=
    pow_succ' (10 : Int) 300 ▸ pow_le_pow_right₀ (by norm_num) (by decide)
  have below {millimetres : Int} (small : millimetres < 10 ^ 300) : millimetres < shareLimit :=
    lt_shareLimit_of_lt small
  have near {place length : Int} (within : place.natAbs < 10 ^ 300) (short : length < 10 ^ 300) :
      -reach ≤ place ∧ place + length ≤ reach := by
    zify at within
    generalize (10 : Int) ^ 300 = bound at within short far
    have bounds := abs_lt.mp within
    omega
  exact {
    plane
    width := width.1
    height := height.1
    widthMm := ⟨widthMm.1, below widthMm.2⟩
    heightMm := ⟨heightMm.1, below heightMm.2⟩
    horizontal := near left width.2
    vertical := near top height.2 }

/-- Splitting a listed monitor by a ratio comes to arguments, or to a failure that is reported, just if
the monitor does not defy the ratio.  So does splitting a parent. -/
theorem settles_iff_not_defies {listing name : String} {text : List Char} {ratio : Ratio}
    {session : Session} (few : Listing.DigitsAtMost 300 listing.toList)
    (parsed : Ratio.parse 2 text = .ok ratio) (told : session.answer listCall 0 = .ok listing) :
    ∃ monitors, Listing.monitors listing = .ok monitors ∧
      (Settles name (argumentsFor (findMonitor name) ratio session).1 ↔
        ∀ monitor, find name monitors = .ok monitor → ¬ monitor.Defies ratio) ∧
      (Settles name (argumentsFor (findParentMonitor name) ratio session).1 ↔
        ¬ ParentDefies name monitors ratio) := by
  obtain ⟨monitors, read⟩ := Listing.exists_monitors_of_digitsAtMost (few.mono (by decide))
  have listed : session.listing 0 = .ok monitors :=
    Session.listing_eq_ok_iff.mpr ⟨listing, told, read⟩
  have measurable : ∀ monitor ∈ monitors, monitor.Measurable := fun _ member =>
    measurable_of_mem_monitors few read member
  have nonneg : ratio.KnownNonneg := (Ratio.inRange_of_parse (by norm_num) parsed).knownNonneg
  have plane : ratio.dimensions = 2 := Ratio.dimensions_of_parse (by norm_num) parsed
  exact ⟨monitors, read, settles_find_iff listed measurable nonneg plane,
    settles_findParent_iff listed measurable nonneg plane⟩

/-- A listing of one monitor that has no width, but millimetres on that axis. -/
def lineListing : String := " 0: A 0/5x10/5+0+0  A\n"

/-- That monitor. -/
def line : Monitor where
  name := "A"
  resolution := .plane 0 10
  sizeMm := (5, 5)
  output := some "A"

theorem monitors_lineListing : Listing.monitors lineListing = .ok [line] := by decide +kernel

/-- A session in which that is listed again and again. -/
def lineSession : Session where
  replies := [("--listmonitors", [.ofText lineListing])]

theorem lineSession_answer : lineSession.answer listCall 0 = .ok lineListing :=
  Session.answer_ofText (by decide) rfl

theorem few_lineListing : Listing.DigitsAtMost 300 lineListing.toList :=
  Listing.digitsAtMost_of_length_le (by decide)

/-- The ratio of one cell. -/
def oneCell : Ratio := .ofPlane (.of none []) (.of none [])

theorem parse_oneCell : Ratio.parse 2 [':'] = .ok oneCell := by decide +kernel

/-- The ratio fits, but the cell has no share of the millimetres. -/
theorem line_defies : line.Defies oneCell := by
  have solved : oneCell.solve line.resolution =
      .ok { solved := { sums := [{ addends := [0] }, { addends := [10] }] }, scale := 1 } := by
    decide +kernel
  exact .share solved (.inl ⟨by decide, rfl⟩)

theorem find_line : find "A" [line] = .ok line := rfl

theorem line_not_settled :
    Listing.DigitsAtMost 300 lineListing.toList ∧ Ratio.parse 2 [':'] = .ok oneCell ∧
      lineSession.answer listCall 0 = .ok lineListing ∧
      ¬ Settles "A" (argumentsFor (findMonitor "A") oneCell lineSession).1 ∧
      ¬ Settles "A" (argumentsFor (findParentMonitor "A") oneCell lineSession).1 := by
  have decided : ∃ monitors, Listing.monitors lineListing = .ok monitors ∧
      (Settles "A" (argumentsFor (findMonitor "A") oneCell lineSession).1 ↔
        ∀ monitor, find "A" monitors = .ok monitor → ¬ monitor.Defies oneCell) ∧
      (Settles "A" (argumentsFor (findParentMonitor "A") oneCell lineSession).1 ↔
        ¬ ParentDefies "A" monitors oneCell) :=
    settles_iff_not_defies few_lineListing parse_oneCell lineSession_answer
  obtain ⟨monitors, read, settles_iff, parent_iff⟩ := decided
  obtain rfl := Except.ok.inj (monitors_lineListing.symm.trans read)
  refine ⟨few_lineListing, parse_oneCell, lineSession_answer, fun settles => ?_, fun settles => ?_⟩
  · exact settles_iff.mp settles line find_line line_defies
  · exact parent_iff.mp settles (.whole find_line line_defies)

/-- So not every split of a listed monitor settles. -/
theorem not_all_settle :
    ¬ ∀ (listing name : String) (text : List Char) (ratio : Ratio) (session : Session),
      Listing.DigitsAtMost 300 listing.toList → Ratio.parse 2 text = .ok ratio →
      session.answer listCall 0 = .ok listing →
      Settles name (argumentsFor (findMonitor name) ratio session).1 ∧
        Settles name (argumentsFor (findParentMonitor name) ratio session).1 := by
  intro all_settle
  have settles := (all_settle lineListing "A" [':'] oneCell lineSession few_lineListing parse_oneCell
    lineSession_answer).1
  have listed : lineSession.listing 0 = .ok [line] :=
    Session.listing_eq_ok_iff.mpr ⟨_, lineSession_answer, monitors_lineListing⟩
  have nonneg := (Ratio.inRange_of_parse (by norm_num) parse_oneCell).knownNonneg
  have measurable : ∀ monitor ∈ [line], monitor.Measurable := fun _ member =>
    measurable_of_mem_monitors few_lineListing monitors_lineListing member
  rw [settles_find_iff listed measurable nonneg rfl] at settles
  exact settles line find_line line_defies

end MonitorSplit.CommandLine
