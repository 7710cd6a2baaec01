import BuildFleet.Services.Basic

/-!
# Failures that are planned

The plans decide for each name separately which of the calls to come fail. A call that is
planned to fail does nothing else, and any other call is carried out.
-/

namespace BuildFleet

namespace FailurePlan

variable {name other : String}

/-- What is planned for the calls of a name that are to come, by their positions. -/
def verdict (name : String) : List FailurePlan → Nat → Option Failure
  | plans, 0 => (consult name plans).1
  | plans, position + 1 => verdict name (consult name plans).2 position

/-- Plans for different names are used up independently. -/
theorem consult_consult (different : name ≠ other) (plans : List FailurePlan) :
    consult name (consult other plans).2 =
      ((consult name plans).1, (consult other (consult name plans).2).2) := by
  induction plans with
  | nil => rfl
  | cons plan rest induction =>
      by_cases named : plan.call = name
      · by_cases left : plan.times > 0
        · by_cases skips : plan.skip > 0 <;> simp [consult, named, different, left, skips]
        · simp [consult, named, different, left, induction]
      · by_cases ofOther : plan.call = other ∧ plan.times > 0
        · by_cases skips : plan.skip > 0 <;> simp [consult, different.symm, ofOther, skips]
        · simp [consult, named, ofOther, induction]

theorem verdict_consult (different : name ≠ other) (plans : List FailurePlan) (position : Nat) :
    verdict name (consult other plans).2 position = verdict name plans position := by
  induction position generalizing plans with
  | zero => rw [verdict, consult_consult different, verdict]
  | succ position induction => rw [verdict, consult_consult different, induction, verdict]

end FailurePlan

namespace Services

variable {services : Services} {call : Call} {failure : Failure}

theorem perform_failing
    (fails : (FailurePlan.consult call.name services.plans).1 = some failure) (actor : Actor) :
    ∃ journal, perform call actor services = (.failed failure,
      { services with plans := (FailurePlan.consult call.name services.plans).2, journal }) := by
  unfold perform
  generalize FailurePlan.consult call.name services.plans = consulted at fails ⊢
  rcases consulted with ⟨found, plans⟩
  cases fails
  exact ⟨_, rfl⟩

theorem perform_passing (passes : (FailurePlan.consult call.name services.plans).1 = none)
    (actor : Actor) :
    let passed := { services with plans := (FailurePlan.consult call.name services.plans).2 }
    ∃ journal, perform call actor services =
      ((passed.carryOut call).1, { (passed.carryOut call).2 with journal }) := by
  unfold perform
  generalize FailurePlan.consult call.name services.plans = consulted at passes ⊢
  rcases consulted with ⟨found, plans⟩
  cases passes
  exact ⟨_, rfl⟩

end Services

end BuildFleet
