/-! Loops that end only by returning, as Go's `for` without a condition. The body sees
the number of its round, so that each round may depend on readings of its own. -/

namespace NetLatencyMonitor.Machine

universe u v

variable {State : Type u} {Result : Type v}

/-- How a round of a loop ends. -/
inductive Round (State : Type u) (Result : Type v) where
  | again (state : State)
  | done (result : Result)

/-- Run a loop from the given round on; `none` is out of fuel. -/
def loop (body : Nat → State → Round State Result) : Nat → Nat → State → Option Result
  | 0, _, _ => none
  | fuel + 1, round, state =>
    match body round state with
    | .done result => some result
    | .again next => loop body fuel (round + 1) next

variable {body : Nat → State → Round State Result}

/-- A loop whose rounds decrease a variant returns. -/
theorem loop_returns (variant : State → Nat)
    (decreases : ∀ round state next, body round state = .again next → variant next < variant state)
    {fuel : Nat} (round : Nat) {state : State} (enough : variant state < fuel) :
    ∃ result, loop body fuel round state = some result := by
  induction fuel generalizing round state with
  | zero => exact absurd enough (Nat.not_lt_zero _)
  | succ fuel ih =>
    cases ended : body round state with
    | done result => exact ⟨result, by simp [loop, ended]⟩
    | again next =>
      have smaller := decreases round state next ended
      obtain ⟨result, returned⟩ := ih (round + 1) (Nat.lt_of_lt_of_le smaller (Nat.le_of_lt_succ enough))
      exact ⟨result, by simpa [loop, ended] using returned⟩

/-- A loop depends only on the rounds it has still to run. -/
theorem loop_congr {other : Nat → State → Round State Result} {round : Nat}
    (same : ∀ later, round ≤ later → body later = other later) (fuel : Nat) (state : State) :
    loop body fuel round state = loop other fuel round state := by
  induction fuel generalizing round state with
  | zero => rfl
  | succ fuel ih =>
    unfold loop
    rw [same round (Nat.le_refl round)]
    cases other round state with
    | done result => rfl
    | again next => exact ih (fun later after => same later (Nat.le_of_succ_le after)) next

/-- The invariant rule: what holds at the start of every round gives the postcondition
of the round that returns. -/
theorem loop_invariant (inv : Nat → State → Prop) (post : Result → Prop)
    (again : ∀ round state next, inv round state → body round state = .again next → inv (round + 1) next)
    (done : ∀ round state result, inv round state → body round state = .done result → post result)
    {fuel round : Nat} {state : State} {result : Result} (initially : inv round state)
    (returned : loop body fuel round state = some result) : post result := by
  induction fuel generalizing round state with
  | zero => cases returned
  | succ fuel ih =>
    unfold loop at returned
    cases ended : body round state with
    | done final =>
      rw [ended] at returned
      cases returned
      exact done round state result initially ended
    | again next =>
      rw [ended] at returned
      exact ih (again round state next initially ended) returned

end NetLatencyMonitor.Machine
