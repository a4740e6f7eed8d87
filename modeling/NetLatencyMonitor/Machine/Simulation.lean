import NetLatencyMonitor.Machine.Execution

/-! What a run shows to an observer. Every step emits a list of abstract actions, and
an abstract trace follows the run when it follows each step. -/

namespace NetLatencyMonitor.Machine

universe u v w x

variable {State : Type u} {Label : Type v} {Action : Type w} {Abstract : Type x}
  {next : State → Label → Option State} {emit : State → Label → List Action}

/-- The actions a run emits, in order. -/
def emitted (next : State → Label → Option State) (emit : State → Label → List Action) :
    State → List Label → List Action
  | _, [] => []
  | state, label :: rest =>
    emit state label ++ ((next state label).map (fun after => emitted next emit after rest)).getD []

theorem emitted_concat {state before : State} {labels : List Label} {label : Label}
    (run : exec next state labels = some before) :
    emitted next emit state (labels ++ [label]) = emitted next emit state labels ++ emit before label := by
  induction labels generalizing state with
  | nil =>
    cases run
    simp only [List.nil_append, emitted]
    cases next before label with
    | none => simp
    | some after => simp
  | cons first rest ih =>
    obtain ⟨after, step, run⟩ := Option.bind_eq_some_iff.mp run
    simp only [List.cons_append, emitted, step, Option.map_some, Option.getD_some, ih run, List.append_assoc]

/-- The simulation rule: a trace of the abstract system that every step extends by
what it emits follows the whole run. -/
theorem exec_simulates {start final : State} {labels : List Label} (inv : State → Prop)
    (trace : List Action → Abstract → Prop) (abstraction : State → Abstract)
    (holds : inv start) (initially : trace [] (abstraction start))
    (keep : ∀ before label after, inv before → next before label = some after → inv after)
    (extend : ∀ actions before label after, inv before → next before label = some after →
      trace actions (abstraction before) → trace (actions ++ emit before label) (abstraction after))
    (run : exec next start labels = some final) :
    trace (emitted next emit start labels) (abstraction final) := by
  have both : inv final ∧ trace (emitted next emit start labels) (abstraction final) := by
    refine exec_history
      (fun past state => inv state ∧ trace (emitted next emit start past) (abstraction state))
      ⟨holds, initially⟩ ?_ run
    intro past before label after earlier ⟨held, followed⟩ step
    rw [emitted_concat earlier]
    exact ⟨keep before label after held step, extend _ before label after held step followed⟩
  exact both.2

/-- A change of representation that every step commutes with, from states that meet an
invariant, commutes with whole runs. -/
theorem exec_map {Concrete : Type x} {concrete : Concrete → Label → Option Concrete} (view : State → Concrete)
    (inv : State → Prop) (allowed : Label → Prop)
    (commutes : ∀ state label, inv state → allowed label → concrete (view state) label = (next state label).map view)
    (keep : ∀ before label after, inv before → allowed label → next before label = some after → inv after)
    {state : State} {labels : List Label} (holds : inv state) (all : ∀ label ∈ labels, allowed label) :
    exec concrete (view state) labels = (exec next state labels).map view := by
  induction labels generalizing state with
  | nil => rfl
  | cons label rest ih =>
    have first := all label List.mem_cons_self
    rw [exec, exec, commutes state label holds first]
    cases step : next state label with
    | none => rfl
    | some after =>
      exact ih (keep state label after holds first step)
        (fun other member => all other (List.mem_cons_of_mem label member))

end NetLatencyMonitor.Machine
