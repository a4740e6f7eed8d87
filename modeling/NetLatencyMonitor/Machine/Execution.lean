import Mathlib.Data.List.Induction

/-! Finite executions of a partial step function. A label names one atomic step
together with whatever the environment chooses for it; a refused label has no
successor. Nothing here mentions a particular program. -/

namespace NetLatencyMonitor.Machine

universe u v

variable {State : Type u} {Label : Type v} {next : State → Label → Option State}

/-- Follow a list of labels, first label first. -/
def exec (next : State → Label → Option State) : State → List Label → Option State
  | state, [] => some state
  | state, label :: rest => (next state label).bind (fun after => exec next after rest)

theorem exec_append (state : State) (first second : List Label) :
    exec next state (first ++ second) =
      (exec next state first).bind (fun middle => exec next middle second) := by
  induction first generalizing state with
  | nil => rfl
  | cons label rest ih =>
    simp only [List.cons_append, exec]
    cases next state label with
    | none => rfl
    | some after => exact ih after

/-- The last step of a run, seen from the state before it. -/
theorem exec_concat_iff {state final : State} {labels : List Label} {label : Label} :
    exec next state (labels ++ [label]) = some final ↔
      ∃ before, exec next state labels = some before ∧ next before label = some final := by
  rw [exec_append, Option.bind_eq_some_iff]
  simp [exec]

/-- Relate the state reached to the whole history that led there: the relation
holds of the empty history and every step extends it. -/
theorem exec_history {start final : State} {labels : List Label}
    (rel : List Label → State → Prop) (initially : rel [] start)
    (extend : ∀ past before label after, exec next start past = some before →
      rel past before → next before label = some after → rel (past ++ [label]) after)
    (run : exec next start labels = some final) : rel labels final := by
  induction labels using List.reverseRecOn generalizing final with
  | nil =>
    cases run
    exact initially
  | append_singleton past label ih =>
    obtain ⟨before, earlier, last⟩ := exec_concat_iff.mp run
    exact extend past before label final earlier (ih earlier) last

/-- The invariant rule: what every step keeps holds after every run. -/
theorem exec_invariant {start final : State} {labels : List Label} (inv : State → Prop)
    (initially : inv start)
    (keep : ∀ before label after, inv before → next before label = some after → inv after)
    (run : exec next start labels = some final) : inv final :=
  exec_history (fun _ state => inv state) initially
    (fun _ before label after _ held step => keep before label after held step) run

/-- Every step of the run is taken from a state that meets a condition on the
state and the label. -/
def Along (next : State → Label → Option State) (allowed : State → Label → Prop) :
    State → List Label → Prop
  | _, [] => True
  | state, label :: rest =>
    allowed state label ∧ ∀ after, next state label = some after → Along next allowed after rest

instance Along.decidable {allowed : State → Label → Prop} [∀ state label, Decidable (allowed state label)]
    (state : State) (labels : List Label) : Decidable (Along next allowed state labels) :=
  match labels with
  | [] => isTrue trivial
  | label :: rest =>
    match step : next state label with
    | none => decidable_of_iff (allowed state label) (by simp [Along, step])
    | some after =>
      have : Decidable (Along next allowed after rest) := Along.decidable after rest
      decidable_of_iff (allowed state label ∧ Along next allowed after rest) (by simp [Along, step])

theorem along_concat_iff {allowed : State → Label → Prop} {state before : State}
    {labels : List Label} {label : Label} (run : exec next state labels = some before) :
    Along next allowed state (labels ++ [label]) ↔
      Along next allowed state labels ∧ allowed before label := by
  induction labels generalizing state with
  | nil =>
    cases run
    exact ⟨fun all => ⟨trivial, all.1⟩, fun met => ⟨met.2, fun _ _ => trivial⟩⟩
  | cons first rest ih =>
    obtain ⟨after, step, run⟩ := Option.bind_eq_some_iff.mp run
    have only : ∀ other, next state first = some other → after = other :=
      fun other same => Option.some.inj (step.symm.trans same)
    constructor
    · intro all
      have tail := (ih run).mp (all.2 after step)
      refine ⟨⟨all.1, fun other same => ?_⟩, tail.2⟩
      exact only other same ▸ tail.1
    · intro ⟨all, met⟩
      refine ⟨all.1, fun other same => ?_⟩
      exact only other same ▸ (ih run).mpr ⟨all.2 after step, met⟩

/-- The invariant rule for runs whose steps all meet a condition. -/
theorem exec_invariant_along {start final : State} {labels : List Label}
    {allowed : State → Label → Prop} (inv : State → Prop) (initially : inv start)
    (keep : ∀ before label after, inv before → allowed before label →
      next before label = some after → inv after)
    (all : Along next allowed start labels)
    (run : exec next start labels = some final) : inv final := by
  have held : Along next allowed start labels → inv final := by
    refine exec_history (fun past state => Along next allowed start past → inv state)
      (fun _ => initially) ?_ run
    intro past before label after earlier rel step guarded
    obtain ⟨rest, met⟩ := (along_concat_iff earlier).mp guarded
    exact keep before label after (rel rest) met step
  exact held all

/-- Some run of allowed steps leads from one state to the other. -/
def Leads (next : State → Label → Option State) (allowed : State → Label → Prop) (start final : State) : Prop :=
  ∃ labels, exec next start labels = some final ∧ Along next allowed start labels

theorem Leads.refl {allowed : State → Label → Prop} (state : State) : Leads next allowed state state :=
  ⟨[], rfl, trivial⟩

theorem Leads.step {allowed : State → Label → Prop} {start before after : State} {label : Label}
    (leads : Leads next allowed start before) (met : allowed before label) (taken : next before label = some after) :
    Leads next allowed start after := by
  obtain ⟨labels, run, along⟩ := leads
  exact ⟨labels ++ [label], exec_concat_iff.mpr ⟨before, run, taken⟩, (along_concat_iff run).mpr ⟨along, met⟩⟩

end NetLatencyMonitor.Machine
