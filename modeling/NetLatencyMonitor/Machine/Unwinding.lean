import Mathlib.Order.Basic

/-! Runs in which every step answers. An observer of some of the labels gets the same
answers when the others are left out, if the states with and without them can be kept
alike. Labels carry the instant they are handled at, and alike states stay alike as time
passes. -/

namespace NetLatencyMonitor.Machine

universe u v w x

variable {State : Type u} {Label : Type v} {Answer : Type w}

section Answers

variable (step : State → Label → State × Answer)

/-- The state after a run. -/
def reached (state : State) (labels : List Label) : State :=
  labels.foldl (fun state label => (step state label).1) state

/-- Every label of a run with its answer. -/
def answers : State → List Label → List (Label × Answer)
  | _, [] => []
  | state, label :: rest => (label, (step state label).2) :: answers (step state label).1 rest

variable {step}

theorem reached_append (state : State) (first second : List Label) :
    reached step state (first ++ second) = reached step (reached step state first) second :=
  List.foldl_append

theorem answers_concat (state : State) (past : List Label) (label : Label) :
    answers step state (past ++ [label]) =
      answers step state past ++ [(label, (step (reached step state past) label).2)] := by
  induction past generalizing state with
  | nil => rfl
  | cons first rest ih => exact congrArg _ (ih (step state first).1)

end Answers

section Unwinding

variable {Instant : Type x} [Preorder Instant]

/-- `alike now` relates states that answer the seen labels alike from `now` on. -/
structure Unwinds (step : State → Label → State × Answer) (stamp : Label → Instant) (seen : Label → Bool)
    (alike : Instant → State → State → Prop) : Prop where
  later : ∀ {now laterTime : Instant} {left right : State}, now ≤ laterTime → alike now left right →
    alike laterTime left right
  unseen : ∀ {label : Label} {left right : State}, seen label = false → alike (stamp label) left right →
    alike (stamp label) (step left label).1 right
  visible : ∀ {label : Label} {left right : State}, seen label = true → alike (stamp label) left right →
    (step left label).2 = (step right label).2 ∧ alike (stamp label) (step left label).1 (step right label).1

variable {step : State → Label → State × Answer} {stamp : Label → Instant} {seen : Label → Bool}
  {alike : Instant → State → State → Prop}

/-- Leaving out the unseen labels changes no answer to a seen one. -/
theorem Unwinds.answers_filter (unwinds : Unwinds step stamp seen alike) {labels : List Label}
    (ordered : labels.Pairwise (fun first second => stamp first ≤ stamp second)) {left right : State}
    (initially : ∀ label ∈ labels, alike (stamp label) left right) :
    (answers step left labels).filter (fun answered => seen answered.1) =
      answers step right (labels.filter seen) := by
  induction labels generalizing left right with
  | nil => rfl
  | cons label rest ih =>
    obtain ⟨first, ordered⟩ := List.pairwise_cons.mp ordered
    have now := initially label List.mem_cons_self
    cases shown : seen label with
    | false =>
      have after := unwinds.unseen shown now
      rw [List.filter_cons_of_neg (by simp [shown]), answers, List.filter_cons_of_neg (by simp [shown])]
      exact ih ordered (fun other member => unwinds.later (first other member) after)
    | true =>
      obtain ⟨same, after⟩ := unwinds.visible shown now
      rw [List.filter_cons_of_pos shown, answers, List.filter_cons_of_pos (by simpa using shown), answers, same]
      exact congrArg _ (ih ordered (fun other member => unwinds.later (first other member) after))

end Unwinding

end NetLatencyMonitor.Machine
