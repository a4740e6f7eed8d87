import Mathlib.Data.List.Basic

/-! Runs over a state made of independent cells. A label acts on the cell it addresses
and on no other, so what a run does to a cell is what the cell's own labels do to it. -/

namespace NetLatencyMonitor.Machine

universe u v w x

variable {State : Type u} {Label : Type v} {Key : Type w} {Cell : Type x}

section Locality

variable [DecidableEq Key] {view : State → Key → Cell} {address : Label → Key} {act : Label → Cell → Cell}
  {step : State → Label → State}

/-- Every label acts on the cell it addresses and leaves the others as they are. -/
def ActsLocally (view : State → Key → Cell) (address : Label → Key) (act : Label → Cell → Cell)
    (step : State → Label → State) : Prop :=
  ∀ state label key, view (step state label) key =
    if key = address label then act label (view state key) else view state key

theorem view_foldl (cells : ActsLocally view address act step) (state : State) (labels : List Label)
    (key : Key) :
    view (labels.foldl step state) key =
      (labels.filter (fun label => decide (key = address label))).foldl
        (fun cell label => act label cell) (view state key) := by
  induction labels generalizing state with
  | nil => rfl
  | cons label rest ih =>
    rw [List.foldl_cons, ih, cells]
    by_cases own : key = address label
    · rw [if_pos own, List.filter_cons_of_pos (by simpa using own), List.foldl_cons]
    · rw [if_neg own, List.filter_cons_of_neg (by simpa using own)]

end Locality

section Once

variable {act : Label → Cell → Cell} {absorb : Cell → Cell}

/-- Labels that do nothing or what an idempotent action does, and one of them always the
latter: together they do what the action does once. -/
theorem foldl_once (idempotent : ∀ cell, absorb (absorb cell) = absorb cell) {labels : List Label}
    (each : ∀ label ∈ labels, ∀ cell, act label cell = cell ∨ act label cell = absorb cell)
    (effective : ∃ label ∈ labels, ∀ cell, act label cell = absorb cell) (cell : Cell) :
    labels.foldl (fun cell label => act label cell) cell = absorb cell := by
  have absorbed : ∀ labels : List Label,
      (∀ label ∈ labels, ∀ cell, act label cell = cell ∨ act label cell = absorb cell) →
      labels.foldl (fun cell label => act label cell) (absorb cell) = absorb cell := by
    intro labels each
    induction labels with
    | nil => rfl
    | cons label rest ih =>
      have kept : act label (absorb cell) = absorb cell := by
        rcases each label List.mem_cons_self (absorb cell) with same | again
        · exact same
        · exact again.trans (idempotent cell)
      rw [List.foldl_cons, kept]
      exact ih (fun other member => each other (List.mem_cons_of_mem label member))
  induction labels with
  | nil =>
    obtain ⟨label, member, _⟩ := effective
    cases member
  | cons label rest ih =>
    have later := fun other member => each other (List.mem_cons_of_mem label member)
    rw [List.foldl_cons]
    by_cases moved : act label cell = absorb cell
    · rw [moved]
      exact absorbed rest later
    -- the first label did nothing here, so it is not the effective one
    · rw [(each label List.mem_cons_self cell).resolve_right moved]
      refine ih later ?_
      obtain ⟨other, member, acts⟩ := effective
      rcases List.mem_cons.mp member with same | among
      · exact absurd (same ▸ acts cell) moved
      · exact ⟨other, among, acts⟩

end Once

end NetLatencyMonitor.Machine
