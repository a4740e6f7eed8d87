import Mathlib.Data.List.Induction

/-! Logs of events, newest last: what happened since a mark, and what held of every
event at its moment. -/

namespace NetLatencyMonitor.Machine

universe u

variable {Event : Type u}

/-- The mark happened, and nothing that undoes it has happened since. -/
def Since (mark : Event) (undone : Event → Prop) (log : List Event) : Prop :=
  ∃ earlier later, log = earlier ++ mark :: later ∧ ∀ event ∈ later, ¬ undone event

/-- Every event satisfied the property at the moment it was logged. -/
def Throughout (holds : List Event → Event → Prop) (log : List Event) : Prop :=
  ∀ past event future, log = past ++ event :: future → holds past event

/-- Where an event of an extended log stands: it is the last, or it was there before. -/
theorem concat_eq_split_iff {log past future : List Event} {last event : Event} :
    log ++ [last] = past ++ event :: future ↔
      (future = [] ∧ past = log ∧ event = last) ∨
        ∃ rest, future = rest ++ [last] ∧ log = past ++ event :: rest := by
  constructor
  · intro split
    rcases List.eq_nil_or_concat future with rfl | ⟨rest, final, rfl⟩
    · obtain ⟨before, tail⟩ := List.append_inj' split rfl
      cases tail
      exact Or.inl ⟨rfl, before.symm, rfl⟩
    · have regrouped : log ++ [last] = (past ++ event :: rest) ++ [final] := by simpa using split
      obtain ⟨before, tail⟩ := List.append_inj' regrouped rfl
      cases tail
      exact Or.inr ⟨rest, List.concat_eq_append, before⟩
  · intro place
    rcases place with ⟨rfl, rfl, rfl⟩ | ⟨rest, rfl, rfl⟩
    · rfl
    · simp

theorem since_concat_iff {mark last : Event} {undone : Event → Prop} {log : List Event} :
    Since mark undone (log ++ [last]) ↔ last = mark ∨ (Since mark undone log ∧ ¬ undone last) := by
  constructor
  · intro ⟨earlier, later, split, kept⟩
    rcases concat_eq_split_iff.mp split with ⟨_, _, same⟩ | ⟨rest, rfl, before⟩
    · exact Or.inl same.symm
    · refine Or.inr ⟨⟨earlier, rest, before, fun event member => ?_⟩, ?_⟩
      · exact kept event (List.mem_append_left _ member)
      · exact kept last (by simp)
  · intro cases
    rcases cases with rfl | ⟨⟨earlier, later, split, kept⟩, calm⟩
    · exact ⟨log, [], rfl, by simp⟩
    · refine ⟨earlier, later ++ [last], by simp [split], fun event member => ?_⟩
      rcases List.mem_append.mp member with old | new
      · exact kept event old
      · exact List.mem_singleton.mp new ▸ calm

theorem since_mem {mark : Event} {undone : Event → Prop} {log : List Event}
    (since : Since mark undone log) : mark ∈ log := by
  obtain ⟨earlier, later, rfl, _⟩ := since
  simp

theorem throughout_nil (holds : List Event → Event → Prop) : Throughout holds [] := by
  intro past event future split
  cases past with
  | nil => cases split
  | cons first rest => cases split

/-- What held throughout a log held throughout every beginning of it, and of the next event. -/
theorem Throughout.split {holds : List Event → Event → Prop} {past future : List Event} {event : Event}
    (all : Throughout holds (past ++ event :: future)) : Throughout holds past ∧ holds past event := by
  refine ⟨fun earlier other rest same => ?_, all past event future rfl⟩
  refine all earlier other (rest ++ event :: future) ?_
  rw [same, List.append_assoc, List.cons_append]

theorem throughout_concat {holds : List Event → Event → Prop} {log : List Event} {last : Event}
    (before : Throughout holds log) (now : holds log last) : Throughout holds (log ++ [last]) := by
  intro past event future split
  rcases concat_eq_split_iff.mp split with ⟨_, rfl, rfl⟩ | ⟨rest, _, earlier⟩
  · exact now
  · exact before past event rest earlier

end NetLatencyMonitor.Machine
