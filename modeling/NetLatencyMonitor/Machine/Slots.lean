import Mathlib.Data.List.Basic

/-! Parties kept in a list and replaced one at a time: what a replacement does to
quantities that are added up over all of them. -/

namespace NetLatencyMonitor.Machine

universe u v

variable {Party : Type u} {Item : Type v} {parties : List Party} {number : Nat} {old : Party}

private theorem slot_split (found : parties[number]? = some old) :
    ∃ before after, parties = before ++ old :: after ∧
      ∀ new, parties.set number new = before ++ new :: after := by
  obtain ⟨bound, here⟩ := List.getElem?_eq_some_iff.mp found
  refine ⟨parties.take number, parties.drop (number + 1), ?_, fun new => ?_⟩
  · rw [← here, List.getElem_cons_drop, List.take_append_drop]
  · rw [List.set_eq_take_append_cons_drop, if_pos bound]

theorem countP_set (found : parties[number]? = some old) (new : Party) (counted : Party → Bool) :
    (parties.set number new).countP counted + (if counted old then 1 else 0) =
      parties.countP counted + (if counted new then 1 else 0) := by
  obtain ⟨before, after, whole, replaced⟩ := slot_split found
  rw [replaced, whole]
  simp only [List.countP_append, List.countP_cons]
  omega

section Items

variable (items : Party → List Item)

theorem length_flatMap_set (found : parties[number]? = some old) (new : Party) :
    ((parties.set number new).flatMap items).length + (items old).length =
      (parties.flatMap items).length + (items new).length := by
  obtain ⟨before, after, whole, replaced⟩ := slot_split found
  rw [replaced, whole]
  simp only [List.flatMap_append, List.flatMap_cons, List.length_append]
  omega

theorem count_flatMap_set [DecidableEq Item] (found : parties[number]? = some old) (new : Party) (item : Item) :
    ((parties.set number new).flatMap items).count item + (items old).count item =
      (parties.flatMap items).count item + (items new).count item := by
  obtain ⟨before, after, whole, replaced⟩ := slot_split found
  rw [replaced, whole]
  simp only [List.flatMap_append, List.flatMap_cons, List.count_append]
  omega

end Items

end NetLatencyMonitor.Machine
