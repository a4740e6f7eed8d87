import NetLatencyMonitor.Controller.Nodes

/-! `NodeStore.Upsert` and `NodeStore.Delete` one SQL statement at a time: other
requests may run statements between any two of theirs. -/

namespace NetLatencyMonitor.Controller

open Text

/-- The statement a call runs next, with the locals it needs from there on. -/
inductive StoreCall where
  | upsertGet (n : Node)
  | upsertWrite (n : Node) (prior : Option Node)
  | deleteGet (id : GoString)
  | deleteWrite (id : GoString) (prior : Node)
  | bump
  | returned (result : Except StoreError Unit)

namespace StoreCall

/-- Go on to the bump, or return. -/
def bumpIf (changed : Bool) : StoreCall := if changed then .bump else .returned (.ok ())

/-- Run one statement; a call that has returned has none left. -/
def step (call : StoreCall) (db : DB) : Option (DB × StoreCall) :=
  match call with
  | .upsertGet n =>
    match NodeStore.get db n.id with
    | .ok prior => some (db, .upsertWrite n (some prior))
    | .error .unknownNode => some (db, .upsertWrite n none)
    | .error error => some (db, .returned (.error error))
  | .upsertWrite n prior =>
    match NodeStore.writeNode db n with
    | .error error => some (db, .returned (.error (.sql error)))
    | .ok written => some (written, bumpIf (NodeStore.hubSetChanged prior n))
  | .deleteGet id =>
    match NodeStore.get db id with
    | .ok prior => some (db, .deleteWrite id prior)
    | .error error => some (db, .returned (.error error))
  | .deleteWrite id prior =>
    match db.deleteNode id with
    | .error error => some (db, .returned (.error (.sql error)))
    | .ok (deleted, removed) =>
      if removed = 0 then some (deleted, .returned (.error .noRows))
      else some (deleted, bumpIf (NodeStore.deleteBumps prior))
  | .bump => some (db.bumpTargetsVersion, .returned (.ok ()))
  | .returned _ => none

theorem step_upsertGet (n : Node) (db : DB) :
    (StoreCall.upsertGet n).step db = some (db, .upsertWrite n (NodeStore.get db n.id).toOption) := by
  cases found : db.nodes.find? n.id with
  | none => simp [step, NodeStore.get, found, Except.toOption]
  | some row => simp [step, NodeStore.get, found, Except.toOption]

theorem step_upsertWrite {n : Node} {prior : Option Node} {db after : DB} {next : StoreCall}
    (taken : (StoreCall.upsertWrite n prior).step db = some (after, next)) :
    (∃ error, NodeStore.writeNode db n = .error error ∧ after = db ∧
      next = .returned (.error (.sql error))) ∨
    (NodeStore.writeNode db n = .ok after ∧ next = bumpIf (NodeStore.hubSetChanged prior n)) := by
  unfold step at taken
  cases write : NodeStore.writeNode db n with
  | error error =>
    simp only [write, Option.some.injEq, Prod.mk.injEq] at taken
    exact Or.inl ⟨error, rfl, taken.1.symm, taken.2.symm⟩
  | ok written =>
    simp only [write, Option.some.injEq, Prod.mk.injEq] at taken
    obtain ⟨same, follows⟩ := taken
    exact Or.inr ⟨by rw [same], follows.symm⟩

theorem step_deleteGet {id : GoString} {db after : DB} {next : StoreCall}
    (taken : (StoreCall.deleteGet id).step db = some (after, next)) :
    after = db ∧ ((∃ prior, NodeStore.get db id = .ok prior ∧ next = .deleteWrite id prior) ∨
      ∃ error, NodeStore.get db id = .error error ∧ next = .returned (.error error)) := by
  unfold step at taken
  cases found : NodeStore.get db id with
  | ok prior =>
    simp only [found, Option.some.injEq, Prod.mk.injEq] at taken
    exact ⟨taken.1.symm, Or.inl ⟨prior, rfl, taken.2.symm⟩⟩
  | error error =>
    simp only [found, Option.some.injEq, Prod.mk.injEq] at taken
    exact ⟨taken.1.symm, Or.inr ⟨error, rfl, taken.2.symm⟩⟩

theorem step_deleteWrite {id : GoString} {prior : Node} {db after : DB} {next : StoreCall}
    (taken : (StoreCall.deleteWrite id prior).step db = some (after, next)) :
    (∃ error, db.deleteNode id = .error error ∧ after = db ∧ next = .returned (.error (.sql error))) ∨
    (∃ removed, db.deleteNode id = .ok (after, removed) ∧
      next = if removed = 0 then .returned (.error .noRows) else bumpIf (NodeStore.deleteBumps prior)) := by
  unfold step at taken
  cases removal : db.deleteNode id with
  | error error =>
    simp only [removal, Option.some.injEq, Prod.mk.injEq] at taken
    exact Or.inl ⟨error, rfl, taken.1.symm, taken.2.symm⟩
  | ok result =>
    obtain ⟨deleted, removed⟩ := result
    refine Or.inr ⟨removed, ?_, ?_⟩
    · simp only [removal] at taken
      split at taken
      · cases taken
        rfl
      · cases taken
        rfl
    · simp only [removal] at taken
      split at taken
      · rename_i none
        cases taken
        rw [if_pos none]
      · rename_i some
        cases taken
        rw [if_neg some]

theorem step_bump {db after : DB} {next : StoreCall}
    (taken : StoreCall.bump.step db = some (after, next)) :
    after = db.bumpTargetsVersion ∧ next = .returned (.ok ()) := by
  cases taken
  exact ⟨rfl, rfl⟩

/-- Run a call to its end with no other statement in between. -/
def alone (call : StoreCall) (db : DB) : Nat → DB × StoreCall
  | 0 => (db, call)
  | more + 1 =>
    match call.step db with
    | none => (db, call)
    | some (after, next) => next.alone after more

private theorem alone_step {call next : StoreCall} {db after : DB} (taken : call.step db = some (after, next))
    (more : Nat) : call.alone db (more + 1) = next.alone after more := by
  rw [alone, taken]

private theorem alone_returned (result : Except StoreError Unit) (db : DB) (more : Nat) :
    (StoreCall.returned result).alone db more = (db, .returned result) := by
  cases more with
  | zero => rfl
  | succ more => rfl

private theorem alone_bumpIf (changed : Bool) (db : DB) :
    (bumpIf changed).alone db 1 = (if changed then db.bumpTargetsVersion else db, .returned (.ok ())) := by
  cases changed with
  | false => rfl
  | true => rfl

/-- Undisturbed, the three statements of `Upsert` are the whole call. -/
theorem alone_upsert (n : Node) (db : DB) :
    (StoreCall.upsertGet n).alone db 3 =
      match NodeStore.upsert db n with
      | .ok after => (after, .returned (.ok ()))
      | .error error => (db, .returned (.error error)) := by
  rw [alone_step (step_upsertGet n db), NodeStore.upsert]
  cases write : NodeStore.writeNode db n with
  | error error => rw [alone_step (by simp only [step, write]; rfl), alone_returned]
  | ok written => rw [alone_step (by simp only [step, write]; rfl), alone_bumpIf]

/-- Undisturbed, the three statements of `Delete` are the whole call. -/
theorem alone_delete (id : GoString) (db : DB) :
    (StoreCall.deleteGet id).alone db 3 =
      match NodeStore.delete db id with
      | .ok after => (after, .returned (.ok ()))
      | .error error => (db, .returned (.error error)) := by
  rw [NodeStore.delete]
  cases found : NodeStore.get db id with
  | error error => rw [alone_step (by simp only [step, found]; rfl), alone_returned]
  | ok prior =>
    rw [alone_step (by simp only [step, found]; rfl)]
    cases removal : db.deleteNode id with
    | error error => rw [alone_step (by simp only [step, removal]; rfl), alone_returned]
    | ok result =>
      obtain ⟨deleted, removed⟩ := result
      -- the row just read is still there to be removed
      have present : removed = 1 := by
        obtain ⟨row, stored, _⟩ := NodeStore.get_eq_ok_iff.mp found
        rw [(NodeStore.deleteNode_frame removal).2.2, stored]
        rfl
      subst present
      rw [alone_step (by simp only [step, removal]; rfl)]
      exact alone_bumpIf _ _

end StoreCall

end NetLatencyMonitor.Controller
