import NetLatencyMonitor.Spool.Drain

/-! The identity of spooled rows while calls of several processes interleave: ids are
never reused, so a row taken from the spool is still that row when its outcome is
applied, or it is gone. -/

namespace NetLatencyMonitor.Spool

open Clock Keyed Text

/-- Rows keep id, run and payload; a new row has an id that was never given out. -/
structure Evolves (before after : SpoolDB) : Prop where
  sequence : before.seq ≤ after.seq
  rows : ∀ row ∈ after.rows.rows, before.seq < row.id ∨
    ∃ old ∈ before.rows.rows, old.id = row.id ∧ old.probeRunID = row.probeRunID ∧ old.payload = row.payload

/-- Every spooled row carries a run and payload from the list. -/
def Spooled (payloads : List (GoString × GoString)) (spool : SpoolDB) : Prop :=
  ∀ row ∈ spool.rows.rows, (row.probeRunID, row.payload) ∈ payloads

section Statements

variable {spool after : SpoolDB} {payloads : List (GoString × GoString)}

theorem Evolves.refl (spool : SpoolDB) : Evolves spool spool :=
  ⟨Nat.le_refl _, fun row present => Or.inr ⟨row, present, rfl, rfl, rfl⟩⟩

private theorem evolves_deleteRow (spool : SpoolDB) (id : Nat) : Evolves spool (spool.deleteRow id) :=
  ⟨Nat.le_refl _, fun row present => Or.inr ⟨row, (Table.mem_erase.mp present).1, rfl, rfl, rfl⟩⟩

private theorem evolves_markFailure (spool : SpoolDB) (id : Nat) (now : Time) (message : GoString) :
    Evolves spool (spool.markFailure id now message) := by
  refine ⟨Nat.le_refl _, fun row present => Or.inr ?_⟩
  rcases SpoolDB.mem_markFailure.mp present with ⟨kept, _⟩ | ⟨old, member, _, same⟩
  · exact ⟨row, kept, rfl, rfl, rfl⟩
  · subst row
    exact ⟨old, member, rfl, rfl, rfl⟩

private theorem evolves_deleteOldest (spool : SpoolDB) : Evolves spool spool.deleteOldest.1 := by
  unfold SpoolDB.deleteOldest
  cases spool.oldestFirst.head? with
  | none => exact .refl spool
  | some row => exact evolves_deleteRow spool row.id

private theorem evolves_applyOutcome (spool : SpoolDB) (id : Nat) (now : Time) (message : GoString)
    (outcome : SendOutcome) : Evolves spool (SpoolCall.applyOutcome spool id now message outcome) := by
  cases outcome with
  | accepted => exact evolves_deleteRow spool id
  | permanentFail => exact evolves_markFailure spool id now message
  | transientFail => exact evolves_markFailure spool id now message

/-- What a statement without inserts leaves in the spool was there before. -/
theorem Evolves.spooled (evolves : Evolves spool after) (sequence : after.seq = spool.seq)
    (spooled : Spooled payloads spool) : Spooled payloads after := by
  intro row present
  rcases evolves.rows row present with new | ⟨old, member, _, run, payload⟩
  · have bound := after.sequenced row present
    omega
  · rw [← run, ← payload]
    exact spooled old member

theorem insert_rows {probeRunID payload : GoString} {now : Time}
    (done : spool.insert probeRunID payload now = some after) :
    after.seq = spool.seq + 1 ∧ ∀ row ∈ after.rows.rows, row ∈ spool.rows.rows ∨
      (row.id = spool.seq + 1 ∧ row.probeRunID = probeRunID ∧ row.payload = payload) := by
  unfold SpoolDB.insert at done
  split at done
  · cases done
  · cases done
    refine ⟨rfl, fun row present => ?_⟩
    rcases List.mem_append.mp present with old | new
    · exact Or.inl old
    · rw [List.mem_singleton.mp new]
      exact Or.inr ⟨rfl, rfl, rfl⟩

private theorem mem_of_insert {probeRunID payload : GoString} {now : Time} {row : SpoolRow}
    (done : spool.insert probeRunID payload now = some after) (present : row ∈ spool.rows.rows) :
    row ∈ after.rows.rows := by
  unfold SpoolDB.insert at done
  split at done
  · cases done
  · cases done
    exact List.mem_append_left _ present

/-- A failure is marked on the row, which stays. -/
theorem not_mem_of_markFailure {id : Nat} {now : Time} {message : GoString} {row : SpoolRow}
    (gone : ∀ kept ∈ (spool.markFailure id now message).rows.rows, kept.id ≠ row.id) :
    row ∉ spool.rows.rows := by
  intro present
  by_cases named : row.id = id
  · exact gone _ (SpoolDB.mem_markFailure.mpr (Or.inr ⟨row, present, named, rfl⟩)) rfl
  · exact gone row (SpoolDB.mem_markFailure.mpr (Or.inl ⟨present, named⟩)) rfl

private theorem evolves_insert {probeRunID payload : GoString} {now : Time}
    (done : spool.insert probeRunID payload now = some after) : Evolves spool after := by
  obtain ⟨sequence, rows⟩ := insert_rows done
  refine ⟨by omega, fun row present => ?_⟩
  rcases rows row present with old | ⟨new, _, _⟩
  · exact Or.inr ⟨row, old, rfl, rfl, rfl⟩
  · exact Or.inl (by omega)

private theorem spooled_insert {probeRunID payload : GoString} {now : Time}
    (done : spool.insert probeRunID payload now = some after)
    (spooled : Spooled payloads spool) (known : (probeRunID, payload) ∈ payloads) :
    Spooled payloads after := by
  intro row present
  rcases (insert_rows done).2 row present with old | ⟨_, run, text⟩
  · exact spooled row old
  · rw [run, text]
    exact known

end Statements

/-- A row taken from the spool is still that row, or gone. -/
structure InHand (payloads : List (GoString × GoString)) (spool : SpoolDB) (c : Candidate) : Prop where
  assigned : c.id ≤ spool.seq
  known : (c.probeRunID, c.payload) ∈ payloads
  same : ∀ row ∈ spool.rows.rows, row.id = c.id → row.probeRunID = c.probeRunID ∧ row.payload = c.payload

/-- What a call in progress may rely on; `backed` is what justifies a deletion. -/
def CallHolds (payloads : List (GoString × GoString)) (backed : GoString → Prop) (spool : SpoolDB) :
    SpoolCall → Prop
  | .insert probeRunID payload => (probeRunID, payload) ∈ payloads
  | .sending _ current rest _ => ∀ c ∈ current :: rest, InHand payloads spool c
  | .settle _ current outcome _ rest _ =>
    (∀ c ∈ current :: rest, InHand payloads spool c) ∧ (outcome = .accepted → backed current.payload)
  | _ => True

section Calls

variable {spool after : SpoolDB} {payloads more : List (GoString × GoString)}
  {backed later : GoString → Prop} {call next : SpoolCall}

/-- Other processes' statements do not change what is in hand. -/
theorem InHand.mono {c : Candidate} (held : InHand payloads spool c) (evolves : Evolves spool after)
    (grows : ∀ pair ∈ payloads, pair ∈ more) : InHand more after c := by
  refine ⟨Nat.le_trans held.assigned evolves.sequence, grows _ held.known, fun row present named => ?_⟩
  have assigned := held.assigned
  rcases evolves.rows row present with new | ⟨old, member, id, run, payload⟩
  · omega
  · obtain ⟨sameRun, samePayload⟩ := held.same old member (id.trans named)
    exact ⟨run.symm.trans sameRun, payload.symm.trans samePayload⟩

theorem CallHolds.mono (holds : CallHolds payloads backed spool call) (evolves : Evolves spool after)
    (grows : ∀ pair ∈ payloads, pair ∈ more) (keeps : ∀ payload, backed payload → later payload) :
    CallHolds more later after call := by
  cases call with
  | insert probeRunID payload => exact grows _ holds
  | sending now current rest stats => exact fun c member => (holds c member).mono evolves grows
  | settle now current outcome message rest stats =>
    exact ⟨fun c member => (holds.1 c member).mono evolves grows, fun accepted => keeps _ (holds.2 accepted)⟩
  | _ => trivial

private theorem callHolds_nextSend (cfg : Config) (now : Time) (stats : DrainStats) {batch : List Candidate}
    (held : ∀ c ∈ batch, InHand payloads spool c) :
    CallHolds payloads backed spool (SpoolCall.nextSend cfg now stats batch) := by
  induction batch generalizing stats with
  | nil => trivial
  | cons c rest ih =>
    unfold SpoolCall.nextSend
    split
    · exact ih _ (fun other member => held other (List.mem_cons_of_mem _ member))
    · exact held

/-- The rows of a batch, at the moment they are read. -/
theorem inHand_batch (bound : Int) (spooled : Spooled payloads spool) :
    ∀ c ∈ (SpoolDB.limit spool.oldestFirst bound).map SpoolRow.candidate, InHand payloads spool c := by
  intro c member
  obtain ⟨row, listed, same⟩ := List.mem_map.mp member
  have present : row ∈ spool.rows.rows := by
    unfold SpoolDB.limit at listed
    split at listed
    · exact mem_orderBy.mp listed
    · exact mem_orderBy.mp (List.mem_of_mem_take listed)
  subst c
  refine ⟨spool.sequenced row present, spooled row present, fun other stored named => ?_⟩
  rw [Table.eq_of_key stored present named]
  exact ⟨rfl, rfl⟩

/-- One statement of a call: rows keep their identity, only known payloads are
spooled, and the call can rely on what it needs next. -/
theorem statement_holds {cfg : Config} {now : Time} (spooled : Spooled payloads spool)
    (holds : CallHolds payloads backed spool call)
    (taken : call.statement cfg spool now = some (after, next)) :
    Evolves spool after ∧ Spooled payloads after ∧ CallHolds payloads backed after next := by
  cases call with
  | insert probeRunID payload =>
    simp only [SpoolCall.statement] at taken
    cases inserted : spool.insert probeRunID payload now with
    | none =>
      rw [inserted] at taken
      cases taken
      exact ⟨.refl spool, spooled, trivial⟩
    | some grown =>
      rw [inserted] at taken
      cases taken
      exact ⟨evolves_insert inserted, spooled_insert inserted spooled holds, trivial⟩
  | select =>
    cases taken
    exact ⟨.refl spool, spooled, callHolds_nextSend _ _ _ (inHand_batch _ spooled)⟩
  | settle started current outcome message rest stats =>
    cases taken
    have evolves := evolves_applyOutcome spool current.id now message outcome
    have sequence : (SpoolCall.applyOutcome spool current.id now message outcome).seq = spool.seq := by
      cases outcome with
      | accepted => rfl
      | permanentFail => rfl
      | transientFail => rfl
    refine ⟨evolves, evolves.spooled sequence spooled, callHolds_nextSend _ _ _ (fun c member => ?_)⟩
    exact (holds.1 c (List.mem_cons_of_mem _ member)).mono evolves (fun _ known => known)
  | oldestAge size stats =>
    cases taken
    exact ⟨.refl spool, spooled, trivial⟩
  | depth size age stats =>
    simp only [SpoolCall.statement] at taken
    split at taken
    · cases taken
      exact ⟨.refl spool, spooled, trivial⟩
    · cases taken
      exact ⟨.refl spool, spooled, trivial⟩
  | deleteOldest stats =>
    have evolves := evolves_deleteOldest spool
    have sequence : spool.deleteOldest.1.seq = spool.seq := by
      unfold SpoolDB.deleteOldest
      cases spool.oldestFirst.head? with
      | none => rfl
      | some row => rfl
    simp only [SpoolCall.statement] at taken
    split at taken
    · cases taken
      exact ⟨evolves, evolves.spooled sequence spooled, trivial⟩
    · cases taken
      exact ⟨evolves, evolves.spooled sequence spooled, trivial⟩
  | bumpDrops stats =>
    cases taken
    exact ⟨⟨Nat.le_refl _, (Evolves.refl spool).rows⟩, spooled, trivial⟩
  | sending now current rest stats => cases taken
  | footprint stats => cases taken
  | enqueued duplicate => cases taken
  | drained stats => cases taken

/-- A row leaves the spool at two statements only: the deletion of the row in hand when
its payload is accepted, and retention's deletion of the oldest row. -/
theorem statement_loses {cfg : Config} {now : Time} {row : SpoolRow} (present : row ∈ spool.rows.rows)
    (gone : ∀ kept ∈ after.rows.rows, kept.id ≠ row.id)
    (taken : call.statement cfg spool now = some (after, next)) :
    (∃ started current message rest stats,
        call = .settle started current .accepted message rest stats ∧ row.id = current.id) ∨
      ∃ stats, call = .deleteOldest stats := by
  cases call with
  | insert probeRunID payload =>
    simp only [SpoolCall.statement] at taken
    cases inserted : spool.insert probeRunID payload now with
    | none =>
      rw [inserted] at taken
      cases taken
      exact absurd rfl (gone row present)
    | some grown =>
      rw [inserted] at taken
      cases taken
      exact absurd rfl (gone row (mem_of_insert inserted present))
  | settle started current outcome message rest stats =>
    cases taken
    cases outcome with
    | accepted =>
      refine Or.inl ⟨started, current, message, rest, stats, rfl, ?_⟩
      by_contra other
      exact gone row (SpoolDB.mem_deleteRow.mpr ⟨present, other⟩) rfl
    | permanentFail => exact absurd present (not_mem_of_markFailure gone)
    | transientFail => exact absurd present (not_mem_of_markFailure gone)
  | deleteOldest stats => exact Or.inr ⟨stats, rfl⟩
  | depth size age stats =>
    simp only [SpoolCall.statement] at taken
    split at taken
    · cases taken
      exact absurd rfl (gone row present)
    · cases taken
      exact absurd rfl (gone row present)
  | sending now current rest stats => cases taken
  | footprint stats => cases taken
  | enqueued duplicate => cases taken
  | drained stats => cases taken
  | _ =>
    cases taken
    exact absurd rfl (gone row present)

/-- The sender's answer is recorded for the row that was sent. -/
theorem sent_holds {outcome : SendOutcome} {message : GoString} (holds : CallHolds payloads backed spool call)
    (justified : ∀ now current rest stats, call = .sending now current rest stats →
      outcome = .accepted → backed current.payload)
    (taken : call.sent outcome message = some next) : CallHolds payloads backed spool next := by
  cases call with
  | sending now current rest stats =>
    cases taken
    exact ⟨holds, justified now current rest stats rfl⟩
  | _ => cases taken

end Calls

end NetLatencyMonitor.Spool
