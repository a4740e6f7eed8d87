import NetLatencyMonitor.Machine.Simulation
import NetLatencyMonitor.Spool.Retention

/-! One call that has the spool to itself, from a statement to its return: how the inputs
divide into the sends of the batch and the rounds of retention, and what a batch of settled
sends leaves of the rows. -/

namespace NetLatencyMonitor.Spool

open Clock Machine Text

/-- What the outside decides at a step of a call. -/
inductive CallInput where
  | statement (now : Time)
  | sent (outcome : SendOutcome) (message : GoString)
  | measured (size : Int)
deriving DecidableEq, Repr

def callNext (cfg : Config) (state : SpoolDB × SpoolCall) : CallInput → Option (SpoolDB × SpoolCall)
  | .statement now => state.2.statement cfg state.1 now
  | .sent outcome message => (state.2.sent outcome message).map (fun call => (state.1, call))
  | .measured size => (state.2.measured size).map (fun call => (state.1, call))

/-- The row a step has sent, with the sender's answer. -/
def sendOf (state : SpoolDB × SpoolCall) : CallInput → List (Candidate × SendOutcome)
  | .sent outcome _ =>
    match state.2 with
    | .sending _ current _ _ => [(current, outcome)]
    | _ => []
  | _ => []

/-- The calls of `Send` in a run, in order. -/
def sends (cfg : Config) (state : SpoolDB × SpoolCall) (inputs : List CallInput) :
    List (Candidate × SendOutcome) :=
  emitted (callNext cfg) sendOf state inputs

/-- A row that was sent, its outcome and the instant of the statement that applies it. -/
structure Settlement where
  candidate : Candidate
  outcome : SendOutcome
  message : GoString
  now : Time

def Settlement.send (settlement : Settlement) : Candidate × SendOutcome :=
  (settlement.candidate, settlement.outcome)

def Settlement.id (settlement : Settlement) : Nat := settlement.candidate.id

def settle (db : SpoolDB) (settlement : Settlement) : SpoolDB :=
  SpoolCall.applyOutcome db settlement.candidate.id settlement.now settlement.message settlement.outcome

/-- How the statistics move while a batch is sent and settled. -/
structure Tallied (before : DrainStats) (skipped : Nat) (settled : List Settlement) (after : DrainStats) : Prop where
  considered : after.considered = before.considered
  skipped : after.skipped = before.skipped + skipped
  accepted : after.accepted = before.accepted + settled.countP (fun s => s.outcome == .accepted)
  permanent : after.permanent = before.permanent + settled.countP (fun s => s.outcome == .permanentFail)
  transient : after.transient = before.transient + settled.countP (fun s => s.outcome == .transientFail)
  dropped : after.dropped = before.dropped

section Run

variable {cfg : Config} {db after : SpoolDB} {now : Time} {stats final : DrainStats} {inputs : List CallInput}

/-- From a send, a call that returns takes the answer and then applies it. -/
theorem sending_run {current : Candidate} {rest : List Candidate}
    (run : exec (callNext cfg) (db, .sending now current rest stats) inputs = some (after, .drained final)) :
    ∃ settlement more, settlement.candidate = current ∧
      sends cfg (db, .sending now current rest stats) inputs =
        settlement.send :: sends cfg (settle db settlement,
          SpoolCall.nextSend cfg now (SpoolCall.count stats settlement.outcome) rest) more ∧
      exec (callNext cfg) (settle db settlement,
        SpoolCall.nextSend cfg now (SpoolCall.count stats settlement.outcome) rest) more =
          some (after, .drained final) := by
  cases inputs with
  | nil => cases run
  | cons first more =>
    cases first with
    | statement markedAt => cases run
    | measured size => cases run
    | sent outcome message =>
      cases more with
      | nil => cases run
      | cons second more =>
        cases second with
        | sent outcome message => cases run
        | measured size => cases run
        | statement markedAt => exact ⟨⟨current, outcome, message, markedAt⟩, more, rfl, rfl, run⟩

theorem Tallied.start (stats : DrainStats) : Tallied stats 0 [] stats :=
  ⟨rfl, rfl, rfl, rfl, rfl, rfl⟩

private theorem Tallied.skip {skipped : Nat} {settled : List Settlement}
    (tallied : Tallied { stats with skipped := stats.skipped + 1 } skipped settled final) :
    Tallied stats (skipped + 1) settled final := by
  obtain ⟨considered, skips, accepted, permanent, transient, dropped⟩ := tallied
  exact ⟨considered, by rw [skips]; simp only; omega, accepted, permanent, transient, dropped⟩

theorem count_eq (stats : DrainStats) (outcome : SendOutcome) :
    SpoolCall.count stats outcome =
      { stats with
        accepted := stats.accepted + if outcome == .accepted then 1 else 0
        permanent := stats.permanent + if outcome == .permanentFail then 1 else 0
        transient := stats.transient + if outcome == .transientFail then 1 else 0 } := by
  cases outcome with
  | accepted => rfl
  | permanentFail => rfl
  | transientFail => rfl

theorem Tallied.settle {skipped : Nat} {settled : List Settlement} {settlement : Settlement}
    (tallied : Tallied (SpoolCall.count stats settlement.outcome) skipped settled final) :
    Tallied stats skipped (settlement :: settled) final := by
  rw [count_eq] at tallied
  obtain ⟨considered, skips, accepted, permanent, transient, dropped⟩ := tallied
  refine ⟨considered, skips, ?_, ?_, ?_, dropped⟩
  · simp only [accepted, List.countP_cons]
    omega
  · simp only [permanent, List.countP_cons]
    omega
  · simp only [transient, List.countP_cons]
    omega

/-- The loop over the batch: the rows outside their backoff are sent in order, each is
settled before the next, and then retention begins. -/
theorem batch_run {batch : List Candidate}
    (run : exec (callNext cfg) (db, SpoolCall.nextSend cfg now stats batch) inputs = some (after, .drained final)) :
    ∃ settled middle more,
      settled.map Settlement.candidate = batch.filter (fun c => !SpoolCall.waits cfg now c) ∧
      sends cfg (db, SpoolCall.nextSend cfg now stats batch) inputs =
        settled.map Settlement.send ++ sends cfg (settled.foldl settle db, .footprint middle) more ∧
      Tallied stats (batch.countP (SpoolCall.waits cfg now)) settled middle ∧
      exec (callNext cfg) (settled.foldl settle db, .footprint middle) more = some (after, .drained final) := by
  induction batch generalizing db stats inputs with
  | nil => exact ⟨[], stats, inputs, rfl, rfl, Tallied.start stats, run⟩
  | cons current rest ih =>
    by_cases waiting : SpoolCall.waits cfg now current = true
    · simp only [SpoolCall.nextSend, if_pos waiting] at run ⊢
      obtain ⟨settled, middle, more, rows, calls, tallied, run⟩ := ih run
      refine ⟨settled, middle, more, ?_, calls, ?_, run⟩
      · rw [rows, List.filter_cons_of_neg (by simp [waiting])]
      · rw [List.countP_cons_of_pos waiting]
        exact tallied.skip
    · simp only [SpoolCall.nextSend, if_neg waiting] at run ⊢
      obtain ⟨settlement, next, named, call, run⟩ := sending_run run
      obtain ⟨settled, middle, more, rows, calls, tallied, run⟩ := ih run
      refine ⟨settlement :: settled, middle, more, ?_, ?_, ?_, run⟩
      · rw [List.map_cons, named, rows, List.filter_cons_of_pos (by simp [waiting])]
      · rw [call, calls]
        rfl
      · rw [List.countP_cons_of_neg waiting]
        exact tallied.settle

/-- A call that has returned takes no further step. -/
theorem drained_run (run : exec (callNext cfg) (db, .drained stats) inputs = some (after, .drained final)) :
    inputs = [] ∧ after = db ∧ final = stats := by
  cases inputs with
  | nil =>
    cases run
    exact ⟨rfl, rfl, rfl⟩
  | cons first more => cases first <;> cases run

/-- A call at a statement goes on by running it. -/
theorem statement_run {call : SpoolCall}
    (run : exec (callNext cfg) (db, call) inputs = some (after, .drained final))
    (unfinished : call.finished = false) (noSend : ∀ outcome message, call.sent outcome message = none)
    (noStat : ∀ size, call.measured size = none) :
    ∃ now next more, inputs = .statement now :: more ∧ call.statement cfg db now = some next ∧
      exec (callNext cfg) next more = some (after, .drained final) ∧
      sends cfg (db, call) inputs = sends cfg next more := by
  cases inputs with
  | nil =>
    cases run
    cases unfinished
  | cons first more =>
    obtain ⟨next, stepped, rest⟩ := Option.bind_eq_some_iff.mp run
    cases first with
    | sent outcome message => simp [callNext, noSend] at stepped
    | measured size => simp [callNext, noStat] at stepped
    | statement now => exact ⟨now, next, more, rfl, stepped, rest, by simp [sends, emitted, sendOf, stepped]⟩

/-- A round of retention in a call that returns: it stops, or it drops the oldest row and
comes to the next round. -/
theorem footprint_run
    (run : exec (callNext cfg) (db, .footprint stats) inputs = some (after, .drained final)) :
    ∃ reading, Stops cfg db reading ∧ after = db ∧ final = stats ∧ sends cfg (db, .footprint stats) inputs = [] ∨
      ¬ Stops cfg db reading ∧ ∃ more, more.length < inputs.length ∧
        exec (callNext cfg) (db.deleteOldest.1.bumpDrops, .footprint { stats with dropped := stats.dropped + 1 })
          more = some (after, .drained final) ∧
        sends cfg (db, .footprint stats) inputs =
          sends cfg (db.deleteOldest.1.bumpDrops, .footprint { stats with dropped := stats.dropped + 1 }) more := by
  obtain ⟨size, sized, rfl⟩ : ∃ size more, inputs = .measured size :: more := by
    cases inputs with
    | nil => cases run
    | cons first more =>
      cases first with
      | statement now => cases run
      | sent outcome message => cases run
      | measured size => exact ⟨size, more, rfl⟩
  obtain ⟨now, _, aged, rfl, stepped, run, first⟩ := statement_run
    (show exec (callNext cfg) (db, .oldestAge size stats) sized = _ from run) rfl (fun _ _ => rfl) (fun _ => rfl)
  cases stepped
  obtain ⟨_, _, counted, rfl, stepped, run, second⟩ := statement_run run rfl (fun _ _ => rfl) (fun _ => rfl)
  have calls : sends cfg (db, .footprint stats) (.measured size :: .statement now :: .statement _ :: counted) = _ :=
    first.trans second
  by_cases stops : Stops cfg db ⟨size, now⟩
  · cases stepped.symm.trans (if_pos stops)
    obtain ⟨rfl, same, ended⟩ := drained_run run
    exact ⟨⟨size, now⟩, Or.inl ⟨stops, same, ended, calls⟩⟩
  · have filled : db.deleteOldest.2 ≠ 0 := fun none =>
      stops (Or.inl ((SpoolDB.deleteOldest_removed db).mp none))
    cases stepped.symm.trans (if_neg stops)
    obtain ⟨_, _, deleted, rfl, stepped, run, third⟩ := statement_run run rfl (fun _ _ => rfl) (fun _ => rfl)
    simp only [SpoolCall.statement, if_neg filled] at stepped
    cases stepped
    obtain ⟨_, _, bumped, rfl, stepped, run, fourth⟩ := statement_run run rfl (fun _ _ => rfl) (fun _ => rfl)
    cases stepped
    refine ⟨⟨size, now⟩, Or.inr ⟨stops, bumped, ?_, run, calls.trans (third.trans fourth)⟩⟩
    simp only [List.length_cons]
    omega

/-- The retention part of a run is `enforceRetention` on some readings, and sends nothing. -/
theorem retention_run
    (run : exec (callNext cfg) (db, .footprint stats) inputs = some (after, .drained final)) :
    ∃ reading fuel, loop (retentionRound cfg reading) fuel stats.dropped db = some (after, final.dropped) ∧
      final = { stats with dropped := final.dropped } ∧ sends cfg (db, .footprint stats) inputs = [] := by
  induction size : inputs.length using Nat.strongRecOn generalizing db stats inputs with
  | ind size ih =>
    obtain ⟨reading, ⟨stops, rfl, rfl, calls⟩ | ⟨goesOn, more, shorter, run, calls⟩⟩ := footprint_run run
    · refine ⟨fun _ => reading, 1, ?_, rfl, calls⟩
      have ended : retentionRound cfg (fun _ => reading) final.dropped after = .done (after, final.dropped) :=
        retentionRound_stops stops
      simp only [loop, ended]
    · obtain ⟨later, fuel, returned, same, none⟩ := ih more.length (size ▸ shorter) run rfl
      -- this round reads `reading`, the later ones what the rest of the run reads
      refine ⟨Function.update later stats.dropped reading, fuel + 1, ?_, same, calls.trans none⟩
      have now : ¬ Stops cfg db (Function.update later stats.dropped reading stats.dropped) := by
        rw [Function.update_self]
        exact goesOn
      simp only [loop, retentionRound_drops now]
      rw [loop_congr (fun round after => ?_), returned]
      have other : round ≠ stats.dropped := Nat.ne_of_gt after
      funext state
      simp only [retentionRound, Function.update_of_ne other]

end Run

/-! What a batch of settlements leaves of the rows. -/

section Settled

variable {db : SpoolDB} {settled : List Settlement} {row : SpoolRow}

theorem mem_applyOutcome {id : Nat} {now : Time} {message : GoString} {outcome : SendOutcome} :
    row ∈ (SpoolCall.applyOutcome db id now message outcome).rows.rows ↔
      (row ∈ db.rows.rows ∧ row.id ≠ id) ∨
        (outcome ≠ .accepted ∧ ∃ old ∈ db.rows.rows, old.id = id ∧ row = SpoolDB.failedRow now message old) := by
  cases outcome with
  | accepted => simp [SpoolCall.applyOutcome, SpoolDB.mem_deleteRow]
  | permanentFail => simp [SpoolCall.applyOutcome, SpoolDB.mem_markFailure]
  | transientFail => simp [SpoolCall.applyOutcome, SpoolDB.mem_markFailure]

private theorem mem_settle {settlement : Settlement} :
    row ∈ (settle db settlement).rows.rows ↔
      (row ∈ db.rows.rows ∧ row.id ≠ settlement.id) ∨
        (settlement.outcome ≠ .accepted ∧ ∃ old ∈ db.rows.rows, old.id = settlement.id ∧
          row = SpoolDB.failedRow settlement.now settlement.message old) :=
  mem_applyOutcome

/-- Settling distinct rows: the others stay as they are, the accepted ones go, and the
failed ones are marked once. -/
theorem mem_settleAll (distinct : (settled.map Settlement.id).Nodup) :
    row ∈ (settled.foldl settle db).rows.rows ↔
      (row ∈ db.rows.rows ∧ ∀ s ∈ settled, s.id ≠ row.id) ∨
        ∃ s ∈ settled, s.outcome ≠ .accepted ∧ ∃ old ∈ db.rows.rows, old.id = s.id ∧
          row = SpoolDB.failedRow s.now s.message old := by
  induction settled generalizing db with
  | nil => simp
  | cons first rest ih =>
    obtain ⟨fresh, distinct⟩ := List.nodup_cons.mp distinct
    have other : ∀ s ∈ rest, s.id ≠ first.id := fun s member same => fresh (List.mem_map.mpr ⟨s, member, same⟩)
    rw [List.foldl_cons, ih distinct]
    constructor
    · rintro (⟨present, unsent⟩ | ⟨s, member, failed, old, present, named, rfl⟩)
      · rcases mem_settle.mp present with ⟨stored, different⟩ | ⟨failed, old, stored, named, rfl⟩
        · exact Or.inl ⟨stored, List.forall_mem_cons.mpr ⟨Ne.symm different, unsent⟩⟩
        · exact Or.inr ⟨first, List.mem_cons_self, failed, old, stored, named, rfl⟩
      · rcases mem_settle.mp present with ⟨stored, _⟩ | ⟨_, older, _, same, rfl⟩
        · exact Or.inr ⟨s, List.mem_cons_of_mem first member, failed, old, stored, named, rfl⟩
        · exact absurd (named.symm.trans same) (other s member)
    · rintro (⟨stored, unsent⟩ | ⟨s, member, failed, old, stored, named, rfl⟩)
      · obtain ⟨different, unsent⟩ := List.forall_mem_cons.mp unsent
        exact Or.inl ⟨mem_settle.mpr (Or.inl ⟨stored, Ne.symm different⟩), unsent⟩
      · rcases List.mem_cons.mp member with rfl | later
        · refine Or.inl ⟨mem_settle.mpr (Or.inr ⟨failed, old, stored, named, rfl⟩), fun t member same => ?_⟩
          exact other t member (same.trans named)
        · have kept := mem_settle.mpr (Or.inl ⟨stored, fun same => other s later (named.symm.trans same)⟩)
          exact Or.inr ⟨s, later, failed, old, kept, named, rfl⟩

private theorem depth_settle {settlement : Settlement} (stored : ∃ old ∈ db.rows.rows, old.id = settlement.id) :
    (settle db settlement).depth + (if settlement.outcome == .accepted then 1 else 0) = db.depth := by
  obtain ⟨old, present, named⟩ := stored
  unfold settle
  cases settlement.outcome with
  | accepted =>
    exact SpoolDB.depth_deleteRow (Keyed.Table.find?_eq_some_iff.mpr ⟨present, named⟩)
  | permanentFail => exact SpoolDB.depth_markFailure db _ _ _
  | transientFail => exact SpoolDB.depth_markFailure db _ _ _

theorem depth_settleAll (distinct : (settled.map Settlement.id).Nodup)
    (stored : ∀ s ∈ settled, ∃ old ∈ db.rows.rows, old.id = s.id) :
    (settled.foldl settle db).depth + settled.countP (fun s => s.outcome == .accepted) = db.depth := by
  induction settled generalizing db with
  | nil => rfl
  | cons first rest ih =>
    obtain ⟨fresh, distinct⟩ := List.nodup_cons.mp distinct
    have one := depth_settle (stored first List.mem_cons_self)
    have others : ∀ s ∈ rest, ∃ old ∈ (settle db first).rows.rows, old.id = s.id := by
      intro s member
      obtain ⟨old, present, named⟩ := stored s (List.mem_cons_of_mem first member)
      have different : old.id ≠ first.id := fun same =>
        fresh (List.mem_map.mpr ⟨s, member, named.symm.trans same⟩)
      exact ⟨old, mem_settle.mpr (Or.inl ⟨present, different⟩), named⟩
    have tail := ih distinct others
    rw [List.foldl_cons, List.countP_cons]
    omega

end Settled

end NetLatencyMonitor.Spool
