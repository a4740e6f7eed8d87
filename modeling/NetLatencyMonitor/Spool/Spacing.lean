import NetLatencyMonitor.Spool.Accounting
import NetLatencyMonitor.Spool.DrainRun
import NetLatencyMonitor.Spool.InHand

/-! How far apart the sends of one row are. One process calls `Enqueue` and `Drain` again
and again; `CURRENT_TIMESTAMP` and `Spool.now` read one clock that does not go back. -/

namespace NetLatencyMonitor.Spool

open Clock Machine Text

/-- The spool, the call in progress and the latest reading of the clock. -/
structure TimedSpool where
  db : SpoolDB
  call : Option SpoolCall
  clock : Time

inductive SpoolAction where
  | enqueue (probeRunID payload : GoString)
  | drain
  | statement
  | sent (outcome : SendOutcome) (message : GoString)
  | measured (size : Int)
  | stop
deriving DecidableEq, Repr

/-- One step at an instant no earlier than the last. A call may stop at any step: a
statement fails, the context is cancelled or the process ends. -/
def timedNext (cfg : Config) (s : TimedSpool) : Time × SpoolAction → Option TimedSpool
  | (now, action) =>
    if now < s.clock then none
    else match s.call, action with
      | none, .enqueue probeRunID payload => some ⟨s.db, enqueue probeRunID payload, now⟩
      | none, .drain => some ⟨s.db, some drain, now⟩
      | some call, .statement =>
        (call.statement cfg s.db now).map (fun (db, next) => ⟨db, ongoing next, now⟩)
      | some call, .sent outcome message => (call.sent outcome message).map (fun next => ⟨s.db, some next, now⟩)
      | some call, .measured size => (call.measured size).map (fun next => ⟨s.db, some next, now⟩)
      | some _, .stop => some ⟨s.db, none, now⟩
      | _, _ => none

/-- A step that a call in progress takes by itself. -/
def SpoolAction.ofCall : SpoolAction → Bool
  | .statement => true
  | .sent _ _ => true
  | .measured _ => true
  | _ => false

/-- The call of `Send` for the row has started and not returned. -/
def SendsRow (id : Nat) (s : TimedSpool) : Prop :=
  match s.call with
  | some (.sending _ current _ _) => current.id = id
  | _ => False

instance (id : Nat) (s : TimedSpool) : Decidable (SendsRow id s) := by
  unfold SendsRow
  split
  · infer_instance
  · infer_instance

private theorem sendsRow_iff {id : Nat} {s : TimedSpool} :
    SendsRow id s ↔ ∃ now current rest stats, s.call = some (.sending now current rest stats) ∧ current.id = id := by
  unfold SendsRow
  split
  · rename_i now current rest stats call
    exact ⟨fun named => ⟨now, current, rest, stats, call, named⟩, fun ⟨_, _, _, _, same, named⟩ => by
      cases call.symm.trans same
      exact named⟩
  · rename_i other
    exact ⟨False.elim, fun ⟨_, _, _, _, same, _⟩ => other _ _ _ _ same⟩

/-- `markFailure` records a failure of the row at instant `now` and brings its attempts
to `attempts`. -/
structure MarksFailure (cfg : Config) (before : TimedSpool) (now : Time) (after : TimedSpool) (id : Nat)
    (attempts : Int) : Prop where
  failing : ∃ started current outcome message rest stats,
    before.call = some (.settle started current outcome message rest stats) ∧ current.id = id ∧ outcome ≠ .accepted
  stepped : timedNext cfg before (now, .statement) = some after
  marked : ∃ row ∈ after.db.rows.rows, row.id = id ∧ row.attempts = attempts

/-! The loop between two sends. -/

/-- `nextSend` passes over the rows in backoff up to the first that is not. -/
theorem nextSend_cases (cfg : Config) (now : Time) (stats : DrainStats) (batch : List Candidate) :
    (∃ tally, SpoolCall.nextSend cfg now stats batch = .footprint tally ∧
        ∀ c ∈ batch, SpoolCall.waits cfg now c = true) ∨
      ∃ skipped current rest tally, batch = skipped ++ current :: rest ∧
        (∀ c ∈ skipped, SpoolCall.waits cfg now c = true) ∧ SpoolCall.waits cfg now current = false ∧
        SpoolCall.nextSend cfg now stats batch = .sending now current rest tally := by
  induction batch generalizing stats with
  | nil => exact Or.inl ⟨stats, rfl, fun c member => (List.not_mem_nil member).elim⟩
  | cons first others ih =>
    cases waiting : SpoolCall.waits cfg now first with
    | false =>
      refine Or.inr ⟨[], first, others, stats, rfl, fun c member => (List.not_mem_nil member).elim, waiting, ?_⟩
      simp [SpoolCall.nextSend, waiting]
    | true =>
      have step : SpoolCall.nextSend cfg now stats (first :: others) =
          SpoolCall.nextSend cfg now { stats with skipped := stats.skipped + 1 } others := by
        simp [SpoolCall.nextSend, waiting]
      rw [step]
      rcases ih { stats with skipped := stats.skipped + 1 } with
        ⟨tally, ended, all⟩ | ⟨skipped, current, rest, tally, split, all, ready, sending⟩
      · exact Or.inl ⟨tally, ended, List.forall_mem_cons.mpr ⟨waiting, all⟩⟩
      · exact Or.inr ⟨first :: skipped, current, rest, tally, by rw [split]; rfl,
          List.forall_mem_cons.mpr ⟨waiting, all⟩, ready, sending⟩

/-- The rows of the batch that the call has not settled. -/
def pendingOf : Option SpoolCall → List Candidate
  | some (.sending _ current rest _) => current :: rest
  | some (.settle _ current _ _ rest _) => current :: rest
  | _ => []

/-- The clock reading of the `Drain` whose batch is in progress. -/
def startedAt : Option SpoolCall → Option Time
  | some (.sending now _ _ _) => some now
  | some (.settle now _ _ _ _ _) => some now
  | _ => none

private theorem pendingOf_nextSend (cfg : Config) (now : Time) (stats : DrainStats) (batch : List Candidate) :
    pendingOf (ongoing (SpoolCall.nextSend cfg now stats batch)) <:+ batch := by
  rcases nextSend_cases cfg now stats batch with
    ⟨tally, ended, _⟩ | ⟨skipped, current, rest, tally, split, _, _, sending⟩
  · rw [ended]
    exact List.nil_suffix
  · rw [sending, split]
    exact List.suffix_append skipped (current :: rest)

private theorem startedAt_of_noBatch {call : Option SpoolCall} (noBatch : pendingOf call = []) :
    startedAt call = none := by
  cases call with
  | none => rfl
  | some call =>
    cases call with
    | sending now current rest stats => cases noBatch
    | settle now current outcome message rest stats => cases noBatch
    | _ => rfl

private theorem startedAt_nextSend (cfg : Config) (now : Time) (stats : DrainStats) (batch : List Candidate) :
    ∀ started ∈ startedAt (ongoing (SpoolCall.nextSend cfg now stats batch)), started = now := by
  rcases nextSend_cases cfg now stats batch with
    ⟨tally, ended, _⟩ | ⟨skipped, current, rest, tally, split, _, _, sending⟩
  · rw [ended]
    exact fun started none => by cases none
  · rw [sending]
    intro started same
    cases same
    rfl

/-! What a step can do to a batch in progress. -/

/-- A statement takes the batch, settles a row of it, or has nothing to do with a batch:
then every row it leaves was there before, or is new. -/
inductive StatementEffect (cfg : Config) (db : SpoolDB) (now : Time) : SpoolCall → SpoolDB → SpoolCall → Prop where
  | selected {stats : DrainStats} :
      StatementEffect cfg db now .select db
        (SpoolCall.nextSend cfg now stats ((batchOf cfg db).map SpoolRow.candidate))
  | settled {started : Time} {current : Candidate} {outcome : SendOutcome} {message : GoString}
      {rest : List Candidate} {stats tally : DrainStats} :
      StatementEffect cfg db now (.settle started current outcome message rest stats)
        (SpoolCall.applyOutcome db current.id now message outcome) (SpoolCall.nextSend cfg started tally rest)
  | other {call next : SpoolCall} {after : SpoolDB} (unselected : call ≠ .select)
      (none : pendingOf (some call) = []) (noBatch : pendingOf (ongoing next) = [])
      (rows : ∀ row ∈ after.rows.rows, row ∈ db.rows.rows ∨ db.seq < row.id) (sequence : db.seq ≤ after.seq) :
      StatementEffect cfg db now call after next

section Effects

variable {cfg : Config} {db after : SpoolDB} {now : Time} {call next : SpoolCall}

private theorem mem_deleteOldest {row : SpoolRow} (present : row ∈ db.deleteOldest.1.rows.rows) :
    row ∈ db.rows.rows := by
  rw [← SpoolDB.mem_oldestFirst, SpoolDB.oldestFirst_deleteOldest] at present
  exact SpoolDB.mem_oldestFirst.mp (List.mem_of_mem_tail present)

private theorem seq_deleteOldest (db : SpoolDB) : db.deleteOldest.1.seq = db.seq := by
  unfold SpoolDB.deleteOldest
  cases db.oldestFirst.head? with
  | none => rfl
  | some row => rfl

private theorem seq_applyOutcome (db : SpoolDB) (id : Nat) (now : Time) (message : GoString) (outcome : SendOutcome) :
    (SpoolCall.applyOutcome db id now message outcome).seq = db.seq := by
  cases outcome with
  | accepted => rfl
  | permanentFail => rfl
  | transientFail => rfl

private theorem statement_effect (stepped : call.statement cfg db now = some (after, next)) :
    StatementEffect cfg db now call after next := by
  have kept : ∀ row ∈ db.rows.rows, row ∈ db.rows.rows ∨ db.seq < row.id := fun _ present => Or.inl present
  cases call with
  | insert probeRunID payload =>
    simp only [SpoolCall.statement] at stepped
    cases inserted : db.insert probeRunID payload now with
    | none =>
      rw [inserted] at stepped
      cases stepped
      exact .other (by simp) rfl rfl kept (Nat.le_refl _)
    | some grown =>
      rw [inserted] at stepped
      cases stepped
      obtain ⟨sequence, rows⟩ := insert_rows inserted
      refine .other (by simp) rfl rfl (fun row present => ?_) (by omega)
      rcases rows row present with old | ⟨new, _⟩
      · exact Or.inl old
      · exact Or.inr (by omega)
  | select =>
    cases stepped
    exact .selected
  | settle started current outcome message rest stats =>
    cases stepped
    exact .settled
  | oldestAge size stats =>
    cases stepped
    exact .other (by simp) rfl rfl kept (Nat.le_refl _)
  | depth size age stats =>
    simp only [SpoolCall.statement] at stepped
    split at stepped
    · cases stepped
      exact .other (by simp) rfl rfl kept (Nat.le_refl _)
    · cases stepped
      exact .other (by simp) rfl rfl kept (Nat.le_refl _)
  | deleteOldest stats =>
    have fewer : ∀ row ∈ db.deleteOldest.1.rows.rows, row ∈ db.rows.rows ∨ db.seq < row.id :=
      fun _ present => Or.inl (mem_deleteOldest present)
    have sequence := Nat.le_of_eq (seq_deleteOldest db).symm
    simp only [SpoolCall.statement] at stepped
    split at stepped
    · cases stepped
      exact .other (by simp) rfl rfl fewer sequence
    · cases stepped
      exact .other (by simp) rfl rfl fewer sequence
  | bumpDrops stats =>
    cases stepped
    exact .other (by simp) rfl rfl kept (Nat.le_refl _)
  | sending started current rest stats => cases stepped
  | footprint stats => cases stepped
  | enqueued duplicate => cases stepped
  | drained stats => cases stepped

/-- A step runs a statement, takes the sender's answer, or leaves no batch in progress. -/
inductive TimedEffect (cfg : Config) (s : TimedSpool) : Time × SpoolAction → TimedSpool → Prop where
  | stated {now : Time} {call next : SpoolCall} {db : SpoolDB} (later : s.clock ≤ now)
      (current : s.call = some call) (effect : StatementEffect cfg s.db now call db next) :
      TimedEffect cfg s (now, .statement) ⟨db, ongoing next, now⟩
  | answered {now started : Time} {current : Candidate} {rest : List Candidate} {stats : DrainStats}
      {outcome : SendOutcome} {message : GoString} (later : s.clock ≤ now)
      (sending : s.call = some (.sending started current rest stats)) :
      TimedEffect cfg s (now, .sent outcome message)
        ⟨s.db, some (.settle started current outcome message rest stats), now⟩
  | quiet {now : Time} {action : SpoolAction} {call : Option SpoolCall} (later : s.clock ≤ now)
      (unstated : action ≠ .statement) (outside : action = .stop ∨ pendingOf s.call = [])
      (noBatch : pendingOf call = []) :
      TimedEffect cfg s (now, action) ⟨s.db, call, now⟩

private theorem timedNext_effect {s final : TimedSpool} {step : Time × SpoolAction}
    (stepped : timedNext cfg s step = some final) : TimedEffect cfg s step final := by
  obtain ⟨now, action⟩ := step
  simp only [timedNext] at stepped
  split at stepped
  · cases stepped
  · rename_i notBefore
    have later : s.clock ≤ now := Int.not_lt.mp notBefore
    split at stepped
    · rename_i idle
      have none : pendingOf s.call = [] := by rw [idle]; rfl
      cases stepped
      unfold enqueue
      split
      · exact .quiet later (by simp) (Or.inr none) rfl
      · split
        · exact .quiet later (by simp) (Or.inr none) rfl
        · exact .quiet later (by simp) (Or.inr none) rfl
    · rename_i idle
      have none : pendingOf s.call = [] := by rw [idle]; rfl
      cases stepped
      exact .quiet later (by simp) (Or.inr none) rfl
    · rename_i call current
      obtain ⟨⟨db, next⟩, taken, rfl⟩ := Option.map_eq_some_iff.mp stepped
      exact .stated later current (statement_effect taken)
    · rename_i call outcome message current
      obtain ⟨next, taken, rfl⟩ := Option.map_eq_some_iff.mp stepped
      cases call <;> cases taken
      exact .answered later current
    · rename_i call size current
      obtain ⟨next, taken, rfl⟩ := Option.map_eq_some_iff.mp stepped
      cases call <;> cases taken
      exact .quiet later (by simp) (Or.inr (by rw [current]; rfl)) rfl
    · cases stepped
      exact .quiet later (by simp) (Or.inl rfl) rfl
    · cases stepped

end Effects

/-- A batch in progress: its rows are distinct, its clock reading is past, and the row
being sent was outside its backoff at that reading. -/
structure Orderly (cfg : Config) (s : TimedSpool) : Prop where
  distinct : ((pendingOf s.call).map Candidate.id).Nodup
  started : ∀ now ∈ startedAt s.call, now ≤ s.clock
  ready : ∀ now current rest stats, s.call = some (.sending now current rest stats) →
    SpoolCall.waits cfg now current = false

/-- The row has `attempts` failures, the last recorded at `marked`, wherever it is still
held: in the spool, or in the batch of a later `Drain` that has not come to it. -/
structure Recorded (id : Nat) (marked : Time) (attempts : Int) (s : TimedSpool) : Prop where
  assigned : id ≤ s.db.seq
  row : ∀ row ∈ s.db.rows.rows, row.id = id → row.attempts = attempts ∧ row.lastAttemptAt = some (toSql marked)
  pending : ∀ c ∈ pendingOf s.call, c.id = id → c.attempts = attempts ∧ c.lastAttemptAt = some (toSql marked)
  unsettled : ∀ started current outcome message rest stats,
    s.call = some (.settle started current outcome message rest stats) → current.id ≠ id

section Invariants

variable {cfg : Config} {s after : TimedSpool} {step : Time × SpoolAction}

/-- Going on to the next send of a batch. -/
theorem orderly_nextSend {db : SpoolDB} {started now : Time} {stats : DrainStats} {batch : List Candidate}
    (distinct : (batch.map Candidate.id).Nodup) (past : started ≤ now) :
    Orderly cfg ⟨db, ongoing (SpoolCall.nextSend cfg started stats batch), now⟩ := by
  refine ⟨distinct.sublist ((pendingOf_nextSend cfg started stats batch).sublist.map _), ?_, ?_⟩
  · intro reading member
    rw [startedAt_nextSend cfg started stats batch reading member]
    exact past
  · intro reading current rest tally sending
    rcases nextSend_cases cfg started stats batch with
      ⟨_, ended, _⟩ | ⟨_, _, _, _, _, _, ready, sends⟩
    · rw [ended] at sending
      cases sending
    · rw [sends] at sending
      cases sending
      exact ready

private theorem orderly_of_noBatch (noBatch : pendingOf s.call = []) : Orderly cfg s := by
  have unstarted := startedAt_of_noBatch noBatch
  refine ⟨?_, fun now member => ?_, fun now current rest stats sending => ?_⟩
  · rw [noBatch]
    exact List.nodup_nil
  · rw [unstarted] at member
    cases member
  · rw [sending] at unstarted
    cases unstarted

private theorem orderly_step (orderly : Orderly cfg s) (stepped : timedNext cfg s step = some after) :
    Orderly cfg after := by
  obtain ⟨distinct, started, ready⟩ := orderly
  cases timedNext_effect stepped with
  | quiet later unstated outside noBatch => exact orderly_of_noBatch noBatch
  | answered later sending =>
    rw [sending] at distinct started
    refine ⟨distinct, fun now member => Int.le_trans (started now member) later, fun _ _ _ _ other => ?_⟩
    cases other
  | stated later current effect =>
    cases effect with
    | selected =>
      refine orderly_nextSend ?_ (Int.le_refl _)
      rw [List.map_map]
      exact (SpoolDB.oldestFirst_ids s.db).sublist ((batchOf_sublist cfg s.db).map SpoolRow.id)
    | settled =>
      rw [current] at distinct started
      exact orderly_nextSend (List.nodup_cons.mp distinct).2 (Int.le_trans (started _ rfl) later)
    | other unselected none noBatch rows sequence => exact orderly_of_noBatch noBatch

/-- Going on to the next send of a batch whose rows are as recorded. -/
theorem recorded_nextSend {id : Nat} {marked started now : Time} {attempts : Int} {db : SpoolDB} {stats : DrainStats}
    {batch : List Candidate} (assigned : id ≤ db.seq)
    (row : ∀ row ∈ db.rows.rows, row.id = id → row.attempts = attempts ∧ row.lastAttemptAt = some (toSql marked))
    (pending : ∀ c ∈ batch, c.id = id → c.attempts = attempts ∧ c.lastAttemptAt = some (toSql marked)) :
    Recorded id marked attempts ⟨db, ongoing (SpoolCall.nextSend cfg started stats batch), now⟩ := by
  refine ⟨assigned, row, fun c member => pending c ((pendingOf_nextSend cfg started stats batch).subset member), ?_⟩
  intro reading current outcome message rest tally settling
  rcases nextSend_cases cfg started stats batch with
    ⟨_, ended, _⟩ | ⟨_, _, _, _, _, _, _, sends⟩
  · rw [ended] at settling
    cases settling
  · rw [sends] at settling
    cases settling

private theorem recorded_of_noBatch {id : Nat} {marked : Time} {attempts : Int} (assigned : id ≤ s.db.seq)
    (row : ∀ row ∈ s.db.rows.rows, row.id = id → row.attempts = attempts ∧ row.lastAttemptAt = some (toSql marked))
    (noBatch : pendingOf s.call = []) : Recorded id marked attempts s := by
  refine ⟨assigned, row, fun c member => ?_, fun started current outcome message rest stats settling => ?_⟩
  · rw [noBatch] at member
    cases member
  · rw [settling] at noBatch
    cases noBatch

/-- The record starts with `markFailure`: the rest of that batch does not hold the row. -/
theorem recorded_start {id : Nat} {now : Time} {attempts : Int} (orderly : Orderly cfg s)
    (failed : MarksFailure cfg s now after id attempts) : Recorded id now attempts after := by
  obtain ⟨⟨started, current, outcome, message, rest, stats, settling, named, refused⟩, stepped, marked⟩ := failed
  obtain ⟨row, present, isRow, attempted⟩ := marked
  have distinct := orderly.distinct
  rw [settling] at distinct
  have absent := (List.nodup_cons.mp distinct).1
  cases timedNext_effect stepped with
  | quiet later unstated outside noBatch => exact absurd rfl unstated
  | stated later running effect =>
    cases settling.symm.trans running
    cases effect with
    | other unselected none noBatch rows sequence => cases none
    | settled =>
      refine recorded_nextSend ?_ (fun other stored same => ?_) (fun c member same => ?_)
      · exact isRow ▸ SpoolDB.sequenced _ row present
      · have only : other = row := Keyed.Table.eq_of_key stored present (same.trans isRow.symm)
        subst other
        refine ⟨attempted, ?_⟩
        rcases mem_applyOutcome.mp stored with ⟨_, different⟩ | ⟨_, old, _, _, rfl⟩
        · exact absurd (same.trans named.symm) different
        · rfl
      · exact absurd (List.mem_map.mpr ⟨c, member, same.trans named.symm⟩) absent

private theorem recorded_step {id : Nat} {marked : Time} {attempts : Int} (recorded : Recorded id marked attempts s)
    (unsent : ¬ SendsRow id s) (stepped : timedNext cfg s step = some after) : Recorded id marked attempts after := by
  obtain ⟨assigned, row, pending, unsettled⟩ := recorded
  cases timedNext_effect stepped with
  | quiet later unstated outside noBatch => exact recorded_of_noBatch assigned row noBatch
  | answered later sending =>
    rw [sending] at pending
    refine ⟨assigned, row, pending, fun _ _ _ _ _ _ settling same => ?_⟩
    cases settling
    exact unsent (sendsRow_iff.mpr ⟨_, _, _, _, sending, same⟩)
  | stated later current effect =>
    cases effect with
    | selected =>
      refine recorded_nextSend assigned row (fun c member named => ?_)
      obtain ⟨old, selected, rfl⟩ := List.mem_map.mp member
      exact row old (SpoolDB.mem_oldestFirst.mp ((batchOf_sublist cfg s.db).subset selected)) named
    | @settled started target outcome message rest stats tally =>
      have other := unsettled started target outcome message rest stats current
      rw [current] at pending
      refine recorded_nextSend ?_ (fun old present named => ?_)
        (fun c member => pending c (List.mem_cons_of_mem target member))
      · exact Nat.le_trans assigned (Nat.le_of_eq (seq_applyOutcome s.db target.id _ message outcome).symm)
      · rcases mem_applyOutcome.mp present with ⟨kept, _⟩ | ⟨_, older, _, same, rfl⟩
        · exact row old kept named
        · exact absurd (same.symm.trans named) other
    | other unselected none noBatch rows sequence =>
      refine recorded_of_noBatch (Nat.le_trans assigned sequence) (fun old present named => ?_) noBatch
      rcases rows old present with kept | new
      · exact row old kept named
      · exact absurd named (Nat.ne_of_gt (Nat.lt_of_le_of_lt assigned new))

/-- A row is sent only once its recorded backoff is over by the clock of its `Drain`. -/
theorem send_after_backoff {id : Nat} {marked : Time} {attempts : Int} (orderly : Orderly cfg s)
    (recorded : Recorded id marked attempts s) (sending : SendsRow id s) :
    toSql marked * second + backoff attempts cfg.backoffBase cfg.backoffMax ≤ s.clock := by
  obtain ⟨now, current, rest, stats, call, named⟩ := sendsRow_iff.mp sending
  have past : now ≤ s.clock := orderly.started now (by rw [call]; rfl)
  obtain ⟨tried, last⟩ := recorded.pending current (by rw [call]; exact List.mem_cons_self) named
  have ready := orderly.ready now current rest stats call
  simp only [SpoolCall.waits, tried, last, Option.any_some, decide_eq_false_iff_not, gt_iff_lt, Int.not_lt] at ready
  exact Int.le_trans ready past

/-- The call is sending the row, or its batch holds the row outside its backoff. -/
def StillToSend (cfg : Config) (id : Nat) (now : Time) (s : TimedSpool) : Prop :=
  startedAt s.call = some now ∧
    (SendsRow id s ∨ ∃ c ∈ (pendingOf s.call).tail, c.id = id ∧ SpoolCall.waits cfg now c = false)

private theorem stillToSend_nextSend {id : Nat} {started now : Time} {db : SpoolDB} {stats : DrainStats}
    {batch : List Candidate} {c : Candidate} (held : c ∈ batch) (named : c.id = id)
    (ready : SpoolCall.waits cfg started c = false) :
    StillToSend cfg id started ⟨db, ongoing (SpoolCall.nextSend cfg started stats batch), now⟩ := by
  rcases nextSend_cases cfg started stats batch with
    ⟨_, _, all⟩ | ⟨skipped, current, rest, tally, split, waiting, _, sends⟩
  · rw [all c held] at ready
    cases ready
  · rw [sends]
    refine ⟨rfl, ?_⟩
    rw [split] at held
    rcases List.mem_append.mp held with before | after
    · rw [waiting c before] at ready
      cases ready
    · rcases List.mem_cons.mp after with rfl | later
      · exact Or.inl named
      · exact Or.inr ⟨c, later, named, ready⟩

private theorem stillToSend_step {id : Nat} {now : Time} (still : StillToSend cfg id now s) (unsent : ¬ SendsRow id s)
    (own : step.2.ofCall = true) (stepped : timedNext cfg s step = some after) : StillToSend cfg id now after := by
  obtain ⟨reading, waiting⟩ := still
  obtain ⟨c, held, named, ready⟩ := waiting.resolve_left unsent
  cases timedNext_effect stepped with
  | quiet later unstated outside noBatch =>
    rcases outside with rfl | none
    · cases own
    · rw [startedAt_of_noBatch none] at reading
      cases reading
  | answered later sending =>
    rw [sending] at reading held
    exact ⟨reading, Or.inr ⟨c, held, named, ready⟩⟩
  | stated later current effect =>
    rw [current] at reading held
    cases effect with
    | selected => cases reading
    | other unselected none noBatch rows sequence =>
      rw [startedAt_of_noBatch none] at reading
      cases reading
    | settled =>
      cases reading
      exact stillToSend_nextSend held named ready

/-- A batch that still holds a row outside its backoff does not end without sending it. -/
theorem pending_row_sent {id : Nat} {now : Time} {pass : List (Time × SpoolAction)} {done : TimedSpool}
    (still : StillToSend cfg id now s) (run : exec (timedNext cfg) s pass = some done)
    (own : ∀ step ∈ pass, step.2.ofCall = true) (returned : done.call = none) :
    ∃ sooner middle, sooner <+: pass ∧ exec (timedNext cfg) s sooner = some middle ∧ SendsRow id middle := by
  induction pass generalizing s with
  | nil =>
    cases run
    have reading := still.1
    rw [returned] at reading
    cases reading
  | cons first rest ih =>
    by_cases sending : SendsRow id s
    · exact ⟨[], s, List.nil_prefix, rfl, sending⟩
    obtain ⟨next, stepped, run⟩ := Option.bind_eq_some_iff.mp run
    obtain ⟨ownFirst, ownRest⟩ := List.forall_mem_cons.mp own
    obtain ⟨sooner, middle, early, reached, sends⟩ :=
      ih (stillToSend_step still sending ownFirst stepped) run ownRest
    refine ⟨first :: sooner, middle, List.cons_prefix_cons.mpr ⟨rfl, early⟩, ?_, sends⟩
    simp only [exec, stepped, Option.bind_some]
    exact reached

end Invariants

/-- After a failure recorded at `marked` with `attempts` attempts, the row's next send
starts later than one second before the end of its backoff, and a `Drain` that reads its
clock at or after the end and has the row in its batch sends it before it returns. -/
theorem retry_spacing (cfg : Config) (db : SpoolDB) (start : Time) (past later : List (Time × SpoolAction))
    (before after final : TimedSpool) (id : Nat) (marked : Time) (attempts : Int)
    (earlier : exec (timedNext cfg) ⟨db, none, start⟩ past = some before)
    (failed : MarksFailure cfg before marked after id attempts)
    (run : exec (timedNext cfg) after later = some final)
    (unsent : Along (timedNext cfg) (fun s _ => ¬ SendsRow id s) after later) :
    (∀ time, final.clock ≤ time → SendsRow id final →
      marked + backoff attempts cfg.backoffBase cfg.backoffMax - second < time) ∧
    ∀ now pass done, final.call = some drain → id ∈ (batchOf cfg final.db).map SpoolRow.id →
      marked + backoff attempts cfg.backoffBase cfg.backoffMax ≤ now →
      exec (timedNext cfg) final ((now, .statement) :: pass) = some done →
      (∀ step ∈ pass, step.2.ofCall = true) → done.call = none →
      ∃ sooner middle, sooner <+: pass ∧
        exec (timedNext cfg) final ((now, .statement) :: sooner) = some middle ∧ SendsRow id middle := by
  have orderly : Orderly cfg before :=
    exec_invariant (Orderly cfg) (orderly_of_noBatch rfl) (fun _ _ _ held stepped => orderly_step held stepped) earlier
  have both : Orderly cfg final ∧ Recorded id marked attempts final := by
    refine exec_invariant_along (fun s => Orderly cfg s ∧ Recorded id marked attempts s)
      ⟨orderly_step orderly failed.stepped, recorded_start orderly failed⟩ ?_ unsent run
    intro s step next ⟨ordered, recorded⟩ unsent stepped
    exact ⟨orderly_step ordered stepped, recorded_step recorded unsent stepped⟩
  obtain ⟨ordered, recorded⟩ := both
  constructor
  · intro time starts sending
    exact window_end_lt (Int.le_trans (send_after_backoff ordered recorded sending) starts)
  · intro now pass done selecting selected ended run own returned
    obtain ⟨row, chosen, named⟩ := List.mem_map.mp selected
    have stored := SpoolDB.mem_oldestFirst.mp ((batchOf_sublist cfg final.db).subset chosen)
    obtain ⟨tried, last⟩ := recorded.row row stored named
    have ready : SpoolCall.waits cfg now row.candidate = false := by
      simp only [SpoolCall.waits, SpoolRow.candidate, tried, last, Option.any_some, decide_eq_false_iff_not,
        gt_iff_lt, Int.not_lt]
      exact window_end_le ended
    obtain ⟨next, stepped, rest⟩ := Option.bind_eq_some_iff.mp run
    have still : StillToSend cfg id now next := by
      cases timedNext_effect stepped with
      | quiet later unstated outside noBatch => exact absurd rfl unstated
      | stated later current effect =>
        cases selecting.symm.trans current
        cases effect with
        | other unselected none noBatch rows sequence => exact absurd rfl unselected
        | selected => exact stillToSend_nextSend (List.mem_map_of_mem chosen) named ready
    obtain ⟨sooner, middle, early, reached, sends⟩ := pending_row_sent still rest own returned
    refine ⟨sooner, middle, early, ?_, sends⟩
    simp only [exec, stepped, Option.bind_some]
    exact reached

/-- The first of two runs is sent and its answer is a transient failure. -/
def firstSendFails : List (Time × SpoolAction) :=
  [(second, .drain), (second, .statement), (second, .sent .transientFail (lit "503"))]

/-- The same pass to its return, and the start of the next. -/
def nextPass : List (Time × SpoolAction) :=
  [(2 * second, .sent .accepted []), (2 * second, .statement), (2 * second, .measured 65536),
    (2 * second, .statement), (2 * second, .statement), (2 * second, .drain)]

/-- The next pass sends the row and returns. -/
def resend : List (Time × SpoolAction) :=
  [(4 * second, .sent .accepted []), (4 * second, .statement), (4 * second, .measured 65536),
    (4 * second, .statement), (4 * second, .statement)]

/-- A failure recorded 1.5 s into the day has a backoff of 2 s; the pass at 4 s retries. -/
theorem retried_after_backoff :
    ∃ before after final, exec (timedNext (sizeBound 1048576)) ⟨twoRuns, none, 0⟩ firstSendFails = some before ∧
      timedNext (sizeBound 1048576) before (1500 * millisecond, .statement) = some after ∧
      exec (timedNext (sizeBound 1048576)) after nextPass = some final ∧
      ∃ sooner middle, sooner <+: resend ∧
        exec (timedNext (sizeBound 1048576)) final ((4 * second, .statement) :: sooner) = some middle ∧
        SendsRow 1 middle := by
  refine ⟨_, _, _, rfl, rfl, rfl, ?_⟩
  have spacing := retry_spacing (sizeBound 1048576) twoRuns 0 firstSendFails nextPass _ _ _ 1 (1500 * millisecond) 1
    rfl ⟨⟨_, _, _, _, _, _, rfl, rfl, (by simp)⟩, rfl, ⟨_, List.mem_cons_self, rfl, rfl⟩⟩ rfl (by decide)
  exact spacing.2 (4 * second) resend _ rfl (by decide) (by decide) rfl (by decide) rfl

end NetLatencyMonitor.Spool
