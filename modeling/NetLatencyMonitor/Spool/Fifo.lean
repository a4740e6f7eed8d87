import NetLatencyMonitor.Spool.DrainRun

/-! The spool as a queue: what an insert and a `Drain` do to the rows in the order of their
age. -/

namespace NetLatencyMonitor.Spool

open Clock Keyed Machine Text

/-- A backoff that has run out stays so. -/
theorem eligible_mono {cfg : Config} {earlier later : Time} {row : SpoolRow} (ready : eligible cfg earlier row = true)
    (ordered : earlier ≤ later) : eligible cfg later row = true := by
  unfold eligible at ready ⊢
  cases attempted : row.lastAttemptAt with
  | none => rfl
  | some last =>
    rw [attempted] at ready
    simp only [Option.all_some, decide_eq_true_eq] at ready ⊢
    exact Int.le_trans ready ordered

/-- The row a successful `Enqueue` stores. -/
def enqueuedRow (db : SpoolDB) (probeRunID payload : GoString) (now : Time) : SpoolRow :=
  { id := db.seq + 1, enqueuedAt := toSql now, probeRunID, payload }

/-- The newest row is the last. -/
theorem oldestFirst_insert {db after : SpoolDB} {probeRunID payload : GoString} {now : Time}
    (past : ∀ row ∈ db.rows.rows, row.enqueuedAt ≤ toSql now)
    (inserted : db.insert probeRunID payload now = some after) :
    after.oldestFirst = db.oldestFirst ++ [enqueuedRow db probeRunID payload now] := by
  unfold SpoolDB.insert at inserted
  split at inserted
  · cases inserted
  · cases inserted
    exact orderBy_concat SpoolRow.enqueuedAt past

section Settle

variable {db : SpoolDB} {settled : List Settlement}

private theorem dropsTotal_settleAll (db : SpoolDB) (settled : List Settlement) :
    (settled.foldl settle db).dropsTotal = db.dropsTotal := by
  induction settled generalizing db with
  | nil => rfl
  | cons first rest ih =>
    rw [List.foldl_cons, ih]
    unfold settle
    cases first.outcome with
    | accepted => rfl
    | permanentFail => rfl
    | transientFail => rfl

/-- Accepted rows leave the queue, the others keep their order. -/
theorem oldestFirst_settleAll (accepted : ∀ s ∈ settled, s.outcome = .accepted) :
    (settled.foldl settle db).oldestFirst =
      db.oldestFirst.filter (fun row => decide (row.id ∉ settled.map Settlement.id)) := by
  induction settled generalizing db with
  | nil => simp
  | cons first rest ih =>
    have one : (settle db first).oldestFirst = db.oldestFirst.filter (fun row => decide (row.id ≠ first.id)) := by
      unfold settle
      rw [accepted first List.mem_cons_self]
      exact SpoolDB.oldestFirst_deleteRow db first.id
    rw [List.foldl_cons, ih (fun s member => accepted s (List.mem_cons_of_mem first member)), one, List.filter_filter]
    refine List.filter_congr (fun row _ => ?_)
    simp [Bool.and_comm]

end Settle

/-- Without its first rows, a list of distinct ids is the rest. -/
theorem filter_not_taken {rows : List SpoolRow} (distinct : (rows.map SpoolRow.id).Nodup) (size : Nat) :
    rows.filter (fun row => decide (row.id ∉ (rows.take size).map SpoolRow.id)) = rows.drop size := by
  have ids := distinct
  rw [← List.take_append_drop size rows, List.map_append] at ids
  have apart := (List.nodup_append.mp ids).2.2
  conv_lhs => rw [← List.take_append_drop size rows]
  rw [List.filter_append, List.take_append_drop]
  have front : (rows.take size).filter (fun row => decide (row.id ∉ (rows.take size).map SpoolRow.id)) = [] := by
    rw [List.filter_eq_nil_iff]
    intro row member kept
    exact of_decide_eq_true kept (List.mem_map_of_mem member)
  have back : (rows.drop size).filter (fun row => decide (row.id ∉ (rows.take size).map SpoolRow.id)) =
      rows.drop size := by
    rw [List.filter_eq_self]
    intro row member
    refine decide_eq_true (fun taken => ?_)
    exact apart row.id taken row.id (List.mem_map_of_mem member) rfl
  rw [front, back, List.nil_append]

/-- A send takes its answer from the inputs. -/
theorem sent_of_mem_sends {cfg : Config} {state : SpoolDB × SpoolCall} {inputs : List CallInput}
    {candidate : Candidate} {outcome : SendOutcome} (member : (candidate, outcome) ∈ sends cfg state inputs) :
    ∃ message, .sent outcome message ∈ inputs := by
  induction inputs generalizing state with
  | nil => cases member
  | cons input rest ih =>
    unfold sends emitted at member
    rcases List.mem_append.mp member with here | later
    · unfold sendOf at here
      split at here
      · split at here
        · cases List.mem_singleton.mp here
          exact ⟨_, List.mem_cons_self⟩
        · cases here
      · cases here
    · cases stepped : callNext cfg state input with
      | none =>
        rw [stepped] at later
        cases later
      | some next =>
        rw [stepped] at later
        obtain ⟨message, present⟩ := ih later
        exact ⟨message, List.mem_cons_of_mem input present⟩

/-- Retention counts what it drops, whatever became of the sends. -/
theorem drain_drops {cfg : Config} {db drained : SpoolDB} {inputs : List CallInput} {stats : DrainStats}
    (run : exec (callNext cfg) (db, drain) inputs = some (drained, .drained stats)) :
    drained.dropsTotal = db.dropsTotal + stats.dropped := by
  obtain ⟨_, settled, pass⟩ := drain_run run
  obtain ⟨reading, fuel, retained⟩ := pass.retained
  obtain ⟨_, _, trimmed⟩ := enforceRetention_least retained
  rw [trimmed.drops, dropsTotal_settleAll]

/-- A `Drain` whose sends are all accepted, with no backoff open: the oldest rows go out in
the order of their age, and retention drops from the front of what is left. -/
theorem drain_online {cfg : Config} {db drained : SpoolDB} {inputs : List CallInput} {stats : DrainStats}
    {since : Time} (positive : 0 < cfg.drainRows)
    (run : exec (callNext cfg) (db, drain) inputs = some (drained, .drained stats))
    (online : ∀ outcome message, .sent outcome message ∈ inputs → outcome = .accepted)
    (ready : ∀ row ∈ db.rows.rows, eligible cfg since row = true)
    (later : ∀ now, .statement now ∈ inputs → since ≤ now) :
    drained.oldestFirst = (db.oldestFirst.drop cfg.drainRows.toNat).drop stats.dropped ∧
      sends cfg (db, drain) inputs =
        (db.oldestFirst.take cfg.drainRows.toNat).map (fun row => (row.candidate, .accepted)) := by
  obtain ⟨now, settled, pass⟩ := drain_run run
  obtain ⟨reading, fuel, retained⟩ := pass.retained
  obtain ⟨_, _, trimmed⟩ := enforceRetention_least retained
  have batch : batchOf cfg db = db.oldestFirst.take cfg.drainRows.toNat := by
    unfold batchOf SpoolDB.limit
    rw [if_neg (Int.not_lt.mpr (Int.le_of_lt positive))]
  have whole : (batchOf cfg db).filter (eligible cfg now) = db.oldestFirst.take cfg.drainRows.toNat := by
    rw [batch, List.filter_eq_self]
    intro row member
    refine eligible_mono (ready row ?_) (later now (List.mem_of_head? pass.clock))
    exact SpoolDB.mem_oldestFirst.mp ((List.take_sublist _ _).subset member)
  have accepted : ∀ s ∈ settled, s.outcome = .accepted := by
    intro s member
    have sent : (s.candidate, s.outcome) ∈ sends cfg (db, drain) inputs := by
      rw [pass.calls]
      exact List.mem_map_of_mem member
    obtain ⟨message, present⟩ := sent_of_mem_sends sent
    exact online s.outcome message present
  constructor
  · rw [trimmed.rows, oldestFirst_settleAll accepted, pass.ids, whole,
      filter_not_taken (SpoolDB.oldestFirst_ids db)]
  · have rows := pass.rows
    rw [whole] at rows
    have sent : settled.map Settlement.send = (settled.map Settlement.candidate).map (fun c => (c, .accepted)) := by
      rw [List.map_map]
      refine List.map_congr_left (fun s member => ?_)
      exact Prod.ext rfl (accepted s member)
    rw [pass.calls, sent, rows, List.map_map]
    rfl

end NetLatencyMonitor.Spool
