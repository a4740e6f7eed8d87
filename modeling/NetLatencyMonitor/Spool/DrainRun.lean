import NetLatencyMonitor.Spool.CallRun

/-! One `Drain` that has the spool to itself, from its first statement to its return. The
sender's answers, the footprints and the instants come from outside. -/

namespace NetLatencyMonitor.Spool

open Clock Machine Text

/-- Never attempted, or the last attempt plus its backoff is not after the clock. -/
def eligible (cfg : Config) (now : Time) (row : SpoolRow) : Bool :=
  row.lastAttemptAt.all (fun last =>
    decide (last * second + backoff row.attempts cfg.backoffBase cfg.backoffMax ≤ now))

private theorem waits_candidate (cfg : Config) (now : Time) (row : SpoolRow) :
    SpoolCall.waits cfg now row.candidate = !eligible cfg now row := by
  cases attempted : row.lastAttemptAt with
  | none => simp [SpoolCall.waits, eligible, SpoolRow.candidate, attempted]
  | some last => simp [SpoolCall.waits, eligible, SpoolRow.candidate, attempted, ← decide_not]

/-- The rows `Drain` selects. -/
def batchOf (cfg : Config) (db : SpoolDB) : List SpoolRow := SpoolDB.limit db.oldestFirst cfg.drainRows

theorem batchOf_sublist (cfg : Config) (db : SpoolDB) : (batchOf cfg db).Sublist db.oldestFirst := by
  unfold batchOf SpoolDB.limit
  split
  · exact List.Sublist.refl _
  · exact List.take_sublist _ _

section Drain

variable {cfg : Config} {db after : SpoolDB} {inputs : List CallInput} {stats : DrainStats}

/-- A `Drain` that returns: at the instant of its clock reading it decides which rows of
the batch to send, it settles each of them, and then it enforces retention. -/
structure DrainedRun (cfg : Config) (db : SpoolDB) (inputs : List CallInput) (after : SpoolDB) (stats : DrainStats)
    (now : Time) (settled : List Settlement) : Prop where
  clock : inputs.head? = some (.statement now)
  rows : settled.map Settlement.candidate = ((batchOf cfg db).filter (eligible cfg now)).map SpoolRow.candidate
  calls : sends cfg (db, drain) inputs = settled.map Settlement.send
  tallied : Tallied { considered := (batchOf cfg db).length }
    ((batchOf cfg db).countP (fun row => !eligible cfg now row)) settled { stats with dropped := 0 }
  retained : ∃ reading fuel, enforceRetention cfg reading fuel (settled.foldl settle db) = some (after, stats.dropped)

theorem drain_run (run : exec (callNext cfg) (db, drain) inputs = some (after, .drained stats)) :
    ∃ now settled, DrainedRun cfg db inputs after stats now settled := by
  obtain ⟨now, _, rest, rfl, stepped, run, first⟩ := statement_run run rfl (fun _ _ => rfl) (fun _ => rfl)
  cases stepped
  obtain ⟨settled, middle, more, rows, second, tallied, run⟩ := batch_run run
  obtain ⟨reading, fuel, returned, same, none⟩ := retention_run run
  have undropped : middle.dropped = 0 := tallied.dropped
  have middling : { stats with dropped := 0 } = middle := by
    rw [same, ← undropped]
  refine ⟨now, settled, rfl, ?_, ?_, ?_, reading, fuel, ?_⟩
  · rw [rows, List.filter_map]
    congr 2
    funext row
    simp [waits_candidate]
  · rw [first, second, none, List.append_nil]
  · rw [middling]
    rw [List.length_map, List.countP_map] at tallied
    have same : (SpoolCall.waits cfg now ∘ SpoolRow.candidate) = fun row => !eligible cfg now row := by
      funext row
      exact waits_candidate cfg now row
    rw [same] at tallied
    exact tallied
  · rw [undropped] at returned
    exact returned

/-- Every outcome is one of three. -/
theorem length_eq_outcomes (settled : List Settlement) :
    settled.length = settled.countP (fun s => s.outcome == .accepted) +
      settled.countP (fun s => s.outcome == .permanentFail) +
      settled.countP (fun s => s.outcome == .transientFail) := by
  induction settled with
  | nil => rfl
  | cons first rest ih =>
    simp only [List.countP_cons, List.length_cons]
    cases first.outcome <;> simp <;> omega

namespace DrainedRun

variable {now : Time} {settled : List Settlement} {row : SpoolRow}

theorem ids (drained : DrainedRun cfg db inputs after stats now settled) :
    settled.map Settlement.id = ((batchOf cfg db).filter (eligible cfg now)).map SpoolRow.id := by
  have rows := congrArg (List.map Candidate.id) drained.rows
  rw [List.map_map, List.map_map] at rows
  exact rows

theorem sublist (cfg : Config) (db : SpoolDB) (now : Time) :
    ((batchOf cfg db).filter (eligible cfg now)).Sublist db.oldestFirst :=
  List.filter_sublist.trans (batchOf_sublist cfg db)

theorem distinct (drained : DrainedRun cfg db inputs after stats now settled) :
    (settled.map Settlement.id).Nodup := by
  rw [drained.ids]
  exact (SpoolDB.oldestFirst_ids db).sublist ((sublist cfg db now).map SpoolRow.id)

theorem considered (drained : DrainedRun cfg db inputs after stats now settled) :
    stats.considered = stats.skipped + stats.accepted + stats.permanent + stats.transient := by
  obtain ⟨considered, skipped, accepted, permanent, transient, _⟩ := drained.tallied
  have length := congrArg List.length drained.ids
  rw [List.length_map, List.length_map, ← List.countP_eq_length_filter, length_eq_outcomes] at length
  have total := List.length_eq_countP_add_countP (eligible cfg now) (l := batchOf cfg db)
  simp only [Bool.not_eq_true, Bool.decide_eq_false] at total considered skipped accepted permanent transient
  omega

/-- A settled row was stored. -/
theorem stored (drained : DrainedRun cfg db inputs after stats now settled) {s : Settlement} (member : s ∈ settled) :
    ∃ row ∈ (batchOf cfg db).filter (eligible cfg now), row.id = s.id := by
  have named : s.id ∈ settled.map Settlement.id := List.mem_map_of_mem member
  rw [drained.ids] at named
  exact List.mem_map.mp named

theorem depth (drained : DrainedRun cfg db inputs after stats now settled) :
    (settled.foldl settle db).depth + stats.accepted = db.depth := by
  have accepted : stats.accepted = 0 + settled.countP (fun s => s.outcome == .accepted) := drained.tallied.accepted
  rw [accepted, Nat.zero_add]
  refine depth_settleAll drained.distinct (fun s member => ?_)
  obtain ⟨row, chosen, named⟩ := drained.stored member
  exact ⟨row, SpoolDB.mem_oldestFirst.mp ((sublist cfg db now).subset chosen), named⟩

/-- A row that was not sent is as before when retention begins. -/
theorem unsent (drained : DrainedRun cfg db inputs after stats now settled) (present : row ∈ db.rows.rows)
    (skipped : row ∉ (batchOf cfg db).filter (eligible cfg now)) :
    row ∈ (settled.foldl settle db).rows.rows := by
  refine (mem_settleAll drained.distinct).mpr (Or.inl ⟨present, fun s member same => ?_⟩)
  obtain ⟨other, chosen, named⟩ := drained.stored member
  have otherPresent := SpoolDB.mem_oldestFirst.mp ((sublist cfg db now).subset chosen)
  rw [Keyed.Table.eq_of_key otherPresent present (named.trans same)] at chosen
  exact skipped chosen

/-- A row whose send failed is marked when retention begins. -/
theorem failed (drained : DrainedRun cfg db inputs after stats now settled) (present : row ∈ db.rows.rows)
    {outcome : SendOutcome} (sent : (row.candidate, outcome) ∈ sends cfg (db, drain) inputs)
    (refused : outcome ≠ .accepted) :
    ∃ marked ∈ (settled.foldl settle db).rows.rows, marked.id = row.id ∧ marked.attempts = row.attempts + 1 ∧
      marked.payload = row.payload ∧ marked.probeRunID = row.probeRunID ∧ marked.enqueuedAt = row.enqueuedAt := by
  rw [drained.calls] at sent
  obtain ⟨s, member, same⟩ := List.mem_map.mp sent
  have named : s.candidate = row.candidate := congrArg Prod.fst same
  have answered : s.outcome = outcome := congrArg Prod.snd same
  refine ⟨SpoolDB.failedRow s.now s.message row, ?_, rfl, rfl, rfl, rfl, rfl⟩
  exact (mem_settleAll drained.distinct).mpr (Or.inr ⟨s, member, answered ▸ refused, row, present,
    (congrArg Candidate.id named).symm, rfl⟩)

end DrainedRun

end Drain

/-- A `Drain` that returns has sent, once each and oldest first, the rows of its batch
that are outside their backoff, and no others; its statistics add up; the rows it did not
send are as before and the rows whose send failed are marked once, but for those that
retention has dropped. -/
theorem drain_does_what_it_counts (cfg : Config) (db after : SpoolDB) (inputs : List CallInput) (stats : DrainStats)
    (positive : 0 < cfg.drainRows)
    (returned : exec (callNext cfg) (db, drain) inputs = some (after, .drained stats)) :
    ∃ now sent, inputs.head? = some (.statement now) ∧
      sent = (db.oldestFirst.take cfg.drainRows.toNat).filter (eligible cfg now) ∧
      (sends cfg (db, drain) inputs).map Prod.fst = sent.map SpoolRow.candidate ∧
      sent.Pairwise (fun left right => left.enqueuedAt ≤ right.enqueuedAt) ∧ (sent.map SpoolRow.id).Nodup ∧
      stats.considered = stats.skipped + stats.accepted + stats.permanent + stats.transient ∧
      stats.accepted = (sends cfg (db, drain) inputs).countP (fun send => send.2 == .accepted) ∧
      stats.permanent = (sends cfg (db, drain) inputs).countP (fun send => send.2 == .permanentFail) ∧
      stats.transient = (sends cfg (db, drain) inputs).countP (fun send => send.2 == .transientFail) ∧
      after.depth + stats.accepted + stats.dropped = db.depth ∧
      ∃ dropped : List SpoolRow, dropped.length = stats.dropped ∧
        (∀ row ∈ dropped, ∀ kept ∈ after.rows.rows, kept.id ≠ row.id) ∧
        (∀ row ∈ sent, ∀ outcome, (row.candidate, outcome) ∈ sends cfg (db, drain) inputs → outcome ≠ .accepted →
          ∃ marked, (marked ∈ dropped ∨ marked ∈ after.rows.rows) ∧ marked.id = row.id ∧
            marked.attempts = row.attempts + 1 ∧ marked.payload = row.payload ∧
            marked.probeRunID = row.probeRunID ∧ marked.enqueuedAt = row.enqueuedAt) ∧
        ∀ row ∈ db.rows.rows, row ∉ sent → row ∈ dropped ∨ row ∈ after.rows.rows := by
  obtain ⟨now, settled, drained⟩ := drain_run returned
  obtain ⟨reading, fuel, retained⟩ := drained.retained
  obtain ⟨_, least, trimmed⟩ := enforceRetention_least retained
  have batch : batchOf cfg db = db.oldestFirst.take cfg.drainRows.toNat := by
    unfold batchOf SpoolDB.limit
    rw [if_neg (Int.not_lt.mpr (Int.le_of_lt positive))]
  have tallied := drained.tallied
  have depth := drained.depth
  have bounded := dropped_le_depth least
  have countSends : ∀ outcome, (sends cfg (db, drain) inputs).countP (fun send => send.2 == outcome) =
      settled.countP (fun s => s.outcome == outcome) := by
    intro outcome
    rw [drained.calls, List.countP_map]
    rfl
  refine ⟨now, (batchOf cfg db).filter (eligible cfg now), drained.clock, by rw [batch], ?_, ?_, ?_,
    drained.considered, ?_, ?_, ?_, ?_, (settled.foldl settle db).oldestFirst.take stats.dropped, ?_, ?_, ?_, ?_⟩
  · rw [drained.calls, List.map_map, ← drained.rows]
    rfl
  · exact (Keyed.orderBy_sorted SpoolRow.enqueuedAt db.rows.rows).sublist (DrainedRun.sublist cfg db now)
  · exact (SpoolDB.oldestFirst_ids db).sublist ((DrainedRun.sublist cfg db now).map SpoolRow.id)
  · rw [countSends]
    exact tallied.accepted.trans (Nat.zero_add _)
  · rw [countSends]
    exact tallied.permanent.trans (Nat.zero_add _)
  · rw [countSends]
    exact tallied.transient.trans (Nat.zero_add _)
  · have left := trimmed.depth
    omega
  · rw [List.length_take, SpoolDB.length_oldestFirst, Nat.min_eq_left bounded]
  · intro row dropped kept present
    exact trimmed.dropped_gone dropped present
  · intro row chosen outcome sent refused
    have present := SpoolDB.mem_oldestFirst.mp ((DrainedRun.sublist cfg db now).subset chosen)
    obtain ⟨marked, stored, same⟩ := drained.failed present sent refused
    exact ⟨marked, trimmed.dropped_or_kept stored, same⟩
  · intro row present unsent
    exact trimmed.dropped_or_kept (drained.unsent present unsent)

/-- The older of two runs fails, the newer is accepted, and both bounds hold. -/
def failThenAccept : List CallInput :=
  [.statement (2 * second), .sent .transientFail (lit "503"), .statement (2 * second), .sent .accepted [],
    .statement (3 * second), .measured 65536, .statement (3 * second), .statement (3 * second)]

theorem two_runs_drained :
    ∃ after stats, exec (callNext (sizeBound 1048576)) (twoRuns, drain) failThenAccept =
        some (after, .drained stats) ∧ stats.transient = 1 ∧ stats.accepted = 1 ∧
      stats.considered = stats.skipped + stats.accepted + stats.permanent + stats.transient ∧
      after.depth + stats.accepted + stats.dropped = twoRuns.depth := by
  refine ⟨_, _, rfl, rfl, rfl, ?_⟩
  obtain ⟨_, _, _, _, _, _, _, considered, _, _, _, depth, _⟩ :=
    drain_does_what_it_counts (sizeBound 1048576) twoRuns _ failThenAccept _ (by decide) rfl
  exact ⟨considered, depth⟩

/-- A `Drain` that returns has sent an eligible row whenever there was one exactly when
there is one among the `DrainRows` oldest rows. -/
theorem eligible_row_sent_iff (cfg : Config) (db after : SpoolDB) (inputs : List CallInput) (stats : DrainStats)
    (now : Time) (clock : inputs.head? = some (.statement now))
    (returned : exec (callNext cfg) (db, drain) inputs = some (after, .drained stats)) :
    ((∃ row ∈ db.rows.rows, eligible cfg now row = true) →
      ∃ row ∈ db.rows.rows, eligible cfg now row = true ∧
        ∃ outcome, (row.candidate, outcome) ∈ sends cfg (db, drain) inputs) ↔
      ((∃ row ∈ db.rows.rows, eligible cfg now row = true) →
        ∃ row ∈ batchOf cfg db, eligible cfg now row = true) := by
  obtain ⟨reading, settled, drained⟩ := drain_run returned
  have same : now = reading := by
    have both := clock.symm.trans drained.clock
    cases both
    rfl
  subst reading
  have calls : (sends cfg (db, drain) inputs).map Prod.fst =
      ((batchOf cfg db).filter (eligible cfg now)).map SpoolRow.candidate := by
    rw [drained.calls, List.map_map, ← drained.rows]
    rfl
  refine imp_congr_right (fun _ => ?_)
  constructor
  · intro ⟨row, _, _, outcome, sent⟩
    have chosen := List.mem_map_of_mem (f := Prod.fst) sent
    rw [calls] at chosen
    obtain ⟨other, member, _⟩ := List.mem_map.mp chosen
    exact ⟨other, (List.mem_filter.mp member).1, (List.mem_filter.mp member).2⟩
  · intro ⟨row, selected, ready⟩
    have chosen : row.candidate ∈ (sends cfg (db, drain) inputs).map Prod.fst := by
      rw [calls]
      exact List.mem_map_of_mem (List.mem_filter.mpr ⟨selected, ready⟩)
    obtain ⟨⟨candidate, outcome⟩, sent, named⟩ := List.mem_map.mp chosen
    have stored := SpoolDB.mem_oldestFirst.mp ((batchOf_sublist cfg db).subset selected)
    exact ⟨row, stored, ready, outcome, named ▸ sent⟩

/-- The older run has failed three times, the newer has never been sent. -/
def stalledHead : SpoolDB where
  rows := ⟨[⟨1, 0, lit "run-1", lit "payload-1", 3, some 5, some (lit "422")⟩,
    ⟨2, 1, lit "run-2", lit "payload-2", 0, none, none⟩], by decide⟩
  seq := 2
  dropsTotal := 0
  lastDepth := 0
  lastOldestAgeSecs := 0
  lastDropsTotal := 0
  runsUnique := by decide
  sequenced := by decide

/-- One row a pass. -/
def oneRow : Config := { sizeBound 1048576 with drainRows := 1 }

/-- A pass that sends nothing. -/
def idlePass : List CallInput :=
  [.statement (10 * second), .measured 65536, .statement (10 * second), .statement (10 * second)]

/-- With two rows a pass, the newer run is in the batch and is sent. -/
theorem second_row_sent :
    ∃ after stats, exec (callNext (sizeBound 1048576)) (stalledHead, drain)
        [.statement (10 * second), .sent .accepted [], .statement (10 * second), .measured 65536,
          .statement (10 * second), .statement (10 * second)] = some (after, .drained stats) ∧
      ∃ row ∈ stalledHead.rows.rows, eligible (sizeBound 1048576) (10 * second) row = true ∧
        ∃ outcome, (row.candidate, outcome) ∈ sends (sizeBound 1048576) (stalledHead, drain)
          [.statement (10 * second), .sent .accepted [], .statement (10 * second), .measured 65536,
            .statement (10 * second), .statement (10 * second)] := by
  refine ⟨_, _, rfl, ?_⟩
  exact (eligible_row_sent_iff (sizeBound 1048576) stalledHead _ _ _ (10 * second) rfl rfl).mpr
    (by decide) (by decide)

/-- The older run, in backoff, fills the batch: the newer run, never attempted, is not sent. -/
theorem backoff_row_fills_batch :
    ¬ ∀ (cfg : Config) (db after : SpoolDB) (inputs : List CallInput) (stats : DrainStats) (now : Time),
      inputs.head? = some (.statement now) →
      exec (callNext cfg) (db, drain) inputs = some (after, .drained stats) →
      (∃ row ∈ db.rows.rows, eligible cfg now row = true) →
      ∃ row ∈ db.rows.rows, eligible cfg now row = true ∧
        ∃ outcome, (row.candidate, outcome) ∈ sends cfg (db, drain) inputs := by
  intro always
  obtain ⟨row, _, _, outcome, sent⟩ := always oneRow stalledHead _ idlePass _ (10 * second) rfl rfl (by decide)
  have none : sends oneRow (stalledHead, drain) idlePass = [] := by decide
  rw [none] at sent
  cases sent

end NetLatencyMonitor.Spool
