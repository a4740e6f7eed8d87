import NetLatencyMonitor.Machine.BatchQueue
import NetLatencyMonitor.Spool.Fifo
import NetLatencyMonitor.System.CycleDrain

/-! How an agent catches up once the controller answers again. While every send is accepted
and no backoff is open, the spool is a queue: a cycle appends its own run and sends the
oldest `DrainRows` of what is there. -/

namespace NetLatencyMonitor.System

open Agent Clock Keyed Machine Spool Text

/-- One call of `Spoke.Run`: what it takes from outside, and what its statements and sends
come back with. -/
structure Pass where
  cycle : Cycle
  inputs : List CallInput

/-- The spool after a cycle that has come to its end. -/
def spokeNext (codec : JsonCodec) (agent : AgentConfig) (cfg : Config) (db : SpoolDB) (pass : Pass) :
    Option SpoolDB :=
  match exec (cycleNext cfg) (db, cycleStart codec agent pass.cycle db) pass.inputs with
  | some (after, .returned (.finished _)) => some after
  | _ => none

/-- The send a step of a cycle gets its answer to. -/
def cycleSendOf (state : SpoolDB × CyclePhase) (input : CallInput) : List (Candidate × SendOutcome) :=
  match state.2 with
  | .draining _ _ call => sendOf (state.1, call) input
  | _ => []

/-- The sends of a cycle, in order. -/
def passSends (codec : JsonCodec) (agent : AgentConfig) (cfg : Config) (db : SpoolDB) (pass : Pass) :
    List (Candidate × SendOutcome) :=
  emitted (cycleNext cfg) cycleSendOf (db, cycleStart codec agent pass.cycle db) pass.inputs

def CallInput.instant : CallInput → Option Time
  | .statement now => some now
  | _ => none

/-- The instants of a cycle's statements, in order. -/
def Pass.instants (pass : Pass) : List Time := pass.inputs.filterMap CallInput.instant

/-- The controller takes whatever the cycle sends. -/
def Pass.Online (pass : Pass) : Prop := ∀ outcome message, .sent outcome message ∈ pass.inputs → outcome = .accepted

/-- The run id the cycle has generated. -/
def Pass.runID (pass : Pass) : GoString :=
  match pass.cycle.newRunID with
  | .error _ => []
  | .ok uuid => uuidString uuid

section Cycle

variable {cfg : Config} {db final : SpoolDB} {runID : GoString} {targets : Nat} {call : SpoolCall}
  {inputs : List CallInput} {stats : CycleStats}

/-- The last step of a cycle. -/
theorem saving_run {saved : CycleStats}
    (run : exec (cycleNext cfg) (db, .saving saved) inputs = some (final, .returned (.finished stats))) :
    ∃ now, inputs = [.statement now] ∧ final = saveDrainSnapshot db now := by
  cases inputs with
  | nil => cases run
  | cons input rest =>
    obtain ⟨middle, stepped, run⟩ := Option.bind_eq_some_iff.mp run
    cases input with
    | sent outcome message => cases stepped
    | measured size => cases stepped
    | statement now =>
      cases stepped
      cases rest with
      | nil =>
        cases run
        exact ⟨now, rfl, rfl⟩
      | cons next others => cases run

/-- A cycle in its drain that comes to its end: the drain returns, and the snapshot is
saved. -/
theorem draining_finished
    (run : exec (cycleNext cfg) (db, .draining runID targets call) inputs = some (final, .returned (.finished stats)))
    (unfinished : ∀ stats, call ≠ .drained stats) :
    ∃ during saved drained drainStats, inputs = during ++ [.statement saved] ∧
      exec (callNext cfg) (db, call) during = some (drained, .drained drainStats) ∧
      final = saveDrainSnapshot drained saved ∧
      emitted (cycleNext cfg) cycleSendOf (db, .draining runID targets call) inputs = sends cfg (db, call) during := by
  induction inputs generalizing db call with
  | nil => cases run
  | cons input rest ih =>
    obtain ⟨middle, stepped, run⟩ := Option.bind_eq_some_iff.mp run
    obtain ⟨⟨reached, next⟩, taken, rfl⟩ := Option.map_eq_some_iff.mp stepped
    have first : ∀ later, emitted (cycleNext cfg) cycleSendOf (reached, afterDrain runID targets next) rest = later →
        emitted (cycleNext cfg) cycleSendOf (db, .draining runID targets call) (input :: rest) =
          sendOf (db, call) input ++ later := by
      rintro later rfl
      simp only [emitted, stepped, Option.map_some, Option.getD_some]
      rfl
    by_cases ended : ∃ drainStats, next = .drained drainStats
    · obtain ⟨drainStats, rfl⟩ := ended
      obtain ⟨now, rfl, saves⟩ := @saving_run _ _ _ _ _ ⟨runID, targets, drainStats⟩ run
      refine ⟨[input], now, reached, drainStats, rfl, by simp [exec, taken], saves, ?_⟩
      rw [first [] rfl]
      simp [sends, emitted, taken]
    · have goesOn : ∀ drainStats, next ≠ .drained drainStats := fun drainStats same => ended ⟨drainStats, same⟩
      have same : afterDrain runID targets next = .draining runID targets next := by
        unfold afterDrain
        split
        · exact absurd rfl (goesOn _)
        · rfl
      have run : exec (cycleNext cfg) (reached, afterDrain runID targets next) rest = _ := run
      rw [same] at run
      obtain ⟨during, saved, drained, drainStats, split, pass, saves, calls⟩ := ih run goesOn
      refine ⟨input :: during, saved, drained, drainStats, by rw [split]; rfl, by simpa [exec, taken] using pass,
        saves, ?_⟩
      have later : emitted (cycleNext cfg) cycleSendOf (reached, afterDrain runID targets next) rest =
          sends cfg (reached, next) during := by
        rw [same]
        exact calls
      rw [first _ later]
      simp only [sends, emitted, taken, Option.map_some, Option.getD_some]

end Cycle

/-! A cycle from its start to its end. -/

section Pass

variable {codec : JsonCodec} {agent : AgentConfig} {cfg : Config} {db after : SpoolDB} {pass : Pass}

/-- A cycle that comes to its end: it enqueues its run, drains and saves the snapshot. -/
structure PassRun (cfg : Config) (db : SpoolDB) (pass : Pass) (calls : List (Candidate × SendOutcome))
    (after : SpoolDB) (now saved : Time) (payload : GoString) (during : List CallInput) (drained : SpoolDB)
    (stats : DrainStats) : Prop where
  inputs : pass.inputs = .statement now :: (during ++ [.statement saved])
  drains : exec (callNext cfg) ((db.insert pass.runID payload now).getD db, drain) during =
    some (drained, .drained stats)
  saves : after = saveDrainSnapshot drained saved
  calls : calls = sends cfg ((db.insert pass.runID payload now).getD db, drain) during

private theorem cycleStart_runID {runID payload : GoString} {targets : Nat}
    (start : cycleStart codec agent pass.cycle db = .enqueuing runID targets (.insert runID payload)) :
    runID = pass.runID := by
  unfold cycleStart at start
  split at start
  · cases start
  · rename_i run payload ran
    split at start
    · cases start
    · cases start
      unfold Cycle.run at ran
      split at ran
      · cases ran
      · unfold Pass.runID
        split at ran
        · cases ran
        · rename_i uuid generated
          have generated : pass.cycle.newRunID = .ok uuid := generated
          rw [generated]
          split at ran
          · cases ran
          · cases ran
            rfl

private theorem spokeNext_run (step : spokeNext codec agent cfg db pass = some after) :
    ∃ now saved payload during drained stats,
      PassRun cfg db pass (passSends codec agent cfg db pass) after now saved payload during drained stats := by
  unfold spokeNext at step
  split at step
  · rename_i final stats run
    cases step
    rcases cycleStart_cases codec agent pass.cycle db with ⟨_, runID, payload, start⟩ | ⟨_, error, start⟩
    · obtain rfl := cycleStart_runID start
      rw [start] at run
      obtain ⟨input, rest, reached, split, stepped, draining⟩ := enqueuing_run run
      obtain ⟨during, saved, drained, drainStats, ends, drains, saves, calls⟩ :=
        draining_finished draining (fun stats same => by cases same)
      obtain ⟨now, rfl, inserted⟩ : ∃ now, input = .statement now ∧
          reached = (db.insert pass.runID payload now).getD db := by
        cases input with
        | sent outcome message => cases stepped
        | measured size => cases stepped
        | statement now =>
          refine ⟨now, rfl, ?_⟩
          simp only [cycleNext, callNext, SpoolCall.statement] at stepped
          cases stored : db.insert pass.runID payload now with
          | none =>
            rw [stored] at stepped
            cases stepped
            rfl
          | some inserted =>
            rw [stored] at stepped
            cases stepped
            rfl
      subst inserted
      refine ⟨now, saved, payload, during, drained, drainStats, ?_, drains, saves, ?_⟩
      · rw [split, ends]
      · unfold passSends
        rw [start, split]
        simp only [emitted, stepped, Option.map_some, Option.getD_some, calls]
        rfl
    · rw [start] at run
      cases inputs : pass.inputs with
      | nil =>
        rw [inputs] at run
        cases run
      | cons input rest =>
        rw [inputs] at run
        cases run
  · cases step

/-- What retention drops in a cycle is counted. -/
theorem spokeNext_drops (step : spokeNext codec agent cfg db pass = some after) :
    db.dropsTotal ≤ after.dropsTotal := by
  obtain ⟨now, saved, payload, during, drained, stats, run⟩ := spokeNext_run step
  have counted := drain_drops run.drains
  have saves : after.dropsTotal = drained.dropsTotal := by
    rw [run.saves]
    rfl
  have enqueued : ((db.insert pass.runID payload now).getD db).dropsTotal = db.dropsTotal := by
    cases stored : db.insert pass.runID payload now with
    | none => rfl
    | some inserted => exact (SpoolDB.depth_insert stored).2
  rw [saves, counted, enqueued]
  exact Int.le_add_of_nonneg_right (Int.natCast_nonneg _)

/-- The row of a cycle that meets no other row with its run id. -/
structure Appended (db : SpoolDB) (pass : Pass) (row : SpoolRow) : Prop where
  runID : row.probeRunID = pass.runID
  unsent : row.lastAttemptAt = none
  dated : ∃ now ∈ pass.instants, row.enqueuedAt = toSql now

private theorem instants_of_inputs {now : Time} (member : .statement now ∈ pass.inputs) : now ∈ pass.instants :=
  List.mem_filterMap.mpr ⟨.statement now, member, rfl⟩

/-- A cycle whose sends are accepted, when nothing is in backoff and nothing is dropped. -/
theorem spokeNext_online {since : Time} (positive : 0 < cfg.drainRows)
    (step : spokeNext codec agent cfg db pass = some after) (online : pass.Online)
    (later : ∀ now ∈ pass.instants, since ≤ now)
    (past : ∀ row ∈ db.rows.rows, row.enqueuedAt ≤ toSql since)
    (ready : ∀ row ∈ db.rows.rows, eligible cfg since row = true)
    (fresh : pass.runID ∉ db.rows.rows.map SpoolRow.probeRunID) (kept : after.dropsTotal = db.dropsTotal) :
    ∃ row, Appended db pass row ∧
      after.oldestFirst = batchLeft cfg.drainRows.toNat db.oldestFirst row ∧
      passSends codec agent cfg db pass =
        (batchServed cfg.drainRows.toNat db.oldestFirst row).map (fun row => (row.candidate, .accepted)) := by
  obtain ⟨now, saved, payload, during, drained, stats, run⟩ := spokeNext_run step
  have starts : now ∈ pass.instants := instants_of_inputs (by rw [run.inputs]; exact List.mem_cons_self)
  have within : ∀ input ∈ during, input ∈ pass.inputs := by
    intro input member
    rw [run.inputs]
    exact List.mem_cons_of_mem _ (List.mem_append_left _ member)
  obtain ⟨inserted, stored⟩ : ∃ inserted, db.insert pass.runID payload now = some inserted := by
    unfold SpoolDB.insert
    rw [dif_neg fresh]
    exact ⟨_, rfl⟩
  have order := oldestFirst_insert (fun row member => Int.le_trans (past row member) (toSql_mono (later now starts)))
    stored
  have drains := run.drains
  have calls := run.calls
  rw [stored, Option.getD_some] at drains calls
  have readyAll : ∀ row ∈ inserted.rows.rows, eligible cfg since row = true := by
    intro row member
    rw [← SpoolDB.mem_oldestFirst, order, List.mem_append, SpoolDB.mem_oldestFirst, List.mem_singleton] at member
    rcases member with old | rfl
    · exact ready row old
    · rfl
  obtain ⟨left, sent⟩ := drain_online positive drains
    (fun outcome message member => online outcome message (within _ member)) readyAll
    (fun instant member => later instant (instants_of_inputs (within _ member)))
  have undropped : stats.dropped = 0 := by
    have counted := drain_drops drains
    have enqueued := (SpoolDB.depth_insert stored).2
    rw [run.saves] at kept
    have same : drained.dropsTotal = db.dropsTotal := kept
    omega
  refine ⟨enqueuedRow db pass.runID payload now, ⟨rfl, rfl, now, starts, rfl⟩, ?_, ?_⟩
  · rw [run.saves]
    have saves : (saveDrainSnapshot drained saved).oldestFirst = drained.oldestFirst := rfl
    rw [saves, left, undropped, List.drop_zero, order]
    rfl
  · rw [calls, sent, order]
    rfl

end Pass

/-! A run of cycles. -/

section Run

variable {codec : JsonCodec} {agent : AgentConfig} {cfg : Config} {db final : SpoolDB} {passes : List Pass}

private theorem spoke_run_drops (run : exec (spokeNext codec agent cfg) db passes = some final) :
    db.dropsTotal ≤ final.dropsTotal := by
  refine exec_invariant (fun state => db.dropsTotal ≤ state.dropsTotal) (Int.le_refl _) ?_ run
  intro before pass after held step
  exact Int.le_trans held (spokeNext_drops step)

/-- All sends of a run of cycles. -/
def runSends (codec : JsonCodec) (agent : AgentConfig) (cfg : Config) (db : SpoolDB) (passes : List Pass) :
    List (Candidate × SendOutcome) :=
  emitted (spokeNext codec agent cfg) (passSends codec agent cfg) db passes

private theorem spoke_run_online {since : Time} (positive : 0 < cfg.drainRows)
    (run : exec (spokeNext codec agent cfg) db passes = some final) (online : ∀ pass ∈ passes, pass.Online)
    (ticking : (since :: passes.flatMap Pass.instants).Pairwise (· ≤ ·))
    (past : ∀ row ∈ db.rows.rows, row.enqueuedAt ≤ toSql since)
    (ready : ∀ row ∈ db.rows.rows, eligible cfg since row = true)
    (fresh : (db.oldestFirst.map SpoolRow.probeRunID ++ passes.map Pass.runID).Nodup)
    (kept : final.dropsTotal = db.dropsTotal) :
    ∃ arrivals : List SpoolRow, arrivals.map SpoolRow.probeRunID = passes.map Pass.runID ∧
      final.oldestFirst = leftAfter cfg.drainRows.toNat db.oldestFirst arrivals ∧
      runSends codec agent cfg db passes =
        (servedAll cfg.drainRows.toNat db.oldestFirst arrivals).map (fun row => (row.candidate, .accepted)) := by
  induction passes generalizing db since with
  | nil =>
    cases run
    exact ⟨[], rfl, rfl, rfl⟩
  | cons pass rest ih =>
    obtain ⟨middle, step, run⟩ := Option.bind_eq_some_iff.mp run
    have first := spokeNext_drops step
    have others := spoke_run_drops run
    have keptFirst : middle.dropsTotal = db.dropsTotal := by omega
    obtain ⟨sooner, ordered⟩ := List.pairwise_cons.mp ticking
    rw [List.flatMap_cons] at sooner ordered
    obtain ⟨_, laterOrdered, across⟩ := List.pairwise_append.mp ordered
    have notTaken : pass.runID ∉ db.rows.rows.map SpoolRow.probeRunID := by
      intro taken
      obtain ⟨row, member, same⟩ := List.mem_map.mp taken
      exact (List.nodup_append.mp fresh).2.2 _ (List.mem_map_of_mem (SpoolDB.mem_oldestFirst.mpr member)) _
        List.mem_cons_self same
    obtain ⟨row, ⟨named, unsent, now, reached, dated⟩, left, sent⟩ := spokeNext_online positive step
      (online pass List.mem_cons_self) (fun now member => sooner now (List.mem_append_left _ member)) past ready
      notTaken keptFirst
    have within : ∀ other ∈ middle.rows.rows, other ∈ db.rows.rows ∨ other = row := by
      intro other member
      have among : other ∈ db.oldestFirst ++ [row] := by
        rw [← SpoolDB.mem_oldestFirst, left] at member
        exact (List.drop_sublist _ _).subset member
      rw [List.mem_append, SpoolDB.mem_oldestFirst, List.mem_singleton] at among
      exact among
    have passed : since ≤ now := sooner now (List.mem_append_left _ reached)
    have tickingLater : (now :: rest.flatMap Pass.instants).Pairwise (· ≤ ·) :=
      List.pairwise_cons.mpr ⟨fun later member => across now reached later member, laterOrdered⟩
    have pastLater : ∀ other ∈ middle.rows.rows, other.enqueuedAt ≤ toSql now := by
      intro other member
      rcases within other member with old | rfl
      · exact Int.le_trans (past other old) (toSql_mono passed)
      · exact Int.le_of_eq dated
    have readyLater : ∀ other ∈ middle.rows.rows, eligible cfg now other = true := by
      intro other member
      rcases within other member with old | rfl
      · exact eligible_mono (ready other old) passed
      · unfold eligible
        rw [unsent]
        rfl
    have freshLater : (middle.oldestFirst.map SpoolRow.probeRunID ++ rest.map Pass.runID).Nodup := by
      have whole : ((db.oldestFirst ++ [row]).map SpoolRow.probeRunID ++ rest.map Pass.runID).Nodup := by
        rw [List.map_append, List.map_singleton, named, List.append_assoc]
        exact fresh
      rw [left]
      exact whole.sublist (((List.drop_sublist _ _).map _).append (List.Sublist.refl _))
    obtain ⟨arrivals, names, leftLater, sentLater⟩ := ih run
      (fun other member => online other (List.mem_cons_of_mem pass member)) tickingLater pastLater readyLater
      freshLater (by omega)
    refine ⟨row :: arrivals, ?_, ?_, ?_⟩
    · rw [List.map_cons, List.map_cons, named, names]
    · rw [leftLater, left]
      rfl
    · unfold runSends at sentLater ⊢
      rw [servedAll, List.map_append, ← left, ← sentLater, ← sent]
      simp only [emitted, step, Option.map_some, Option.getD_some]

/-- Each cycle adds its own run and sends a batch. -/
theorem spoke_run_depth {since : Time} (positive : 0 < cfg.drainRows)
    (run : exec (spokeNext codec agent cfg) db passes = some final) (online : ∀ pass ∈ passes, pass.Online)
    (ticking : (since :: passes.flatMap Pass.instants).Pairwise (· ≤ ·))
    (past : ∀ row ∈ db.rows.rows, row.enqueuedAt ≤ toSql since)
    (ready : ∀ row ∈ db.rows.rows, eligible cfg since row = true)
    (fresh : (db.oldestFirst.map SpoolRow.probeRunID ++ passes.map Pass.runID).Nodup)
    (kept : final.dropsTotal = db.dropsTotal) :
    final.depth = db.depth - passes.length * (cfg.drainRows.toNat - 1) := by
  obtain ⟨arrivals, names, left, _⟩ := spoke_run_online positive run online ticking past ready fresh kept
  have count := congrArg List.length names
  rw [List.length_map, List.length_map] at count
  have size : 0 < cfg.drainRows.toNat := by omega
  rw [← SpoolDB.length_oldestFirst, left, length_leftAfter size, count, SpoolDB.length_oldestFirst]

end Run

/-- Two rows a cycle. -/
def twoRows : Config := { sizeBound 1048576 with drainRows := 2 }

/-- A cycle on a backlog of two runs: both go out, its own run stays. -/
def recovering : Pass where
  cycle := oneProbe
  inputs := [.statement second, .statement (2 * second), .sent .accepted [], .statement (2 * second),
    .sent .accepted [], .statement (2 * second), .measured 65536, .statement (2 * second), .statement (2 * second),
    .statement (2 * second)]

theorem recovering_online : recovering.Online := by
  intro outcome message member
  simp only [recovering, List.mem_cons, List.not_mem_nil, reduceCtorEq, or_false, false_or,
    CallInput.sent.injEq] at member
  rcases member with ⟨rfl, _⟩ | ⟨rfl, _⟩
  · rfl
  · rfl

end NetLatencyMonitor.System
