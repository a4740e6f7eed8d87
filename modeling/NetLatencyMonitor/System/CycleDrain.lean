import NetLatencyMonitor.Spool.DrainRun
import NetLatencyMonitor.System.PayloadContract

/-! `Spoke.Run` from its targets to its return, on a spool that no other process uses and
whose statements do not fail: enqueue, drain, save the snapshot for the next cycle. -/

namespace NetLatencyMonitor.System

open Agent Clock Machine Spool Text

structure CycleStats where
  probeRunID : GoString
  targets : Nat
  drain : DrainStats
deriving DecidableEq, Repr

/-- How a cycle ends. -/
inductive CycleEnd where
  | failed (error : SpokeError)
  | refused
  | finished (stats : CycleStats)
deriving DecidableEq, Repr

/-- Where a cycle stands after its probes. -/
inductive CyclePhase where
  | enqueuing (runID : GoString) (targets : Nat) (call : SpoolCall)
  | draining (runID : GoString) (targets : Nat) (call : SpoolCall)
  | saving (stats : CycleStats)
  | returned (result : CycleEnd)
deriving DecidableEq, Repr

/-- The cycle with its snapshot read from the spool. -/
def onSpool (cycle : Cycle) (db : SpoolDB) : Cycle := { cycle with spool := some db }

/-- The cycle up to its first spool statement that writes. An error of the target source
is only logged: the cycle goes on with the list that came with it. -/
def cycleStart (codec : JsonCodec) (cfg : AgentConfig) (cycle : Cycle) (db : SpoolDB) : CyclePhase :=
  match (onSpool cycle db).run codec cfg with
  | .error error => .returned (.failed error)
  | .ok (runID, payload) =>
    match enqueue runID payload with
    | none => .returned .refused
    | some call => .enqueuing runID cycle.targets.length call

/-- A duplicate run id is logged and ignored. -/
def afterEnqueue (runID : GoString) (targets : Nat) : SpoolCall → CyclePhase
  | .enqueued _ => .draining runID targets drain
  | call => .enqueuing runID targets call

def afterDrain (runID : GoString) (targets : Nat) : SpoolCall → CyclePhase
  | .drained stats => .saving ⟨runID, targets, stats⟩
  | call => .draining runID targets call

/-- `SaveDrainSnapshot` of what `Depth`, `OldestAge` and `DropsTotal` read after the drain;
the age in seconds is truncated toward zero. -/
def saveDrainSnapshot (db : SpoolDB) (now : Time) : SpoolDB :=
  { db with
    lastDepth := db.depth
    lastOldestAgeSecs := (oldestAge db now).tdiv second
    lastDropsTotal := db.dropsTotal }

def cycleNext (cfg : Config) (state : SpoolDB × CyclePhase) (input : CallInput) : Option (SpoolDB × CyclePhase) :=
  match state.2 with
  | .enqueuing runID targets call =>
    (callNext cfg (state.1, call) input).map (fun (db, next) => (db, afterEnqueue runID targets next))
  | .draining runID targets call =>
    (callNext cfg (state.1, call) input).map (fun (db, next) => (db, afterDrain runID targets next))
  | .saving stats =>
    match input with
    | .statement now => some (saveDrainSnapshot state.1 now, .returned (.finished stats))
    | _ => none
  | .returned _ => none

/-- The run contains a whole `Drain`, from its first statement to its return. -/
def PerformsDrain (cfg : Config) (start : SpoolDB × CyclePhase) (inputs : List CallInput) : Prop :=
  ∃ before during after runID targets db drained stats, inputs = before ++ during ++ after ∧
    exec (cycleNext cfg) start before = some (db, .draining runID targets drain) ∧
    exec (callNext cfg) (db, drain) during = some (drained, .drained stats)

section Run

variable {cfg : Config} {db final : SpoolDB} {runID : GoString} {targets : Nat} {call : SpoolCall}
  {inputs : List CallInput} {result : CycleEnd}

/-- A cycle in its drain returns only after the drain has. -/
theorem draining_run
    (run : exec (cycleNext cfg) (db, .draining runID targets call) inputs = some (final, .returned result))
    (unfinished : ∀ stats, call ≠ .drained stats) :
    ∃ during after drained stats, inputs = during ++ after ∧
      exec (callNext cfg) (db, call) during = some (drained, .drained stats) := by
  induction inputs generalizing db call with
  | nil => cases run
  | cons input rest ih =>
    obtain ⟨middle, stepped, run⟩ := Option.bind_eq_some_iff.mp run
    obtain ⟨⟨reached, next⟩, taken, rfl⟩ := Option.map_eq_some_iff.mp stepped
    by_cases ended : ∃ stats, next = .drained stats
    · obtain ⟨stats, rfl⟩ := ended
      exact ⟨[input], rest, reached, stats, rfl, by simp [exec, taken]⟩
    · have goesOn : ∀ stats, next ≠ .drained stats := fun stats same => ended ⟨stats, same⟩
      have same : afterDrain runID targets next = .draining runID targets next := by
        unfold afterDrain
        split
        · exact absurd rfl (goesOn _)
        · rfl
      have run : exec (cycleNext cfg) (reached, afterDrain runID targets next) rest = _ := run
      rw [same] at run
      obtain ⟨during, after, drained, stats, split, pass⟩ := ih run goesOn
      exact ⟨input :: during, after, drained, stats, by rw [split]; rfl, by simpa [exec, taken] using pass⟩

/-- A cycle at its enqueue comes to its drain, whether or not the run is a duplicate. -/
theorem enqueuing_run {payload : GoString}
    (run : exec (cycleNext cfg) (db, .enqueuing runID targets (.insert runID payload)) inputs =
      some (final, .returned result)) :
    ∃ input rest reached, inputs = input :: rest ∧
      cycleNext cfg (db, .enqueuing runID targets (.insert runID payload)) input =
        some (reached, .draining runID targets drain) ∧
      exec (cycleNext cfg) (reached, .draining runID targets drain) rest = some (final, .returned result) := by
  cases inputs with
  | nil => cases run
  | cons input rest =>
    obtain ⟨middle, stepped, run⟩ := Option.bind_eq_some_iff.mp run
    obtain ⟨⟨reached, next⟩, taken, rfl⟩ := Option.map_eq_some_iff.mp stepped
    have enqueued : ∃ duplicate, next = .enqueued duplicate := by
      cases input with
      | sent outcome message => cases taken
      | measured size => cases taken
      | statement now =>
        simp only [callNext, SpoolCall.statement] at taken
        split at taken
        · cases taken
          exact ⟨true, rfl⟩
        · cases taken
          exact ⟨false, rfl⟩
    obtain ⟨duplicate, rfl⟩ := enqueued
    exact ⟨input, rest, reached, rfl, stepped, run⟩

end Run

/-- There is a target, a run id and an encoded payload. -/
def Prepared (codec : JsonCodec) (agent : AgentConfig) (cycle : Cycle) : Prop :=
  cycle.targets ≠ [] ∧ ∃ uuid, cycle.newRunID = .ok uuid ∧
    (codec.marshal (cycle.request agent (uuidString uuid))).isSome = true

/-- The three exits before the enqueue are the only ones. -/
theorem run_cases (codec : JsonCodec) (agent : AgentConfig) (cycle : Cycle) :
    (Prepared codec agent cycle ∧ ∃ runID payload, cycle.run codec agent = .ok (runID, payload)) ∨
      (¬ Prepared codec agent cycle ∧ ∃ error, cycle.run codec agent = .error error) := by
  unfold Cycle.run Prepared
  by_cases targets : cycle.targets = []
  · exact Or.inr ⟨fun prepared => prepared.1 targets, .noTargets, if_pos targets⟩
  rw [if_neg targets]
  cases cycle.newRunID with
  | error text =>
    refine Or.inr ⟨fun ⟨_, _, generated, _⟩ => ?_, .runID text, rfl⟩
    cases generated
  | ok uuid =>
    cases encoded : codec.marshal (cycle.request agent (uuidString uuid)) with
    | none =>
      refine Or.inr ⟨fun ⟨_, other, generated, written⟩ => ?_, .encode, by simp only [encoded]⟩
      cases generated
      rw [encoded] at written
      cases written
    | some payload =>
      exact Or.inl ⟨⟨targets, uuid, rfl, by rw [encoded]; rfl⟩, uuidString uuid, payload, by simp only [encoded]⟩

theorem cycleStart_cases (codec : JsonCodec) (agent : AgentConfig) (cycle : Cycle) (db : SpoolDB) :
    (Prepared codec agent (onSpool cycle db) ∧ ∃ runID payload,
        cycleStart codec agent cycle db = .enqueuing runID cycle.targets.length (.insert runID payload)) ∨
      (¬ Prepared codec agent (onSpool cycle db) ∧ ∃ error,
        cycleStart codec agent cycle db = .returned (.failed error)) := by
  unfold cycleStart
  rcases run_cases codec agent (onSpool cycle db) with ⟨prepared, runID, payload, ran⟩ | ⟨ends, error, ran⟩
  · obtain ⟨_, run, _, encoded⟩ := Cycle.run_ok ran
    have body := codec.nonempty _ payload encoded
    refine Or.inl ⟨prepared, runID, payload, ?_⟩
    simp [ran, enqueue, run, body]
  · exact Or.inr ⟨ends, error, by simp only [ran]⟩

/-- A cycle that returns has drained exactly when it had a target, a run id and an
encoded payload. -/
theorem cycle_drains_iff (codec : JsonCodec) (agent : AgentConfig) (cfg : Config) (cycle : Cycle) (db final : SpoolDB)
    (inputs : List CallInput) (result : CycleEnd)
    (returned : exec (cycleNext cfg) (db, cycleStart codec agent cycle db) inputs = some (final, .returned result)) :
    PerformsDrain cfg (db, cycleStart codec agent cycle db) inputs ↔ Prepared codec agent (onSpool cycle db) := by
  rcases cycleStart_cases codec agent cycle db with ⟨prepared, runID, payload, start⟩ | ⟨ends, error, start⟩
  · rw [start] at returned ⊢
    refine ⟨fun _ => prepared, fun _ => ?_⟩
    obtain ⟨input, rest, reached, split, stepped, run⟩ := enqueuing_run returned
    obtain ⟨during, after, drained, stats, drains, pass⟩ := draining_run run (fun stats same => by cases same)
    refine ⟨[input], during, after, runID, cycle.targets.length, reached, drained, stats, ?_, ?_, pass⟩
    · rw [split, drains]
      rfl
    · simp [exec, stepped]
  · rw [start]
    constructor
    · rintro ⟨before, during, after, runID, targets, middle, drained, stats, split, reached, pass⟩
      cases before with
      | nil => cases reached
      | cons input rest => cases reached
    · exact fun prepared => absurd prepared ends

/-- A static cycle whose target source came back empty. -/
def noTargets : Cycle where
  targets := []
  newRunID := .ok (Vector.replicate 16 0)
  now := second
  outcome := fun _ => .error (lit "unreachable")
  finished := []
  spool := none
  waited := .refl _

/-- The enqueue, a pass that the controller accepts row by row, and the snapshot. -/
def wholeCycle : List CallInput :=
  [.statement second, .statement (2 * second), .sent .accepted [], .statement (2 * second), .sent .accepted [],
    .statement (2 * second), .sent .accepted [], .statement (2 * second), .measured 65536,
    .statement (2 * second), .statement (2 * second), .statement (2 * second)]

/-- With a target, the backlog of two runs goes out with the new one. -/
theorem backlog_drained_with_targets :
    ∃ final result, exec (cycleNext (sizeBound 1048576))
        (twoRuns, cycleStart plainCodec (spokeConfig (lit "spoke-1")) oneProbe twoRuns) wholeCycle =
          some (final, .returned result) ∧
      PerformsDrain (sizeBound 1048576)
        (twoRuns, cycleStart plainCodec (spokeConfig (lit "spoke-1")) oneProbe twoRuns) wholeCycle := by
  set_option maxRecDepth 8000 in
  refine ⟨_, _, rfl, ?_⟩
  refine (cycle_drains_iff plainCodec (spokeConfig (lit "spoke-1")) (sizeBound 1048576) oneProbe twoRuns _
    wholeCycle _ rfl).mpr ⟨by decide, _, rfl, ?_⟩
  decide

/-- A cycle without targets returns at once: the two spooled runs are not sent. -/
theorem no_targets_skips_drain :
    ¬ ∀ (codec : JsonCodec) (agent : AgentConfig) (cfg : Config) (cycle : Cycle) (db final : SpoolDB)
        (inputs : List CallInput) (result : CycleEnd),
      exec (cycleNext cfg) (db, cycleStart codec agent cycle db) inputs = some (final, .returned result) →
        PerformsDrain cfg (db, cycleStart codec agent cycle db) inputs := by
  intro always
  obtain ⟨before, during, after, runID, targets, db, drained, stats, split, reached, _⟩ :=
    always plainCodec (spokeConfig (lit "spoke-1")) (sizeBound 1048576) noTargets twoRuns _ [] _ rfl
  cases before with
  | nil => cases reached
  | cons input rest => cases split

end NetLatencyMonitor.System
