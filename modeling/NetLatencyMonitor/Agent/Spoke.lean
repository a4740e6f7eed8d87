import Mathlib.Algebra.Field.Rat
import NetLatencyMonitor.Agent.Config
import NetLatencyMonitor.Agent.Payload
import NetLatencyMonitor.Spool.Drain

/-! One cycle of the agent up to its enqueue: probe all targets at once, collect the
observations in input order, build and encode the payload. -/

namespace NetLatencyMonitor.Agent

open Clock Controller Spool Text

/-- What `Probe` returns: a round-trip time or the text of the dial error. -/
abbrev ProbeOutcome := Except GoString Duration

/-- The observation a goroutine of `RunProbes` writes. -/
def observation (t : Target) : ProbeOutcome → ResultObservation
  | .error text => { targetID := t.id, error := text }
  | .ok rtt => { targetID := t.id, latencyMs := some ((rtt : ℚ) / millisecond) }

/-- `RunProbes`, given what each dial returns and the order in which the goroutines
finish; each one writes its own slot. -/
def runProbes (targets : List Target) (outcome : Nat → ProbeOutcome) (finished : List Nat) :
    List ResultObservation :=
  finished.foldl (fun out i =>
    match targets[i]? with
    | none => out
    | some t => out.set i (observation t (outcome i))) (List.replicate targets.length { targetID := [] })

private theorem runProbes_concat (targets : List Target) (outcome : Nat → ProbeOutcome) (before : List Nat)
    (last : Nat) :
    runProbes targets outcome (before ++ [last]) =
      match targets[last]? with
      | none => runProbes targets outcome before
      | some t => (runProbes targets outcome before).set last (observation t (outcome last)) := by
  simp only [runProbes, List.foldl_append, List.foldl_cons, List.foldl_nil]

private theorem length_runProbes (targets : List Target) (outcome : Nat → ProbeOutcome) (finished : List Nat) :
    (runProbes targets outcome finished).length = targets.length := by
  induction finished using List.reverseRecOn with
  | nil => exact List.length_replicate
  | append_singleton before last ih =>
    rw [runProbes_concat]
    cases targets[last]? with
    | none => exact ih
    | some t => exact List.length_set.trans ih

/-- After some goroutines, their slots are written and the others as before. -/
theorem getElem?_runProbes (targets : List Target) (outcome : Nat → ProbeOutcome) (finished : List Nat)
    (slot : Nat) :
    (runProbes targets outcome finished)[slot]? =
      if slot ∈ finished then (targets[slot]?).map (fun t => observation t (outcome slot))
      else (List.replicate targets.length ({ targetID := [] } : ResultObservation))[slot]? := by
  induction finished using List.reverseRecOn with
  | nil => simp [runProbes]
  | append_singleton before last ih =>
    have size := length_runProbes targets outcome before
    rw [runProbes_concat]
    by_cases same : slot = last
    · subst slot
      cases found : targets[last]? with
      | none =>
        have outside : targets.length ≤ last := List.getElem?_eq_none_iff.mp found
        simp [size, outside]
      | some t =>
        have inside : last < targets.length := (List.getElem?_eq_some_iff.mp found).1
        simp [size, inside]
    · cases targets[last]? with
      | none => simp [ih, same]
      | some t => simp [ih, same, List.getElem?_set_ne (Ne.symm same)]

/-- The order in which the probes finish does not show. -/
theorem runProbes_eq {targets : List Target} {outcome : Nat → ProbeOutcome} {finished : List Nat}
    (all : finished.Perm (List.range targets.length)) :
    runProbes targets outcome finished = targets.mapIdx (fun i t => observation t (outcome i)) := by
  apply List.ext_getElem?
  intro slot
  rw [getElem?_runProbes, List.getElem?_mapIdx]
  by_cases inside : slot < targets.length
  · rw [if_pos (all.mem_iff.mpr (List.mem_range.mpr inside))]
  · have outside : targets[slot]? = none := List.getElem?_eq_none_iff.mpr (Nat.le_of_not_lt inside)
    have missing : slot ∉ finished := fun member => inside (List.mem_range.mp (all.mem_iff.mp member))
    rw [if_neg missing, outside]
    simpa using inside

/-- `DrainSnapshot`. -/
structure DrainSnapshot where
  depth : Int := 0
  oldestAgeSecs : Int := 0
  dropsTotal : Int := 0
deriving DecidableEq, Repr

/-- `LastDrainSnapshot`; its caller ignores an error, `none`, and goes on with zeros. -/
def lastDrainSnapshot : Option SpoolDB → DrainSnapshot
  | none => {}
  | some db => ⟨db.lastDepth, db.lastOldestAgeSecs, db.lastDropsTotal⟩

/-- What one cycle takes from outside. `wg.Wait` returns after every goroutine has
finished once. -/
structure Cycle where
  targets : List Target
  newRunID : Except GoString (Vector UInt8 16)
  now : Time
  outcome : Nat → ProbeOutcome
  finished : List Nat
  spool : Option SpoolDB
  waited : finished.Perm (List.range targets.length)

/-- The request of a cycle. -/
def Cycle.request (cycle : Cycle) (cfg : AgentConfig) (runID : GoString) : ResultsRequest where
  sourceID := cfg.nodeID
  probeRunID := runID
  observedAt := cycle.now
  results := runProbes cycle.targets cycle.outcome cycle.finished
  spoolMetadata := {
    spoolDepth := (lastDrainSnapshot cycle.spool).depth
    spoolOldestAgeSeconds := (lastDrainSnapshot cycle.spool).oldestAgeSecs
    spoolDropsTotal := (lastDrainSnapshot cycle.spool).dropsTotal
    drainAttempt := 1 }

/-- Why a cycle ends before its enqueue. -/
inductive SpokeError where
  | noTargets
  | runID (text : GoString)
  | encode
deriving DecidableEq, Repr

/-- `Spoke.Run` up to its enqueue: the run id and the payload. -/
def Cycle.run (codec : JsonCodec) (cfg : AgentConfig) (cycle : Cycle) :
    Except SpokeError (GoString × GoString) :=
  if cycle.targets = [] then .error .noTargets
  else match cycle.newRunID with
    | .error text => .error (.runID text)
    | .ok uuid =>
      match codec.marshal (cycle.request cfg (uuidString uuid)) with
      | none => .error .encode
      | some payload => .ok (uuidString uuid, payload)

section Run

variable {codec : JsonCodec} {cfg : AgentConfig} {cycle : Cycle} {runID payload : GoString}

/-- The run id of a finished cycle is a fresh UUID. -/
theorem Cycle.run_uuid (done : cycle.run codec cfg = .ok (runID, payload)) :
    ∃ uuid, uuidString uuid = runID := by
  unfold Cycle.run at done
  split at done
  · cases done
  · split at done
    · cases done
    · rename_i uuid generated
      split at done
      · cases done
      · cases done
        exact ⟨uuid, rfl⟩

theorem Cycle.run_ok (done : cycle.run codec cfg = .ok (runID, payload)) :
    cycle.targets ≠ [] ∧ runID ≠ [] ∧ validUTF8 runID = true ∧
      codec.marshal (cycle.request cfg runID) = some payload := by
  unfold Cycle.run at done
  split at done
  · cases done
  · rename_i probed
    split at done
    · cases done
    · split at done
      · cases done
      · rename_i encoded
        cases done
        exact ⟨probed, uuidString_ne_nil _, uuidString_valid _, encoded⟩

end Run

end NetLatencyMonitor.Agent
