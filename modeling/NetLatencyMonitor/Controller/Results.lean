import Mathlib.Data.Rat.Defs
import Mathlib.Algebra.Order.Ring.Rat
import NetLatencyMonitor.Controller.Nodes

/-! `POST /api/v1/results`: validation, the one-transaction write and the bookkeeping
after it. A `float64` is kept as a rational. -/

namespace NetLatencyMonitor.Controller

open Clock Keyed Text

structure ResultObservation where
  targetID : GoString
  latencyMs : Option ℚ := none
  error : GoString := []
deriving DecidableEq, Repr

structure SpoolMetadata where
  spoolDepth : Int := 0
  spoolOldestAgeSeconds : Int := 0
  spoolDropsTotal : Int := 0
  drainAttempt : Int := 0
deriving DecidableEq, Repr

/-- One probe cycle of one source. -/
structure ResultsRequest where
  sourceID : GoString
  probeRunID : GoString
  observedAt : Time
  results : List ResultObservation
  spoolMetadata : SpoolMetadata := {}
deriving DecidableEq, Repr

/-- Why `validateResultsRequest` refuses; the index is that of the observation. -/
inductive ResultsError where
  | sourceIDRequired
  | sourceIDMismatch
  | probeRunIDRequired
  | observedAtRequired
  | resultsEmpty
  | targetIDRequired (index : Nat)
  | duplicateTargetID (index : Nat) (targetID : GoString)
  | latencyOrErrorRequired (index : Nat)
  | latencyNegative (index : Nat)
deriving DecidableEq, Repr

/-- The error's message; `quote` is the verb `%q`. -/
def ResultsError.text (quote : GoString → GoString) : ResultsError → GoString
  | .sourceIDRequired => lit "source_id required"
  | .sourceIDMismatch => lit "source_id does not match authenticated node"
  | .probeRunIDRequired => lit "probe_run_id required"
  | .observedAtRequired => lit "observed_at required"
  | .resultsEmpty => lit "results must be non-empty"
  | .targetIDRequired index => lit "results[" ++ lit (toString index) ++ lit "].target_id required"
  | .duplicateTargetID index targetID =>
    lit "results[" ++ lit (toString index) ++ lit "]: duplicate target_id " ++ quote targetID
  | .latencyOrErrorRequired index =>
    lit "results[" ++ lit (toString index) ++ lit "]: latency_ms or error required"
  | .latencyNegative index =>
    lit "results[" ++ lit (toString index) ++ lit "]: latency_ms must be >= 0"

/-- The body of the loop over the observations. -/
def observationError (index : Nat) (seen : List GoString) (r : ResultObservation) : Option ResultsError :=
  if r.targetID = [] then some (.targetIDRequired index)
  else if r.targetID ∈ seen then some (.duplicateTargetID index r.targetID)
  else if r.latencyMs = none ∧ r.error = [] then some (.latencyOrErrorRequired index)
  else if r.latencyMs.any (fun latency => decide (latency < 0)) then some (.latencyNegative index)
  else none

/-- The loop, with the target ids seen so far. -/
def validateObservations : Nat → List GoString → List ResultObservation → Option ResultsError
  | _, _, [] => none
  | index, seen, r :: rest =>
    match observationError index seen r with
    | some error => some error
    | none => validateObservations (index + 1) (r.targetID :: seen) rest

/-- `validateResultsRequest`; `none` is success. -/
def validateResultsRequest (authNodeID : GoString) (req : ResultsRequest) : Option ResultsError :=
  if req.sourceID = [] then some .sourceIDRequired
  else if req.sourceID ≠ authNodeID then some .sourceIDMismatch
  else if req.probeRunID = [] then some .probeRunIDRequired
  else if req.observedAt = zeroTime then some .observedAtRequired
  else if req.results = [] then some .resultsEmpty
  else validateObservations 0 [] req.results

/-- An observation that carries a measurement or a reason why there is none. -/
def ResultObservation.Complete (r : ResultObservation) : Prop :=
  r.targetID ≠ [] ∧ (r.latencyMs ≠ none ∨ r.error ≠ []) ∧ ∀ latency, r.latencyMs = some latency → 0 ≤ latency

private theorem observationError_none_iff {index : Nat} {seen : List GoString} {r : ResultObservation} :
    observationError index seen r = none ↔ r.Complete ∧ r.targetID ∉ seen := by
  unfold observationError ResultObservation.Complete
  by_cases named : r.targetID = []
  · simp [named]
  by_cases repeated : r.targetID ∈ seen
  · simp [named, repeated]
  cases measured : r.latencyMs with
  | none => simp [named, repeated]
  | some latency => simp [named, repeated]

private theorem validateObservations_ok_iff (index : Nat) (seen : List GoString)
    (results : List ResultObservation) :
    validateObservations index seen results = none ↔
      (∀ r ∈ results, r.Complete ∧ r.targetID ∉ seen) ∧
        (results.map ResultObservation.targetID).Nodup := by
  induction results generalizing index seen with
  | nil => simp [validateObservations]
  | cons r rest ih =>
    simp only [validateObservations]
    cases checked : observationError index seen r with
    | some error =>
      have incomplete : ¬ (r.Complete ∧ r.targetID ∉ seen) := by
        rw [← @observationError_none_iff index, checked]
        simp
      simp only [reduceCtorEq, false_iff]
      intro ⟨all, _⟩
      exact incomplete (all r List.mem_cons_self)
    | none =>
      have first := observationError_none_iff.mp checked
      simp only [ih, List.mem_cons, forall_eq_or_imp, List.map_cons, List.nodup_cons, not_or]
      constructor
      · intro ⟨all, distinct⟩
        refine ⟨⟨first, fun other member => ⟨(all other member).1, (all other member).2.2⟩⟩, ?_, distinct⟩
        intro repeated
        obtain ⟨other, member, same⟩ := List.mem_map.mp repeated
        exact (all other member).2.1 same
      · intro ⟨⟨_, all⟩, fresh, distinct⟩
        refine ⟨fun other member => ⟨(all other member).1, ?_, (all other member).2⟩, distinct⟩
        intro same
        exact fresh (List.mem_map.mpr ⟨other, member, same⟩)

/-- What a valid payload is. -/
theorem validateResultsRequest_ok_iff {authNodeID : GoString} {req : ResultsRequest} :
    validateResultsRequest authNodeID req = none ↔
      req.sourceID ≠ [] ∧ req.sourceID = authNodeID ∧ req.probeRunID ≠ [] ∧ req.observedAt ≠ zeroTime ∧
        req.results ≠ [] ∧ (∀ r ∈ req.results, r.Complete) ∧
        (req.results.map ResultObservation.targetID).Nodup := by
  have loop := validateObservations_ok_iff 0 [] req.results
  simp only [List.not_mem_nil, not_false_eq_true, and_true] at loop
  rw [← loop]
  unfold validateResultsRequest
  by_cases source : req.sourceID = []
  · simp [source]
  by_cases same : req.sourceID = authNodeID
  · subst authNodeID
    by_cases run : req.probeRunID = []
    · simp [source, run]
    by_cases zero : req.observedAt = zeroTime
    · simp [source, run, zero]
    by_cases empty : req.results = []
    · simp [source, run, zero, empty]
    · simp [source, run, zero, empty]
  · simp [source, same]

/-- The row an observation is stored as. -/
def resultRow (req : ResultsRequest) (obs : ResultObservation) : ResultRow where
  sourceID := req.sourceID
  probeRunID := req.probeRunID
  targetID := obs.targetID
  observedAt := toSql req.observedAt
  latencyMs := obs.latencyMs
  error := if obs.error = [] then none else some obs.error

/-- The rows of a whole payload. -/
def resultRows (req : ResultsRequest) : List ResultRow := req.results.map (resultRow req)

/-- `isUniqueViolation`: a search in the driver's error text, which for the first three
kinds is the constraint's name followed by `constraint failed`. -/
def isUniqueViolation : SqlError → Bool
  | .unique => true
  | .foreignKey => false
  | .check => false
  | .other text => contains (lit "unique constraint failed") (text.map lowerASCII)

/-- The inserts of one payload, up to the first that fails. -/
def insertRows (db : DB) : List ResultRow → Except SqlError DB
  | [] => .ok db
  | row :: rest =>
    match db.insertResult row with
    | .error error => .error error
    | .ok after => insertRows after rest

/-- `persistResults`: all rows and 201, or none, with 409 for a replay. -/
def persistResults (db : DB) (req : ResultsRequest) : Except SqlError (DB × Nat) :=
  match insertRows db (resultRows req) with
  | .ok after => .ok (after, 201)
  | .error error => if isUniqueViolation error then .ok (db, 409) else .error error

/-- What an ingest answers. -/
inductive ResultsReply where
  | invalidJSON (text : GoString)
  | invalid (error : ResultsError)
  | internalError
  | stored (status : Nat) (targetsVersion : Int)
deriving DecidableEq, Repr

def ResultsReply.status : ResultsReply → Nat
  | .invalidJSON _ => 422
  | .invalid _ => 422
  | .internalError => 500
  | .stored status _ => status

/-- The drops bookkeeping of one node under `dropsMu`: the last reported value and the
exported counter. -/
structure DropsState where
  last : Int := 0
  counter : Int := 0
deriving DecidableEq, Repr

/-- Add the increase since the last report; a decrease only moves the baseline. -/
def DropsState.report (drops : DropsState) (reported : Int) : DropsState where
  last := reported
  counter := if reported > drops.last then drops.counter + (reported - drops.last) else drops.counter

/-- What ingest reads and writes, with metrics enabled. The gauges and the other
counters are write-only and left out. -/
structure Ingest where
  db : DB
  drops : GoString → DropsState

/-- The spool snapshot of a payload, as of its receipt. -/
def spoolStats (metadata : SpoolMetadata) (now : Time) : NodeStore.SpoolStats where
  depth := metadata.spoolDepth
  oldestAgeSecs := metadata.spoolOldestAgeSeconds
  dropsTotal := metadata.spoolDropsTotal
  observedAt := now
  hasOldest := decide (metadata.spoolDepth > 0)

/-- `handleResults` for an authenticated node; an undecodable body is `.error`. -/
def handleResults (nodeID : GoString) (body : Except GoString ResultsRequest) (now : Time)
    (ingest : Ingest) : Ingest × ResultsReply :=
  match body with
  | .error text => (ingest, .invalidJSON text)
  | .ok req =>
    match validateResultsRequest nodeID req with
    | some error => (ingest, .invalid error)
    | none =>
      match persistResults ingest.db req with
      | .error _ => (ingest, .internalError)
      | .ok (stored, status) =>
        -- a node deleted meanwhile only costs the snapshot
        let db := match NodeStore.updateSpoolStats stored nodeID (spoolStats req.spoolMetadata now) with
          | .ok updated => updated
          | .error _ => stored
        let drops := Function.update ingest.drops nodeID
          ((ingest.drops nodeID).report req.spoolMetadata.spoolDropsTotal)
        (⟨db, drops⟩, .stored status db.targetsVersion)

end NetLatencyMonitor.Controller
