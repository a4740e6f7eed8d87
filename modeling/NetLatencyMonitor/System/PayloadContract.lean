import NetLatencyMonitor.Agent.Client
import NetLatencyMonitor.Agent.Spoke
import NetLatencyMonitor.Controller.Auth
import NetLatencyMonitor.Controller.Parity
import NetLatencyMonitor.Controller.Persist
import NetLatencyMonitor.System.Delivery

/-! The agent's payloads against the controller's validation. What the validator asks
for comes from four places: configuration, registry, probe collection and the header
that names the node. -/

namespace NetLatencyMonitor.System

open Agent Clock Controller Http Keyed Text

/-- A target list from the environment, or from the controller over a registry that
only its handlers have filled, as JSON carries it. -/
def TargetsFrom (sha256 : GoString → GoString) (targets : List Target) : Prop :=
  (∃ raw, parseTargets raw = .ok targets) ∨
    ∃ db nodeID, HandlerReachable sha256 db ∧
      TargetCache.decodeTargets (TargetCache.received (handleTargets db nodeID)) = targets

/-- Dial errors have a text, and measured times are not negative. -/
def Genuine : ProbeOutcome → Prop
  | .error text => text ≠ []
  | .ok rtt => 0 ≤ rtt

private theorem registered_id_ne_nil {db : DB} (registered : Registered db) {row : NodeRow}
    (present : row ∈ db.nodes.rows) : row.id ≠ [] := by
  have found : NodeStore.get db row.id = .ok (scanNode row) :=
    NodeStore.get_eq_ok_iff.mpr ⟨row, Table.find?_eq_some_iff.mpr ⟨present, rfl⟩, rfl⟩
  have valid := registered row.id (scanNode row) found
  intro empty
  simp [validateAdminNodeFields, scanNode, empty] at valid

/-- The controller's answer has no target without an id. -/
theorem handleTargets_named {db : DB} (registered : Registered db) {nodeID : GoString} {t : Target}
    (member : t ∈ TargetCache.decodeTargets (TargetCache.received (handleTargets db nodeID))) : t.id ≠ [] := by
  obtain ⟨entry, carried, rfl⟩ := List.mem_map.mp member
  obtain ⟨sent, listed, rfl⟩ := List.mem_map.mp carried
  obtain ⟨hub, selected, rfl⟩ := List.mem_map.mp listed
  obtain ⟨row, stored, rfl⟩ := List.mem_map.mp (mem_orderBy.mp selected)
  exact toValidUTF8_ne_nil (registered_id_ne_nil registered (List.mem_filter.mp stored).1)

theorem TargetsFrom.named {sha256 : GoString → GoString} {targets : List Target}
    (source : TargetsFrom sha256 targets) : ∀ t ∈ targets, t.id ≠ [] := by
  rcases source with ⟨raw, parsed⟩ | ⟨db, nodeID, reachable, same⟩
  · exact (parseTargets_ok parsed).2
  · rw [← same]
    exact fun t member => handleTargets_named reachable.registered member

section Results

variable {targets : List Target} {outcome : Nat → ProbeOutcome}

private theorem observation_targetID (t : Target) (result : ProbeOutcome) : (observation t result).targetID = t.id := by
  cases result with
  | error text => rfl
  | ok rtt => rfl

private theorem observation_complete {t : Target} {result : ProbeOutcome} (named : t.id ≠ [])
    (genuine : Genuine result) : (observation t result).Complete := by
  cases result with
  | error text => exact ⟨named, Or.inr genuine, fun latency none => by cases none⟩
  | ok rtt =>
    refine ⟨named, Or.inl (by simp [observation]), fun latency measured => ?_⟩
    cases measured
    have rttNonneg : (0 : ℚ) ≤ (rtt : ℚ) := Rat.intCast_nonneg.mpr genuine
    exact div_nonneg rttNonneg (Rat.intCast_nonneg.mpr (by decide))

/-- Valid text in an observation is a valid id and, on failure, a valid error. -/
theorem observation_validText {t : Target} {result : ProbeOutcome} :
    (validUTF8 (observation t result).targetID = true ∧ validUTF8 (observation t result).error = true) ↔
      validUTF8 t.id = true ∧ ∀ text, result = .error text → validUTF8 text = true := by
  cases result with
  | error text => simp [observation]
  | ok rtt => simp [observation, validUTF8, utf8From]

private theorem observations_targetIDs :
    (targets.mapIdx (fun i t => observation t (outcome i))).map ResultObservation.targetID =
      targets.map Target.id := by
  apply List.ext_getElem?
  intro i
  simp [List.getElem?_mapIdx, Function.comp_def, observation_targetID]

/-- Every list that the agent can get, probed in any way, gives complete observations. -/
theorem observations_complete (named : ∀ t ∈ targets, t.id ≠ [])
    (genuine : ∀ i < targets.length, Genuine (outcome i)) :
    ∀ r ∈ targets.mapIdx (fun i t => observation t (outcome i)), r.Complete := by
  intro r member
  obtain ⟨i, inside, same⟩ := List.mem_mapIdx.mp member
  rw [← same]
  exact observation_complete (named _ (List.getElem_mem inside)) (genuine i inside)

private theorem observations_validText :
    (∀ r ∈ targets.mapIdx (fun i t => observation t (outcome i)),
      validUTF8 r.targetID = true ∧ validUTF8 r.error = true) ↔
      (∀ t ∈ targets, validUTF8 t.id = true) ∧
        ∀ i < targets.length, ∀ text, outcome i = .error text → validUTF8 text = true := by
  constructor
  · intro valid
    have each : ∀ i (inside : i < targets.length), validUTF8 targets[i].id = true ∧
        ∀ text, outcome i = .error text → validUTF8 text = true :=
      fun i inside => observation_validText.mp (valid _ (List.mem_mapIdx.mpr ⟨i, inside, rfl⟩))
    refine ⟨fun t member => ?_, fun i inside => (each i inside).2⟩
    obtain ⟨i, inside, same⟩ := List.mem_iff_getElem.mp member
    rw [← same]
    exact (each i inside).1
  · intro ⟨ids, errors⟩ r member
    obtain ⟨i, inside, same⟩ := List.mem_mapIdx.mp member
    rw [← same]
    exact observation_validText.mpr ⟨ids _ (List.getElem_mem inside), errors i inside⟩

end Results

/-- What the agent's inputs have to be for its payload to arrive as it is and to be
accepted: the header does not shorten the configured id, the clock is not at the zero
time, no two targets are left with one id, and the texts are valid UTF-8. -/
structure Portable (cfg : AgentConfig) (cycle : Cycle) : Prop where
  trimmed : trimString cfg.nodeID = cfg.nodeID
  clock : cycle.now ≠ zeroTime
  distinct : (cycle.targets.map Target.id).Nodup
  nodeText : validUTF8 cfg.nodeID = true
  targetText : ∀ t ∈ cycle.targets, validUTF8 t.id = true
  errorText : ∀ i < cycle.targets.length, ∀ text, cycle.outcome i = .error text → validUTF8 text = true

section Contract

variable {codec : JsonCodec} {cfg : AgentConfig} {cycle : Cycle} {runID : GoString}

private theorem request_validText_iff (runText : validUTF8 runID = true) :
    ValidText (cycle.request cfg runID) ↔ validUTF8 cfg.nodeID = true ∧
      (∀ t ∈ cycle.targets, validUTF8 t.id = true) ∧
        ∀ i < cycle.targets.length, ∀ text, cycle.outcome i = .error text → validUTF8 text = true := by
  have results : (cycle.request cfg runID).results =
      cycle.targets.mapIdx (fun i t => observation t (cycle.outcome i)) := runProbes_eq cycle.waited
  unfold ValidText
  rw [results, observations_validText]
  constructor
  · intro ⟨node, _, rest⟩
    exact ⟨node, rest⟩
  · intro ⟨node, rest⟩
    exact ⟨node, runText, rest⟩

/-- With everything else in place, the validator only looks at the source id, the time
and the ids of the targets. -/
theorem request_valid_iff {authNodeID : GoString} (configured : cfg.nodeID ≠ []) (runNamed : runID ≠ [])
    (probed : cycle.targets ≠ []) (named : ∀ t ∈ cycle.targets, t.id ≠ [])
    (genuine : ∀ i < cycle.targets.length, Genuine (cycle.outcome i)) :
    validateResultsRequest authNodeID (cycle.request cfg runID) = none ↔
      cfg.nodeID = authNodeID ∧ cycle.now ≠ zeroTime ∧ (cycle.targets.map Target.id).Nodup := by
  have results : (cycle.request cfg runID).results =
      cycle.targets.mapIdx (fun i t => observation t (cycle.outcome i)) := runProbes_eq cycle.waited
  have nonempty : cycle.targets.mapIdx (fun i t => observation t (cycle.outcome i)) ≠ [] := by
    intro empty
    exact probed (List.mapIdx_eq_nil_iff.mp empty)
  rw [validateResultsRequest_ok_iff, results, observations_targetIDs]
  constructor
  · intro ⟨_, source, _, clock, _, _, distinct⟩
    exact ⟨source, clock, distinct⟩
  · intro ⟨source, clock, distinct⟩
    exact ⟨configured, source, runNamed, clock, nonempty, observations_complete named genuine, distinct⟩

/-- The enqueue of a cycle is a step of the delivery system, with the cycle's payload. -/
theorem cycle_beginRun {system : DeliverySystem} {agent : Nat} {payload : GoString}
    (done : cycle.run codec cfg = .ok (runID, payload)) :
    ∃ uuid, uuidString uuid = runID ∧
      system.beginRun codec agent uuid (cycle.request cfg runID) =
        { system.setAgent agent ⟨some (.insert runID payload), none⟩ with
          payloads := system.payloads ++ [(runID, payload)] } := by
  obtain ⟨_, named, _, encoded⟩ := cycle.run_ok done
  obtain ⟨uuid, generated⟩ := cycle.run_uuid done
  subst runID
  have same : codec.marshal { cycle.request cfg (uuidString uuid) with probeRunID := uuidString uuid } =
      some payload := encoded
  have inserting : Spool.enqueue (uuidString uuid) payload = some (.insert (uuidString uuid) payload) := by
    simp [Spool.enqueue, named, codec.nonempty _ _ encoded]
  refine ⟨uuid, rfl, ?_⟩
  simp only [DeliverySystem.beginRun, same, inserting]

end Contract

/-- The payload of a cycle arrives as the request it was made from, passes validation
and is never answered 422, exactly when the inputs are portable. -/
theorem payload_accepted_iff (codec : JsonCodec) (sha256 : GoString → GoString) (env : Env)
    (readFile : GoString → Except GoString GoString) (cfg : AgentConfig)
    (loaded : loadAgent env readFile = .ok cfg) (cycle : Cycle)
    (source : TargetsFrom sha256 cycle.targets)
    (genuine : ∀ i < cycle.targets.length, Genuine (cycle.outcome i)) (runID payload : GoString)
    (done : cycle.run codec cfg = .ok (runID, payload)) (db : DB) (request : Request)
    (sent : resultsRequest cfg.nodeID cfg.nodeSecret = some request) (node : Node)
    (authenticated : bearerAuth sha256 db request = .ok node) :
    (codec.unmarshal payload = .ok (cycle.request cfg runID) ∧
      validateResultsRequest node.id (cycle.request cfg runID) = none ∧
      ∀ now ingest, (handleResults node.id (codec.unmarshal payload) now ingest).2.status ≠ 422) ↔
    Portable cfg cycle := by
  obtain ⟨_, configured, _⟩ := loadAgent_ok loaded
  obtain ⟨probed, named, runText, encoded⟩ := cycle.run_ok done
  have identity : node.id = trimString cfg.nodeID :=
    (bearerAuth_id authenticated).1.trans (resultsRequest_nodeID sent)
  have decoded := codec.decodes_iff encoded
  have valid := @request_valid_iff cfg cycle runID node.id configured named probed source.named genuine
  rw [request_validText_iff runText] at decoded
  constructor
  · intro ⟨same, accepted, _⟩
    obtain ⟨nodeText, targetText, errorText⟩ := decoded.mp same
    obtain ⟨matching, clock, distinct⟩ := valid.mp accepted
    exact ⟨identity.symm.trans matching.symm, clock, distinct, nodeText, targetText, errorText⟩
  · intro portable
    have same := decoded.mpr ⟨portable.nodeText, portable.targetText, portable.errorText⟩
    have matching : cfg.nodeID = node.id := (identity.trans portable.trimmed).symm
    have accepted := valid.mpr ⟨matching, portable.clock, portable.distinct⟩
    refine ⟨same, accepted, fun now ingest refused => ?_⟩
    rw [same] at refused
    exact handleResults_unprocessable_iff.mp refused accepted

/-- A static configuration under the given id. -/
def spokeEnv (nodeID : GoString) : Env := fun key =>
  if key = lit "NLM_NODE_ID" then some nodeID
  else if key = lit "NLM_NODE_SECRET" then some (lit "abc")
  else if key = lit "NLM_CONTROLLER_URL" then some (lit "http://controller:8080")
  else if key = lit "NLM_PROBE_TARGETS" then some (lit "hub-1=10.0.0.1:9000")
  else none

def spokeConfig (nodeID : GoString) : AgentConfig where
  nodeID
  nodeSecret := lit "abc"
  controllerURL := lit "http://controller:8080"
  targets := [⟨lit "hub-1", lit "10.0.0.1:9000"⟩]
  probeTimeout := 5 * second
  httpTimeout := 10 * second
  startupJitter := 10 * second
  hubProbeInterval := 60 * second
  hubRefreshInterval := 300 * second

/-- One probe, refused by the target. -/
def oneProbe : Cycle where
  targets := [⟨lit "hub-1", lit "10.0.0.1:9000"⟩]
  newRunID := .ok (Vector.replicate 16 0)
  now := second
  outcome := fun _ => .error (lit "dial tcp 10.0.0.1:9000: connect: connection refused")
  finished := [0]
  spool := none
  waited := .refl _

def oneProbeRequest (nodeID : GoString) : ResultsRequest :=
  oneProbe.request (spokeConfig nodeID) (uuidString (Vector.replicate 16 0))

def oneProbePayload (nodeID : GoString) : GoString :=
  lit "\x7b\"source_id\":\"" ++ nodeID ++
    lit "\",\"probe_run_id\":\"00000000-0000-0000-0000-000000000000\"," ++
    lit "\"observed_at\":\"1970-01-01T00:00:01Z\"," ++
    lit "\"results\":[\x7b\"target_id\":\"hub-1\",\"latency_ms\":null," ++
    lit "\"error\":\"dial tcp 10.0.0.1:9000: connect: connection refused\"\x7d]," ++
    lit "\"spool_metadata\":\x7b\"spool_depth\":0,\"spool_oldest_age_seconds\":0," ++
    lit "\"spool_drops_total\":0,\"drain_attempt\":1\x7d\x7d"

def spacedCodec : JsonCodec :=
  .single (oneProbeRequest (lit "spoke-1 ")) (oneProbePayload (lit "spoke-1 ")) (by decide) (by decide)

def plainCodec : JsonCodec :=
  .single (oneProbeRequest (lit "spoke-1")) (oneProbePayload (lit "spoke-1")) (by decide) (by decide)

private theorem oneProbe_genuine : ∀ i < oneProbe.targets.length, Genuine (oneProbe.outcome i) := by
  intro i _
  show lit "dial tcp 10.0.0.1:9000: connect: connection refused" ≠ []
  decide

private theorem oneProbe_targetsFrom (sha256 : GoString → GoString) : TargetsFrom sha256 oneProbe.targets :=
  Or.inl ⟨lit "hub-1=10.0.0.1:9000", rfl⟩

/-- The configured id ends in a space. The header loses it, so the request
authenticates as `spoke-1`, while the payload still names the id with the space. -/
theorem spaced_id_unprocessable :
    loadAgent (spokeEnv (lit "spoke-1 ")) (fun _ => .error []) = .ok (spokeConfig (lit "spoke-1 ")) ∧
      oneProbe.run spacedCodec (spokeConfig (lit "spoke-1 ")) =
        .ok (uuidString (Vector.replicate 16 0), oneProbePayload (lit "spoke-1 ")) ∧
      TargetsFrom digestOfAbc oneProbe.targets ∧
      (∀ i < oneProbe.targets.length, Genuine (oneProbe.outcome i)) ∧
      ∃ request node, resultsRequest (lit "spoke-1 ") (lit "abc") = some request ∧
        bearerAuth digestOfAbc (spokeRegistry digestOfAbc) request = .ok node ∧
        validateResultsRequest node.id (oneProbeRequest (lit "spoke-1 ")) = some .sourceIDMismatch ∧
        (handleResults node.id (spacedCodec.unmarshal (oneProbePayload (lit "spoke-1 "))) second
          ⟨spokeRegistry digestOfAbc, fun _ => {}⟩).2.status = 422 := by
  set_option maxRecDepth 8000 in
  exact ⟨rfl, rfl, oneProbe_targetsFrom digestOfAbc, oneProbe_genuine, _, _, rfl, rfl, by decide, rfl⟩

/-- The same agent with its id spelled as it is registered. -/
theorem plain_id_accepted :
    Portable (spokeConfig (lit "spoke-1")) oneProbe ∧
      validateResultsRequest (lit "spoke-1") (oneProbeRequest (lit "spoke-1")) = none := by
  have portable : Portable (spokeConfig (lit "spoke-1")) oneProbe := by
    refine ⟨by decide, by decide, by decide, by decide, by decide, fun i _ text failed => ?_⟩
    cases failed
    decide
  refine ⟨portable, ?_⟩
  set_option maxRecDepth 8000 in
  exact ((payload_accepted_iff plainCodec digestOfAbc (spokeEnv (lit "spoke-1")) (fun _ => .error [])
    (spokeConfig (lit "spoke-1")) rfl oneProbe (oneProbe_targetsFrom digestOfAbc) oneProbe_genuine _ _ rfl
    (spokeRegistry digestOfAbc) _ rfl _ rfl).mpr portable).2.1

end NetLatencyMonitor.System
