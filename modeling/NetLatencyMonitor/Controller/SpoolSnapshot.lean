import NetLatencyMonitor.Controller.DropsMetric
import NetLatencyMonitor.Controller.Transaction

/-! The spool snapshot in a node's row. Every accepted payload overwrites it with the one
taken when the payload was enqueued, so it is the snapshot of the last arrival; whether
that is the freshest depends on the order of delivery. -/

namespace NetLatencyMonitor.Controller

open Clock Keyed Text

/-- A results post of some node. -/
structure Arrival where
  sender : GoString
  body : Except GoString ResultsRequest
  now : Time

def Arrival.event (arrival : Arrival) : IngestEvent := .post arrival.sender arrival.body arrival.now

/-- The controller after a sequence of posts. -/
def ingested (db : DB) (arrivals : List Arrival) : Ingest := Ingest.after db (arrivals.map Arrival.event)

/-- The payload, when it is a valid one of the node. -/
def Arrival.payloadOf (nodeID : GoString) (arrival : Arrival) : Option ResultsRequest :=
  match arrival.body with
  | .error _ => none
  | .ok req => if arrival.sender = nodeID ∧ validateResultsRequest nodeID req = none then some req else none

/-- The payloads received from the node, in the order of arrival. -/
def received (nodeID : GoString) (arrivals : List Arrival) : List ResultsRequest :=
  arrivals.filterMap (Arrival.payloadOf nodeID)

/-- The depth and the drops a payload reports. -/
def ResultsRequest.snapshot (req : ResultsRequest) : Int × Int :=
  (req.spoolMetadata.spoolDepth, req.spoolMetadata.spoolDropsTotal)

/-- `spool_depth` and `spool_drops_total` of the node's row. -/
def storedSnapshot (db : DB) (nodeID : GoString) : Option (Int × Int) :=
  (db.nodes.find? nodeID).map (fun row => (row.spoolDepth, row.spoolDropsTotal))

/-- No payload of the list was observed later. -/
def Newest (payloads : List ResultsRequest) (req : ResultsRequest) : Prop :=
  req ∈ payloads ∧ ∀ other ∈ payloads, other.observedAt ≤ req.observedAt

/-- A payload that arrives after a newer one repeats the snapshot of the newest so far. -/
def NoStaleArrival (payloads : List ResultsRequest) : Prop :=
  ∀ earlier late, earlier ++ [late] <+: payloads → ∀ newest, Newest earlier newest →
    late.observedAt < newest.observedAt → late.snapshot = newest.snapshot

/-- Storing results does not touch the registry. -/
theorem persistResults_nodes {db after : DB} {nodeID : GoString} {req : ResultsRequest} {status : Nat}
    (valid : validateResultsRequest nodeID req = none) (done : persistResults db req = .ok (after, status)) :
    after.nodes = db.nodes := by
  have ended := persistResultsUnder_ingested valid .clean db
  rw [persistResultsUnder_clean] at done
  generalize persistResultsUnder .clean db req = result at ended done
  cases ended with
  | created _ _ _ extended =>
    cases done
    exact extended.nodes
  | replayed =>
    cases done
    rfl
  | failed => cases done

/-- A valid payload of a registered node is stored or a replay. -/
theorem persistResults_registered {db : DB} {nodeID : GoString} {req : ResultsRequest}
    (valid : validateResultsRequest nodeID req = none) (known : knows db req.sourceID = true) :
    ∃ after status, persistResults db req = .ok (after, status) := by
  have ended := persistResultsUnder_ingested valid .clean db
  rw [persistResultsUnder_clean]
  generalize persistResultsUnder .clean db req = result at ended ⊢
  cases ended with
  | created => exact ⟨_, 201, rfl⟩
  | replayed => exact ⟨db, 409, rfl⟩
  | failed _ otherwise => exact absurd otherwise (clean_not_failsOtherwise valid known)

private theorem knows_of_stored {db : DB} {nodeID : GoString} {snapshot : Int × Int}
    (stored : storedSnapshot db nodeID = some snapshot) : knows db nodeID = true := by
  obtain ⟨row, found, _⟩ := Option.map_eq_some_iff.mp stored
  obtain ⟨present, named⟩ := Table.find?_eq_some_iff.mp found
  exact List.any_eq_true.mpr ⟨row, present, decide_eq_true named⟩

/-- `UpdateSpoolStats`, with its failure ignored, sets the snapshot of its node only. -/
theorem storedSnapshot_update (db : DB) (id nodeID : GoString) (stats : NodeStore.SpoolStats) :
    storedSnapshot (match NodeStore.updateSpoolStats db id stats with
      | .ok updated => updated
      | .error _ => db) nodeID =
      if nodeID = id then (storedSnapshot db id).map (fun _ => (stats.depth, stats.dropsTotal))
      else storedSnapshot db nodeID := by
  cases done : NodeStore.updateSpoolStats db id stats with
  | ok updated =>
    obtain ⟨_, oldest, same⟩ := NodeStore.updateSpoolStats_ok done
    subst updated
    simp only [storedSnapshot, DB.updateSpool, Table.find?_modify]
    by_cases own : nodeID = id
    · rw [if_pos own, if_pos own, Option.map_map, Option.map_map]
      rfl
    · rw [if_neg own, if_neg own]
  | error error =>
    by_cases own : nodeID = id
    · subst nodeID
      have missing : db.nodes.find? id = none := by
        cases found : db.nodes.find? id with
        | none => rfl
        | some row => simp [NodeStore.updateSpoolStats, DB.updateSpool, found] at done
      simp [storedSnapshot, missing]
    · rw [if_neg own]

/-- One post: a valid payload of the node overwrites its snapshot, anything else leaves it. -/
theorem storedSnapshot_step {ingest : Ingest} {nodeID : GoString} {before : Int × Int}
    (stored : storedSnapshot ingest.db nodeID = some before) (arrival : Arrival) :
    storedSnapshot (ingest.step arrival.event).db nodeID =
      some ((arrival.payloadOf nodeID).elim before ResultsRequest.snapshot) := by
  obtain ⟨sender, body, now⟩ := arrival
  cases body with
  | error text => exact stored
  | ok req =>
    simp only [Arrival.event, Ingest.step, handleResults, Arrival.payloadOf]
    cases valid : validateResultsRequest sender req with
    | some error =>
      have refused : ¬ (sender = nodeID ∧ validateResultsRequest nodeID req = none) := by
        rintro ⟨rfl, accepted⟩
        rw [valid] at accepted
        cases accepted
      rw [if_neg refused]
      exact stored
    | none =>
      cases done : persistResults ingest.db req with
      | error error =>
        have other : ¬ (sender = nodeID ∧ validateResultsRequest nodeID req = none) := by
          rintro ⟨rfl, _⟩
          obtain ⟨_, source, _⟩ := validateResultsRequest_ok_iff.mp valid
          obtain ⟨after, status, persisted⟩ :=
            persistResults_registered valid (source.symm ▸ knows_of_stored stored)
          rw [done] at persisted
          cases persisted
        rw [if_neg other]
        exact stored
      | ok result =>
        obtain ⟨after, status⟩ := result
        have kept : ∀ id, storedSnapshot after id = storedSnapshot ingest.db id := by
          intro id
          rw [storedSnapshot, persistResults_nodes valid done, storedSnapshot]
        show storedSnapshot (match NodeStore.updateSpoolStats after sender (spoolStats req.spoolMetadata now) with
          | .ok updated => updated
          | .error _ => after) nodeID = _
        rw [storedSnapshot_update, kept, kept]
        by_cases own : sender = nodeID
        · subst sender
          rw [if_pos rfl, if_pos ⟨rfl, valid⟩, stored]
          rfl
        · rw [if_neg (Ne.symm own), if_neg (fun both => own both.1)]
          exact stored

/-- After any sequence of posts the node's row has the snapshot of the last payload. -/
theorem storedSnapshot_ingested {db : DB} {nodeID : GoString} {before : Int × Int}
    (stored : storedSnapshot db nodeID = some before) (arrivals : List Arrival) :
    storedSnapshot (ingested db arrivals).db nodeID =
      some ((received nodeID arrivals).getLast?.elim before ResultsRequest.snapshot) := by
  induction arrivals using List.reverseRecOn with
  | nil => exact stored
  | append_singleton arrivals arrival ih =>
    have last : ingested db (arrivals ++ [arrival]) = (ingested db arrivals).step arrival.event := by
      simp [ingested, Ingest.after]
    rw [last, storedSnapshot_step ih]
    simp only [received, List.filterMap_append, List.filterMap_cons, List.filterMap_nil]
    cases arrival.payloadOf nodeID with
    | none => simp
    | some req => simp

/-- After every post the stored snapshot is that of the newest payload exactly when no
payload arrives after a newer one with another snapshot than the newest so far. -/
theorem snapshot_freshest_iff {db : DB} {nodeID : GoString} {arrivals : List Arrival}
    (registered : (db.nodes.find? nodeID).isSome = true)
    (distinct : ∀ left ∈ received nodeID arrivals, ∀ right ∈ received nodeID arrivals,
      left.observedAt = right.observedAt → left.snapshot = right.snapshot) :
    (∀ past, past <+: arrivals → ∀ newest, Newest (received nodeID past) newest →
      storedSnapshot (ingested db past).db nodeID = some newest.snapshot) ↔
        NoStaleArrival (received nodeID arrivals) := by
  obtain ⟨row, found⟩ := Option.isSome_iff_exists.mp registered
  have stored : storedSnapshot db nodeID = some (row.spoolDepth, row.spoolDropsTotal) := by
    rw [storedSnapshot, found]
    rfl
  constructor
  · intro freshest earlier late early newest top older
    obtain ⟨past, before, same⟩ := List.prefix_filterMap_iff.mp early
    have still : Newest (received nodeID past) newest := by
      rw [received, ← same]
      refine ⟨List.mem_append_left _ top.1, fun other member => ?_⟩
      rcases List.mem_append.mp member with among | last
      · exact top.2 other among
      · rw [List.mem_singleton.mp last]
        exact Int.le_of_lt older
    have now := freshest past before newest still
    rw [storedSnapshot_ingested stored, received, ← same, List.getLast?_concat] at now
    exact Option.some.inj now
  · intro ordered past before newest top
    have early : received nodeID past <+: received nodeID arrivals := before.filterMap _
    rw [storedSnapshot_ingested stored]
    -- the stored snapshot is that of the last arrival, which is the newest or a stale one
    generalize received nodeID past = payloads at top early ⊢
    induction payloads using List.reverseRecOn with
    | nil => cases top.1
    | append_singleton earlier late _ =>
      rw [List.getLast?_concat]
      refine congrArg some ?_
      have member : late ∈ earlier ++ [late] := List.mem_append_right _ List.mem_cons_self
      rcases Int.lt_or_eq_of_le (top.2 late member) with older | same
      · have among : newest ∈ earlier := by
          rcases List.mem_append.mp top.1 with among | last
          · exact among
          · rw [List.mem_singleton.mp last] at older
            exact absurd older (Int.lt_irrefl _)
        exact ordered earlier late early newest
          ⟨among, fun other present => top.2 other (List.mem_append_left _ present)⟩ older
      · exact distinct late (early.subset member) newest (early.subset top.1) same

/-- A payload of the spoke, observed and enqueued at the given second. -/
def spooled (probeRunID : GoString) (observed depth drops : Int) : Arrival where
  sender := lit "spoke-1"
  body := .ok {
    sourceID := lit "spoke-1", probeRunID, observedAt := observed * second
    results := [{ targetID := lit "hub-1", latencyMs := some 1 }]
    spoolMetadata := { spoolDepth := depth, spoolDropsTotal := drops } }
  now := 100 * second

/-- The run of second 20 arrives before that of second 10, which waited out a backoff: the
row goes back to the older snapshot. -/
theorem late_payload_overwrites_snapshot :
    storedSnapshot (ingested knownSpoke
      [spooled (lit "run-2") 20 0 5, spooled (lit "run-1") 10 3 2]).db (lit "spoke-1") = some (3, 2) ∧
    ¬ ∀ past, past <+: [spooled (lit "run-2") 20 0 5, spooled (lit "run-1") 10 3 2] →
      ∀ newest, Newest (received (lit "spoke-1") past) newest →
        storedSnapshot (ingested knownSpoke past).db (lit "spoke-1") = some newest.snapshot := by
  have overwritten : storedSnapshot (ingested knownSpoke
      [spooled (lit "run-2") 20 0 5, spooled (lit "run-1") 10 3 2]).db (lit "spoke-1") = some (3, 2) := by
    decide
  refine ⟨overwritten, fun freshest => ?_⟩
  obtain ⟨newest, top, snapshot⟩ : ∃ newest, Newest (received (lit "spoke-1")
      [spooled (lit "run-2") 20 0 5, spooled (lit "run-1") 10 3 2]) newest ∧ newest.snapshot = (0, 5) := by
    refine ⟨_, ⟨List.mem_cons_self, ?_⟩, rfl⟩
    decide
  have latest := freshest _ List.prefix_rfl newest top
  rw [overwritten, snapshot] at latest
  exact absurd latest (by decide)

/-- In the order of observation the row ends with the newer snapshot. -/
theorem ordered_payloads_freshest :
    storedSnapshot (ingested knownSpoke
      [spooled (lit "run-1") 10 3 2, spooled (lit "run-2") 20 0 5]).db (lit "spoke-1") = some (0, 5) := by
  have payloads : NoStaleArrival (received (lit "spoke-1")
      [spooled (lit "run-1") 10 3 2, spooled (lit "run-2") 20 0 5]) := by
    intro earlier late early newest top older
    rcases earlier with _ | ⟨first, _ | ⟨next, rest⟩⟩
    · cases top.1
    · obtain ⟨rfl, remaining⟩ := List.cons_prefix_cons.mp early
      obtain ⟨rfl, _⟩ := List.cons_prefix_cons.mp remaining
      rw [List.mem_singleton.mp top.1] at older
      exact absurd older (by decide)
    · have short := early.length_le
      have two : (received (lit "spoke-1")
          [spooled (lit "run-1") 10 3 2, spooled (lit "run-2") 20 0 5]).length = 2 := by decide
      rw [two, List.length_append, List.length_cons, List.length_cons, List.length_singleton] at short
      omega
  exact (snapshot_freshest_iff (by decide) (by decide)).mpr payloads _ List.prefix_rfl _
    ⟨List.mem_cons_of_mem _ List.mem_cons_self, by decide⟩

end NetLatencyMonitor.Controller
