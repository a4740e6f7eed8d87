import NetLatencyMonitor.Controller.Persist
import NetLatencyMonitor.Spool.InHand
import NetLatencyMonitor.System.Delivery

/-! What every reachable state of the delivery system keeps. The agents' side links
spool rows, calls and requests; the controller's side links requests, the open
transaction, answers and the results table. -/

namespace NetLatencyMonitor.System

open Agent Clock Controller Keyed Machine Spool Text

/-- The results table holds exactly the observations of this payload under its run. -/
def Stored (codec : JsonCodec) (db : DB) (payload : GoString) : Prop :=
  ∃ req, codec.unmarshal payload = .ok req ∧ req.results ≠ [] ∧
    rowsOf db req.sourceID req.probeRunID = resultRows req

/-- The payload was sent, and it is stored. -/
def Backed (codec : JsonCodec) (requests : List GoString) (db : DB) (payload : GoString) : Prop :=
  payload ∈ requests ∧ Stored codec db payload

/-- Each run has one payload, which decodes to that run; nothing else is sent. -/
structure Known (codec : JsonCodec) (payloads : List (GoString × GoString)) (requests : List GoString) :
    Prop where
  distinct : (payloads.map Prod.fst).Nodup
  decodes : ∀ run payload, (run, payload) ∈ payloads →
    ∃ req, codec.unmarshal payload = .ok req ∧ req.probeRunID = run
  requested : ∀ payload ∈ requests, ∃ run, (run, payload) ∈ payloads

/-- A request is outstanding while its row is being sent. -/
structure AgentsHold (payloads : List (GoString × GoString)) (backed : GoString → Prop)
    (requests : List GoString) (spool : SpoolDB) (agents : Nat → AgentProcess) : Prop where
  spooled : Spooled payloads spool
  calls : ∀ agent call, (agents agent).call = some call → CallHolds payloads backed spool call
  waits : ∀ agent request, (agents agent).outstanding = some request →
    ∃ now current rest stats, (agents agent).call = some (.sending now current rest stats) ∧
      requests[request]? = some current.payload

/-- The run's rows are exactly those of the run's payload. -/
def RunStored (codec : JsonCodec) (payloads : List (GoString × GoString)) (db : DB)
    (sourceID probeRunID : GoString) : Prop :=
  ∃ payload req, (probeRunID, payload) ∈ payloads ∧ codec.unmarshal payload = .ok req ∧
    req.sourceID = sourceID ∧ req.probeRunID = probeRunID ∧
    rowsOf db sourceID probeRunID = resultRows req

structure TxnHolds (codec : JsonCodec) (requests : List GoString) (db : DB) (txn : Txn) : Prop where
  sent : ∃ payload, requests[txn.request]? = some payload ∧ codec.unmarshal payload = .ok txn.req
  valid : ∃ authNodeID, validateResultsRequest authNodeID txn.req = none
  inserting : Inserting db txn.req txn.working txn.remaining

structure ControllerHolds (codec : JsonCodec) (payloads : List (GoString × GoString))
    (requests : List GoString) (responses : List (Nat × Nat)) (db : DB) (txn : Option Txn) : Prop where
  whole : ∀ sourceID probeRunID,
    rowsOf db sourceID probeRunID = [] ∨ RunStored codec payloads db sourceID probeRunID
  running : ∀ opened, txn = some opened → TxnHolds codec requests db opened
  answered : ∀ request status, (request, status) ∈ responses → outcomeOf status = .accepted →
    ∃ payload, requests[request]? = some payload ∧ Stored codec db payload

/-- A deletion on acceptance is backed, and removes only the row whose payload was sent. -/
def DeletionHolds (backed : GoString → Prop) (c : Candidate) (removed : List SpoolRow) : Prop :=
  backed c.payload ∧
    ∀ row ∈ removed, row.id = c.id ∧ row.probeRunID = c.probeRunID ∧ row.payload = c.payload

structure Delivered (codec : JsonCodec) (system : DeliverySystem) : Prop where
  known : Known codec system.payloads system.requests
  agents : AgentsHold system.payloads (Backed codec system.requests system.db) system.requests
    system.spool system.agents
  controller : ControllerHolds codec system.payloads system.requests system.responses system.db system.txn
  deleted : ∀ c removed, (c, removed) ∈ system.deletions →
    DeletionHolds (Backed codec system.requests system.db) c removed

section Parts

variable {codec : JsonCodec} {payloads more : List (GoString × GoString)} {requests longer : List GoString}
  {responses : List (Nat × Nat)} {spool later : SpoolDB} {agents : Nat → AgentProcess}
  {backed still : GoString → Prop} {db after : DB} {txn : Option Txn} {payload : GoString}

theorem Stored.mono (stored : Stored codec db payload) (grows : Grows db after) :
    Stored codec after payload := by
  obtain ⟨req, decoded, nonempty, rows⟩ := stored
  refine ⟨req, decoded, nonempty, ?_⟩
  rcases grows req.sourceID req.probeRunID with none | same
  · rw [none] at rows
    exact absurd (List.map_eq_nil_iff.mp rows.symm) nonempty
  · rw [same, rows]

theorem Backed.mono (held : Backed codec requests db payload) (extending : requests <+: longer)
    (grows : Grows db after) : Backed codec longer after payload :=
  ⟨extending.subset held.1, held.2.mono grows⟩

private theorem getElem?_of_isPrefix {request : Nat} (found : requests[request]? = some payload)
    (extending : requests <+: longer) : longer[request]? = some payload := by
  obtain ⟨others, rfl⟩ := extending
  have bound : request < requests.length := (List.getElem?_eq_some_iff.mp found).1
  rw [List.getElem?_append_left bound]
  exact found

/-- A run's payload is the only one that decodes to it. -/
theorem Known.same_payload (known : Known codec payloads requests) {run other : GoString}
    (first : (run, payload) ∈ payloads) (second : (run, other) ∈ payloads) : payload = other :=
  congrArg Prod.snd (List.inj_on_of_nodup_map known.distinct first second rfl)

/-- A payload decodes to its own run. -/
theorem Known.run_eq (known : Known codec payloads requests) {run : GoString} {req : ResultsRequest}
    (listed : (run, payload) ∈ payloads) (decoded : codec.unmarshal payload = .ok req) :
    req.probeRunID = run := by
  obtain ⟨again, decodedAgain, named⟩ := known.decodes run payload listed
  rw [decoded] at decodedAgain
  cases decodedAgain
  exact named

/-- What is sent is the payload of the run it decodes to. -/
theorem Known.listed (known : Known codec payloads requests) {req : ResultsRequest}
    (sent : payload ∈ requests) (decoded : codec.unmarshal payload = .ok req) :
    (req.probeRunID, payload) ∈ payloads := by
  obtain ⟨run, listed⟩ := known.requested payload sent
  rw [known.run_eq listed decoded]
  exact listed

/-- A new run with its payload. -/
theorem Known.begin (known : Known codec payloads requests) {uuid : Vector UInt8 16} {req : ResultsRequest}
    (fresh : uuidString uuid ∉ payloads.map Prod.fst)
    (encoded : codec.marshal { req with probeRunID := uuidString uuid } = some payload) :
    Known codec (payloads ++ [(uuidString uuid, payload)]) requests := by
  refine ⟨?_, ?_, ?_⟩
  · rw [List.map_append, List.map_singleton]
    refine List.nodup_append.mpr ⟨known.distinct, List.nodup_singleton _, ?_⟩
    intro run present other single same
    rw [same, List.mem_singleton.mp single] at present
    exact fresh present
  · intro run text member
    rcases List.mem_append.mp member with old | new
    · exact known.decodes run text old
    · cases List.mem_singleton.mp new
      exact ⟨_, codec.roundTrip _ _ encoded, toValidUTF8_of_valid (uuidString_valid uuid)⟩
  · intro text sent
    obtain ⟨run, member⟩ := known.requested text sent
    exact ⟨run, List.mem_append_left _ member⟩

theorem Known.send (known : Known codec payloads requests) {run : GoString}
    (member : (run, payload) ∈ payloads) : Known codec payloads (requests ++ [payload]) := by
  refine ⟨known.distinct, known.decodes, fun text sent => ?_⟩
  rcases List.mem_append.mp sent with old | new
  · exact known.requested text old
  · rw [List.mem_singleton.mp new]
    exact ⟨run, member⟩

/-- What other parties' steps leave of the agents' side. -/
theorem AgentsHold.mono (held : AgentsHold payloads backed requests spool agents)
    (grows : ∀ pair ∈ payloads, pair ∈ more) (keeps : ∀ payload, backed payload → still payload)
    (extending : requests <+: longer) :
    AgentsHold more still longer spool agents := by
  refine ⟨fun row present => grows _ (held.spooled row present), fun agent call running => ?_,
    fun agent request waiting => ?_⟩
  · exact (held.calls agent call running).mono (.refl spool) grows keeps
  · obtain ⟨now, current, rest, stats, running, found⟩ := held.waits agent request waiting
    exact ⟨now, current, rest, stats, running, getElem?_of_isPrefix found extending⟩

/-- One agent goes on, possibly with a statement on the spool. -/
theorem AgentsHold.update (held : AgentsHold payloads backed requests spool agents)
    (evolves : Evolves spool later) (spooled : Spooled payloads later) (agent : Nat)
    {process : AgentProcess}
    (call : ∀ call, process.call = some call → CallHolds payloads backed later call)
    (waits : ∀ request, process.outstanding = some request →
      ∃ now current rest stats, process.call = some (.sending now current rest stats) ∧
        requests[request]? = some current.payload) :
    AgentsHold payloads backed requests later (Function.update agents agent process) := by
  refine ⟨spooled, fun other running => ?_, fun other request => ?_⟩
  · by_cases same : other = agent
    · subst other
      rw [Function.update_self]
      exact call running
    · rw [Function.update_of_ne same]
      intro found
      exact (held.calls other running found).mono evolves (fun _ known => known) (fun _ backed => backed)
  · by_cases same : other = agent
    · subst other
      rw [Function.update_self]
      exact waits request
    · rw [Function.update_of_ne same]
      exact held.waits other request

theorem RunStored.mono {sourceID probeRunID : GoString}
    (stored : RunStored codec payloads db sourceID probeRunID) (grows : ∀ pair ∈ payloads, pair ∈ more)
    (same : rowsOf after sourceID probeRunID = rowsOf db sourceID probeRunID) :
    RunStored codec more after sourceID probeRunID := by
  obtain ⟨payload, req, member, decoded, source, run, rows⟩ := stored
  exact ⟨payload, req, grows _ member, decoded, source, run, same.trans rows⟩

theorem ControllerHolds.mono (held : ControllerHolds codec payloads requests responses db txn)
    (grows : ∀ pair ∈ payloads, pair ∈ more)
    (extending : requests <+: longer) :
    ControllerHolds codec more longer responses db txn := by
  refine ⟨fun sourceID probeRunID => ?_, fun opened running => ?_, fun request status replied accepted => ?_⟩
  · rcases held.whole sourceID probeRunID with none | stored
    · exact Or.inl none
    · exact Or.inr (stored.mono grows rfl)
  · obtain ⟨⟨payload, found, decoded⟩, valid, inserting⟩ := held.running opened running
    exact ⟨⟨payload, getElem?_of_isPrefix found extending, decoded⟩, valid, inserting⟩
  · obtain ⟨payload, found, stored⟩ := held.answered request status replied accepted
    exact ⟨payload, getElem?_of_isPrefix found extending, stored⟩

/-- The table has all of a sent payload or none of it. -/
theorem ControllerHolds.allOrNone (held : ControllerHolds codec payloads requests responses db txn)
    (known : Known codec payloads requests) {req : ResultsRequest} (sent : payload ∈ requests)
    (decoded : codec.unmarshal payload = .ok req) : AllOrNone db req := by
  rcases held.whole req.sourceID req.probeRunID with none | ⟨other, stored, member, same, _, run, rows⟩
  · exact Or.inl none
  · rw [known.same_payload member (known.listed sent decoded), decoded] at same
    cases same
    exact Or.inr rows

end Parts

end NetLatencyMonitor.System
