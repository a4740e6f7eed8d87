import NetLatencyMonitor.Controller.DropsDelta
import NetLatencyMonitor.Controller.Idempotence
import NetLatencyMonitor.Machine.Mailbox
import NetLatencyMonitor.Machine.Simulation
import NetLatencyMonitor.Machine.Slots

/-! `handleResults` past authentication, one critical section a step, together with what it
leaves behind: the rows, the ingest counters and the frames of the dashboard's live feed.
Any number of requests and of connected browsers run interleaved. -/

namespace NetLatencyMonitor.Controller

open Clock Machine Text

structure ProbeEvent where
  type : GoString
  sourceID : GoString
  targetID : GoString
  latencyMS : ℚ
  error : GoString
deriving DecidableEq, Repr

/-- The event `broadcastResults` builds from an observation. -/
def probeEvent (sourceID : GoString) (obs : ResultObservation) : ProbeEvent where
  type := lit "probe_result"
  sourceID
  targetID := obs.targetID
  latencyMS := obs.latencyMs.getD 0
  error := obs.error

/-- The same event, from the row the observation is stored as. -/
def rowEvent (row : ResultRow) : ProbeEvent where
  type := lit "probe_result"
  sourceID := row.sourceID
  targetID := row.targetID
  latencyMS := row.latencyMs.getD 0
  error := row.error.getD []

theorem rowEvent_resultRow (req : ResultsRequest) (obs : ResultObservation) :
    rowEvent (resultRow req obs) = probeEvent req.sourceID obs := by
  unfold rowEvent resultRow probeEvent
  by_cases silent : obs.error = []
  · simp [silent]
  · simp [silent]

/-! One browser. -/

/-- Where the write pump of `serveUIClient` stands. `returning` has its deferred calls
still to run. -/
inductive Pump where
  | running
  | returning
  | left
deriving DecidableEq, Repr

/-- `uiClient` with the frames written to its connection. `joinedAt` only records how many
events had been published when it registered. -/
structure UIClient where
  joinedAt : Nat
  send : Mailbox GoString 64 := .empty
  done : Bool := false
  pump : Pump := .running
  written : List GoString := []
deriving DecidableEq

namespace UIClient

/-- In `clients` of the hub: from the registration until the deferred `unregister`. -/
def registered (client : UIClient) : Bool := decide (client.pump ≠ .left)

/-- One round of the loop in `Broadcast`: a send that does not wait. -/
def offer (client : UIClient) (frame : GoString) : UIClient :=
  if client.registered then { client with send := client.send.offer frame } else client

/-- The pump takes a frame; if its write fails the frame is gone and the pump returns. -/
def write (client : UIClient) (ok : Bool) : Option UIClient :=
  match client.pump, client.send.take? with
  | .running, some (frame, rest) =>
    if ok then some { client with send := rest, written := client.written ++ [frame] }
    else some { client with send := rest, pump := .returning }
  | _, _ => none

def ping (client : UIClient) (ok : Bool) : Option UIClient :=
  match client.pump with
  | .running => some { client with pump := if ok then .running else .returning }
  | _ => none

/-- `ReadMessage` fails and the read pump closes `done`, once. -/
def readFails (client : UIClient) : Option UIClient :=
  if client.done then none else some { client with done := true }

/-- The write pump receives from the closed `done`. -/
def notice (client : UIClient) : Option UIClient :=
  match client.pump, client.done with
  | .running, true => some { client with pump := .returning }
  | _, _ => none

/-- The deferred `unregister` and `Close`. -/
def leave (client : UIClient) : Option UIClient :=
  match client.pump with
  | .returning => some { client with pump := .left }
  | _ => none

end UIClient

/-- What happens to one browser between broadcasts. -/
inductive ClientEvent where
  | write (ok : Bool)
  | ping (ok : Bool)
  | readFails
  | notice
  | leave
deriving DecidableEq, Repr

def UIClient.next (client : UIClient) : ClientEvent → Option UIClient
  | .write ok => client.write ok
  | .ping ok => client.ping ok
  | .readFails => client.readFails
  | .notice => client.notice
  | .leave => client.leave

/-! One request. -/

structure ValidResults where
  nodeID : GoString
  req : ResultsRequest
  valid : validateResultsRequest nodeID req = none

/-- The next section of a `handleResults` call. A panic leaves `dropsMu` locked. -/
inductive IngestStage where
  | persisting (body : ValidResults)
  | bookkeeping (body : ValidResults) (status : Nat)
  | counting (body : ValidResults) (status : Nat)
  | panicked (body : ValidResults) (status : Nat)
  | broadcasting (body : ValidResults) (remaining : List ResultObservation)
  | observing (nodeID : GoString) (status : Nat)
  | answered (nodeID : GoString) (status : Nat)

/-- Decoding and validation. -/
def arrival (nodeID : GoString) (body : Except GoString ResultsRequest) : IngestStage :=
  match body with
  | .error _ => .observing nodeID 422
  | .ok req =>
    match checked : validateResultsRequest nodeID req with
    | some _ => .observing nodeID 422
    | none => .persisting ⟨nodeID, req, checked⟩

def afterPersist (body : ValidResults) : Except SqlError Nat → IngestStage
  | .ok status => .bookkeeping body status
  | .error _ => .observing body.nodeID 500

/-- The loop of `broadcastResults`, from one event to the next. -/
def publishing (body : ValidResults) : List ResultObservation → IngestStage
  | [] => .observing body.nodeID 201
  | obs :: rest => .broadcasting body (obs :: rest)

def afterCount (body : ValidResults) (status : Nat) : IngestStage :=
  if status = 201 then publishing body body.req.results else .observing body.nodeID status

def statusLabel (status : Nat) : GoString :=
  if status = 201 then lit "201"
  else if status = 409 then lit "409"
  else if 400 ≤ status ∧ status < 500 then lit "4xx"
  else if 500 ≤ status then lit "5xx"
  else lit (toString status)

/-! The controller. -/

/-- `ingestTotal` is keyed by node id and status label; `published` only records the rows
whose events have been broadcast. -/
structure LiveServer where
  server : DropsServer
  probeResultsTotal : Nat := 0
  ingestTotal : GoString × GoString → Nat := fun _ => 0
  handlers : List IngestStage := []
  clients : List UIClient := []
  published : List ResultRow := []

namespace LiveServer

def start (db : DB) : LiveServer := { server := .start db }

def db (live : LiveServer) : DB := live.server.ingest.db

def withDB (live : LiveServer) (db : DB) : LiveServer := { live with server.ingest.db := db }

def withStage (live : LiveServer) (number : Nat) (stage : IngestStage) : LiveServer :=
  { live with handlers := live.handlers.set number stage }

/-- The section under `dropsMu` and the counter after it. -/
def count (live : LiveServer) (number : Nat) (body : ValidResults) (status : Nat) : LiveServer :=
  let handled := countDrops live.server body.nodeID body.req.spoolMetadata.spoolDropsTotal
    (.stored status live.db.targetsVersion)
  if handled.ended = some .panicked then
    { live.withStage number (.panicked body status) with server := handled.server }
  else
    { live.withStage number (afterCount body status) with
      server := handled.server
      probeResultsTotal := live.probeResultsTotal + if status = 201 then body.req.results.length else 0 }

/-- `Broadcast` of one observation's event. -/
def broadcast (marshal : ProbeEvent → GoString) (live : LiveServer) (body : ValidResults)
    (obs : ResultObservation) : LiveServer :=
  { live with
    clients := live.clients.map (fun client => client.offer (marshal (probeEvent body.nodeID obs)))
    published := live.published ++ [resultRow body.req obs] }

/-- `observeIngest`; the latency histogram is left out. -/
def observe (live : LiveServer) (nodeID : GoString) (status : Nat) : LiveServer :=
  { live with
    ingestTotal := Function.update live.ingestTotal (nodeID, statusLabel status)
      (live.ingestTotal (nodeID, statusLabel status) + 1) }

end LiveServer

inductive LiveEvent where
  | arrive (nodeID : GoString) (body : Except GoString ResultsRequest)
  | persist (handler : Nat) (faults : TxFaults)
  | bookkeep (handler : Nat) (now : Time)
  | count (handler : Nat)
  | broadcast (handler : Nat)
  | observe (handler : Nat)
  /-- Another handler writes to the registry; none of them touches the results. -/
  | elsewhere (db : DB)
  | connect
  | client (number : Nat) (event : ClientEvent)

/-- One step. The transaction is one: it holds the only database connection. A handler at
a locked `dropsMu` has no step. -/
def liveNext (marshal : ProbeEvent → GoString) (live : LiveServer) : LiveEvent → Option LiveServer
  | .arrive nodeID body => some { live with handlers := live.handlers ++ [arrival nodeID body] }
  | .persist number faults =>
    match live.handlers[number]? with
    | some (.persisting body) =>
      let (db, result) := persistResultsUnder faults live.db body.req
      some ((live.withDB db).withStage number (afterPersist body result))
    | _ => none
  | .bookkeep number now =>
    match live.handlers[number]? with
    | some (.bookkeeping body status) =>
      let db := match NodeStore.updateSpoolStats live.db body.nodeID (spoolStats body.req.spoolMetadata now) with
        | .ok updated => updated
        | .error _ => live.db
      some ((live.withDB db).withStage number (.counting body status))
    | _ => none
  | .count number =>
    match live.handlers[number]? with
    | some (.counting body status) => if live.server.held then none else some (live.count number body status)
    | _ => none
  | .broadcast number =>
    match live.handlers[number]? with
    | some (.broadcasting body (obs :: rest)) =>
      some ((live.broadcast marshal body obs).withStage number (publishing body rest))
    | _ => none
  | .observe number =>
    match live.handlers[number]? with
    | some (.observing nodeID status) =>
      some ((live.observe nodeID status).withStage number (.answered nodeID status))
    | _ => none
  | .elsewhere db => if db.results.rows = live.db.results.rows then some (live.withDB db) else none
  | .connect => some { live with clients := live.clients ++ [{ joinedAt := live.published.length }] }
  | .client number event =>
    (live.clients[number]?.bind (fun client => client.next event)).map (fun after =>
      { live with clients := live.clients.set number after })

end NetLatencyMonitor.Controller
