import NetLatencyMonitor.Agent.Client
import NetLatencyMonitor.Agent.Payload
import NetLatencyMonitor.Machine.Execution
import NetLatencyMonitor.Spool.Accounting

/-! Delivery of results from one node's spool to the controller's database. Any number
of agent processes share the spool file. Every SQL statement, send and delivery is a
step of its own; responses may be lost or late, a request may be handled more than
once, processes stop and start again between any two steps. -/

namespace NetLatencyMonitor.System

open Agent Clock Controller Machine Spool Text

/-- One agent process: its call of the spool, and the request it waits for. -/
structure AgentProcess where
  call : Option SpoolCall := none
  outstanding : Option Nat := none

/-- An open transaction of `persistResults`. The controller has one database
connection, so nothing else runs while it is open; `working` is what it sees. -/
structure Txn where
  request : Nat
  req : ResultsRequest
  working : DB
  remaining : List ResultRow

/-- The last two fields only record: the payloads of all runs, and each deletion on
acceptance with the rows that left the spool by it. -/
structure DeliverySystem where
  spool : SpoolDB
  agents : Nat → AgentProcess
  requests : List GoString
  responses : List (Nat × Nat)
  db : DB
  txn : Option Txn
  payloads : List (GoString × GoString)
  deletions : List (Candidate × List SpoolRow)

/-- Fresh databases, with whatever nodes are registered. -/
def DeliverySystem.start (db : DB) : DeliverySystem :=
  ⟨.migrated, fun _ => {}, [], [], db, none, [], []⟩

inductive DeliveryEvent where
  | enqueue (agent : Nat) (uuid : Vector UInt8 16) (req : ResultsRequest)
  | drain (agent : Nat)
  | statement (agent : Nat) (now : Time)
  | send (agent : Nat)
  | deliver (agent response : Nat) (message : GoString)
  | failSend (agent : Nat) (outcome : SendOutcome) (message : GoString)
  | measured (agent : Nat) (size : Int)
  | stop (agent : Nat)
  | begin (request : Nat) (authNodeID : GoString)
  | insert
  | commit
  | fault
  | reject (request status : Nat)
  | restart
  | upsertNode (n : Node)
  | deleteNode (id : GoString)
  | spoolStats (id : GoString) (stats : NodeStore.SpoolStats)

namespace DeliverySystem

def setAgent (system : DeliverySystem) (agent : Nat) (process : AgentProcess) : DeliverySystem :=
  { system with agents := Function.update system.agents agent process }

/-- `Spoke.Run` up to its enqueue: a fresh run id, the payload and the call. -/
def beginRun (codec : JsonCodec) (system : DeliverySystem) (agent : Nat) (uuid : Vector UInt8 16)
    (req : ResultsRequest) : DeliverySystem :=
  let runID := uuidString uuid
  match codec.marshal { req with probeRunID := runID } with
  | none => system
  | some payload =>
    { system.setAgent agent ⟨enqueue runID payload, none⟩ with
      payloads := system.payloads ++ [(runID, payload)] }

/-- What a statement deletes on acceptance: the row in hand, with the rows that are in
the spool before the statement and not after it. -/
def deletion (before after : SpoolDB) : SpoolCall → List (Candidate × List SpoolRow)
  | .settle _ current .accepted _ _ _ =>
    [(current, before.rows.rows.filter (fun row => decide (row ∉ after.rows.rows)))]
  | _ => []

/-- One statement of an agent's call. -/
def agentStatement (cfg : Config) (system : DeliverySystem) (agent : Nat) (now : Time)
    (call : SpoolCall) : Option DeliverySystem :=
  (call.statement cfg system.spool now).map (fun (spool, next) =>
    { system.setAgent agent ⟨ongoing next, none⟩ with
      spool
      deletions := system.deletions ++ deletion system.spool spool call })

/-- The sender has an outcome for the row in hand. -/
def settled (system : DeliverySystem) (agent : Nat) (outcome : SendOutcome) (message : GoString)
    (call : SpoolCall) : Option DeliverySystem :=
  (call.sent outcome message).map (fun next => system.setAgent agent ⟨some next, none⟩)

/-- Answer the request of the open transaction. -/
def answer (system : DeliverySystem) (txn : Txn) (status : Nat) : DeliverySystem :=
  { system with txn := none, responses := system.responses ++ [(txn.request, status)] }

/-- The next `INSERT` of the open transaction. -/
def insertNext (system : DeliverySystem) (txn : Txn) : Option DeliverySystem :=
  match txn.remaining with
  | [] => none
  | row :: rest =>
    match txn.working.insertResult row with
    | .ok working => some { system with txn := some { txn with working, remaining := rest } }
    | .error error => some (system.answer txn (if isUniqueViolation error then 409 else 500))

theorem beginRun_spool (codec : JsonCodec) (system : DeliverySystem) (agent : Nat) (uuid : Vector UInt8 16)
    (req : ResultsRequest) : (system.beginRun codec agent uuid req).spool = system.spool := by
  simp only [beginRun]
  split
  · rfl
  · rfl

theorem insertNext_spool {system after : DeliverySystem} {txn : Txn}
    (taken : system.insertNext txn = some after) : after.spool = system.spool := by
  unfold insertNext at taken
  split at taken
  · cases taken
  · split at taken
    · cases taken
      rfl
    · cases taken
      rfl

end DeliverySystem

open DeliverySystem

/-- One step. `cfg` gives each process its configuration. -/
def deliveryNext (codec : JsonCodec) (cfg : Nat → Config) (system : DeliverySystem) :
    DeliveryEvent → Option DeliverySystem
  | .enqueue agent uuid req =>
    if (system.agents agent).call.isNone ∧ uuidString uuid ∉ system.payloads.map Prod.fst then
      some (system.beginRun codec agent uuid req)
    else none
  | .drain agent =>
    if (system.agents agent).call.isNone then some (system.setAgent agent ⟨some drain, none⟩) else none
  | .statement agent now =>
    (system.agents agent).call.bind (system.agentStatement (cfg agent) agent now)
  | .send agent =>
    match system.agents agent with
    | ⟨some (.sending now current rest stats), none⟩ =>
      some { system.setAgent agent ⟨some (.sending now current rest stats), some system.requests.length⟩ with
        requests := system.requests ++ [current.payload] }
    | _ => none
  | .deliver agent response message =>
    match (system.agents agent).outstanding, system.responses[response]? with
    | some request, some (answered, status) =>
      if answered = request then
        (system.agents agent).call.bind (system.settled agent (outcomeOf status) message)
      else none
    | _, _ => none
  | .failSend agent outcome message =>
    if outcome = .accepted then none
    else (system.agents agent).call.bind (system.settled agent outcome message)
  | .measured agent size =>
    ((system.agents agent).call.bind (SpoolCall.measured size)).map (fun next =>
      system.setAgent agent ⟨some next, none⟩)
  | .stop agent => some (system.setAgent agent {})
  | .begin request authNodeID =>
    match system.txn, system.requests[request]? with
    | none, some payload =>
      match codec.unmarshal payload with
      | .error _ => none
      | .ok req =>
        if validateResultsRequest authNodeID req = none then
          some { system with txn := some ⟨request, req, system.db, resultRows req⟩ }
        else none
    | _, _ => none
  | .insert => system.txn.bind system.insertNext
  | .commit =>
    system.txn.bind (fun txn =>
      if txn.remaining = [] then some { system.answer txn 201 with db := txn.working } else none)
  | .fault => system.txn.map (fun txn => system.answer txn 500)
  | .reject request status =>
    if outcomeOf status = .accepted then none
    else some { system with responses := system.responses ++ [(request, status)] }
  | .restart => some { system with txn := none }
  | .upsertNode n =>
    match system.txn with
    | some _ => none
    | none => (NodeStore.writeNode system.db n).toOption.map (fun db => { system with db })
  | .deleteNode id =>
    match system.txn with
    | some _ => none
    | none => (system.db.deleteNode id).toOption.map (fun result => { system with db := result.1 })
  | .spoolStats id stats =>
    match system.txn with
    | some _ => none
    | none => (NodeStore.updateSpoolStats system.db id stats).toOption.map (fun db => { system with db })

/-- Events that touch neither payloads, results nor deletions. -/
def DeliveryEvent.quiet : DeliveryEvent → Bool
  | .enqueue _ _ _ => false
  | .statement _ _ => false
  | .commit => false
  | _ => true

/-- What a step can do. -/
inductive DeliveryEffect (codec : JsonCodec) (cfg : Nat → Config) (system : DeliverySystem) :
    DeliveryEvent → DeliverySystem → Prop where
  | begun {agent : Nat} {uuid : Vector UInt8 16} {req : ResultsRequest}
      (fresh : uuidString uuid ∉ system.payloads.map Prod.fst) :
      DeliveryEffect codec cfg system (.enqueue agent uuid req) (system.beginRun codec agent uuid req)
  | stated {agent : Nat} {now : Time} {call : SpoolCall} {after : DeliverySystem}
      (running : (system.agents agent).call = some call)
      (taken : system.agentStatement (cfg agent) agent now call = some after) :
      DeliveryEffect codec cfg system (.statement agent now) after
  | moved {event : DeliveryEvent} {agent : Nat} {call : Option SpoolCall} (quiet : event.quiet = true)
      (harmless : call = none ∨ call = some drain ∨ ∃ size stats, call = some (.oldestAge size stats)) :
      DeliveryEffect codec cfg system event (system.setAgent agent ⟨call, none⟩)
  | sent {agent : Nat} {now : Time} {current : Candidate} {rest : List Candidate} {stats : DrainStats}
      (running : (system.agents agent).call = some (.sending now current rest stats)) :
      DeliveryEffect codec cfg system (.send agent)
        { system.setAgent agent ⟨some (.sending now current rest stats), some system.requests.length⟩ with
          requests := system.requests ++ [current.payload] }
  | settled {event : DeliveryEvent} {agent : Nat} {call : SpoolCall} {outcome : SendOutcome}
      {message : GoString} {after : DeliverySystem} (quiet : event.quiet = true)
      (running : (system.agents agent).call = some call)
      (answered : outcome = .accepted → ∃ request status, (system.agents agent).outstanding = some request ∧
        (request, status) ∈ system.responses ∧ outcomeOf status = .accepted)
      (taken : system.settled agent outcome message call = some after) :
      DeliveryEffect codec cfg system event after
  | opened {request : Nat} {payload authNodeID : GoString} {req : ResultsRequest}
      (found : system.requests[request]? = some payload) (decoded : codec.unmarshal payload = .ok req)
      (valid : validateResultsRequest authNodeID req = none) :
      DeliveryEffect codec cfg system (.begin request authNodeID)
        { system with txn := some ⟨request, req, system.db, resultRows req⟩ }
  | inserted {txn : Txn} {after : DeliverySystem} (running : system.txn = some txn)
      (taken : system.insertNext txn = some after) : DeliveryEffect codec cfg system .insert after
  | committed {txn : Txn} (running : system.txn = some txn) (complete : txn.remaining = []) :
      DeliveryEffect codec cfg system .commit { system.answer txn 201 with db := txn.working }
  | faulted {txn : Txn} : DeliveryEffect codec cfg system .fault (system.answer txn 500)
  | rejected {request status : Nat} (refused : outcomeOf status ≠ .accepted) :
      DeliveryEffect codec cfg system (.reject request status)
        { system with responses := system.responses ++ [(request, status)] }
  | restarted : DeliveryEffect codec cfg system .restart { system with txn := none }
  | changed {event : DeliveryEvent} {db : DB} (quiet : event.quiet = true) (idle : system.txn = none)
      (results : db.results = system.db.results) : DeliveryEffect codec cfg system event { system with db }

/-- Every step has one of these effects. -/
theorem deliveryNext_effect {codec : JsonCodec} {cfg : Nat → Config} {system after : DeliverySystem}
    {event : DeliveryEvent} (step : deliveryNext codec cfg system event = some after) :
    DeliveryEffect codec cfg system event after := by
  cases event with
  | enqueue agent uuid req =>
    simp only [deliveryNext] at step
    split at step
    · rename_i allowed
      cases step
      exact .begun allowed.2
    · cases step
  | drain agent =>
    simp only [deliveryNext] at step
    split at step
    · cases step
      exact .moved rfl (Or.inr (Or.inl rfl))
    · cases step
  | statement agent now =>
    obtain ⟨call, running, taken⟩ := Option.bind_eq_some_iff.mp step
    exact .stated running taken
  | send agent =>
    simp only [deliveryNext] at step
    split at step
    · rename_i now current rest stats process
      cases step
      exact .sent (congrArg AgentProcess.call process)
    · cases step
  | deliver agent response message =>
    simp only [deliveryNext] at step
    split at step
    · rename_i request answered status waiting listed
      split at step
      · rename_i same
        subst answered
        obtain ⟨call, running, taken⟩ := Option.bind_eq_some_iff.mp step
        refine .settled rfl running (fun accepted => ?_) taken
        exact ⟨request, status, waiting, List.mem_of_getElem? listed, accepted⟩
      · cases step
    · cases step
  | failSend agent outcome message =>
    simp only [deliveryNext] at step
    split at step
    · cases step
    · rename_i failed
      obtain ⟨call, running, taken⟩ := Option.bind_eq_some_iff.mp step
      exact .settled rfl running (fun accepted => absurd accepted failed) taken
  | measured agent size =>
    obtain ⟨next, measured, same⟩ := Option.map_eq_some_iff.mp step
    subst after
    obtain ⟨call, _, taken⟩ := Option.bind_eq_some_iff.mp measured
    cases call with
    | footprint stats =>
      cases taken
      exact .moved rfl (Or.inr (Or.inr ⟨size, stats, rfl⟩))
    | _ => cases taken
  | stop agent =>
    cases step
    exact .moved rfl (Or.inl rfl)
  | begin request authNodeID =>
    simp only [deliveryNext] at step
    split at step
    · rename_i payload idle found
      split at step
      · cases step
      · rename_i req decoded
        split at step
        · rename_i valid
          cases step
          exact .opened found decoded valid
        · cases step
    · cases step
  | insert =>
    obtain ⟨txn, running, taken⟩ := Option.bind_eq_some_iff.mp step
    exact .inserted running taken
  | commit =>
    obtain ⟨txn, running, taken⟩ := Option.bind_eq_some_iff.mp step
    split at taken
    · rename_i complete
      cases taken
      exact .committed running complete
    · cases taken
  | fault =>
    obtain ⟨txn, _, same⟩ := Option.map_eq_some_iff.mp step
    subst after
    exact .faulted
  | reject request status =>
    simp only [deliveryNext] at step
    split at step
    · cases step
    · rename_i refused
      cases step
      exact .rejected refused
  | restart =>
    cases step
    exact .restarted
  | upsertNode n =>
    simp only [deliveryNext] at step
    split at step
    · cases step
    · rename_i idle
      obtain ⟨db, written, same⟩ := Option.map_eq_some_iff.mp step
      subst after
      exact .changed rfl idle (NodeStore.writeNode_frame (ok_of_toOption written)).1
  | deleteNode id =>
    simp only [deliveryNext] at step
    split at step
    · cases step
    · rename_i idle
      obtain ⟨⟨db, removed⟩, deleted, same⟩ := Option.map_eq_some_iff.mp step
      subst after
      exact .changed rfl idle (NodeStore.deleteNode_frame (ok_of_toOption deleted)).1
  | spoolStats id stats =>
    simp only [deliveryNext] at step
    split at step
    · cases step
    · rename_i idle
      obtain ⟨db, updated, same⟩ := Option.map_eq_some_iff.mp step
      subst after
      obtain ⟨_, oldest, rfl⟩ := NodeStore.updateSpoolStats_ok (ok_of_toOption updated)
      exact .changed rfl idle rfl

end NetLatencyMonitor.System
