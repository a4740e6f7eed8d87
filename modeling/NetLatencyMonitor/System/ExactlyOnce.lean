import NetLatencyMonitor.System.DeliveryInvariant

/-! Exactly-once delivery: every step keeps the invariant of the delivery system, so
every interleaving with losses, stops and restarts stores each accepted payload once
and completely. -/

namespace NetLatencyMonitor.System

open Agent Clock Controller Keyed Machine Spool Text

open DeliverySystem

variable {codec : JsonCodec} {system after : DeliverySystem}

/-! The agents' steps. -/

theorem Delivered.setAgent (held : Delivered codec system) (agent : Nat) {call : Option SpoolCall}
    (holds : ∀ running, call = some running →
      CallHolds system.payloads (Backed codec system.requests system.db) system.spool running) :
    Delivered codec (system.setAgent agent ⟨call, none⟩) :=
  ⟨held.known,
    held.agents.update (.refl system.spool) held.agents.spooled agent holds (fun _ waiting => by cases waiting),
    held.controller, held.deleted⟩

theorem Delivered.beginRun (held : Delivered codec system) (agent : Nat) {uuid : Vector UInt8 16}
    (req : ResultsRequest) (fresh : uuidString uuid ∉ system.payloads.map Prod.fst) :
    Delivered codec (system.beginRun codec agent uuid req) := by
  unfold DeliverySystem.beginRun
  cases encoded : codec.marshal { req with probeRunID := uuidString uuid } with
  | none =>
    simp only [encoded]
    exact held
  | some payload =>
    simp only [encoded]
    have grows : ∀ pair ∈ system.payloads, pair ∈ system.payloads ++ [(uuidString uuid, payload)] :=
      fun pair member => List.mem_append_left _ member
    have agents := held.agents.mono grows (fun _ backed => backed) (List.prefix_refl system.requests)
    refine ⟨held.known.begin fresh encoded, ?_, held.controller.mono grows (List.prefix_refl _), held.deleted⟩
    refine agents.update (.refl system.spool) agents.spooled agent ?_ (fun _ waiting => by cases waiting)
    intro call running
    simp only [enqueue, uuidString_ne_nil, codec.nonempty _ _ encoded, if_false] at running
    cases running
    exact List.mem_append_right _ List.mem_cons_self

/-- What a statement deletes on acceptance is backed, and it is the row in hand. -/
theorem deletion_holds {payloads : List (GoString × GoString)} {backed : GoString → Prop}
    {before after : SpoolDB} {cfg : Config} {now : Time} {call next : SpoolCall} {c : Candidate}
    {removed : List SpoolRow} (holds : CallHolds payloads backed before call)
    (taken : call.statement cfg before now = some (after, next))
    (member : (c, removed) ∈ deletion before after call) : DeletionHolds backed c removed := by
  cases call with
  | settle started current outcome message rest stats =>
    cases outcome with
    | accepted =>
      cases taken
      cases List.mem_singleton.mp member
      refine ⟨holds.2 rfl, fun row lost => ?_⟩
      obtain ⟨present, absent⟩ := List.mem_filter.mp lost
      have named : row.id = c.id := by
        by_contra other
        exact of_decide_eq_true absent (SpoolDB.mem_deleteRow.mpr ⟨present, other⟩)
      exact ⟨named, (holds.1 _ List.mem_cons_self).same row present named⟩
    | permanentFail => cases member
    | transientFail => cases member
  | _ => cases member

theorem Delivered.statement (held : Delivered codec system) {cfg : Config} {agent : Nat} {now : Time}
    {call : SpoolCall} (running : (system.agents agent).call = some call)
    (step : system.agentStatement cfg agent now call = some after) : Delivered codec after := by
  obtain ⟨⟨spool, next⟩, taken, same⟩ := Option.map_eq_some_iff.mp step
  subst after
  have holds := held.agents.calls agent call running
  obtain ⟨evolves, spooled, further⟩ := statement_holds held.agents.spooled holds taken
  refine ⟨held.known, ?_, held.controller, ?_⟩
  · refine held.agents.update evolves spooled agent ?_ (fun _ waiting => by cases waiting)
    intro ongoingCall continues
    have same : next = ongoingCall := by
      unfold ongoing at continues
      split at continues
      · cases continues
      · exact Option.some.inj continues
    rw [← same]
    exact further
  · intro c removed member
    rcases List.mem_append.mp member with old | new
    · exact held.deleted c removed old
    · exact deletion_holds holds taken new

theorem Delivered.send (held : Delivered codec system) {agent : Nat} {now : Time} {current : Candidate}
    {rest : List Candidate} {stats : DrainStats}
    (running : (system.agents agent).call = some (.sending now current rest stats)) :
    Delivered codec { system.setAgent agent
        ⟨some (.sending now current rest stats), some system.requests.length⟩ with
      requests := system.requests ++ [current.payload] } := by
  have longer : system.requests <+: system.requests ++ [current.payload] := List.prefix_append _ _
  have keeps : ∀ payload, Backed codec system.requests system.db payload →
      Backed codec (system.requests ++ [current.payload]) system.db payload :=
    fun payload backed => backed.mono longer (grows_of_results rfl)
  have holds := held.agents.calls agent _ running
  have agents := held.agents.mono (fun _ known => known) keeps longer
  refine ⟨held.known.send (holds current List.mem_cons_self).known, ?_,
    held.controller.mono (fun _ known => known) longer, ?_⟩
  · refine agents.update (.refl system.spool) agents.spooled agent ?_ ?_
    · intro call same
      cases same
      exact holds
    · intro request waiting
      cases waiting
      exact ⟨now, current, rest, stats, rfl, List.getElem?_concat_length⟩
  · intro c removed member
    obtain ⟨backed, same⟩ := held.deleted c removed member
    exact ⟨keeps _ backed, same⟩

/-- The sender's outcome arrives; acceptance has to be justified. -/
theorem Delivered.settled (held : Delivered codec system) {agent : Nat} {outcome : SendOutcome}
    {message : GoString} {call : SpoolCall} (running : (system.agents agent).call = some call)
    (justified : ∀ now current rest stats, call = .sending now current rest stats → outcome = .accepted →
      Backed codec system.requests system.db current.payload)
    (step : system.settled agent outcome message call = some after) : Delivered codec after := by
  obtain ⟨next, taken, same⟩ := Option.map_eq_some_iff.mp step
  subst after
  apply held.setAgent
  intro settling continues
  cases continues
  exact sent_holds (held.agents.calls agent call running) justified taken

/-- An accepted answer to the outstanding request justifies the deletion. -/
theorem Delivered.justified (held : Delivered codec system) {agent request status : Nat} {now : Time}
    {current : Candidate} {rest : List Candidate} {stats : DrainStats}
    (waiting : (system.agents agent).outstanding = some request)
    (running : (system.agents agent).call = some (.sending now current rest stats))
    (replied : (request, status) ∈ system.responses) (accepted : outcomeOf status = .accepted) :
    Backed codec system.requests system.db current.payload := by
  obtain ⟨started, sent, others, counts, sending, found⟩ := held.agents.waits agent request waiting
  obtain ⟨payload, answered, stored⟩ := held.controller.answered request status replied accepted
  rw [running] at sending
  cases sending
  rw [found] at answered
  cases answered
  exact ⟨List.mem_of_getElem? found, stored⟩

/-! The controller's steps. -/

private theorem Delivered.closeTxn (held : Delivered codec system) : Delivered codec { system with txn := none } := by
  refine ⟨held.known, held.agents, ⟨held.controller.whole, ?_, held.controller.answered⟩, held.deleted⟩
  intro opened running
  cases running

theorem Delivered.respond (held : Delivered codec system) (request status : Nat)
    (backs : outcomeOf status = .accepted →
      ∃ payload, system.requests[request]? = some payload ∧ Stored codec system.db payload) :
    Delivered codec { system with responses := system.responses ++ [(request, status)] } := by
  refine ⟨held.known, held.agents, ⟨held.controller.whole, held.controller.running, ?_⟩, held.deleted⟩
  intro other code replied accepted
  rcases List.mem_append.mp replied with old | new
  · exact held.controller.answered other code old accepted
  · cases List.mem_singleton.mp new
    exact backs accepted

/-- The database moves on while no transaction is open. -/
theorem Delivered.grow (held : Delivered codec system) {db : DB} (grows : Grows system.db db)
    (whole : ∀ sourceID probeRunID,
      rowsOf db sourceID probeRunID = [] ∨ RunStored codec system.payloads db sourceID probeRunID)
    (idle : system.txn = none) : Delivered codec { system with db } := by
  have keeps : ∀ payload, Backed codec system.requests system.db payload →
      Backed codec system.requests db payload :=
    fun payload backed => backed.mono (List.prefix_refl _) grows
  refine ⟨held.known, held.agents.mono (fun _ known => known) keeps (List.prefix_refl _), ⟨whole, ?_, ?_⟩, ?_⟩
  · intro opened running
    rw [show ({ system with db } : DeliverySystem).txn = none from idle] at running
    cases running
  · intro request status replied accepted
    obtain ⟨payload, found, stored⟩ := held.controller.answered request status replied accepted
    exact ⟨payload, found, stored.mono grows⟩
  · intro c removed member
    obtain ⟨backed, same⟩ := held.deleted c removed member
    exact ⟨keeps _ backed, same⟩

/-- Statements on the other tables. -/
theorem Delivered.nodes (held : Delivered codec system) {db : DB} (same : db.results = system.db.results)
    (idle : system.txn = none) : Delivered codec { system with db } := by
  refine held.grow (grows_of_results same) (fun sourceID probeRunID => ?_) idle
  have rows : rowsOf db sourceID probeRunID = rowsOf system.db sourceID probeRunID := by
    unfold rowsOf
    rw [same]
  rcases held.controller.whole sourceID probeRunID with none | stored
  · exact Or.inl (rows.trans none)
  · exact Or.inr (stored.mono (fun _ known => known) rows)

private theorem Delivered.openTxn (held : Delivered codec system) {request : Nat} {payload authNodeID : GoString}
    {req : ResultsRequest} (found : system.requests[request]? = some payload)
    (decoded : codec.unmarshal payload = .ok req) (valid : validateResultsRequest authNodeID req = none) :
    Delivered codec { system with txn := some ⟨request, req, system.db, resultRows req⟩ } := by
  refine ⟨held.known, held.agents, ⟨held.controller.whole, ?_, held.controller.answered⟩, held.deleted⟩
  intro opened running
  cases running
  exact ⟨⟨payload, found, decoded⟩, ⟨authNodeID, valid⟩, inserting_begin system.db req⟩

theorem Delivered.allOrNone (held : Delivered codec system) {txn : Txn} (running : system.txn = some txn) :
    AllOrNone system.db txn.req := by
  obtain ⟨⟨payload, found, decoded⟩, _, _⟩ := held.controller.running txn running
  exact held.controller.allOrNone held.known (List.mem_of_getElem? found) decoded

theorem Delivered.insertNext (held : Delivered codec system) {txn : Txn} (running : system.txn = some txn)
    (step : system.insertNext txn = some after) : Delivered codec after := by
  obtain ⟨⟨payload, found, decoded⟩, ⟨authNodeID, valid⟩, inserting⟩ := held.controller.running txn running
  have whole := held.allOrNone running
  unfold DeliverySystem.insertNext at step
  cases remaining : txn.remaining with
  | nil =>
    rw [remaining] at step
    cases step
  | cons row rest =>
    rw [remaining] at step inserting
    simp only at step
    cases inserted : txn.working.insertResult row with
    | ok working =>
      rw [inserted] at step
      cases step
      refine ⟨held.known, held.agents, ⟨held.controller.whole, ?_, held.controller.answered⟩, held.deleted⟩
      intro opened same
      cases same
      exact ⟨⟨payload, found, decoded⟩, ⟨authNodeID, valid⟩, inserting.insert whole inserted⟩
    | error error =>
      rw [inserted] at step
      cases step
      refine held.closeTxn.respond txn.request _ (fun accepted => ⟨payload, found, txn.req, decoded, ?_⟩)
      -- 500 is no acceptance, so the insert has collided
      have conflict : isUniqueViolation error = true := by
        by_contra other
        rw [if_neg other] at accepted
        exact absurd (outcomeOf_accepted_iff.mp accepted) (by decide)
      obtain ⟨_, _, _, _, nonempty, _, distinct⟩ := validateResultsRequest_ok_iff.mp valid
      exact ⟨nonempty, inserting.conflict whole distinct (insertResult_conflict inserted conflict)⟩

theorem Delivered.commit (held : Delivered codec system) {txn : Txn} (running : system.txn = some txn)
    (complete : txn.remaining = []) :
    Delivered codec { system.answer txn 201 with db := txn.working } := by
  obtain ⟨⟨payload, found, decoded⟩, ⟨authNodeID, valid⟩, inserting⟩ := held.controller.running txn running
  obtain ⟨_, _, _, _, nonempty, _, _⟩ := validateResultsRequest_ok_iff.mp valid
  rw [complete] at inserting
  obtain ⟨own, grows, others⟩ := inserting.complete nonempty
  have listed := held.known.listed (List.mem_of_getElem? found) decoded
  have whole : ∀ sourceID probeRunID, rowsOf txn.working sourceID probeRunID = [] ∨
      RunStored codec system.payloads txn.working sourceID probeRunID := by
    intro sourceID probeRunID
    by_cases same : sourceID = txn.req.sourceID ∧ probeRunID = txn.req.probeRunID
    · obtain ⟨rfl, rfl⟩ := same
      exact Or.inr ⟨payload, txn.req, listed, decoded, rfl, rfl, own⟩
    · rcases held.controller.whole sourceID probeRunID with none | stored
      · exact Or.inl ((others _ _ same).trans none)
      · exact Or.inr (stored.mono (fun _ known => known) (others _ _ same))
  exact (held.closeTxn.grow grows whole rfl).respond txn.request 201
    (fun _ => ⟨payload, found, txn.req, decoded, nonempty, own⟩)

theorem delivered_start {db : DB} (fresh : db.results.rows = []) : Delivered codec (.start db) := by
  refine ⟨⟨List.nodup_nil, ?_, ?_⟩, ⟨?_, ?_, ?_⟩, ⟨?_, ?_, ?_⟩, ?_⟩
  · intro run payload member
    cases member
  · intro payload member
    cases member
  · intro row present
    cases present
  · intro agent call running
    cases running
  · intro agent request waiting
    cases waiting
  · intro sourceID probeRunID
    left
    show db.results.rows.filter _ = []
    rw [fresh]
    rfl
  · intro opened running
    cases running
  · intro request status replied
    cases replied
  · intro c removed member
    cases member

/-- Every step of every party keeps the invariant. -/
theorem delivered_next {cfg : Nat → Config} {event : DeliveryEvent} (held : Delivered codec system)
    (step : deliveryNext codec cfg system event = some after) : Delivered codec after := by
  cases deliveryNext_effect step with
  | begun fresh => exact held.beginRun _ _ fresh
  | stated running taken => exact held.statement running taken
  | moved quiet harmless =>
    apply held.setAgent
    intro call running
    rcases harmless with none | draining | ⟨size, stats, measured⟩
    · cases none.symm.trans running
    · cases draining.symm.trans running
      trivial
    · cases measured.symm.trans running
      trivial
  | sent running => exact held.send running
  | settled quiet running answered taken =>
    refine held.settled running (fun now current rest stats sending accepted => ?_) taken
    obtain ⟨request, status, waiting, replied, success⟩ := answered accepted
    exact held.justified waiting (sending ▸ running) replied success
  | opened found decoded valid => exact held.openTxn found decoded valid
  | inserted running taken => exact held.insertNext running taken
  | committed running complete => exact held.commit running complete
  | faulted => exact held.closeTxn.respond _ 500 (fun accepted => by cases accepted)
  | rejected refused => exact held.respond _ _ (fun accepted => absurd accepted refused)
  | restarted => exact held.closeTxn
  | changed quiet idle results => exact held.nodes results idle

/-- The only row under an observation's key is that observation's. -/
theorem Stored.once {db : DB} {payload : GoString} (stored : Stored codec db payload) :
    ∃ req, codec.unmarshal payload = .ok req ∧ ∀ obs ∈ req.results, ∃ row,
      db.results.rows.filter (fun row => decide (row.key = (req.sourceID, req.probeRunID, obs.targetID))) =
          [row] ∧
        row.latencyMs = obs.latencyMs ∧ row.error = (if obs.error = [] then none else some obs.error) ∧
        row.observedAt = req.observedAt / second := by
  obtain ⟨req, decoded, _, rows⟩ := stored
  refine ⟨req, decoded, fun obs member => ⟨resultRow req obs, ?_, rfl, rfl, rfl⟩⟩
  have listed : resultRow req obs ∈ rowsOf db req.sourceID req.probeRunID := by
    rw [rows]
    exact List.mem_map_of_mem member
  exact Table.filter_key (mem_rowsOf.mp listed).1

/-- A row leaves the spool by a statement that deletes it, on the acceptance of its own
payload or as the oldest. -/
theorem Delivered.leaves (held : Delivered codec system) {cfg : Nat → Config} {event : DeliveryEvent}
    (step : deliveryNext codec cfg system event = some after) {row : SpoolRow}
    (present : row ∈ system.spool.rows.rows) (gone : ∀ kept ∈ after.spool.rows.rows, kept.id ≠ row.id) :
    ∃ agent now, event = .statement agent now ∧
      ((∃ started c message rest stats,
          (system.agents agent).call = some (.settle started c .accepted message rest stats) ∧
            row.id = c.id ∧ row.probeRunID = c.probeRunID ∧ row.payload = c.payload) ∨
        ∃ stats, (system.agents agent).call = some (.deleteOldest stats)) := by
  have kept (same : after.spool = system.spool) : False := by
    rw [same] at gone
    exact gone row present rfl
  cases deliveryNext_effect step with
  | @stated agent now call _ running taken =>
    obtain ⟨⟨spool, next⟩, stated, same⟩ := Option.map_eq_some_iff.mp taken
    subst after
    refine ⟨agent, now, rfl, ?_⟩
    rcases statement_loses present gone stated with ⟨started, c, message, rest, stats, same, named⟩ | ⟨stats, same⟩
    · subst call
      have holds := held.agents.calls agent _ running
      exact Or.inl ⟨started, c, message, rest, stats, running, named,
        (holds.1 c List.mem_cons_self).same row present named⟩
    · subst call
      exact Or.inr ⟨stats, running⟩
  | begun fresh => exact (kept (beginRun_spool _ _ _ _ _)).elim
  | settled quiet running answered taken =>
    obtain ⟨next, _, same⟩ := Option.map_eq_some_iff.mp taken
    subst after
    exact (kept rfl).elim
  | inserted running taken => exact (kept (insertNext_spool taken)).elim
  | _ => exact (kept rfl).elim

/-- Exactly-once delivery, after any interleaving. Whatever was deleted on acceptance
was sent and is stored, each observation in one row; every run is stored completely
or not at all; an acceptance took no row out of the spool but the one that was sent;
and whatever step comes next, a row leaves the spool only by such an acceptance or as
the oldest in retention. -/
theorem delivered_exactly_once (codec : JsonCodec) (cfg : Nat → Config) (db : DB)
    (fresh : db.results.rows = []) (events : List DeliveryEvent) (system : DeliverySystem)
    (run : exec (deliveryNext codec cfg) (.start db) events = some system) :
    (∀ c removed, (c, removed) ∈ system.deletions → c.payload ∈ system.requests ∧
      ∃ req, codec.unmarshal c.payload = .ok req ∧ ∀ obs ∈ req.results, ∃ row,
        system.db.results.rows.filter
            (fun row => decide (row.key = (req.sourceID, req.probeRunID, obs.targetID))) = [row] ∧
          row.latencyMs = obs.latencyMs ∧ row.error = (if obs.error = [] then none else some obs.error) ∧
          row.observedAt = req.observedAt / second) ∧
      (∀ sourceID probeRunID, rowsOf system.db sourceID probeRunID = [] ∨
        ∃ payload req, (probeRunID, payload) ∈ system.payloads ∧ codec.unmarshal payload = .ok req ∧
          req.sourceID = sourceID ∧ req.probeRunID = probeRunID ∧
          rowsOf system.db sourceID probeRunID = resultRows req) ∧
      (∀ c removed, (c, removed) ∈ system.deletions → ∀ row ∈ removed,
        row.id = c.id ∧ row.probeRunID = c.probeRunID ∧ row.payload = c.payload) ∧
      (∀ event later, deliveryNext codec cfg system event = some later →
        ∀ row ∈ system.spool.rows.rows, (∀ kept ∈ later.spool.rows.rows, kept.id ≠ row.id) →
          ∃ agent now, event = .statement agent now ∧
            ((∃ started c message rest stats,
                (system.agents agent).call = some (.settle started c .accepted message rest stats) ∧
                  row.id = c.id ∧ row.probeRunID = c.probeRunID ∧ row.payload = c.payload) ∨
              ∃ stats, (system.agents agent).call = some (.deleteOldest stats))) := by
  have held : Delivered codec system :=
    exec_invariant (Delivered codec) (delivered_start fresh) (fun _ _ _ held step => delivered_next held step) run
  refine ⟨fun c removed member => ?_, held.controller.whole, fun c removed member => ?_,
    fun event later step row present gone => held.leaves step present gone⟩
  · obtain ⟨⟨sent, stored⟩, _⟩ := held.deleted c removed member
    exact ⟨sent, stored.once⟩
  · exact (held.deleted c removed member).2

/-- One observation of a registered spoke. -/
def firstCycle : ResultsRequest where
  sourceID := lit "spoke-1"
  probeRunID := uuidString (Vector.replicate 16 0)
  observedAt := second
  results := [{ targetID := lit "hub-1", latencyMs := some 2 }]
  spoolMetadata := { drainAttempt := 1 }

def firstPayload : GoString :=
  lit "\x7b\"source_id\":\"spoke-1\",\"probe_run_id\":\"00000000-0000-0000-0000-000000000000\"," ++
    lit "\"observed_at\":\"1970-01-01T00:00:01Z\"," ++
    lit "\"results\":[\x7b\"target_id\":\"hub-1\",\"latency_ms\":2,\"error\":\"\"\x7d]," ++
    lit "\"spool_metadata\":\x7b\"spool_depth\":0,\"spool_oldest_age_seconds\":0," ++
    lit "\"spool_drops_total\":0,\"drain_attempt\":1\x7d\x7d"

def firstCodec : JsonCodec := .single firstCycle firstPayload (by decide) (by decide)

def roomyConfig : Config := ⟨100, 24 * 3600 * second, 1000000, 30 * second, 3600 * second⟩

/-- The agent stops before the answer 201 arrives; after its restart the row is sent
again, answered 409 and deleted. -/
def lostAnswer : List DeliveryEvent :=
  [.upsertNode { id := lit "spoke-1", role := roleSpoke }, .enqueue 0 (Vector.replicate 16 0) firstCycle,
    .statement 0 second, .drain 0, .statement 0 second, .send 0, .begin 0 (lit "spoke-1"), .insert, .commit,
    .stop 0, .drain 0, .statement 0 second, .send 0, .begin 1 (lit "spoke-1"), .insert, .deliver 0 1 [],
    .statement 0 second]

theorem lost_answer_delivered_once :
    ∃ system, exec (deliveryNext firstCodec (fun _ => roomyConfig)) (.start .migrated) lostAnswer =
        some system ∧
      system.responses = [(0, 201), (1, 409)] ∧ system.spool.depth = 0 ∧
      (system.deletions.map (fun deleted => deleted.2.map SpoolRow.id) = [[1]]) ∧
      ∀ c removed, (c, removed) ∈ system.deletions → c.payload ∈ system.requests ∧
        ∃ req, firstCodec.unmarshal c.payload = .ok req ∧ ∀ obs ∈ req.results, ∃ row,
          system.db.results.rows.filter
              (fun row => decide (row.key = (req.sourceID, req.probeRunID, obs.targetID))) = [row] ∧
            row.latencyMs = obs.latencyMs ∧ row.error = (if obs.error = [] then none else some obs.error) ∧
            row.observedAt = req.observedAt / second := by
  set_option maxRecDepth 8000 in
  exact ⟨_, rfl, rfl, rfl, rfl,
    (delivered_exactly_once firstCodec (fun _ => roomyConfig) .migrated rfl lostAnswer _ rfl).1⟩

end NetLatencyMonitor.System
