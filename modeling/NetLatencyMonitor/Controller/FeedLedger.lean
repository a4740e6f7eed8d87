import NetLatencyMonitor.Controller.LiveFeed

/-! The books of the ingest. Whatever requests interleave, every row that was stored has
been published once or is still owed by the handler that stored it, and the counters agree
with the rows and the answers. -/

namespace NetLatencyMonitor.Controller

open Clock Machine Text

/-- What a step does to the controller, with what it needs of the database said. -/
inductive LiveEffect (marshal : ProbeEvent → GoString) (live : LiveServer) : LiveServer → Prop
  | arrived (nodeID : GoString) (body : Except GoString ResultsRequest) :
      LiveEffect marshal live { live with handlers := live.handlers ++ [arrival nodeID body] }
  | stored {number : Nat} {body : ValidResults} {db : DB}
      (found : live.handlers[number]? = some (.persisting body))
      (extended : db.results.rows = live.db.results.rows ++ resultRows body.req) :
      LiveEffect marshal live ((live.withDB db).withStage number (.bookkeeping body 201))
  | refused {number : Nat} {body : ValidResults} {stage : IngestStage}
      (found : live.handlers[number]? = some (.persisting body))
      (settled : stage = .bookkeeping body 409 ∨ stage = .observing body.nodeID 500) :
      LiveEffect marshal live (live.withStage number stage)
  | booked {number : Nat} {body : ValidResults} {status : Nat} {db : DB}
      (found : live.handlers[number]? = some (.bookkeeping body status))
      (kept : db.results.rows = live.db.results.rows) :
      LiveEffect marshal live ((live.withDB db).withStage number (.counting body status))
  | panicked {number : Nat} {body : ValidResults} {status : Nat} {server : DropsServer}
      (found : live.handlers[number]? = some (.counting body status)) (kept : server.ingest.db = live.db) :
      LiveEffect marshal live { live.withStage number (.panicked body status) with server }
  | counted {number : Nat} {body : ValidResults} {status : Nat} {server : DropsServer}
      (found : live.handlers[number]? = some (.counting body status)) (kept : server.ingest.db = live.db) :
      LiveEffect marshal live
        { live.withStage number (afterCount body status) with
          server
          probeResultsTotal := live.probeResultsTotal + if status = 201 then body.req.results.length else 0 }
  | published {number : Nat} {body : ValidResults} {obs : ResultObservation} {rest : List ResultObservation}
      (found : live.handlers[number]? = some (.broadcasting body (obs :: rest))) :
      LiveEffect marshal live ((live.broadcast marshal body obs).withStage number (publishing body rest))
  | observed {number : Nat} {nodeID : GoString} {status : Nat}
      (found : live.handlers[number]? = some (.observing nodeID status)) :
      LiveEffect marshal live ((live.observe nodeID status).withStage number (.answered nodeID status))
  | elsewhere {db : DB} (kept : db.results.rows = live.db.results.rows) : LiveEffect marshal live (live.withDB db)
  | connected : LiveEffect marshal live
      { live with clients := live.clients ++ [{ joinedAt := live.published.length }] }
  | moved {number : Nat} {client after : UIClient} {event : ClientEvent}
      (found : live.clients[number]? = some client) (step : client.next event = some after) :
      LiveEffect marshal live { live with clients := live.clients.set number after }

private theorem countDrops_db (server : DropsServer) (nodeID : GoString) (reported : Int) (reply : ResultsReply) :
    (countDrops server nodeID reported reply).server.ingest.db = server.ingest.db := by
  unfold countDrops
  split
  · rfl
  · dsimp only
    split
    · split
      · rfl
      · rfl
    · rfl

/-- `UpdateSpoolStats`, with its failure ignored, leaves the results as they are. -/
theorem updateSpoolStats_results (db : DB) (id : GoString) (stats : NodeStore.SpoolStats) :
    (match NodeStore.updateSpoolStats db id stats with
      | .ok updated => updated
      | .error _ => db).results.rows = db.results.rows := by
  cases done : NodeStore.updateSpoolStats db id stats with
  | ok updated =>
    obtain ⟨_, oldest, same⟩ := NodeStore.updateSpoolStats_ok done
    subst updated
    rfl
  | error error => rfl

section Step

variable {marshal : ProbeEvent → GoString} {live after : LiveServer} {event : LiveEvent}

private theorem persist_effect {number : Nat} {body : ValidResults}
    (found : live.handlers[number]? = some (.persisting body))
    (faults : TxFaults) :
    LiveEffect marshal live ((live.withDB (persistResultsUnder faults live.db body.req).1).withStage number
      (afterPersist body (persistResultsUnder faults live.db body.req).2)) := by
  have ended := persistResultsUnder_ingested body.valid faults live.db
  generalize persistResultsUnder faults live.db body.req = result at ended ⊢
  cases ended with
  | created _ _ _ extended => exact .stored found extended.results
  | replayed => exact .refused found (Or.inl rfl)
  | failed => exact .refused found (Or.inr rfl)

private theorem liveNext_effect (step : liveNext marshal live event = some after) : LiveEffect marshal live after := by
  cases event with
  | arrive nodeID body =>
    cases step
    exact .arrived nodeID body
  | persist number faults =>
    simp only [liveNext] at step
    split at step
    · rename_i body found
      cases step
      exact persist_effect found faults
    · cases step
  | bookkeep number now =>
    simp only [liveNext] at step
    split at step
    · rename_i body status found
      cases step
      exact .booked found (updateSpoolStats_results _ _ _)
    · cases step
  | count number =>
    simp only [liveNext] at step
    split at step
    · rename_i body status found
      split at step
      · cases step
      · cases step
        unfold LiveServer.count
        dsimp only
        split
        · exact .panicked found (countDrops_db _ _ _ _)
        · exact .counted found (countDrops_db _ _ _ _)
    · cases step
  | broadcast number =>
    simp only [liveNext] at step
    split at step
    · rename_i body obs rest found
      cases step
      exact .published found
    · cases step
  | observe number =>
    simp only [liveNext] at step
    split at step
    · rename_i nodeID status found
      cases step
      exact .observed found
    · cases step
  | elsewhere db =>
    simp only [liveNext] at step
    split at step
    · rename_i kept
      cases step
      exact .elsewhere kept
    · cases step
  | connect =>
    cases step
    exact .connected
  | client number event =>
    obtain ⟨moved, next, same⟩ := Option.map_eq_some_iff.mp step
    obtain ⟨client, found, next⟩ := Option.bind_eq_some_iff.mp next
    subst same
    exact .moved found next

end Step

/-! The ledger. -/

/-- The rows of a payload answered with 201, none for another status. -/
def storedRows (body : ValidResults) (status : Nat) : List ResultRow :=
  if status = 201 then resultRows body.req else []

/-- What a handler has stored and not published. A handler that panicked keeps its debt. -/
def owed : IngestStage → List ResultRow
  | .bookkeeping body status => storedRows body status
  | .counting body status => storedRows body status
  | .panicked body status => storedRows body status
  | .broadcasting body remaining => remaining.map (resultRow body.req)
  | .persisting _ => []
  | .observing _ _ => []
  | .answered _ _ => []

/-- What a handler has stored and not added to `nlm_probe_results_total`. -/
def uncounted : IngestStage → List ResultRow
  | .bookkeeping body status => storedRows body status
  | .counting body status => storedRows body status
  | .panicked body status => storedRows body status
  | .broadcasting _ _ => []
  | .persisting _ => []
  | .observing _ _ => []
  | .answered _ _ => []

/-- The request has been answered, and counts under this node id and label. -/
def countedAs (key : GoString × GoString) : IngestStage → Bool
  | .answered nodeID status => decide ((nodeID, statusLabel status) = key)
  | _ => false

/-- The books when `added` are the rows stored since the start. -/
structure Ledger (base added : List ResultRow) (live : LiveServer) : Prop where
  rows : live.db.results.rows = base ++ added
  feed : added.Perm (live.published ++ live.handlers.flatMap owed)
  total : live.probeResultsTotal + (live.handlers.flatMap uncounted).length = added.length
  ingest : ∀ key, live.ingestTotal key = live.handlers.countP (countedAs key)

private theorem owed_publishing (body : ValidResults) (rest : List ResultObservation) :
    owed (publishing body rest) = rest.map (resultRow body.req) := by
  cases rest with
  | nil => rfl
  | cons obs others => rfl

private theorem uncounted_publishing (body : ValidResults) (rest : List ResultObservation) :
    uncounted (publishing body rest) = [] := by
  cases rest with
  | nil => rfl
  | cons obs others => rfl

private theorem countedAs_publishing (key : GoString × GoString) (body : ValidResults) (rest : List ResultObservation) :
    countedAs key (publishing body rest) = false := by
  cases rest with
  | nil => rfl
  | cons obs others => rfl

private theorem owed_afterCount (body : ValidResults) (status : Nat) :
    owed (afterCount body status) = storedRows body status := by
  unfold afterCount storedRows
  split
  · exact owed_publishing body body.req.results
  · rfl

private theorem uncounted_afterCount (body : ValidResults) (status : Nat) :
    uncounted (afterCount body status) = [] := by
  unfold afterCount
  split
  · exact uncounted_publishing body body.req.results
  · rfl

private theorem countedAs_afterCount (key : GoString × GoString) (body : ValidResults) (status : Nat) :
    countedAs key (afterCount body status) = false := by
  unfold afterCount
  split
  · exact countedAs_publishing key body body.req.results
  · rfl

private theorem length_storedRows (body : ValidResults) (status : Nat) :
    (storedRows body status).length = if status = 201 then body.req.results.length else 0 := by
  unfold storedRows
  split
  · exact List.length_map _
  · rfl

private theorem arrival_idle (nodeID : GoString) (body : Except GoString ResultsRequest) (key : GoString × GoString) :
    owed (arrival nodeID body) = [] ∧ uncounted (arrival nodeID body) = [] ∧
      countedAs key (arrival nodeID body) = false := by
  unfold arrival
  split
  · exact ⟨rfl, rfl, rfl⟩
  · split
    · exact ⟨rfl, rfl, rfl⟩
    · exact ⟨rfl, rfl, rfl⟩

section Ledger

variable {base added : List ResultRow} {live after : LiveServer} {number : Nat} {old new : IngestStage}

/-- One handler moves on: what it stored, published and counted in the step is what its
debts change by. -/
theorem Ledger.move (books : Ledger base added live) (found : live.handlers[number]? = some old)
    {fresh out : List ResultRow} {counted : Nat}
    (handlers : after.handlers = live.handlers.set number new)
    (rows : after.db.results.rows = live.db.results.rows ++ fresh)
    (published : after.published = live.published ++ out)
    (total : after.probeResultsTotal = live.probeResultsTotal + counted)
    (ingest : ∀ key, after.ingestTotal key =
      live.ingestTotal key + if countedAs key new then 1 else 0)
    (unanswered : ∀ key, countedAs key old = false)
    (owes : ∀ row, (owed new).count row + out.count row = (owed old).count row + fresh.count row)
    (counts : counted + (uncounted new).length = (uncounted old).length + fresh.length) :
    Ledger base (added ++ fresh) after := by
  refine ⟨?_, ?_, ?_, fun key => ?_⟩
  · rw [rows, books.rows, List.append_assoc]
  · refine List.perm_iff_count.mpr (fun row => ?_)
    have before := List.perm_iff_count.mp books.feed row
    have moved := count_flatMap_set owed found new row
    have balance := owes row
    rw [handlers, published]
    simp only [List.count_append] at before ⊢
    omega
  · have before := books.total
    have moved := length_flatMap_set uncounted found new
    rw [handlers, total, List.length_append]
    omega
  · have moved := countP_set found new (countedAs key)
    rw [unanswered key] at moved
    rw [handlers, ingest key, books.ingest key]
    simpa using moved.symm

/-- What leaves the handlers, the results and the counters alone keeps the books. -/
theorem Ledger.keep (books : Ledger base added live) (handlers : after.handlers = live.handlers)
    (rows : after.db.results.rows = live.db.results.rows) (published : after.published = live.published)
    (total : after.probeResultsTotal = live.probeResultsTotal) (ingest : after.ingestTotal = live.ingestTotal) :
    Ledger base added after :=
  ⟨rows.trans books.rows, by rw [published, handlers]; exact books.feed,
    by rw [total, handlers]; exact books.total, fun key => by rw [ingest, handlers]; exact books.ingest key⟩

private theorem ledger_start (db : DB) : Ledger db.results.rows [] (.start db) :=
  ⟨(List.append_nil _).symm, List.Perm.refl _, rfl, fun _ => rfl⟩

theorem Ledger.effect {marshal : ProbeEvent → GoString} (books : Ledger base added live)
    (effect : LiveEffect marshal live after) : ∃ fresh, Ledger base (added ++ fresh) after := by
  cases effect with
  | arrived nodeID body =>
    have idle := arrival_idle nodeID body
    refine ⟨[], ?_, ?_, ?_, fun key => ?_⟩
    · rw [List.append_nil]
      exact books.rows
    · simpa [(idle ([], [])).1] using books.feed
    · simpa [(idle ([], [])).2.1] using books.total
    · simpa [(idle key).2.2] using books.ingest key
  | @stored _ body _ found extended =>
    refine ⟨resultRows body.req, books.move found rfl extended (List.append_nil _).symm (Nat.add_zero _).symm
      (fun _ => rfl) (fun _ => rfl) (fun row => ?_) ?_⟩
    · simp [owed, storedRows]
    · simp [uncounted, storedRows]
  | refused found settled =>
    refine ⟨[], books.move found rfl (List.append_nil _).symm (List.append_nil _).symm (Nat.add_zero _).symm
      (fun key => ?_) (fun _ => rfl) (fun row => ?_) ?_⟩
    · rcases settled with rfl | rfl
      · rfl
      · rfl
    · rcases settled with rfl | rfl
      · simp [owed, storedRows]
      · simp [owed]
    · rcases settled with rfl | rfl
      · simp [uncounted, storedRows]
      · simp [uncounted]
  | booked found kept =>
    exact ⟨[], books.move found rfl (kept.trans (List.append_nil _).symm) (List.append_nil _).symm
      (Nat.add_zero _).symm (fun _ => rfl) (fun _ => rfl) (fun _ => rfl) (Nat.zero_add _)⟩
  | panicked found kept =>
    refine ⟨[], books.move found rfl ?_ (List.append_nil _).symm rfl (fun _ => rfl) (fun _ => rfl)
      (fun _ => rfl) (Nat.zero_add _)⟩
    rw [List.append_nil, LiveServer.db, kept]
  | @counted _ body status _ found kept =>
    refine ⟨[], books.move found rfl ?_ (List.append_nil _).symm rfl (fun key => ?_) (fun _ => rfl)
      (fun row => ?_) ?_⟩
    · rw [List.append_nil, LiveServer.db, kept]
    · rw [countedAs_afterCount]
      rfl
    · rw [owed_afterCount]
      rfl
    · rw [uncounted_afterCount]
      exact (length_storedRows body status).symm
  | @published _ body obs rest found =>
    refine ⟨[], books.move found rfl (List.append_nil _).symm rfl (Nat.add_zero _).symm (fun key => ?_)
      (fun _ => rfl) (fun row => ?_) ?_⟩
    · rw [countedAs_publishing]
      rfl
    · rw [owed_publishing]
      simp [owed, List.count_cons]
    · rw [uncounted_publishing]
      rfl
  | @observed _ nodeID status found =>
    refine ⟨[], books.move found rfl (List.append_nil _).symm (List.append_nil _).symm rfl (fun key => ?_)
      (fun _ => rfl) (fun _ => rfl) rfl⟩
    by_cases own : (nodeID, statusLabel status) = key
    · subst key
      simp [LiveServer.observe, LiveServer.withStage, countedAs]
    · simp [LiveServer.observe, LiveServer.withStage, countedAs, own, Function.update_of_ne (Ne.symm own)]
  | elsewhere kept =>
    refine ⟨[], ?_⟩
    rw [List.append_nil]
    exact books.keep rfl kept rfl rfl rfl
  | connected =>
    refine ⟨[], ?_⟩
    rw [List.append_nil]
    exact books.keep rfl rfl rfl rfl rfl
  | moved found step =>
    refine ⟨[], ?_⟩
    rw [List.append_nil]
    exact books.keep rfl rfl rfl rfl rfl

end Ledger

/-- The books of every reachable state balance. -/
theorem ledger_run {marshal : ProbeEvent → GoString} {db : DB} {events : List LiveEvent} {live : LiveServer}
    (run : exec (liveNext marshal) (.start db) events = some live) :
    ∃ added, Ledger db.results.rows added live := by
  refine exec_invariant (fun state => ∃ added, Ledger db.results.rows added state) ⟨[], ledger_start db⟩ ?_ run
  rintro before event after ⟨added, books⟩ step
  obtain ⟨fresh, books⟩ := books.effect (liveNext_effect step)
  exact ⟨added ++ fresh, books⟩

/-- The keys of the table are distinct, so no row was there before it was added. -/
theorem Ledger.keys {base added : List ResultRow} {live : LiveServer} (books : Ledger base added live) :
    (added.map ResultRow.key).Nodup ∧ ∀ row ∈ added, row ∉ base := by
  have distinct := live.db.results.unique
  rw [books.rows, List.map_append] at distinct
  obtain ⟨_, own, apart⟩ := List.nodup_append.mp distinct
  refine ⟨own, fun row member old => ?_⟩
  exact apart _ (List.mem_map_of_mem old) _ (List.mem_map_of_mem member) rfl

/-- What was published are distinct rows, stored since the start. -/
theorem Ledger.published {base added : List ResultRow} {live : LiveServer} (books : Ledger base added live) :
    (live.published.map ResultRow.key).Nodup ∧
      ∀ row ∈ live.published, row ∈ live.db.results.rows ∧ row ∉ base := by
  obtain ⟨keys, fresh⟩ := books.keys
  constructor
  · rw [(books.feed.map ResultRow.key).nodup_iff, List.map_append] at keys
    exact (List.nodup_append.mp keys).1
  · intro row member
    have among : row ∈ added := books.feed.mem_iff.mpr (List.mem_append_left _ member)
    exact ⟨books.rows ▸ List.mem_append_right _ among, fresh row among⟩

/-- Every observation stored since the start is published at most once, nothing else is
published, and what has not been published yet is owed by the handler that stored it. -/
theorem stored_rows_published_once (marshal : ProbeEvent → GoString) (db : DB) (events : List LiveEvent)
    (live : LiveServer) (run : exec (liveNext marshal) (.start db) events = some live) :
    (live.published.map ResultRow.key).Nodup ∧
    (∀ row ∈ live.published, row ∈ live.db.results.rows ∧ row ∉ db.results.rows) ∧
    ∀ row ∈ live.db.results.rows, row ∉ db.results.rows → row ∉ live.published →
      ∃ stage ∈ live.handlers, row ∈ owed stage := by
  obtain ⟨added, books⟩ := ledger_run run
  refine ⟨books.published.1, books.published.2, fun row stored new silent => ?_⟩
  rw [books.rows] at stored
  have among : row ∈ added := (List.mem_append.mp stored).resolve_left new
  have debt := (List.mem_append.mp (books.feed.mem_iff.mp among)).resolve_left silent
  exact List.mem_flatMap.mp debt

/-- The counters of the ingest against the database and the answers: the rows of the table
are those of the start, those counted in `nlm_probe_results_total` and those of handlers
that have not come to the counter, and `nlm_ingest_total` has each answered request once,
under its node and the label of its status. -/
theorem ingest_counters_agree (marshal : ProbeEvent → GoString) (db : DB) (events : List LiveEvent)
    (live : LiveServer) (run : exec (liveNext marshal) (.start db) events = some live) :
    live.db.results.rows.length = db.results.rows.length + live.probeResultsTotal +
        (live.handlers.flatMap uncounted).length ∧
      ∀ nodeID label, live.ingestTotal (nodeID, label) = live.handlers.countP (countedAs (nodeID, label)) := by
  obtain ⟨added, books⟩ := ledger_run run
  refine ⟨?_, fun nodeID label => books.ingest (nodeID, label)⟩
  have total := books.total
  rw [books.rows, List.length_append]
  omega

/-- A node posts a run, the answer is lost and it posts the run again while the first
handler is at its second event. -/
def repostedRun : List LiveEvent :=
  [.connect, .arrive (lit "spoke-1") (.ok (twoTargets (lit "run-1"))), .persist 0 .clean, .bookkeep 0 0, .count 0,
    .broadcast 0, .arrive (lit "spoke-1") (.ok (twoTargets (lit "run-1"))), .persist 1 .clean, .bookkeep 1 0,
    .count 1, .observe 1, .client 0 (.write true)]

/-- The event as the text of its target, in place of JSON. -/
def targetOnly (event : ProbeEvent) : GoString := event.targetID

theorem reposted_run_published_once :
    ∃ live, exec (liveNext targetOnly) (.start knownSpoke) repostedRun = some live ∧
      live.published.map ResultRow.targetID = [lit "hub-1"] ∧ (live.published.map ResultRow.key).Nodup := by
  refine ⟨_, rfl, rfl, ?_⟩
  exact (stored_rows_published_once targetOnly knownSpoke repostedRun _ rfl).1

theorem reposted_run_counted :
    ∃ live, exec (liveNext targetOnly) (.start knownSpoke) repostedRun = some live ∧
      live.probeResultsTotal = 2 ∧ live.db.results.rows.length = 2 ∧
      live.ingestTotal (lit "spoke-1", lit "409") = 1 ∧ live.ingestTotal (lit "spoke-1", lit "201") = 0 := by
  refine ⟨_, rfl, rfl, ?_⟩
  have agree := ingest_counters_agree targetOnly knownSpoke repostedRun _ rfl
  refine ⟨agree.1.trans rfl, (agree.2 _ _).trans rfl, (agree.2 _ _).trans rfl⟩

end NetLatencyMonitor.Controller
