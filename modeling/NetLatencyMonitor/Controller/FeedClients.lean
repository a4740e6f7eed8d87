import NetLatencyMonitor.Controller.FeedLedger

/-! What a browser gets of the live feed. Its frames are events of rows published since it
registered, in the order of publication and none twice; an event is lost to it only when it
finds the channel full, or with the connection. -/

namespace NetLatencyMonitor.Controller

open Machine Text

/-- The frame of a row's event. -/
def rowFrame (marshal : ProbeEvent → GoString) (row : ResultRow) : GoString := marshal (rowEvent row)

/-- What a step does to the browsers and to the record of what was published. -/
inductive FeedEffect (marshal : ProbeEvent → GoString) (live after : LiveServer) : LiveEvent → Prop
  | published {number : Nat} {body : ValidResults} {obs : ResultObservation} {rest : List ResultObservation}
      (found : live.handlers[number]? = some (.broadcasting body (obs :: rest)))
      (clients : after.clients =
        live.clients.map (fun client => client.offer (rowFrame marshal (resultRow body.req obs))))
      (log : after.published = live.published ++ [resultRow body.req obs]) :
      FeedEffect marshal live after (.broadcast number)
  | connected (clients : after.clients = live.clients ++ [{ joinedAt := live.published.length }])
      (log : after.published = live.published) : FeedEffect marshal live after .connect
  | moved {number : Nat} {client next : UIClient} {event : ClientEvent}
      (found : live.clients[number]? = some client) (step : client.next event = some next)
      (clients : after.clients = live.clients.set number next) (log : after.published = live.published) :
      FeedEffect marshal live after (.client number event)
  | apart {event : LiveEvent} (silent : ∀ number, event ≠ .broadcast number)
      (clients : after.clients = live.clients) (log : after.published = live.published) :
      FeedEffect marshal live after event

section Step

variable {marshal : ProbeEvent → GoString} {live after : LiveServer} {event : LiveEvent}

private theorem liveNext_feedEffect (step : liveNext marshal live event = some after) :
    FeedEffect marshal live after event := by
  cases event with
  | arrive nodeID body =>
    cases step
    exact .apart (by simp) rfl rfl
  | persist number faults =>
    simp only [liveNext] at step
    split at step
    · cases step
      exact .apart (by simp) rfl rfl
    · cases step
  | bookkeep number now =>
    simp only [liveNext] at step
    split at step
    · cases step
      exact .apart (by simp) rfl rfl
    · cases step
  | count number =>
    simp only [liveNext] at step
    split at step
    · split at step
      · cases step
      · cases step
        unfold LiveServer.count
        dsimp only
        split
        · exact .apart (by simp) rfl rfl
        · exact .apart (by simp) rfl rfl
    · cases step
  | broadcast number =>
    simp only [liveNext] at step
    split at step
    · rename_i body obs rest found
      cases step
      obtain ⟨_, source, _⟩ := validateResultsRequest_ok_iff.mp body.valid
      refine .published found ?_ rfl
      rw [rowFrame, rowEvent_resultRow, source]
      rfl
    · cases step
  | observe number =>
    simp only [liveNext] at step
    split at step
    · cases step
      exact .apart (by simp) rfl rfl
    · cases step
  | elsewhere db =>
    simp only [liveNext] at step
    split at step
    · cases step
      exact .apart (by simp) rfl rfl
    · cases step
  | connect =>
    cases step
    exact .connected rfl rfl
  | client number event =>
    obtain ⟨next, stepped, same⟩ := Option.map_eq_some_iff.mp step
    obtain ⟨client, found, stepped⟩ := Option.bind_eq_some_iff.mp stepped
    subst same
    exact .moved found stepped rfl rfl

end Step

/-! One browser between broadcasts. -/

/-- Its frames stay as they are, or one is lost and the write pump is on its way out. -/
inductive ClientEffect (client next : UIClient) : Prop
  | kept (same : next.written ++ next.send.waiting = client.written ++ client.send.waiting)
  | lost (fewer : (next.written ++ next.send.waiting).Sublist (client.written ++ client.send.waiting))
      (stopped : next.pump ≠ .running)

section Client

variable {client next : UIClient} {event : ClientEvent}

private theorem write_effect {ok : Bool} (step : client.write ok = some next) :
    ClientEffect client next ∧ next.joinedAt = client.joinedAt ∧ (next.pump = .running → client.pump = .running) := by
  unfold UIClient.write at step
  split at step
  · rename_i frame rest running taken
    have waiting := Mailbox.take?_eq_some taken
    split at step
    · cases step
      refine ⟨.kept ?_, rfl, id⟩
      simp [waiting]
    · cases step
      refine ⟨.lost ?_ (by simp), rfl, by simp⟩
      rw [waiting]
      exact (List.Sublist.refl _).append (List.sublist_cons_self frame rest.waiting)
  · cases step

private theorem next_effect (step : client.next event = some next) :
    ClientEffect client next ∧ next.joinedAt = client.joinedAt ∧ (next.pump = .running → client.pump = .running) := by
  cases event with
  | write ok => exact write_effect step
  | ping ok =>
    simp only [UIClient.next, UIClient.ping] at step
    split at step
    · rename_i running
      cases step
      exact ⟨.kept rfl, rfl, fun _ => running⟩
    · cases step
  | readFails =>
    simp only [UIClient.next, UIClient.readFails] at step
    split at step
    · cases step
    · cases step
      exact ⟨.kept rfl, rfl, id⟩
  | notice =>
    simp only [UIClient.next, UIClient.notice] at step
    split at step
    · cases step
      exact ⟨.kept rfl, rfl, by simp⟩
    · cases step
  | leave =>
    simp only [UIClient.next, UIClient.leave] at step
    split at step
    · cases step
      exact ⟨.kept rfl, rfl, by simp⟩
    · cases step

@[simp] theorem offer_joinedAt (client : UIClient) (frame : GoString) :
    (client.offer frame).joinedAt = client.joinedAt := by
  unfold UIClient.offer
  split
  · rfl
  · rfl

@[simp] theorem offer_pump (client : UIClient) (frame : GoString) : (client.offer frame).pump = client.pump := by
  unfold UIClient.offer
  split
  · rfl
  · rfl

@[simp] theorem offer_written (client : UIClient) (frame : GoString) :
    (client.offer frame).written = client.written := by
  unfold UIClient.offer
  split
  · rfl
  · rfl

end Client

/-- What was published since the browser registered. -/
def sinceJoined (live : LiveServer) (client : UIClient) : List ResultRow := live.published.drop client.joinedAt

/-- The frames written to the browser and those still in its channel came through. -/
structure Fed (marshal : ProbeEvent → GoString) (live : LiveServer) (client : UIClient) : Prop where
  joined : client.joinedAt ≤ live.published.length
  frames : CameThrough (rowFrame marshal) (sinceJoined live client) (client.written ++ client.send.waiting)

section Fed

variable {marshal : ProbeEvent → GoString} {live after : LiveServer} {client next : UIClient}

private theorem sinceJoined_publish {row : ResultRow} (joined : client.joinedAt ≤ live.published.length)
    (log : after.published = live.published ++ [row]) (same : next.joinedAt = client.joinedAt) :
    sinceJoined after next = sinceJoined live client ++ [row] := by
  unfold sinceJoined
  rw [log, same, List.drop_append_of_le_length joined]

private theorem sinceJoined_keep (log : after.published = live.published) (same : next.joinedAt = client.joinedAt) :
    sinceJoined after next = sinceJoined live client := by
  unfold sinceJoined
  rw [log, same]

theorem Fed.publish (fed : Fed marshal live client) {row : ResultRow}
    (log : after.published = live.published ++ [row]) :
    Fed marshal after (client.offer (rowFrame marshal row)) := by
  refine ⟨?_, ?_⟩
  · rw [offer_joinedAt, log, List.length_append]
    exact Nat.le_add_right_of_le fed.joined
  · rw [sinceJoined_publish fed.joined log (offer_joinedAt _ _), offer_written]
    unfold UIClient.offer
    split
    · exact fed.frames.offer row
    · exact fed.frames.miss row

theorem Fed.move (fed : Fed marshal live client) (effect : ClientEffect client next)
    (same : next.joinedAt = client.joinedAt) (log : after.published = live.published) : Fed marshal after next := by
  refine ⟨by rw [same, log]; exact fed.joined, ?_⟩
  rw [sinceJoined_keep log same]
  cases effect with
  | kept unchanged => rw [unchanged]; exact fed.frames
  | lost fewer _ => exact fed.frames.lose fewer

private theorem fed_next {event : LiveEvent} (fed : ∀ client ∈ live.clients, Fed marshal live client)
    (step : liveNext marshal live event = some after) : ∀ client ∈ after.clients, Fed marshal after client := by
  have keep : after.published = live.published → ∀ client ∈ live.clients, Fed marshal after client :=
    fun log client member => (fed client member).move (.kept rfl) rfl log
  intro client member
  cases liveNext_feedEffect step with
  | published found clients log =>
    rw [clients] at member
    obtain ⟨before, present, rfl⟩ := List.mem_map.mp member
    exact (fed before present).publish log
  | connected clients log =>
    rw [clients] at member
    rcases List.mem_append.mp member with old | new
    · exact keep log client old
    · rw [List.mem_singleton.mp new]
      exact ⟨Nat.le_of_eq (by rw [log]), cameThrough_nil _ _⟩
  | moved found stepped clients log =>
    rw [clients] at member
    rcases List.mem_or_eq_of_mem_set member with old | same
    · exact keep log client old
    · obtain ⟨effect, joined, _⟩ := next_effect stepped
      subst same
      exact (fed _ (List.mem_of_getElem? found)).move effect joined log
  | apart silent clients log =>
    rw [clients] at member
    exact keep log client member

theorem fed_run {db : DB} {events : List LiveEvent} (run : exec (liveNext marshal) (.start db) events = some live) :
    ∀ client ∈ live.clients, Fed marshal live client := by
  refine exec_invariant (fun state => ∀ client ∈ state.clients, Fed marshal state client) ?_
    (fun _ _ _ => fed_next) run
  intro client member
  cases member

end Fed

/-- The frames written to a browser are those of distinct rows whose events were published since
it registered, in that order; the rows have been stored since the start. -/
theorem browser_frames_once (marshal : ProbeEvent → GoString) (db : DB) (events : List LiveEvent)
    (live : LiveServer) (run : exec (liveNext marshal) (.start db) events = some live)
    (client : UIClient) (member : client ∈ live.clients) :
    ∃ seen : List ResultRow, seen.Sublist (sinceJoined live client) ∧ client.written = seen.map (rowFrame marshal) ∧
      (seen.map ResultRow.key).Nodup ∧ ∀ row ∈ seen, row ∈ live.db.results.rows ∧ row ∉ db.results.rows := by
  obtain ⟨added, books⟩ := ledger_run run
  obtain ⟨distinct, stored⟩ := books.published
  have through := (fed_run run client member).frames.lose (List.sublist_append_left client.written _)
  obtain ⟨seen, within, same⟩ := through
  have among : seen.Sublist live.published := within.trans (List.drop_sublist _ _)
  refine ⟨seen, within, same.symm, distinct.sublist (among.map _), fun row present => ?_⟩
  exact stored row (among.subset present)

/-- The row whose event the reposted run publishes. -/
def hubOneRow : ResultRow := resultRow (twoTargets (lit "run-1")) { targetID := lit "hub-1", latencyMs := some 1 }

/-- The browser of the reposted run, after one write. -/
def firstFrameWritten (marshal : ProbeEvent → GoString) : UIClient :=
  { joinedAt := 0, written := [rowFrame marshal hubOneRow] }

private theorem repostedRun_feed (marshal : ProbeEvent → GoString) :
    (exec (liveNext marshal) (.start knownSpoke) repostedRun).map (fun live => (live.clients, live.published)) =
      some ([firstFrameWritten marshal], [hubOneRow]) := rfl

theorem repostedRun_live (marshal : ProbeEvent → GoString) :
    ∃ live, exec (liveNext marshal) (.start knownSpoke) repostedRun = some live ∧
      live.clients = [firstFrameWritten marshal] ∧ live.published = [hubOneRow] := by
  obtain ⟨live, run, feed⟩ := Option.map_eq_some_iff.mp (repostedRun_feed marshal)
  exact ⟨live, run, congrArg Prod.fst feed, congrArg Prod.snd feed⟩

theorem reposted_run_frames :
    ∃ live, exec (liveNext targetOnly) (.start knownSpoke) repostedRun = some live ∧
      firstFrameWritten targetOnly ∈ live.clients ∧
      ∃ seen : List ResultRow, seen.Sublist (sinceJoined live (firstFrameWritten targetOnly)) ∧
        [lit "hub-1"] = seen.map (rowFrame targetOnly) ∧ (seen.map ResultRow.key).Nodup := by
  obtain ⟨live, run, clients, _⟩ := repostedRun_live targetOnly
  have present : firstFrameWritten targetOnly ∈ live.clients := by rw [clients]; exact List.mem_cons_self
  obtain ⟨seen, within, frames, once, _⟩ :=
    browser_frames_once targetOnly knownSpoke repostedRun live run (firstFrameWritten targetOnly) present
  exact ⟨live, run, present, seen, within, frames, once⟩

/-! What a browser misses. -/

/-- The row whose event finds the channel of a registered browser full at this step. -/
def missed (number : Nat) (live : LiveServer) : LiveEvent → List ResultRow
  | .broadcast handler =>
    match live.handlers[handler]?, live.clients[number]? with
    | some (.broadcasting body (obs :: _)), some client =>
      if client.registered && client.send.full then [resultRow body.req obs] else []
    | _, _ => []
  | _ => []

/-- While its write pump runs, a browser has lost exactly what found its channel full. -/
def Accounted (live : LiveServer) (number : Nat) (lost : List ResultRow) : Prop :=
  match live.clients[number]? with
  | none => lost = []
  | some client => client.pump = .running →
    (sinceJoined live client).length = (client.written ++ client.send.waiting).length + lost.length

section Missed

variable {marshal : ProbeEvent → GoString} {live after : LiveServer} {number : Nat} {lost : List ResultRow}

private theorem missed_silent {event : LiveEvent} (silent : ∀ handler, event ≠ .broadcast handler) :
    missed number live event = [] := by
  cases event with
  | broadcast handler => exact absurd rfl (silent handler)
  | _ => rfl

private theorem registered_running {client : UIClient} (running : client.pump = .running) :
    client.registered = true := by
  simp [UIClient.registered, running]

private theorem accounted_publish {handler : Nat} {body : ValidResults} {obs : ResultObservation}
    {rest : List ResultObservation} (accounted : Accounted live number lost)
    (joined : ∀ client ∈ live.clients, client.joinedAt ≤ live.published.length)
    (found : live.handlers[handler]? = some (.broadcasting body (obs :: rest)))
    (clients : after.clients =
      live.clients.map (fun client => client.offer (rowFrame marshal (resultRow body.req obs))))
    (log : after.published = live.published ++ [resultRow body.req obs]) :
    Accounted after number (lost ++ missed number live (.broadcast handler)) := by
  unfold Accounted at accounted ⊢
  rw [clients, List.getElem?_map]
  cases here : live.clients[number]? with
  | none =>
    rw [here] at accounted
    simp [missed, found, here, accounted]
  | some client =>
    rw [here] at accounted
    intro running
    rw [offer_pump] at running
    have registered := registered_running running
    have before := accounted running
    have inside := joined client (List.mem_of_getElem? here)
    rw [sinceJoined_publish inside log (offer_joinedAt _ _)]
    simp only [missed, found, here, registered, Bool.true_and, UIClient.offer, if_true, Mailbox.waiting_offer,
      List.length_append, List.length_singleton] at before ⊢
    -- either the channel is full and the row is missed, or the frame is in the channel
    cases client.send.full with
    | true =>
      simp only [if_true, List.length_singleton]
      omega
    | false =>
      simp only [Bool.false_eq_true, if_false, List.length_append, List.length_singleton, List.length_nil]
      omega

private theorem accounted_next {event : LiveEvent} (accounted : Accounted live number lost)
    (joined : ∀ client ∈ live.clients, client.joinedAt ≤ live.published.length)
    (step : liveNext marshal live event = some after) :
    Accounted after number (lost ++ missed number live event) := by
  cases liveNext_feedEffect step with
  | published found clients log => exact accounted_publish accounted joined found clients log
  | connected clients log =>
    rw [missed_silent (by simp), List.append_nil]
    unfold Accounted at accounted ⊢
    rw [clients]
    by_cases inside : number < live.clients.length
    · rw [List.getElem?_append_left inside]
      simpa only [sinceJoined, log] using accounted
    · have outside : live.clients[number]? = none := List.getElem?_eq_none_iff.mpr (Nat.le_of_not_lt inside)
      rw [outside] at accounted
      subst lost
      rw [List.getElem?_append_right (Nat.le_of_not_lt inside)]
      cases number - live.clients.length with
      | zero => simp [sinceJoined, log, Mailbox.empty]
      | succ later => rfl
  | @moved moving client next _ found stepped clients log =>
    obtain ⟨effect, same, running⟩ := next_effect stepped
    rw [missed_silent (by simp), List.append_nil]
    unfold Accounted at accounted ⊢
    rw [clients]
    by_cases own : moving = number
    · subst moving
      have bound := (List.getElem?_eq_some_iff.mp found).1
      rw [found] at accounted
      rw [List.getElem?_set_self bound]
      intro still
      have before := accounted (running still)
      rw [sinceJoined_keep log same]
      cases effect with
      | kept unchanged => rw [unchanged]; exact before
      | lost _ stopped => exact absurd still stopped
    · rw [List.getElem?_set_ne own]
      simpa only [sinceJoined, log] using accounted
  | apart silent clients log =>
    rw [missed_silent silent, List.append_nil]
    unfold Accounted at accounted ⊢
    rw [clients]
    simpa only [sinceJoined, log] using accounted

private theorem accounted_start (db : DB) (number : Nat) : Accounted (.start db) number [] := by
  simp [Accounted, LiveServer.start]

private theorem accounted_run {db : DB} {events : List LiveEvent} (number : Nat)
    (run : exec (liveNext marshal) (.start db) events = some live) :
    Accounted live number (emitted (liveNext marshal) (missed number) (.start db) events) := by
  refine exec_history
    (fun past state => Accounted state number (emitted (liveNext marshal) (missed number) (.start db) past))
    (accounted_start db number) ?_ run
  intro past before event after earlier accounted step
  rw [emitted_concat earlier]
  exact accounted_next accounted (fun client member => (fed_run earlier client member).joined) step

end Missed

/-- A connected browser has been written, or has waiting, every event published since it
registered exactly when none of them found its channel full. -/
theorem browser_misses_nothing_iff (marshal : ProbeEvent → GoString) (db : DB) (events : List LiveEvent)
    (live : LiveServer) (run : exec (liveNext marshal) (.start db) events = some live)
    (number : Nat) (client : UIClient) (connected : live.clients[number]? = some client)
    (running : client.pump = .running) :
    client.written ++ client.send.waiting = (sinceJoined live client).map (rowFrame marshal) ↔
      emitted (liveNext marshal) (missed number) (.start db) events = [] := by
  have accounted := accounted_run number run
  unfold Accounted at accounted
  rw [connected] at accounted
  have balance := accounted running
  constructor
  · intro whole
    rw [whole, List.length_map] at balance
    exact List.length_eq_zero_iff.mp (by omega)
  · intro none
    rw [none, List.length_nil, Nat.add_zero] at balance
    exact (fed_run run client (List.mem_of_getElem? connected)).frames.eq_of_length balance.symm

theorem reposted_run_missed_nothing :
    ∃ live, exec (liveNext targetOnly) (.start knownSpoke) repostedRun = some live ∧
      live.clients[0]? = some (firstFrameWritten targetOnly) ∧
      [lit "hub-1"] = (sinceJoined live (firstFrameWritten targetOnly)).map (rowFrame targetOnly) := by
  obtain ⟨live, run, clients, _⟩ := repostedRun_live targetOnly
  have connected : live.clients[0]? = some (firstFrameWritten targetOnly) := by rw [clients]; rfl
  refine ⟨live, run, connected, ?_⟩
  exact (browser_misses_nothing_iff targetOnly knownSpoke repostedRun live run 0 (firstFrameWritten targetOnly)
    connected rfl).mpr rfl

end NetLatencyMonitor.Controller
