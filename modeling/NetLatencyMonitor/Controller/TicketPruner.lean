import Mathlib.Data.List.Perm.Subperm
import NetLatencyMonitor.Controller.WebSocket
import NetLatencyMonitor.Machine.Simulation
import NetLatencyMonitor.Machine.Ticker

/-! What the ticket store and the limiter hold while the controller runs as `main` wires it:
`RunPruner` sweeps the store on a ticker, and nothing sweeps the limiter. -/

namespace NetLatencyMonitor.Controller

open Clock Keyed Machine Text Tickets

def defaultPruneInterval : Duration := 30 * second

/-- The interval `RunPruner` uses. -/
def pruneInterval (interval : Duration) : Duration := if interval ≤ 0 then defaultPruneInterval else interval

private theorem pruneInterval_pos (interval : Duration) : 0 < pruneInterval interval := by
  unfold pruneInterval
  split
  · decide
  · rename_i positive
    exact Int.not_le.mp positive

inductive PrunerPhase where
  | selecting
  | pruning (since : Time)
  | returned
deriving DecidableEq, Repr

structure TicketServer where
  ws : WsState
  phase : PrunerPhase
  ticker : Ticker

def TicketServer.start (ttl interval : Duration) (limiter : RateLimiter) (now : Time) : TicketServer where
  ws := .start ttl (some limiter) now
  phase := .selecting
  ticker := .start (pruneInterval interval) now

inductive ServerEvent where
  /-- A step of a request. -/
  | ws (event : WsEvent)
  | tick (now : Time)
  | takeTick (now : Time)
  | prune (now : Time)
  /-- The context is done. -/
  | stop

def ServerEvent.time : ServerEvent → Option Time
  | .ws event => event.time
  | .tick now => some now
  | .takeTick now => some now
  | .prune now => some now
  | .stop => none

/-- One step, under a clock that has advanced to the event's time. -/
def TicketServer.step (interval : Duration) (server : TicketServer) : ServerEvent → Option TicketServer
  | .ws (.prune _) => none
  | .ws event => (wsStep server.ws event).map (fun ws => { server with ws })
  | .tick now =>
    match server.phase with
    | .returned => none
    | _ =>
      if now = server.ticker.due then some { server with ticker := server.ticker.fire (pruneInterval interval) }
      else none
  | .takeTick now =>
    match server.phase with
    | .selecting =>
      if server.ticker.ticked then some { server with phase := .pruning now, ticker := server.ticker.take } else none
    | _ => none
  | .prune now =>
    match server.phase with
    | .pruning _ => (wsStep server.ws (.prune now)).map (fun ws => { server with ws, phase := .selecting })
    | _ => none
  | .stop =>
    match server.phase with
    | .selecting => some { server with phase := .returned }
    | _ => none

/-- Time passes up to an instant. -/
def TicketServer.advance (server : TicketServer) (now : Time) : TicketServer :=
  { server with ws := { server.ws with clock := now } }

/-- Steps are taken in clock order, and not beyond a tick that is still to come. -/
def serverNext (interval : Duration) (server : TicketServer) (event : ServerEvent) : Option TicketServer :=
  match event.time with
  | none => server.step interval event
  | some now =>
    if now < server.ws.clock ∨ (server.phase ≠ .returned ∧ server.ticker.due < now) then none
    else (server.advance now).step interval event

/-- The pruner takes a tick at once and is done within a limit. -/
def sweeping (limit : Duration) (server : TicketServer) (event : ServerEvent) : Bool :=
  match event.time, server.phase with
  | some now, .pruning since => decide (now ≤ since + limit)
  | some now, .selecting => !server.ticker.ticked || decide (now ≤ server.ws.clock)
  | _, _ => true

/-- No ticket expires between its minting and its storing. -/
def storing (server : TicketServer) : ServerEvent → Bool
  | .ws (.put number) => (server.ws.minted[number]?).all (fun pair => decide (server.ws.clock ≤ pair.1.expiresAt))
  | _ => true

/-- The IP whose failure a step counts. -/
def countedIP (server : TicketServer) : ServerEvent → List GoString
  | .ws (.count number _) =>
    match server.ws.requests[number]? with
    | some ⟨ip, _, .counting _⟩ => [ip]
    | _ => []
  | _ => []

/-! What a step does to the store. -/

section Store

variable {state after : WsState} {event : WsEvent}

/-- Every entry after a step was there before, or is the ticket just stored. -/
theorem wsStep_entries (taken : wsStep state event = some after) {value : GoString} {entry : Entry}
    (found : after.store.tickets.find? value = some entry) :
    state.store.tickets.find? value = some entry ∨
      ∃ number ticket, event = .put number ∧ state.minted[number]? = some (ticket, false) ∧
        entry = ⟨ticket.value, ticket.nodeID, ticket.expiresAt⟩ := by
  cases wsStep_move taken with
  | @stored number ticket waiting =>
    simp only [Store.find?_put] at found
    split at found
    · cases found
      exact .inr ⟨number, ticket, rfl, waiting, rfl⟩
    · exact .inl found
  | looked =>
    rw [Store.find?_validate] at found
    split at found
    · cases found
    · exact .inl found
  | pruned =>
    rw [Store.find?_prune] at found
    exact .inl (Option.filter_eq_some_iff.mp found).1
  | minted | refused | ticketless | admitted | counted => exact .inl found

/-- A sweep leaves only tickets that have not expired. -/
theorem prune_entries {now : Time} (taken : wsStep state (.prune now) = some after) {value : GoString} {entry : Entry}
    (found : after.store.tickets.find? value = some entry) : now ≤ entry.expiresAt := by
  cases taken
  rw [Store.find?_prune] at found
  have kept := (Option.filter_eq_some_iff.mp found).2
  simpa using kept

/-- What a step does to the minted tickets, the clock and the lifetime. -/
structure Minting (state after : WsState) : Prop where
  clock : after.clock = state.clock
  ttl : after.store.ttl = state.store.ttl
  grows : ∀ ticket stored, (ticket, stored) ∈ state.minted → ∃ now, (ticket, now) ∈ after.minted
  dated : ∀ ticket stored, (ticket, stored) ∈ after.minted → (∃ old, (ticket, old) ∈ state.minted) ∨
    ticket.expiresAt = ticket.issuedAt + state.store.ttl

private theorem wsStep_minting (taken : wsStep state event = some after) : Minting state after := by
  have same : ∀ other : WsState, other.clock = state.clock → other.store.ttl = state.store.ttl →
      other.minted = state.minted → Minting state other := by
    intro other clock ttl minted
    refine ⟨clock, ttl, ?_, ?_⟩
    · intro ticket stored member
      exact ⟨stored, minted ▸ member⟩
    · intro ticket stored member
      exact .inl ⟨stored, minted ▸ member⟩
  cases wsStep_move taken with
  | minted nodeID buf now =>
    refine ⟨rfl, rfl, ?_, ?_⟩
    · intro ticket stored member
      exact ⟨stored, List.mem_append_left _ member⟩
    · intro ticket stored member
      rcases List.mem_append.mp member with old | new
      · exact .inl ⟨stored, old⟩
      · right
        unfold Tickets.mint at new
        split at new
        · cases new
        · cases List.mem_singleton.mp new
          rfl
  | @stored number ticket waiting =>
    refine ⟨rfl, rfl, ?_, ?_⟩
    · intro other stored member
      obtain ⟨place, found⟩ := List.mem_iff_getElem?.mp member
      by_cases here : place = number
      · subst here
        rw [waiting] at found
        cases found
        have bound := (List.getElem?_eq_some_iff.mp waiting).1
        exact ⟨true, List.mem_iff_getElem?.mpr ⟨place, List.getElem?_set_self bound⟩⟩
      · exact ⟨stored, List.mem_iff_getElem?.mpr ⟨place, by
          rw [List.getElem?_set_ne (Ne.symm here)]
          exact found⟩⟩
    · intro other stored member
      rcases List.mem_or_eq_of_mem_set member with old | new
      · exact .inl ⟨stored, old⟩
      · cases new
        exact .inl ⟨false, List.mem_of_getElem? waiting⟩
  | looked => exact same _ rfl (Store.validate_ttl _ _ _) rfl
  | refused | ticketless | admitted | counted | pruned => exact same _ rfl rfl rfl

end Store

section Server

variable {ttl interval limit : Duration} {server after : TicketServer} {event : ServerEvent}

/-- What a step can do. -/
inductive ServerMove (interval : Duration) (server : TicketServer) : ServerEvent → TicketServer → Prop
  | ws (event : WsEvent) (ws : WsState) (taken : wsStep server.ws event = some ws) :
      ServerMove interval server (.ws event) { server with ws }
  | tick (now : Time) (running : server.phase ≠ .returned) (due : now = server.ticker.due) :
      ServerMove interval server (.tick now) { server with ticker := server.ticker.fire (pruneInterval interval) }
  | takeTick (now : Time) (phase : server.phase = .selecting) (full : server.ticker.ticked = true) :
      ServerMove interval server (.takeTick now) { server with phase := .pruning now, ticker := server.ticker.take }
  | prune (now since : Time) (ws : WsState) (phase : server.phase = .pruning since)
      (taken : wsStep server.ws (.prune now) = some ws) :
      ServerMove interval server (.prune now) { server with ws, phase := .selecting }
  | stop (phase : server.phase = .selecting) : ServerMove interval server .stop { server with phase := .returned }

private theorem server_move (step : server.step interval event = some after) :
    ServerMove interval server event after := by
  cases event with
  | ws event =>
    have taken : ∃ ws, wsStep server.ws event = some ws ∧ { server with ws } = after := by
      cases event with
      | prune now => cases step
      | mint | put | arrive | lookup | count => exact Option.map_eq_some_iff.mp step
    obtain ⟨ws, taken, rfl⟩ := taken
    exact .ws event ws taken
  | tick now =>
    simp only [TicketServer.step] at step
    split at step
    · cases step
    · rename_i running
      split at step
      · rename_i due
        cases step
        exact .tick now running due
      · cases step
  | takeTick now =>
    simp only [TicketServer.step] at step
    split at step
    · rename_i phase
      split at step
      · rename_i full
        cases step
        exact .takeTick now phase full
      · cases step
    · cases step
  | prune now =>
    simp only [TicketServer.step] at step
    split at step
    · rename_i since phase
      obtain ⟨ws, taken, rfl⟩ := Option.map_eq_some_iff.mp step
      exact .prune now since ws phase taken
    · cases step
  | stop =>
    simp only [TicketServer.step] at step
    split at step
    · rename_i phase
      cases step
      exact .stop phase
    · cases step

/-- A step at the instant it reads, or at the last one. -/
theorem serverNext_move (step : serverNext interval server event = some after) :
    (event.time = none ∧ ServerMove interval server event after) ∨
      ∃ now, event.time = some now ∧ server.ws.clock ≤ now ∧
        (server.phase ≠ .returned → now ≤ server.ticker.due) ∧
        ServerMove interval (server.advance now) event after := by
  unfold serverNext at step
  split at step
  · rename_i timeless
    exact .inl ⟨timeless, server_move step⟩
  · rename_i now timed
    split at step
    · cases step
    · rename_i passes
      obtain ⟨forward, due⟩ := not_or.mp passes
      refine .inr ⟨now, timed, Int.not_lt.mp forward, fun running => ?_, server_move step⟩
      exact Int.not_lt.mp (fun late => due ⟨running, late⟩)

/-- Where a pruner is that has not returned. -/
def prunerPhase : Option Time → PrunerPhase := workerPhase .selecting .pruning

private theorem prunerPhase_inj {first second : Option Time} (same : prunerPhase first = prunerPhase second) :
    first = second :=
  workerPhase_inj (by simp) (fun _ _ => PrunerPhase.pruning.inj) same

/-- A pruner that keeps up: whatever the store holds outlived the last sweep. -/
structure Swept (interval limit : Duration) (server : TicketServer) (served : Nat) (worker : Option Time) : Prop where
  phase : server.phase = prunerPhase worker
  punctual : Punctual (pruneInterval interval) server.ticker server.ws.clock served worker
  short : ∀ since, worker = some since → server.ws.clock ≤ since + limit
  young : ∀ value entry, server.ws.store.tickets.find? value = some entry →
    server.ticker.opened + served * pruneInterval interval ≤ entry.expiresAt

theorem Swept.wait {served : Nat} {worker : Option Time} {now : Time} (within : limit ≤ pruneInterval interval)
    (swept : Swept interval limit server served worker) (timed : event.time = some now)
    (forward : server.ws.clock ≤ now) (due : server.phase ≠ .returned → now ≤ server.ticker.due)
    (soon : sweeping limit server event = true) :
    Swept interval limit (server.advance now) served worker := by
  obtain ⟨phase, punctual, _, young⟩ := swept
  cases worker with
  | none =>
    have running : server.phase ≠ .returned := by simp [phase, prunerPhase, workerPhase]
    have idle : server.ticker.ticked = true → now ≤ server.ws.clock := by
      intro full
      simpa [sweeping, timed, phase, prunerPhase, workerPhase, full] using soon
    exact ⟨phase, punctual.wait forward (due running) (fun _ => idle) (by simp), by simp, young⟩
  | some since =>
    have running : server.phase ≠ .returned := by simp [phase, prunerPhase, workerPhase]
    have bound : now ≤ since + limit := by simpa [sweeping, timed, phase, prunerPhase, workerPhase] using soon
    refine ⟨phase, punctual.wait forward (due running) (by simp) ?_, ?_, young⟩
    · rintro _ ⟨⟩
      exact Int.le_trans bound (Int.add_le_add_left within _)
    · rintro _ ⟨⟩
      exact bound

theorem Swept.move {served : Nat} {worker : Option Time} (nonneg : 0 ≤ limit)
    (swept : Swept interval limit server served worker) (fresh : storing server event = true)
    (instant : ∀ now, event.time = some now → server.ws.clock = now)
    (move : ServerMove interval server event after) :
    after.phase = .returned ∨ ∃ served worker, Swept interval limit after served worker := by
  have positive := pruneInterval_pos interval
  obtain ⟨phase, punctual, short, young⟩ := swept
  cases move with
  | ws event ws taken =>
    have minting := wsStep_minting taken
    refine .inr ⟨served, worker, phase, ?_, ?_, ?_⟩
    · show Punctual _ _ ws.clock _ _
      rw [minting.clock]
      exact punctual
    · show ∀ since, worker = some since → ws.clock ≤ since + limit
      rw [minting.clock]
      exact short
    · intro value entry found
      rcases wsStep_entries taken found with old | ⟨number, ticket, rfl, waiting, rfl⟩
      · exact young value entry old
      · simp only [storing, waiting, Option.all_some, decide_eq_true_eq] at fresh
        exact Int.le_trans (punctual.le_now positive) fresh
  | tick now running due =>
    have sameTime := instant now rfl
    exact .inr ⟨served, worker, phase, punctual.fire positive (sameTime.trans due), short, young⟩
  | takeTick now selecting full =>
    have idle : worker = none := prunerPhase_inj (phase.symm.trans selecting)
    subst idle
    have sameTime : server.ws.clock = now := instant now rfl
    subst sameTime
    refine .inr ⟨served, some server.ws.clock, rfl, punctual.take positive full, ?_, young⟩
    rintro _ ⟨⟩
    exact Int.le_add_of_nonneg_right nonneg
  | prune now since ws pruning taken =>
    have busy : worker = some since := prunerPhase_inj (phase.symm.trans pruning)
    subst busy
    have sameTime : server.ws.clock = now := instant now rfl
    have clock : ws.clock = server.ws.clock := (wsStep_minting taken).clock
    refine .inr ⟨served + 1, none, rfl, ?_, by simp, ?_⟩
    · show Punctual _ _ ws.clock _ _
      rw [clock]
      exact punctual.finish
    · intro value entry found
      refine Int.le_trans (punctual.finish.le_now positive) ?_
      rw [sameTime]
      exact prune_entries taken found
  | stop => exact .inl rfl

private theorem swept_run {start final : TicketServer} {events : List ServerEvent} (nonneg : 0 ≤ limit)
    (within : limit ≤ pruneInterval interval) (initially : Swept interval limit start 0 none)
    (run : exec (serverNext interval) start events = some final)
    (soon : Along (serverNext interval)
      (fun server event => (sweeping limit server event && storing server event) = true)
      start events) :
    final.phase = .returned ∨ ∃ served worker, Swept interval limit final served worker := by
  refine exec_invariant_along (fun server => server.phase = .returned ∨
    ∃ served worker, Swept interval limit server served worker) (.inr ⟨0, none, initially⟩) ?_ soon run
  rintro before event after (stopped | ⟨served, worker, swept⟩) met step
  · left
    -- nothing restarts a pruner that has returned
    have stays : ∀ server : TicketServer, server.phase = .returned → ServerMove interval server event after →
        after.phase = .returned := by
      intro server stopped move
      cases move with
      | ws event ws taken => exact stopped
      | tick now running => exact absurd stopped running
      | takeTick now phase =>
        rw [stopped] at phase
        cases phase
      | prune now since ws phase =>
        rw [stopped] at phase
        cases phase
      | stop => rfl
    rcases serverNext_move step with ⟨_, move⟩ | ⟨now, _, _, _, move⟩
    · exact stays before stopped move
    · exact stays (before.advance now) stopped move
  · obtain ⟨sweeps, stores⟩ := Bool.and_eq_true_iff.mp met
    rcases serverNext_move step with ⟨timeless, move⟩ | ⟨now, timed, forward, due, move⟩
    · refine swept.move nonneg stores ?_ move
      intro now timed
      rw [timeless] at timed
      cases timed
    · have kept : storing (before.advance now) event = true := by
        -- storing a ticket reads no clock
        cases event with
        | ws event =>
          cases event with
          | put number => cases timed
          | mint | arrive | lookup | count | prune => rfl
        | tick | takeTick | prune | stop => rfl
      refine (swept.wait within timed forward due sweeps).move nonneg kept ?_ move
      intro other same
      exact Option.some.inj (timed.symm.trans same)

/-- Every entry of the store was minted, with the lifetime of the store. -/
structure Issued (ttl : Duration) (ws : WsState) : Prop where
  lifetime : ws.store.ttl = ttl
  dated : ∀ ticket stored, (ticket, stored) ∈ ws.minted → ticket.expiresAt = ticket.issuedAt + ttl
  minted : ∀ value entry, ws.store.tickets.find? value = some entry →
    ∃ ticket stored, (ticket, stored) ∈ ws.minted ∧ ticket.value = value ∧ ticket.expiresAt = entry.expiresAt

theorem Issued.step {ws next : WsState} {event : WsEvent} (issued : Issued ttl ws)
    (taken : wsStep ws event = some next) : Issued ttl next := by
  have minting := wsStep_minting taken
  refine ⟨minting.ttl.trans issued.lifetime, ?_, ?_⟩
  · intro ticket stored member
    rcases minting.dated ticket stored member with ⟨old, before⟩ | new
    · exact issued.dated ticket old before
    · rw [new, issued.lifetime]
  · intro value entry found
    rcases wsStep_entries taken found with old | ⟨number, ticket, rfl, waiting, rfl⟩
    · obtain ⟨ticket, stored, member, named, expires⟩ := issued.minted value entry old
      obtain ⟨now, kept⟩ := minting.grows ticket stored member
      exact ⟨ticket, now, kept, named, expires⟩
    · obtain ⟨now, kept⟩ := minting.grows ticket false (List.mem_of_getElem? waiting)
      exact ⟨ticket, now, kept, (Table.find?_eq_some_iff.mp found).2, rfl⟩

private theorem issued_run {start final : TicketServer} {events : List ServerEvent} (initially : Issued ttl start.ws)
    (run : exec (serverNext interval) start events = some final) : Issued ttl final.ws := by
  refine exec_invariant (fun server => Issued ttl server.ws) initially ?_ run
  intro before event after issued step
  have moves : ∀ server : TicketServer, Issued ttl server.ws → ServerMove interval server event after →
      Issued ttl after.ws := by
    intro server issued move
    cases move with
    | ws event ws taken => exact issued.step taken
    | prune now since ws phase taken => exact issued.step taken
    | tick | takeTick | stop => exact issued
  rcases serverNext_move step with ⟨_, move⟩ | ⟨now, _, _, _, move⟩
  · exact moves before issued move
  · exact moves (before.advance now) ⟨issued.lifetime, issued.dated, issued.minted⟩ move

end Server

/-! What the limiter remembers. -/

/-- The limiter has an entry for these IPs and no others. -/
def Remembers (ips : List GoString) (limiter : Option RateLimiter) : Prop :=
  ∃ memory, limiter = some memory ∧ ∀ ip, (memory.failures.find? ip).isSome = true ↔ ip ∈ ips

section Limiter

variable {interval : Duration} {server after : TicketServer} {event : ServerEvent} {ips : List GoString}

private theorem remembers_count {limiter : Option RateLimiter} (remembers : Remembers ips limiter) (ip : GoString)
    (now : Time) :
    Remembers (ips ++ [ip]) (limiter.map (fun limiter => (limiter.recordFailure ip now).1)) := by
  obtain ⟨memory, rfl, entries⟩ := remembers
  refine ⟨_, rfl, fun other => ?_⟩
  rw [RateLimiter.find?_recordFailure, List.mem_append, List.mem_singleton]
  by_cases same : other = ip
  · simp [same]
  · simp [same, entries other]

private theorem remembers_move (remembers : Remembers ips server.ws.limiter)
    (move : ServerMove interval server event after) :
    Remembers (ips ++ countedIP server event) after.ws.limiter := by
  have alone : ∀ limiter : Option RateLimiter, limiter = server.ws.limiter → Remembers (ips ++ []) limiter := by
    rintro limiter rfl
    rw [List.append_nil]
    exact remembers
  cases move with
  | tick | takeTick | stop => exact alone _ rfl
  | prune now since ws phase taken =>
    cases taken
    exact alone _ rfl
  | ws event ws taken =>
    cases wsStep_move taken with
    | @counted number ip value message now waiting =>
      have counted : countedIP server (.ws (.count number now)) = [ip] := by simp [countedIP, waiting]
      rw [counted]
      exact remembers_count remembers ip now
    | minted | stored | refused | ticketless | admitted | looked | pruned => exact alone _ rfl

private theorem remembers_run {start final : TicketServer} {events : List ServerEvent}
    (initially : Remembers [] start.ws.limiter)
    (run : exec (serverNext interval) start events = some final) :
    Remembers (emitted (serverNext interval) countedIP start events) final.ws.limiter := by
  refine exec_history (fun past (server : TicketServer) =>
    Remembers (emitted (serverNext interval) countedIP start past)
    server.ws.limiter) initially ?_ run
  intro past before event after earlier remembers step
  rw [emitted_concat earlier]
  rcases serverNext_move step with ⟨_, move⟩ | ⟨now, _, _, _, move⟩
  · exact remembers_move remembers move
  · exact @remembers_move interval (before.advance now) after event _ remembers move

end Limiter

/-- A ticket is in the store for its lifetime, one interval of the pruner and the time a sweep
takes at most, so the store holds no more tickets than were minted in that time. The limiter
keeps an entry for every IP that has ever failed. -/
theorem ticket_memory (ttl interval limit : Duration) (rate : Int) (window block : Duration) (opened : Time)
    (events : List ServerEvent) (final : TicketServer) (nonneg : 0 ≤ limit) (within : limit ≤ pruneInterval interval)
    (run : exec (serverNext interval) (.start ttl interval (newRateLimiter rate window block) opened) events =
      some final)
    (soon : Along (serverNext interval)
      (fun server event => (sweeping limit server event && storing server event) = true)
      (.start ttl interval (newRateLimiter rate window block) opened) events)
    (serving : final.phase ≠ .returned) :
    final.ws.store.tickets.rows.length ≤ (final.ws.minted.filter (fun pair =>
        decide (final.ws.clock ≤ pair.1.issuedAt + (newStore ttl).ttl + pruneInterval interval + limit))).length ∧
      Remembers (emitted (serverNext interval) countedIP
        (.start ttl interval (newRateLimiter rate window block) opened) events) final.ws.limiter := by
  have positive := pruneInterval_pos interval
  have issued : Issued (newStore ttl).ttl final.ws := by
    refine issued_run ⟨rfl, ?_, ?_⟩ run
    · intro ticket stored member
      cases member
    · intro value entry found
      cases found
  have initially : Swept interval limit (.start ttl interval (newRateLimiter rate window block) opened) 0 none := by
    refine ⟨rfl, .start positive opened, by simp, ?_⟩
    intro value entry found
    cases found
  constructor
  · rcases swept_run nonneg within initially run soon with stopped | ⟨served, worker, swept⟩
    · exact absurd stopped serving
    · have bound := swept.punctual.now_le nonneg swept.short
      have next : ((served : Int) + 1) * pruneInterval interval =
          served * pruneInterval interval + pruneInterval interval := by ring
      have values : (final.ws.store.tickets.rows.map Entry.value) ⊆ (final.ws.minted.filter (fun pair =>
          decide (final.ws.clock ≤ pair.1.issuedAt + (newStore ttl).ttl + pruneInterval interval + limit))).map
            (fun pair => pair.1.value) := by
        intro value member
        obtain ⟨entry, present, named⟩ := List.mem_map.mp member
        have found : final.ws.store.tickets.find? value = some entry := Table.find?_eq_some_iff.mpr ⟨present, named⟩
        obtain ⟨ticket, stored, minted, same, expires⟩ := issued.minted value entry found
        refine List.mem_map.mpr ⟨(ticket, stored), List.mem_filter.mpr ⟨minted, ?_⟩, same⟩
        have young := swept.young value entry found
        have dated := issued.dated ticket stored minted
        rw [decide_eq_true_eq]
        show final.ws.clock ≤ ticket.issuedAt + (newStore ttl).ttl + pruneInterval interval + limit
        lia
      have count := (final.ws.store.tickets.unique.subperm values).length_le
      rw [List.length_map, List.length_map] at count
      exact count
  · refine remembers_run ⟨_, rfl, fun ip => ?_⟩ run
    simp [newRateLimiter, Table.empty, Table.find?]

/-- One ticket, one failed request and one sweep, which finds the ticket alive. -/
def oneSweep : List ServerEvent :=
  [.ws (.mint (lit "spoke-1") (Vector.replicate 32 0) 0), .ws (.put 0), .ws (.arrive (lit "10.0.0.7") [] second),
    .ws (.count 0 second), .tick (30 * second), .takeTick (30 * second), .prune (31 * second)]

theorem swept_ticket_memory :
    ∃ final, exec (serverNext defaultPruneInterval) (.start defaultTTL defaultPruneInterval
        (newRateLimiter 10 defaultWindow defaultBlockDuration) 0) oneSweep = some final ∧
      final.ws.store.tickets.rows.length = 1 ∧
      final.ws.store.tickets.rows.length ≤ (final.ws.minted.filter (fun pair => decide (final.ws.clock ≤
        pair.1.issuedAt + (newStore defaultTTL).ttl + pruneInterval defaultPruneInterval + second))).length ∧
      Remembers (emitted (serverNext defaultPruneInterval) countedIP (.start defaultTTL defaultPruneInterval
        (newRateLimiter 10 defaultWindow defaultBlockDuration) 0) oneSweep) final.ws.limiter := by
  refine ⟨_, rfl, rfl, ?_⟩
  exact ticket_memory defaultTTL defaultPruneInterval second 10 defaultWindow defaultBlockDuration 0 oneSweep _
    (by decide) (by decide) rfl (by decide) (by decide)

end NetLatencyMonitor.Controller
