import NetLatencyMonitor.Controller.Auth
import NetLatencyMonitor.Machine.Execution
import NetLatencyMonitor.Machine.History
import NetLatencyMonitor.Tickets.RateLimiter
import NetLatencyMonitor.Tickets.Store

/-! `POST /api/v1/ws-ticket` and `GET /api/v1/ws` up to the upgrade. Every critical
section of the ticket store and of the rate limiter is one step, so requests
interleave between the limiter check, the ticket lookup and the failure count. -/

namespace NetLatencyMonitor.Controller

open Clock Machine Text Tickets

/-- Where a `handleWS` call stands. -/
inductive WsStage where
  | lookup
  | counting (message : GoString)
  | answered (status : Nat) (message : GoString)
  | passed (nodeID : GoString)
deriving DecidableEq, Repr

structure WsRequest where
  ip : GoString
  value : GoString
  stage : WsStage
deriving DecidableEq, Repr

/-- Outcome of ticket validation. -/
inductive WsOutcome where
  | rejected
  | passed (nodeID : GoString)
deriving DecidableEq, Repr

/-- The history: tickets stored, and requests at the moment their fate was decided, with
their number in the order of arrival and what the limiter had said about their IP. -/
inductive WsHappened where
  | issued (value nodeID : GoString) (issuedAt : Time)
  | request (number : Nat) (ip value : GoString) (time : Time) (blocked : Bool) (outcome : WsOutcome)
deriving DecidableEq, Repr

structure WsState where
  store : Tickets.Store
  limiter : Option RateLimiter
  clock : Time
  /-- Tickets minted so far; `true` once stored. -/
  minted : List (Ticket × Bool)
  requests : List WsRequest
  log : List WsHappened

def WsState.start (ttl : Duration) (limiter : Option RateLimiter) (clock : Time) : WsState :=
  ⟨newStore ttl, limiter, clock, [], [], []⟩

inductive WsEvent where
  | mint (nodeID : GoString) (buf : Vector UInt8 32) (now : Time)
  | put (ticket : Nat)
  | arrive (ip value : GoString) (now : Time)
  | lookup (request : Nat) (now : Time)
  | count (request : Nat) (now : Time)
  | prune (now : Time)

/-- The clock a step reads; `put` reads none. -/
def WsEvent.time : WsEvent → Option Time
  | .mint _ _ now => some now
  | .put _ => none
  | .arrive _ _ now => some now
  | .lookup _ now => some now
  | .count _ now => some now
  | .prune now => some now

/-- `s.wsRateLimit != nil && s.wsRateLimit.Blocked(ip)`. -/
def wsBlocked (limiter : Option RateLimiter) (ip : GoString) (now : Time) : Bool :=
  limiter.any (fun limiter => limiter.blocked ip now)

/-- `handleWS` up to the lookup: the limiter first, then the empty ticket. -/
def handleWSArrive (state : WsState) (ip value : GoString) (now : Time) : WsState :=
  if wsBlocked state.limiter ip now then
    { state with
      requests := state.requests ++ [⟨ip, value, .answered 429 (lit "too many ticket failures")⟩]
      log := state.log ++ [.request state.requests.length ip value now true .rejected] }
  else if value = [] then
    { state with
      requests := state.requests ++ [⟨ip, value, .counting (lit "ticket required")⟩]
      log := state.log ++ [.request state.requests.length ip value now false .rejected] }
  else { state with requests := state.requests ++ [⟨ip, value, .lookup⟩] }

/-- `Validate` for a request that reached it. -/
def handleWSLookup (state : WsState) (number : Nat) (request : WsRequest) (now : Time) : WsState :=
  let (store, result) := state.store.validate request.value now
  match result with
  | .ok nodeID =>
    { state with
      store
      requests := state.requests.set number { request with stage := .passed nodeID }
      log := state.log ++ [.request number request.ip request.value now false (.passed nodeID)] }
  | .error _ =>
    { state with
      store
      requests := state.requests.set number { request with stage := .counting (lit "invalid ticket") }
      log := state.log ++ [.request number request.ip request.value now false .rejected] }

/-- One step, under a clock that has advanced to the event's time. -/
def wsStep (state : WsState) : WsEvent → Option WsState
  | .mint nodeID buf now =>
    some { state with
      minted := state.minted ++
        ((Tickets.mint state.store.ttl nodeID (newTicketValue buf) now).map (fun ticket => (ticket, false))).toList }
  | .put number =>
    match state.minted[number]? with
    | some (ticket, false) =>
      some { state with
        store := state.store.put ticket
        minted := state.minted.set number (ticket, true)
        log := state.log ++ [.issued ticket.value ticket.nodeID ticket.issuedAt] }
    | _ => none
  | .arrive ip value now => some (handleWSArrive state ip value now)
  | .lookup number now =>
    match state.requests[number]? with
    | some ⟨ip, value, .lookup⟩ => some (handleWSLookup state number ⟨ip, value, .lookup⟩ now)
    | _ => none
  | .count number now =>
    match state.requests[number]? with
    | some ⟨ip, value, .counting message⟩ =>
      some { state with
        limiter := state.limiter.map (fun limiter => (limiter.recordFailure ip now).1)
        requests := state.requests.set number ⟨ip, value, .answered 401 message⟩ }
    | _ => none
  | .prune now => some { state with store := (state.store.prune now).1 }

/-- Steps are taken in clock order. -/
def wsNext (state : WsState) (event : WsEvent) : Option WsState :=
  match event.time with
  | none => wsStep state event
  | some now => if now < state.clock then none else wsStep { state with clock := now } event

/-- What a step can do. -/
inductive WsMove (state : WsState) : WsEvent → WsState → Prop
  | minted (nodeID : GoString) (buf : Vector UInt8 32) (now : Time) :
      WsMove state (.mint nodeID buf now) { state with
        minted := state.minted ++ ((Tickets.mint state.store.ttl nodeID (newTicketValue buf) now).map
          (fun ticket => (ticket, false))).toList }
  | stored {number : Nat} {ticket : Ticket} (waiting : state.minted[number]? = some (ticket, false)) :
      WsMove state (.put number) { state with
        store := state.store.put ticket
        minted := state.minted.set number (ticket, true)
        log := state.log ++ [.issued ticket.value ticket.nodeID ticket.issuedAt] }
  | refused {ip value message : GoString} {now : Time} (blocked : wsBlocked state.limiter ip now = true) :
      WsMove state (.arrive ip value now) { state with
        requests := state.requests ++ [⟨ip, value, .answered 429 message⟩]
        log := state.log ++ [.request state.requests.length ip value now true .rejected] }
  | ticketless {ip message : GoString} {now : Time} (free : wsBlocked state.limiter ip now = false) :
      WsMove state (.arrive ip [] now) { state with
        requests := state.requests ++ [⟨ip, [], .counting message⟩]
        log := state.log ++ [.request state.requests.length ip [] now false .rejected] }
  | admitted {ip value : GoString} {now : Time} (free : wsBlocked state.limiter ip now = false) :
      WsMove state (.arrive ip value now) { state with requests := state.requests ++ [⟨ip, value, .lookup⟩] }
  | looked {number : Nat} {ip value : GoString} {now : Time} {stage : WsStage} {outcome : WsOutcome}
      (waiting : state.requests[number]? = some ⟨ip, value, .lookup⟩) (moved : stage ≠ .lookup)
      (result : ∀ nodeID, outcome = .passed nodeID ↔ (state.store.validate value now).2 = .ok nodeID) :
      WsMove state (.lookup number now) { state with
        store := (state.store.validate value now).1
        requests := state.requests.set number ⟨ip, value, stage⟩
        log := state.log ++ [.request number ip value now false outcome] }
  | counted {number : Nat} {ip value message : GoString} {now : Time}
      (waiting : state.requests[number]? = some ⟨ip, value, .counting message⟩) :
      WsMove state (.count number now) { state with
        limiter := state.limiter.map (fun limiter => (limiter.recordFailure ip now).1)
        requests := state.requests.set number ⟨ip, value, .answered 401 message⟩ }
  | pruned (now : Time) : WsMove state (.prune now) { state with store := (state.store.prune now).1 }

section Moves

variable {state after : WsState} {event : WsEvent}

private theorem handleWSArrive_move (state : WsState) (ip value : GoString) (now : Time) :
    WsMove state (.arrive ip value now) (handleWSArrive state ip value now) := by
  unfold handleWSArrive
  split
  · rename_i blocked
    exact .refused blocked
  · rename_i free
    rw [Bool.not_eq_true] at free
    split
    · rename_i empty
      subst empty
      exact .ticketless free
    · exact .admitted free

private theorem handleWSLookup_move {number : Nat} {ip value : GoString}
    (waiting : state.requests[number]? = some ⟨ip, value, .lookup⟩) (now : Time) :
    WsMove state (.lookup number now) (handleWSLookup state number ⟨ip, value, .lookup⟩ now) := by
  unfold handleWSLookup
  dsimp only
  split
  · rename_i nodeID passed
    exact .looked waiting (by simp) (fun other => by rw [passed]; simp)
  · rename_i error failed
    exact .looked waiting (by simp) (fun other => by rw [failed]; simp)

theorem wsStep_move (taken : wsStep state event = some after) : WsMove state event after := by
  cases event with
  | mint nodeID buf now =>
    cases taken
    exact .minted nodeID buf now
  | put number =>
    simp only [wsStep] at taken
    split at taken
    · rename_i ticket waiting
      cases taken
      exact .stored waiting
    · cases taken
  | arrive ip value now =>
    cases taken
    exact handleWSArrive_move state ip value now
  | lookup number now =>
    simp only [wsStep] at taken
    split at taken
    · rename_i ip value waiting
      cases taken
      exact handleWSLookup_move waiting now
    · cases taken
  | count number now =>
    simp only [wsStep] at taken
    split at taken
    · rename_i ip value message waiting
      cases taken
      exact .counted waiting
    · cases taken
  | prune now =>
    cases taken
    exact .pruned now

/-- A step is taken at the instant it reads, or at the last one. -/
theorem wsNext_move (taken : wsNext state event = some after) :
    ∃ clock, state.clock ≤ clock ∧ (∀ now, event.time = some now → now = clock) ∧
      WsMove { state with clock } event after := by
  unfold wsNext at taken
  split at taken
  · rename_i timeless
    refine ⟨state.clock, Int.le_refl _, fun now timed => ?_, wsStep_move taken⟩
    rw [timeless] at timed
    cases timed
  · rename_i now timed
    split at taken
    · cases taken
    · rename_i later
      exact ⟨now, Int.not_lt.mp later, fun other same => Option.some.inj (same.symm.trans timed), wsStep_move taken⟩

end Moves

/-- The value `newTicketValue` returned to a call of `Issue` that got so far. -/
def WsEvent.mintedValue : WsEvent → Option GoString
  | .mint nodeID buf _ => if nodeID = [] then none else some (newTicketValue buf)
  | _ => none

/-- A request with this value, from an IP that was not blocked. -/
def WsHappened.presents (value : GoString) (happened : WsHappened) : Prop :=
  ∃ number ip time outcome, happened = .request number ip value time false outcome

@[simp] theorem presents_issued (value other nodeID : GoString) (time : Time) :
    ¬ WsHappened.presents value (.issued other nodeID time) := by
  intro ⟨_, _, _, _, same⟩
  cases same

@[simp] theorem presents_blocked (number : Nat) (value ip other : GoString) (time : Time)
    (outcome : WsOutcome) : ¬ WsHappened.presents value (.request number ip other time true outcome) := by
  intro ⟨_, _, _, _, same⟩
  cases same

@[simp] theorem presents_request {number : Nat} {value ip other : GoString} {time : Time}
    {outcome : WsOutcome} :
    WsHappened.presents value (.request number ip other time false outcome) ↔ other = value := by
  constructor
  · intro ⟨_, _, _, _, same⟩
    cases same
    rfl
  · intro same
    subst other
    exact ⟨number, ip, time, outcome, rfl⟩

/-- A ticket that was issued and has not been presented since. -/
def Unused (log : List WsHappened) (value nodeID : GoString) (issuedAt : Time) : Prop :=
  Since (.issued value nodeID issuedAt) (WsHappened.presents value) log

private theorem unused_issue_iff {log : List WsHappened} {value other nodeID bound : GoString} {issuedAt time : Time} :
    Unused (log ++ [.issued other bound time]) value nodeID issuedAt ↔
      (other = value ∧ bound = nodeID ∧ time = issuedAt) ∨ Unused log value nodeID issuedAt := by
  unfold Unused
  rw [since_concat_iff]
  simp

private theorem unused_request_iff {log : List WsHappened} {number : Nat} {value ip other nodeID : GoString}
    {issuedAt time : Time} {blocked : Bool} {outcome : WsOutcome} :
    Unused (log ++ [.request number ip other time blocked outcome]) value nodeID issuedAt ↔
      Unused log value nodeID issuedAt ∧ (blocked = true ∨ other ≠ value) := by
  unfold Unused
  rw [since_concat_iff]
  cases blocked with
  | true => simp
  | false => simp

/-- A request passes as a node exactly if its IP was not blocked and its ticket was issued
to that node, is alive and is unused in the log before it. -/
def DecidedExactly (ttl : Duration) (past : List WsHappened) : WsHappened → Prop
  | .issued _ _ _ => True
  | .request _ _ value time blocked outcome => ∀ nodeID, outcome = .passed nodeID ↔
      blocked = false ∧ ∃ issuedAt, issuedAt ≤ time ∧ time ≤ issuedAt + ttl ∧
        Unused past value nodeID issuedAt

/-- The map against the whole history. -/
structure WsExact (ttl : Duration) (state : WsState) : Prop where
  lifetime : state.store.ttl = ttl
  /-- An entry of the map is an unused ticket with the expiry it was issued with. -/
  stored : ∀ value entry, state.store.tickets.find? value = some entry →
    ∃ issuedAt, Unused state.log value entry.nodeID issuedAt ∧ entry.expiresAt = issuedAt + ttl
  /-- An unused ticket is in the map until it has expired. -/
  kept : ∀ value nodeID issuedAt, Unused state.log value nodeID issuedAt →
    state.store.tickets.find? value = some ⟨value, nodeID, issuedAt + ttl⟩ ∨
      issuedAt + ttl < state.clock
  issued : ∀ value nodeID issuedAt, .issued value nodeID issuedAt ∈ state.log →
    ∃ ticket, (ticket, true) ∈ state.minted ∧ ticket.value = value ∧ ticket.issuedAt = issuedAt
  minted : ∀ ticket stored, (ticket, stored) ∈ state.minted →
    ticket.value ≠ [] ∧ ticket.issuedAt ≤ state.clock ∧ ticket.expiresAt = ticket.issuedAt + ttl
  decided : Throughout (DecidedExactly ttl) state.log

namespace WsExact

variable {ttl : Duration} {state after : WsState}

private theorem unused_issued {value nodeID : GoString} {issuedAt : Time} (exact : WsExact ttl state)
    (unused : Unused state.log value nodeID issuedAt) : value ≠ [] ∧ issuedAt ≤ state.clock := by
  obtain ⟨ticket, member, named, dated⟩ := exact.issued value nodeID issuedAt (since_mem unused)
  obtain ⟨filled, past, _⟩ := exact.minted ticket true member
  exact ⟨named ▸ filled, dated ▸ past⟩

theorem advance (exact : WsExact ttl state) {now : Time} (forward : state.clock ≤ now) :
    WsExact ttl { state with clock := now } := by
  refine { exact with kept := ?_, minted := ?_ }
  · intro value nodeID issuedAt unused
    exact (exact.kept value nodeID issuedAt unused).imp_right (fun expired => Int.lt_of_lt_of_le expired forward)
  · intro ticket stored member
    obtain ⟨filled, past, dated⟩ := exact.minted ticket stored member
    exact ⟨filled, Int.le_trans past forward, dated⟩

theorem mint (exact : WsExact ttl state) (nodeID : GoString) (buf : Vector UInt8 32) :
    WsExact ttl { state with
      minted := state.minted ++ ((Tickets.mint state.store.ttl nodeID (newTicketValue buf) state.clock).map
        (fun ticket => (ticket, false))).toList } := by
  refine { exact with issued := ?_, minted := ?_ }
  · intro value bound issuedAt member
    obtain ⟨ticket, present, rest⟩ := exact.issued value bound issuedAt member
    exact ⟨ticket, List.mem_append_left _ present, rest⟩
  · intro ticket stored member
    rcases List.mem_append.mp member with old | new
    · exact exact.minted ticket stored old
    · unfold Tickets.mint at new
      split at new
      · cases new
      · cases List.mem_singleton.mp new
        exact ⟨newTicketValue_ne_nil buf, Int.le_refl _, by rw [exact.lifetime]⟩

/-- A value that is about to be stored has not been issued before. -/
theorem fresh {ticket : Ticket} {number : Nat} (exact : WsExact ttl state)
    (distinct : (state.minted.map (fun pair => pair.1.value)).Nodup)
    (waiting : state.minted[number]? = some (ticket, false)) (nodeID : GoString) (issuedAt : Time) :
    ¬ Unused state.log ticket.value nodeID issuedAt := by
  intro unused
  obtain ⟨earlier, member, named, _⟩ := exact.issued _ _ _ (since_mem unused)
  have same : (earlier, true) = (ticket, false) :=
    List.inj_on_of_nodup_map distinct member (List.mem_of_getElem? waiting) named
  cases same

theorem put {number : Nat} {ticket : Ticket} (exact : WsExact ttl state)
    (distinct : (state.minted.map (fun pair => pair.1.value)).Nodup)
    (waiting : state.minted[number]? = some (ticket, false)) :
    WsExact ttl { state with
      store := state.store.put ticket
      minted := state.minted.set number (ticket, true)
      log := state.log ++ [.issued ticket.value ticket.nodeID ticket.issuedAt] } := by
  have new := exact.fresh distinct waiting
  obtain ⟨filled, past, dated⟩ := exact.minted ticket false (List.mem_of_getElem? waiting)
  refine ⟨exact.lifetime, ?_, ?_, ?_, ?_, throughout_concat exact.decided trivial⟩
  · intro value entry found
    rw [Store.find?_put] at found
    split at found
    · rename_i same
      cases found
      exact ⟨ticket.issuedAt, unused_issue_iff.mpr (Or.inl ⟨same.symm, rfl, rfl⟩), dated⟩
    · obtain ⟨issuedAt, unused, expiry⟩ := exact.stored value entry found
      exact ⟨issuedAt, unused_issue_iff.mpr (Or.inr unused), expiry⟩
  · intro value nodeID issuedAt unused
    rw [Store.find?_put]
    rcases unused_issue_iff.mp unused with ⟨rfl, rfl, rfl⟩ | old
    · rw [if_pos rfl, dated]
      exact Or.inl rfl
    · have other : value ≠ ticket.value := fun same => new nodeID issuedAt (same ▸ old)
      rw [if_neg other]
      exact exact.kept value nodeID issuedAt old
  · intro value nodeID issuedAt member
    rcases List.mem_append.mp member with old | last
    · obtain ⟨earlier, present, rest⟩ := exact.issued value nodeID issuedAt old
      refine ⟨earlier, ?_, rest⟩
      obtain ⟨place, found⟩ := List.mem_iff_getElem?.mp present
      have elsewhere : number ≠ place := by
        intro same
        rw [same, found] at waiting
        cases waiting
      exact List.mem_iff_getElem?.mpr ⟨place, by rw [List.getElem?_set_ne elsewhere]; exact found⟩
    · cases List.mem_singleton.mp last
      have bound := (List.getElem?_eq_some_iff.mp waiting).1
      exact ⟨ticket, List.mem_iff_getElem?.mpr ⟨number, List.getElem?_set_self bound⟩, rfl, rfl⟩
  · intro other stored member
    rcases List.mem_or_eq_of_mem_set member with old | same
    · exact exact.minted other stored old
    · cases same
      exact ⟨filled, past, dated⟩

/-- A request that is turned away without a lookup: its IP was blocked, or it brought
no ticket. -/
theorem turnedAway {number : Nat} {ip value : GoString} {blocked : Bool} {requests : List WsRequest}
    (exact : WsExact ttl state) (harmless : blocked = true ∨ value = []) :
    WsExact ttl { state with
      requests
      log := state.log ++ [.request number ip value state.clock blocked .rejected] } := by
  -- no unused ticket is the one presented
  have unaffected : ∀ {other nodeID issuedAt}, Unused state.log other nodeID issuedAt →
      blocked = true ∨ value ≠ other := by
    intro other nodeID issuedAt unused
    rcases harmless with refused | empty
    · exact Or.inl refused
    · exact Or.inr (empty ▸ (exact.unused_issued unused).1.symm)
  refine ⟨exact.lifetime, ?_, ?_, ?_, exact.minted, throughout_concat exact.decided ?_⟩
  · intro other entry found
    obtain ⟨issuedAt, unused, expiry⟩ := exact.stored other entry found
    exact ⟨issuedAt, unused_request_iff.mpr ⟨unused, unaffected unused⟩, expiry⟩
  · intro other nodeID issuedAt unused
    exact exact.kept other nodeID issuedAt (unused_request_iff.mp unused).1
  · intro other nodeID issuedAt member
    rcases List.mem_append.mp member with old | last
    · exact exact.issued other nodeID issuedAt old
    · cases List.mem_singleton.mp last
  · intro nodeID
    constructor
    · intro passed
      cases passed
    · intro ⟨admitted, issuedAt, _, _, unused⟩
      rcases unaffected unused with refused | different
      · rw [admitted] at refused
        cases refused
      · exact absurd rfl different

/-- A lookup removes the ticket it was asked for and no other one. -/
theorem lookedUp {number : Nat} {ip value : GoString} {outcome : WsOutcome} {requests : List WsRequest}
    (exact : WsExact ttl state)
    (result : ∀ nodeID, outcome = .passed nodeID ↔ (state.store.validate value state.clock).2 = .ok nodeID) :
    WsExact ttl { state with
      store := (state.store.validate value state.clock).1
      requests
      log := state.log ++ [.request number ip value state.clock false outcome] } := by
  refine ⟨by rw [Store.validate_ttl, exact.lifetime], ?_, ?_, ?_, exact.minted,
    throughout_concat exact.decided ?_⟩
  · intro other entry found
    rw [Store.find?_validate] at found
    split at found
    · cases found
    · rename_i different
      obtain ⟨issuedAt, unused, expiry⟩ := exact.stored other entry found
      exact ⟨issuedAt, unused_request_iff.mpr ⟨unused, Or.inr (Ne.symm different)⟩, expiry⟩
  · intro other nodeID issuedAt unused
    obtain ⟨old, harmless⟩ := unused_request_iff.mp unused
    have different : value ≠ other := harmless.resolve_left Bool.false_ne_true
    rw [Store.find?_validate, if_neg (Ne.symm different)]
    exact exact.kept other nodeID issuedAt old
  · intro other nodeID issuedAt member
    rcases List.mem_append.mp member with old | last
    · exact exact.issued other nodeID issuedAt old
    · cases List.mem_singleton.mp last
  · intro nodeID
    rw [result nodeID, Store.validate_ok_iff]
    constructor
    · rintro ⟨entry, found, bound, alive⟩
      obtain ⟨issuedAt, unused, expiry⟩ := exact.stored value entry found
      rw [bound] at unused
      exact ⟨rfl, issuedAt, (exact.unused_issued unused).2, expiry ▸ alive, unused⟩
    · rintro ⟨_, issuedAt, _, alive, unused⟩
      rcases exact.kept value nodeID issuedAt unused with found | expired
      · exact ⟨_, found, rfl, alive⟩
      · exact absurd alive (Int.not_le.mpr expired)

theorem prune (exact : WsExact ttl state) :
    WsExact ttl { state with store := (state.store.prune state.clock).1 } := by
  refine { exact with stored := ?_, kept := ?_ }
  · intro value entry found
    rw [Store.find?_prune, Option.filter_eq_some_iff] at found
    exact exact.stored value entry found.1
  · intro value nodeID issuedAt unused
    rcases exact.kept value nodeID issuedAt unused with found | expired
    · by_cases late : state.clock > issuedAt + ttl
      · exact Or.inr late
      · refine Or.inl ?_
        rw [Store.find?_prune, found]
        simp [Option.filter, late]
    · exact Or.inr expired

theorem next {event : WsEvent} (exact : WsExact ttl state)
    (distinct : (state.minted.map (fun pair => pair.1.value)).Nodup)
    (taken : wsNext state event = some after) : WsExact ttl after := by
  obtain ⟨clock, forward, timed, move⟩ := wsNext_move taken
  have exact := exact.advance forward
  cases move with
  | minted nodeID buf now =>
    obtain rfl := timed now rfl
    exact exact.mint nodeID buf
  | stored waiting => exact exact.put distinct waiting
  | @refused _ _ _ now =>
    obtain rfl := timed now rfl
    exact exact.turnedAway (Or.inl rfl)
  | @ticketless _ _ now =>
    obtain rfl := timed now rfl
    exact exact.turnedAway (Or.inr rfl)
  | admitted => exact { exact with }
  | @looked _ _ _ now _ _ _ _ result =>
    obtain rfl := timed now rfl
    exact exact.lookedUp result
  | counted => exact { exact with }
  | pruned now =>
    obtain rfl := timed now rfl
    exact exact.prune

end WsExact

private theorem wsExact_start (ttl : Duration) (limiter : Option RateLimiter) (clock : Time) :
    WsExact (newStore ttl).ttl (.start ttl limiter clock) where
  lifetime := rfl
  stored := by
    intro value entry found
    cases found
  kept := by
    intro value nodeID issuedAt unused
    cases since_mem unused
  issued := by
    intro value nodeID issuedAt member
    cases member
  minted := by
    intro ticket stored member
    cases member
  decided := throughout_nil _

/-- The minted values of a run, in the order of its events. -/
theorem minted_next {state after : WsState} {event : WsEvent} (taken : wsNext state event = some after) :
    after.minted.map (fun pair => pair.1.value) =
      state.minted.map (fun pair => pair.1.value) ++ event.mintedValue.toList := by
  obtain ⟨clock, _, _, move⟩ := wsNext_move taken
  cases move with
  | minted nodeID buf now =>
    unfold Tickets.mint WsEvent.mintedValue
    by_cases missing : nodeID = []
    · simp [missing]
    · simp [missing]
  | @stored number ticket waiting =>
    have kept : (state.minted.map (fun pair => pair.1.value))[number]? = some ticket.value := by
      rw [List.getElem?_map, waiting]
      rfl
    simp only [List.map_set, WsEvent.mintedValue, Option.toList_none, List.append_nil]
    obtain ⟨bound, here⟩ := List.getElem?_eq_some_iff.mp kept
    rw [← here, List.set_getElem_self]
  | refused | ticketless | admitted | looked | counted | pruned => exact (List.append_nil _).symm

/-- What a run without repeated values reaches. -/
theorem wsExact_run {ttl : Duration} {limiter : Option RateLimiter} {clock : Time}
    {events : List WsEvent} {state : WsState}
    (run : exec wsNext (.start ttl limiter clock) events = some state)
    (unrepeated : (events.filterMap WsEvent.mintedValue).Nodup) : WsExact (newStore ttl).ttl state := by
  have history : state.minted.map (fun pair => pair.1.value) = events.filterMap WsEvent.mintedValue ∧
      ((events.filterMap WsEvent.mintedValue).Nodup → WsExact (newStore ttl).ttl state) := by
    refine exec_history
      (fun past state => state.minted.map (fun pair => pair.1.value) = past.filterMap WsEvent.mintedValue ∧
        ((past.filterMap WsEvent.mintedValue).Nodup → WsExact (newStore ttl).ttl state))
      ⟨rfl, fun _ => wsExact_start ttl limiter clock⟩ ?_ run
    intro past before event after _ ⟨values, exact⟩ taken
    have single : [event].filterMap WsEvent.mintedValue = event.mintedValue.toList := by
      cases value : event.mintedValue with
      | none => simp [value]
      | some minted => simp [value]
    rw [List.filterMap_append, single, minted_next taken, values]
    refine ⟨rfl, fun distinct => ?_⟩
    have earlier := (List.nodup_append.mp distinct).1
    exact (exact earlier).next (values ▸ earlier) taken
  exact history.2 unrepeated

/-! What the limiter had said: every decided request goes back to the event it arrived
with, and its entry carries the limiter's answer in the state that event found. -/

/-- The request with this number came with an arrival of the run, not after the given
time, and the limiter of that moment blocked its IP or did not. -/
def LimiterSaid (start : WsState) (events : List WsEvent) (number : Nat) (ip value : GoString) (time : Time)
    (blocked : Bool) : Prop :=
  ∃ front back before arrived, events = front ++ .arrive ip value arrived :: back ∧
    exec wsNext start front = some before ∧ before.requests.length = number ∧ arrived ≤ time ∧
    blocked = before.limiter.any (fun limiter => limiter.blocked ip arrived)

/-- Requests on their way to the lookup were let in, and the log says what the limiter said. -/
structure Arrivals (start : WsState) (events : List WsEvent) (state : WsState) : Prop where
  waiting : ∀ number ip value, state.requests[number]? = some ⟨ip, value, .lookup⟩ →
    LimiterSaid start events number ip value state.clock false
  decided : ∀ number ip value time blocked outcome,
    .request number ip value time blocked outcome ∈ state.log →
      LimiterSaid start events number ip value time blocked

theorem LimiterSaid.mono {start : WsState} {events : List WsEvent} {number : Nat} {ip value : GoString}
    {time later : Time} {blocked : Bool} (said : LimiterSaid start events number ip value time blocked)
    (event : WsEvent) (ordered : time ≤ later) :
    LimiterSaid start (events ++ [event]) number ip value later blocked := by
  obtain ⟨front, back, before, arrived, rfl, run, numbered, past, answer⟩ := said
  exact ⟨front, back ++ [event], before, arrived, by simp, run, numbered, Int.le_trans past ordered, answer⟩

namespace Arrivals

variable {start state after : WsState} {events : List WsEvent}

/-- A step that brings no request to the lookup and decides none. -/
theorem frame (arrivals : Arrivals start events state) (event : WsEvent) (clock : state.clock ≤ after.clock)
    (requests : ∀ (number : Nat) (ip value : GoString), after.requests[number]? = some ⟨ip, value, .lookup⟩ →
      state.requests[number]? = some ⟨ip, value, .lookup⟩)
    (log : ∀ number ip value time blocked outcome,
      .request number ip value time blocked outcome ∈ after.log →
        .request number ip value time blocked outcome ∈ state.log) :
    Arrivals start (events ++ [event]) after where
  waiting number ip value found := (arrivals.waiting number ip value (requests number ip value found)).mono event clock
  decided number ip value time blocked outcome member :=
    (arrivals.decided number ip value time blocked outcome (log _ _ _ _ _ _ member)).mono event (Int.le_refl time)

/-- A step that decides one request. -/
theorem settle (arrivals : Arrivals start events state) {event : WsEvent} {number : Nat} {ip value : GoString}
    {time : Time} {blocked : Bool} {outcome : WsOutcome} (clock : state.clock ≤ after.clock)
    (requests : ∀ (number : Nat) (ip value : GoString), after.requests[number]? = some ⟨ip, value, .lookup⟩ →
      state.requests[number]? = some ⟨ip, value, .lookup⟩)
    (log : after.log = state.log ++ [.request number ip value time blocked outcome])
    (said : LimiterSaid start (events ++ [event]) number ip value time blocked) :
    Arrivals start (events ++ [event]) after := by
  refine ⟨fun place source presented found => ?_, fun place source presented asked refused result member => ?_⟩
  · exact (arrivals.waiting place source presented (requests place source presented found)).mono event clock
  · rw [log] at member
    rcases List.mem_append.mp member with past | new
    · exact (arrivals.decided _ _ _ _ _ _ past).mono event (Int.le_refl asked)
    · cases List.mem_singleton.mp new
      exact said

/-- A request that left the lookup is not on its way to it any more. -/
theorem lookup_of_set {requests : List WsRequest} {number other : Nat} {request : WsRequest}
    {ip value : GoString} (gone : request.stage ≠ .lookup)
    (found : (requests.set number request)[other]? = some ⟨ip, value, .lookup⟩) :
    requests[other]? = some ⟨ip, value, .lookup⟩ := by
  by_cases same : number = other
  · subst other
    rw [List.getElem?_set] at found
    simp only [if_true] at found
    split at found
    · cases found
      exact absurd rfl gone
    · cases found
  · rwa [List.getElem?_set_ne same] at found

/-- The requests before an arrival are where they were. -/
theorem lookup_of_concat {requests : List WsRequest} {request : WsRequest} {number : Nat} {ip value : GoString}
    (found : (requests ++ [request])[number]? = some ⟨ip, value, .lookup⟩) :
    requests[number]? = some ⟨ip, value, .lookup⟩ ∨ number = requests.length ∧ request = ⟨ip, value, .lookup⟩ := by
  rcases Nat.lt_trichotomy number requests.length with earlier | same | beyond
  · rw [List.getElem?_append_left earlier] at found
    exact Or.inl found
  · subst number
    rw [List.getElem?_concat_length] at found
    exact Or.inr ⟨rfl, Option.some.inj found⟩
  · rw [List.getElem?_eq_none (by simp; omega)] at found
    cases found

/-- A request that is answered at once never gets to the lookup. -/
theorem lookup_of_answered {requests : List WsRequest} {request : WsRequest} {number : Nat} {ip value : GoString}
    (gone : request.stage ≠ .lookup) (found : (requests ++ [request])[number]? = some ⟨ip, value, .lookup⟩) :
    requests[number]? = some ⟨ip, value, .lookup⟩ := by
  rcases lookup_of_concat found with present | ⟨_, same⟩
  · exact present
  · rw [same] at gone
    exact absurd rfl gone

theorem next {event : WsEvent} (arrivals : Arrivals start events state)
    (run : exec wsNext start events = some state) (taken : wsNext state event = some after) :
    Arrivals start (events ++ [event]) after := by
  obtain ⟨clock, forward, timed, move⟩ := wsNext_move taken
  -- what the limiter says when a request arrives
  have said : ∀ ip value now, event = .arrive ip value now →
      LimiterSaid start (events ++ [event]) state.requests.length ip value now (wsBlocked state.limiter ip now) := by
    rintro ip value now rfl
    exact ⟨events, [], state, now, rfl, run, rfl, Int.le_refl now, rfl⟩
  cases move with
  | minted nodeID buf now =>
    exact arrivals.frame _ forward (fun _ _ _ found => found) (fun _ _ _ _ _ _ member => member)
  | stored waiting =>
    refine arrivals.frame _ forward (fun _ _ _ found => found) (fun _ _ _ _ _ _ member => ?_)
    rcases List.mem_append.mp member with old | new
    · exact old
    · cases List.mem_singleton.mp new
  | @refused ip value message now blocked =>
    refine arrivals.settle forward (fun _ _ _ found => lookup_of_answered (by simp) found) rfl ?_
    exact blocked ▸ said ip value now rfl
  | @ticketless ip message now free =>
    refine arrivals.settle forward (fun _ _ _ found => lookup_of_answered (by simp) found) rfl ?_
    exact free ▸ said ip [] now rfl
  | @admitted ip value now free =>
    obtain rfl := timed now rfl
    refine ⟨fun number source presented found => ?_, fun number source presented time asked outcome member => ?_⟩
    · rcases lookup_of_concat found with present | ⟨rfl, same⟩
      · exact (arrivals.waiting number source presented present).mono _ forward
      · cases same
        exact free ▸ said ip value now rfl
    · exact (arrivals.decided _ _ _ _ _ _ member).mono _ (Int.le_refl time)
  | @looked number ip value now stage outcome waiting moved =>
    obtain rfl := timed now rfl
    refine arrivals.settle forward (fun _ _ _ found => lookup_of_set moved found) rfl ?_
    exact (arrivals.waiting number ip value waiting).mono _ forward
  | counted waiting =>
    exact arrivals.frame _ forward (fun _ _ _ found => lookup_of_set (by simp) found)
      (fun _ _ _ _ _ _ member => member)
  | pruned now => exact arrivals.frame _ forward (fun _ _ _ found => found) (fun _ _ _ _ _ _ member => member)

end Arrivals

private theorem arrivals_run {ttl : Duration} {limiter : Option RateLimiter} {clock : Time} {events : List WsEvent}
    {state : WsState} (run : exec wsNext (.start ttl limiter clock) events = some state) :
    Arrivals (.start ttl limiter clock) events state := by
  refine exec_history (Arrivals (.start ttl limiter clock)) ⟨?_, ?_⟩ ?_ run
  · intro number ip value found
    cases found
  · intro number ip value time blocked outcome member
    cases member
  · exact fun past before event after run arrivals taken => arrivals.next run taken

/-- A server without a limiter never gets one. -/
theorem unlimited_next {state after : WsState} {event : WsEvent} (unlimited : state.limiter = none)
    (taken : wsNext state event = some after) : after.limiter = none := by
  obtain ⟨clock, _, _, move⟩ := wsNext_move taken
  cases move with
  | minted | stored | refused | ticketless | admitted | looked | pruned => exact unlimited
  | counted =>
    show state.limiter.map _ = none
    rw [unlimited]
    rfl

/-- Without a limiter nobody is blocked. -/
theorem LimiterSaid.unlimited {ttl : Duration} {clock : Time} {events : List WsEvent} {number : Nat}
    {ip value : GoString} {time : Time} {blocked : Bool}
    (said : LimiterSaid (.start ttl none clock) events number ip value time blocked) : blocked = false := by
  obtain ⟨front, _, before, arrived, _, run, _, _, rfl⟩ := said
  have none : before.limiter = none :=
    exec_invariant (fun state => state.limiter = none) rfl (fun _ _ _ => unlimited_next) run
  rw [none]
  rfl

/-- Single use, binding and lifetime of tickets, exactly: a request passes if and only
if its IP was not blocked and its ticket was issued to that node, is within its
lifetime and was not presented in between by a request from an unblocked IP. Blocked
means for every request what the limiter answers in the state in which it arrived. -/
theorem ws_ticket_passes_iff (ttl : Duration) (limiter : Option RateLimiter) (clock : Time)
    (events : List WsEvent) (state : WsState)
    (run : exec wsNext (.start ttl limiter clock) events = some state)
    (unrepeated : (events.filterMap WsEvent.mintedValue).Nodup)
    (past future : List WsHappened) (number : Nat) (ip value nodeID : GoString) (time : Time) (blocked : Bool)
    (outcome : WsOutcome)
    (decided : state.log = past ++ .request number ip value time blocked outcome :: future) :
    (outcome = .passed nodeID ↔
      blocked = false ∧ ∃ issuedAt, issuedAt ≤ time ∧ time ≤ issuedAt + (newStore ttl).ttl ∧
        Unused past value nodeID issuedAt) ∧
      (∀ number ip value time blocked outcome, .request number ip value time blocked outcome ∈ state.log →
        ∃ front back before arrived, events = front ++ .arrive ip value arrived :: back ∧
          exec wsNext (.start ttl limiter clock) front = some before ∧ before.requests.length = number ∧
          arrived ≤ time ∧ blocked = before.limiter.any (fun limiter => limiter.blocked ip arrived)) ∧
      (limiter = none → blocked = false) := by
  have arrivals := arrivals_run run
  refine ⟨(wsExact_run run unrepeated).decided past _ future decided nodeID, arrivals.decided, ?_⟩
  intro none
  subst none
  exact (arrivals.decided number ip value time blocked outcome (by simp [decided])).unlimited

/-- A ticket issued at 0 s, pruned around and presented at the last instant of its
minute, with the limiter of the command line defaults. -/
theorem ticket_passes_at_expiry :
    ∃ state past,
      exec wsNext (.start defaultTTL (some (newRateLimiter 10 defaultWindow defaultBlockDuration)) 0)
        [.mint (lit "spoke-1") (Vector.replicate 32 0) 0, .put 0, .prune (30 * second),
          .arrive (lit "10.0.0.7") (newTicketValue (Vector.replicate 32 0)) (60 * second),
          .prune (60 * second), .lookup 0 (60 * second)] = some state ∧
      state.log = past ++ [.request 0 (lit "10.0.0.7") (newTicketValue (Vector.replicate 32 0)) (60 * second)
        false (.passed (lit "spoke-1"))] ∧
      ((WsOutcome.passed (lit "spoke-1") = .passed (lit "spoke-1")) ↔
        false = false ∧ ∃ issuedAt, issuedAt ≤ 60 * second ∧
          60 * second ≤ issuedAt + (newStore defaultTTL).ttl ∧
          Unused past (newTicketValue (Vector.replicate 32 0)) (lit "spoke-1") issuedAt) := by
  refine ⟨_, _, rfl, rfl, ?_⟩
  exact (ws_ticket_passes_iff defaultTTL (some (newRateLimiter 10 defaultWindow defaultBlockDuration)) 0
    [.mint (lit "spoke-1") (Vector.replicate 32 0) 0, .put 0, .prune (30 * second),
      .arrive (lit "10.0.0.7") (newTicketValue (Vector.replicate 32 0)) (60 * second),
      .prune (60 * second), .lookup 0 (60 * second)] _ rfl (List.nodup_singleton _) _ [] _ _ _ _ _ _ _ rfl).1

end NetLatencyMonitor.Controller
