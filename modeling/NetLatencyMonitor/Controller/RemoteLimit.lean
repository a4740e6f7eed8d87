import NetLatencyMonitor.Controller.WebSocket
import NetLatencyMonitor.Http.RemoteAddr
import NetLatencyMonitor.Tickets.Throughput

/-! What the rate limit of `handleWS` holds a remote host to. The limiter counts under the
address that `clientIP` returns, and it is asked before the ticket is looked up: a host that
chooses the header, or sends its requests at once, is not held to anything. -/

namespace NetLatencyMonitor.Controller

open Clock Http Machine Text Tickets

/-- `clientIP`. -/
def clientIP (request : Request) : GoString :=
  let forwarded := request.header.get (lit "X-Forwarded-For")
  if forwarded ≠ [] then trimSpace (cut 0x2c forwarded).1
  else
    match splitHostPort request.remoteAddr with
    | some (host, _) => host
    | none => request.remoteAddr

/-- The upgrade request of a remote host. -/
def upgradeRequest (remote : Remote) (header : Header) : Request :=
  ⟨lit "GET", [lit "api", lit "v1", lit "ws"], header, remote.addr⟩

private theorem clientIP_remote (remote : Remote) {header : Header} (direct : header.get (lit "X-Forwarded-For") = []) :
    clientIP (upgradeRequest remote header) = remote.host := by
  unfold clientIP upgradeRequest
  simp only [direct, splitHostPort_addr]
  exact if_neg (fun nonempty => nonempty rfl)

/-- What clients can do. -/
structure Exposure where
  /-- The header `X-Forwarded-For` reaches the server as a client wrote it. -/
  forwarding : Bool
  /-- A request may arrive while another one of its address is being handled. -/
  overlapping : Bool

/-- The endpoint with the remote hosts of its requests, in order of their arrival, and the
rejected tickets: the host and the instant of each. -/
structure Door where
  ws : WsState
  remotes : List GoString
  rejected : List (GoString × Time)

def Door.start (ttl : Duration) (limiter : RateLimiter) (opened : Reading) : Door :=
  ⟨.start ttl (some limiter) opened.val, [], []⟩

inductive DoorEvent where
  | request (remote : Remote) (header : Header) (value : GoString) (now : Time)
  | handle (event : WsEvent)

/-- No step of the request is left. -/
def WsStage.settled : WsStage → Bool
  | .lookup => false
  | .counting _ => false
  | .answered _ _ => true
  | .passed _ => true

def Exposure.admits (exposure : Exposure) (door : Door) : DoorEvent → Bool
  | .request remote header _ _ =>
    (exposure.forwarding || decide (header.get (lit "X-Forwarded-For") = [])) &&
      (exposure.overlapping || door.ws.requests.all (fun request =>
        request.stage.settled || decide (request.ip ≠ clientIP (upgradeRequest remote header))))
  | .handle (.arrive _ _ _) => false
  | .handle _ => true

/-- The rejection that `wsRejectAndCount` answers with when it has counted. -/
def Door.rejections (door : Door) : WsEvent → List (GoString × Time)
  | .count number now => (door.remotes[number]?.map (fun host => (host, now))).toList
  | _ => []

def Door.step (door : Door) : DoorEvent → Option Door
  | .request remote header value now =>
    (wsNext door.ws (.arrive (clientIP (upgradeRequest remote header)) value now)).map (fun ws =>
      { door with ws, remotes := door.remotes ++ [remote.host] })
  | .handle event =>
    (wsNext door.ws event).map (fun ws => { door with ws, rejected := door.rejected ++ door.rejections event })

def doorNext (exposure : Exposure) (door : Door) (event : DoorEvent) : Option Door :=
  if exposure.admits door event then door.step event else none

/-- The rejections of a host in a period. -/
def rejectedWithin (length : Duration) (host : GoString) (periodStart : Time)
    (rejected : List (GoString × Time)) : Nat :=
  rejected.countP (fun one =>
    decide (one.1 = host) && decide (periodStart ≤ one.2) && decide (one.2 < periodStart + length))

/-! What a step does to the limiter and the requests. -/

section Steps

variable {state after : WsState} {event : WsEvent}

/-- A step other than an arrival. -/
inductive Handling (state : WsState) : WsEvent → WsState → Prop
  | aside {event : WsEvent} {after : WsState} (uncounted : ∀ number now, event ≠ .count number now)
      (limiter : after.limiter = state.limiter) (requests : after.requests = state.requests)
      (clock : state.clock ≤ after.clock) : Handling state event after
  | looked {number : Nat} {now : Time} {after : WsState} (request : WsRequest) (stage : WsStage)
      (present : state.requests[number]? = some request) (pending : request.stage.settled = false)
      (limiter : after.limiter = state.limiter)
      (requests : after.requests = state.requests.set number { request with stage })
      (clock : state.clock ≤ after.clock) :
      Handling state (.lookup number now) after
  | counted {number : Nat} {now : Time} {after : WsState} (request : WsRequest) (message : GoString)
      (present : state.requests[number]? = some request) (pending : request.stage.settled = false)
      (limiter : after.limiter = state.limiter.map (fun limiter => (limiter.recordFailure request.ip now).1))
      (requests : after.requests = state.requests.set number { request with stage := .answered 401 message })
      (passed : state.clock ≤ now) (clock : after.clock = now) : Handling state (.count number now) after

private theorem wsNext_handling (step : wsNext state event = some after)
    (handled : ∀ ip value now, event ≠ .arrive ip value now) :
    Handling state event after := by
  obtain ⟨clock, passed, timed, move⟩ := wsNext_move step
  cases move with
  | minted | stored | pruned => exact .aside (by simp) rfl rfl passed
  | @refused ip value _ now => exact absurd rfl (handled ip value now)
  | @ticketless ip _ now => exact absurd rfl (handled ip [] now)
  | @admitted ip value now => exact absurd rfl (handled ip value now)
  | looked waiting => exact .looked _ _ waiting rfl rfl rfl passed
  | @counted number ip value message now waiting =>
    obtain rfl := timed now rfl
    exact .counted _ message waiting rfl rfl rfl passed rfl

/-- An arrival adds a request, which is not left pending when its address is blocked. -/
theorem wsNext_arrive {ip value : GoString} {now : Time} (step : wsNext state (.arrive ip value now) = some after) :
    state.clock ≤ now ∧ after.clock = now ∧ after.limiter = state.limiter ∧
      ∃ request : WsRequest, request.ip = ip ∧ after.requests = state.requests ++ [request] ∧
        (request.stage.settled = false → wsBlocked state.limiter ip now = false) := by
  obtain ⟨clock, passed, timed, move⟩ := wsNext_move step
  obtain rfl := timed now rfl
  refine ⟨passed, ?_⟩
  cases move with
  | refused => exact ⟨rfl, rfl, _, rfl, rfl, fun pending => absurd pending (by simp [WsStage.settled])⟩
  | ticketless free => exact ⟨rfl, rfl, _, rfl, rfl, fun _ => free⟩
  | admitted free => exact ⟨rfl, rfl, _, rfl, rfl, fun _ => free⟩

end Steps

/-- A block does not begin by itself. -/
theorem blocked_later {limiter : RateLimiter} {ip : GoString} {now laterTime : Time}
    (free : limiter.blocked ip now = false)
    (passed : now ≤ laterTime) : limiter.blocked ip laterTime = false := by
  unfold RateLimiter.blocked at free ⊢
  split
  · rfl
  · rename_i st found
    simp only [found, decide_eq_false_iff_not] at free ⊢
    lia

/-- A failure of one address does not block another. -/
theorem blocked_other {limiter : RateLimiter} {ip other : GoString} (different : other ≠ ip) (failed now : Time) :
    (limiter.recordFailure ip failed).1.blocked other now = limiter.blocked other now := by
  unfold RateLimiter.blocked
  rw [RateLimiter.find?_recordFailure, if_neg different]

/-! Requests that come without the header, and those of each host one at a time. -/

/-- The requests against the failures the limiter has been told of. -/
structure Gauged (start : RateLimiter) (door : Door) (calls : List TimedCall) : Prop where
  limiter : door.ws.limiter = some (reached RateLimiter.serve start calls)
  ordered : Ordered calls
  past : ∀ timed ∈ calls, timed.now.val ≤ door.ws.clock
  reading : zeroTime < door.ws.clock
  through : ∀ host periodStart, rejectedWithin start.window host periodStart door.rejected ≤
    letThrough periodStart host start calls
  hosts : door.remotes = door.ws.requests.map WsRequest.ip
  /-- Only one request of a host is pending, and the host has not been blocked since. -/
  alone : ∀ (number : Nat) (request : WsRequest), door.ws.requests[number]? = some request →
    request.stage.settled = false →
    (∀ (other : Nat) (second : WsRequest), door.ws.requests[other]? = some second → second.stage.settled = false →
      second.ip = request.ip → other = number) ∧
      (reached RateLimiter.serve start calls).blocked request.ip door.ws.clock = false

section Gauged

variable {start : RateLimiter} {door : Door} {calls : List TimedCall} {ws : WsState}

theorem Gauged.arrive (gauged : Gauged start door calls) {host value : GoString} {now : Time}
    (idle : door.ws.requests.all (fun request => request.stage.settled || decide (request.ip ≠ host)) = true)
    (step : wsNext door.ws (.arrive host value now) = some ws) :
    Gauged start { door with ws, remotes := door.remotes ++ [host] } calls := by
  obtain ⟨passed, clock, limiter, request, ip, requests, free⟩ := wsNext_arrive step
  -- a pending request is the new one, or it was pending and is another host's
  have pending_cases : ∀ (other : Nat) (second : WsRequest), ws.requests[other]? = some second →
      second.stage.settled = false → (other = door.ws.requests.length ∧ second = request) ∨
        (door.ws.requests[other]? = some second ∧ second.ip ≠ host) := by
    intro other second present pending
    rw [requests, List.getElem?_append] at present
    split at present
    · have elsewhere := List.all_eq_true.mp idle second (List.mem_of_getElem? present)
      simp only [pending, Bool.false_or, decide_eq_true_eq] at elsewhere
      exact .inr ⟨present, elsewhere⟩
    · have zero : other - door.ws.requests.length = 0 := by
        by_contra further
        rw [List.getElem?_eq_none (by simp; omega)] at present
        cases present
      rw [zero] at present
      exact .inl ⟨by omega, (Option.some.inj present).symm⟩
  refine ⟨limiter.trans gauged.limiter, gauged.ordered, ?_, ?_, gauged.through, ?_, ?_⟩
  · intro timed member
    show timed.now.val ≤ ws.clock
    exact clock ▸ Int.le_trans (gauged.past timed member) passed
  · show zeroTime < ws.clock
    exact clock ▸ Int.lt_of_lt_of_le gauged.reading passed
  · show door.remotes ++ [host] = ws.requests.map WsRequest.ip
    rw [requests, gauged.hosts, List.map_append, List.map_singleton, ip]
  · intro number one present pending
    show _ ∧ (reached RateLimiter.serve start calls).blocked one.ip ws.clock = false
    rcases pending_cases number one present pending with ⟨same, rfl⟩ | ⟨was, elsewhere⟩
    · refine ⟨?_, ?_⟩
      · intro other second found undecided alike
        rcases pending_cases other second found undecided with ⟨last, _⟩ | ⟨_, different⟩
        · rw [last, same]
        · exact absurd (alike.trans ip) different
      · have free := free pending
        rw [gauged.limiter] at free
        rw [ip, clock]
        exact free
    · obtain ⟨only, unblocked⟩ := gauged.alone number one was pending
      refine ⟨?_, clock ▸ blocked_later unblocked passed⟩
      intro other second found undecided alike
      rcases pending_cases other second found undecided with ⟨_, rfl⟩ | ⟨there, _⟩
      · exact absurd (alike.symm.trans ip) elsewhere
      · exact only other second there undecided alike

/-- What a step leaves pending was pending. -/
theorem pending_of_set {requests : List WsRequest} {number other : Nat} {request second : WsRequest} {stage : WsStage}
    (was : requests[number]? = some request) (pending : request.stage.settled = false)
    (present : (requests.set number { request with stage })[other]? = some second)
    (undecided : second.stage.settled = false) :
    ∃ first, requests[other]? = some first ∧ first.stage.settled = false ∧ first.ip = second.ip := by
  rw [List.getElem?_set] at present
  split at present
  · rename_i same
    subst same
    split at present
    · cases present
      exact ⟨request, was, pending, rfl⟩
    · cases present
  · exact ⟨second, present, undecided, rfl⟩

private theorem map_ip_set {requests : List WsRequest} {number : Nat} {request : WsRequest} (stage : WsStage)
    (present : requests[number]? = some request) :
    (requests.set number { request with stage }).map WsRequest.ip = requests.map WsRequest.ip := by
  rw [List.map_set]
  refine List.ext_getElem? (fun other => ?_)
  rw [List.getElem?_set]
  split
  · rename_i same
    subst same
    simp [present]
    exact (List.getElem?_eq_some_iff.mp present).1
  · rfl

/-- A step that counts no failure, and leaves pending only what was. -/
theorem Gauged.keep (gauged : Gauged start door calls) (limiter : ws.limiter = door.ws.limiter)
    (clock : door.ws.clock ≤ ws.clock) (ips : ws.requests.map WsRequest.ip = door.ws.requests.map WsRequest.ip)
    (was : ∀ (number : Nat) (request : WsRequest), ws.requests[number]? = some request → request.stage.settled = false →
      ∃ first, door.ws.requests[number]? = some first ∧ first.stage.settled = false ∧ first.ip = request.ip) :
    Gauged start { door with ws } calls := by
  refine ⟨limiter.trans gauged.limiter, gauged.ordered, ?_, ?_, gauged.through, gauged.hosts.trans ips.symm, ?_⟩
  · exact fun timed member => Int.le_trans (gauged.past timed member) clock
  · exact Int.lt_of_lt_of_le gauged.reading clock
  · intro number request present pending
    obtain ⟨first, there, before, ip⟩ := was number request present pending
    obtain ⟨only, free⟩ := gauged.alone number first there before
    refine ⟨?_, ip ▸ blocked_later free clock⟩
    intro other second found unsettled alike
    obtain ⟨earlier, stood, waited, named⟩ := was other second found unsettled
    exact only other earlier stood waited (named.trans (alike.trans ip.symm))

/-- The failure of a pending request is counted while its host is not blocked. -/
theorem Gauged.count (gauged : Gauged start door calls) {number : Nat} {now : Time} {request : WsRequest}
    {message : GoString} (present : door.ws.requests[number]? = some request) (pending : request.stage.settled = false)
    (limiter : ws.limiter = door.ws.limiter.map (fun limiter => (limiter.recordFailure request.ip now).1))
    (requests : ws.requests = door.ws.requests.set number { request with stage := .answered 401 message })
    (passed : door.ws.clock ≤ now) (clock : ws.clock = now) :
    ∃ more, Gauged start { door with ws, rejected := door.rejected ++ door.rejections (.count number now) } more := by
  have read : zeroTime < now := Int.lt_of_lt_of_le gauged.reading passed
  have named : door.remotes[number]? = some request.ip := by
    rw [gauged.hosts, List.getElem?_map, present]
    rfl
  have one : door.rejections (.count number now) = [(request.ip, now)] := by simp [Door.rejections, named]
  obtain ⟨only, free⟩ := gauged.alone number request present pending
  have free := blocked_later free passed
  obtain ⟨_, window, _⟩ := reached_settings start calls
  rw [one]
  refine ⟨calls ++ [⟨⟨now, read⟩, .recordFailure request.ip⟩], ?_, ?_, ?_, ?_, ?_, ?_, ?_⟩
  · show ws.limiter = _
    rw [limiter, gauged.limiter, reached_append]
    rfl
  · refine List.pairwise_append.mpr ⟨gauged.ordered, List.pairwise_singleton _ _, ?_⟩
    intro timed member other last
    rw [List.mem_singleton.mp last]
    exact Int.le_trans (gauged.past timed member) passed
  · intro timed member
    show timed.now.val ≤ ws.clock
    rw [clock]
    rcases List.mem_append.mp member with earlier | last
    · exact Int.le_trans (gauged.past timed earlier) passed
    · rw [List.mem_singleton.mp last]
  · show zeroTime < ws.clock
    exact clock ▸ read
  · -- the rejected failure was let through
    intro host periodStart
    show rejectedWithin start.window host periodStart (door.rejected ++ [(request.ip, now)]) ≤ _
    rw [letThrough_append, rejectedWithin, List.countP_append, List.countP_singleton]
    refine Nat.add_le_add (gauged.through host periodStart) ?_
    simp only [letThrough, Nat.add_zero]
    split
    · rename_i counts
      simp only [Bool.and_eq_true, decide_eq_true_eq] at counts
      obtain ⟨⟨same, begun⟩, running⟩ := counts
      subst same
      rw [if_pos (by simp [letsThrough, free, begun, window, running])]
    · exact Nat.zero_le _
  · show door.remotes = ws.requests.map WsRequest.ip
    rw [requests, gauged.hosts]
    exact (map_ip_set _ present).symm
  · -- the others that are pending are other hosts'
    have pending_cases : ∀ (other : Nat) (second : WsRequest), ws.requests[other]? = some second →
        second.stage.settled = false → door.ws.requests[other]? = some second ∧ second.ip ≠ request.ip := by
      intro other second found undecided
      rw [requests, List.getElem?_set] at found
      split at found
      · split at found
        · cases found
          cases undecided
        · cases found
      · rename_i different
        exact ⟨found, fun alike => different (only other second found undecided alike).symm⟩
    intro other second found undecided
    obtain ⟨was, elsewhere⟩ := pending_cases other second found undecided
    obtain ⟨alone, unblocked⟩ := gauged.alone other second was undecided
    refine ⟨?_, ?_⟩
    · intro third last standing unsettled
      exact alone third last (pending_cases third last standing unsettled).1 unsettled
    · show (reached RateLimiter.serve start _).blocked second.ip ws.clock = false
      rw [reached_append, clock]
      show ((reached RateLimiter.serve start calls).recordFailure request.ip now).1.blocked second.ip now = false
      rw [blocked_other elsewhere]
      exact blocked_later unblocked passed

private theorem Gauged.handle (gauged : Gauged start door calls) {event : WsEvent}
    (handling : Handling door.ws event ws) :
    ∃ more, Gauged start { door with ws, rejected := door.rejected ++ door.rejections event } more := by
  cases handling with
  | aside uncounted limiter requests clock =>
    have unrejected : door.rejections event = [] := by
      cases event with
      | count number now => exact absurd rfl (uncounted number now)
      | mint nodeID buf now => rfl
      | put number => rfl
      | arrive ip value now => rfl
      | lookup number now => rfl
      | prune now => rfl
    rw [unrejected, List.append_nil]
    refine ⟨calls, gauged.keep limiter clock (congrArg _ requests) ?_⟩
    exact fun number request present pending => ⟨request, requests ▸ present, pending, rfl⟩
  | looked request stage present pending limiter requests clock =>
    have unrejected : ∀ number now, door.rejections (.lookup number now) = [] := fun _ _ => rfl
    rw [unrejected, List.append_nil]
    refine ⟨calls, gauged.keep limiter clock (requests ▸ map_ip_set stage present) ?_⟩
    exact fun number one found undecided => pending_of_set present pending (requests ▸ found) undecided
  | counted request message present pending limiter requests passed clock =>
    exact gauged.count present pending limiter requests passed clock

private theorem gauged_run {ttl : Duration} {opened : Reading} {events : List DoorEvent}
    (run : exec (doorNext ⟨false, false⟩) (.start ttl start opened) events = some door) :
    ∃ calls, Gauged start door calls := by
  refine exec_invariant (fun door => ∃ calls, Gauged start door calls) ?_ ?_ run
  · refine ⟨[], rfl, List.Pairwise.nil, by simp, opened.property, ?_, rfl, ?_⟩
    · exact fun host periodStart => Nat.le_refl 0
    · intro number request present
      cases present
  · intro before event after ⟨calls, gauged⟩ step
    unfold doorNext at step
    split at step
    · rename_i admitted
      cases event with
      | request remote header value now =>
        simp only [Exposure.admits, Bool.false_or, Bool.and_eq_true, decide_eq_true_eq] at admitted
        obtain ⟨ws, taken, rfl⟩ := Option.map_eq_some_iff.mp step
        rw [clientIP_remote remote admitted.1] at taken admitted
        exact ⟨calls, gauged.arrive admitted.2 taken⟩
      | handle event =>
        obtain ⟨ws, taken, rfl⟩ := Option.map_eq_some_iff.mp step
        refine gauged.handle (wsNext_handling taken ?_)
        intro ip value now same
        subst same
        cases admitted
    · cases step

end Gauged

/-! Requests without a ticket, one after the other. -/

structure Knock where
  remote : Remote
  header : Header
  now : Time

def Knock.ip (knock : Knock) : GoString := clientIP (upgradeRequest knock.remote knock.header)

/-- The rejections that are not refused by the limiter before. -/
def knocked : RateLimiter → List Knock → List (GoString × Time)
  | _, [] => []
  | limiter, knock :: rest =>
    (if limiter.blocked knock.ip knock.now then [] else [(knock.remote.host, knock.now)]) ++
      knocked (limiter.recordFailure knock.ip knock.now).1 rest

/-- Nothing is pending. -/
structure Door.Idle (door : Door) (limiter : RateLimiter) (now : Time) : Prop where
  settled : door.ws.requests.all (fun request => request.stage.settled) = true
  clock : door.ws.clock ≤ now
  limiter : door.ws.limiter = some limiter
  remotes : door.remotes.length = door.ws.requests.length

/-- A failure during a block changes nothing. -/
theorem recordFailure_blocked {limiter : RateLimiter} {ip : GoString} {now : Time}
    (blocked : limiter.blocked ip now = true) : (limiter.recordFailure ip now).1 = limiter := by
  unfold RateLimiter.blocked at blocked
  split at blocked
  · cases blocked
  · rename_i st found
    have stillBlocked : now < st.blockedUntil := of_decide_eq_true blocked
    unfold RateLimiter.recordFailure
    simp only
    rw [Keyed.Table.upsert_same (by rw [IpState.fail_ip]; exact found) (IpState.fail_blocked stillBlocked)]

section Knocks

variable {exposure : Exposure} {door : Door} {limiter : RateLimiter}

private theorem doorNext_request {remote : Remote} {header : Header} {value : GoString} {now : Time}
    (admitted : exposure.admits door (.request remote header value now) = true) (onTime : door.ws.clock ≤ now) :
    doorNext exposure door (.request remote header value now) = some
      { door with
        ws := handleWSArrive { door.ws with clock := now } (clientIP (upgradeRequest remote header)) value now
        remotes := door.remotes ++ [remote.host] } := by
  simp only [doorNext, admitted, if_true, Door.step, wsNext, WsEvent.time, wsStep, if_neg (Int.not_lt.mpr onTime),
    Option.map_some]

private theorem doorNext_count {number : Nat} {ip value message host : GoString} {now : Time}
    (present : door.ws.requests[number]? = some ⟨ip, value, .counting message⟩)
    (named : door.remotes[number]? = some host)
    (onTime : door.ws.clock ≤ now) :
    doorNext exposure door (.handle (.count number now)) = some
      { door with
        ws := { door.ws with
          clock := now
          limiter := door.ws.limiter.map (fun limiter => (limiter.recordFailure ip now).1)
          requests := door.ws.requests.set number ⟨ip, value, .answered 401 message⟩ }
        rejected := door.rejected ++ [(host, now)] } := by
  simp only [doorNext, Exposure.admits, if_true, Door.step, wsNext, WsEvent.time, wsStep,
    if_neg (Int.not_lt.mpr onTime), present, Option.map_some, Door.rejections, named, Option.toList_some]

private theorem Door.Idle.knock {knock : Knock} (idle : door.Idle limiter knock.now)
    (allowed : exposure.forwarding = true ∨ knock.header.get (lit "X-Forwarded-For") = []) :
    ∃ events after, exec (doorNext exposure) door events = some after ∧
      after.Idle (limiter.recordFailure knock.ip knock.now).1 knock.now ∧
      after.rejected = door.rejected ++
        if limiter.blocked knock.ip knock.now then [] else [(knock.remote.host, knock.now)] := by
  have admitted : exposure.admits door (.request knock.remote knock.header [] knock.now) = true := by
    have settled := List.all_eq_true.mp idle.settled
    simp only [Exposure.admits, Bool.and_eq_true, Bool.or_eq_true, decide_eq_true_eq, List.all_eq_true]
    exact ⟨allowed, .inr (fun request member => .inl (settled request member))⟩
  have arrived := doorNext_request admitted idle.clock
  have asked : wsBlocked door.ws.limiter knock.ip knock.now = limiter.blocked knock.ip knock.now := by
    rw [idle.limiter]
    rfl
  change doorNext _ _ _ = some { door with
    ws := handleWSArrive { door.ws with clock := knock.now } knock.ip [] knock.now
    remotes := door.remotes ++ [knock.remote.host] } at arrived
  by_cases blocked : limiter.blocked knock.ip knock.now = true
  · rw [handleWSArrive, if_pos (asked.trans blocked)] at arrived
    refine ⟨[_], _, by rw [exec, arrived]; rfl, ⟨?_, Int.le_refl _, ?_, ?_⟩, ?_⟩
    · simpa [WsStage.settled] using idle.settled
    · rw [recordFailure_blocked blocked]
      exact idle.limiter
    · simp [idle.remotes]
    · simp [blocked]
  · rw [handleWSArrive, if_neg (by rw [asked]; exact blocked), if_pos rfl] at arrived
    obtain ⟨ws, arrived, clock, same, requests⟩ : ∃ ws, doorNext exposure door
        (.request knock.remote knock.header [] knock.now) =
          some { door with ws, remotes := door.remotes ++ [knock.remote.host] } ∧
        ws.clock = knock.now ∧ ws.limiter = some limiter ∧
        ws.requests = door.ws.requests ++ [⟨knock.ip, [], .counting (lit "ticket required")⟩] :=
      ⟨_, arrived, rfl, idle.limiter, rfl⟩
    have present : ws.requests[door.ws.requests.length]? = some ⟨knock.ip, [], .counting (lit "ticket required")⟩ := by
      rw [requests]
      exact List.getElem?_concat_length
    have named : (door.remotes ++ [knock.remote.host])[door.ws.requests.length]? = some knock.remote.host := by
      rw [← idle.remotes]
      exact List.getElem?_concat_length
    have counted := @doorNext_count exposure { door with ws, remotes := door.remotes ++ [knock.remote.host] }
      door.ws.requests.length knock.ip [] (lit "ticket required") knock.remote.host knock.now present named
      (Int.le_of_eq clock)
    refine ⟨[_, _], _, by rw [exec, arrived, Option.bind_some, exec, counted]; rfl, ⟨?_, Int.le_refl _, ?_, ?_⟩, ?_⟩
    · simpa [requests, WsStage.settled] using idle.settled
    · simp [same]
    · simp [requests, idle.remotes]
    · simp [blocked]

/-- Requests without a ticket can be sent one after the other, whatever the exposure. -/
theorem knocks_run {knocks : List Knock} {now : Time} (idle : door.Idle limiter now)
    (ordered : (now :: knocks.map Knock.now).Pairwise (· ≤ ·))
    (allowed : exposure.forwarding = true ∨ ∀ knock ∈ knocks, knock.header.get (lit "X-Forwarded-For") = []) :
    ∃ events after, exec (doorNext exposure) door events = some after ∧
      after.rejected = door.rejected ++ knocked limiter knocks := by
  induction knocks generalizing door limiter now with
  | nil => exact ⟨[], door, rfl, by simp [knocked]⟩
  | cons knock rest ih =>
    obtain ⟨earlier, later⟩ := List.pairwise_cons.mp ordered
    have waited : door.Idle limiter knock.now :=
      ⟨idle.settled, Int.le_trans idle.clock (earlier knock.now List.mem_cons_self), idle.limiter, idle.remotes⟩
    obtain ⟨first, middle, ran, still, answered⟩ := waited.knock
      (allowed.imp_right (fun all => all knock List.mem_cons_self))
    obtain ⟨events, after, further, all⟩ := ih still later
      (allowed.imp_right (fun all other member => all other (List.mem_cons_of_mem knock member)))
    refine ⟨first ++ events, after, ?_, ?_⟩
    · rw [exec_append, ran]
      exact further
    · rw [all, answered, List.append_assoc]
      rfl

private theorem idle_start (ttl : Duration) (limiter : RateLimiter) (opened : Reading) :
    (Door.start ttl limiter opened).Idle limiter opened.val :=
  ⟨rfl, Int.le_refl _, rfl, rfl⟩

end Knocks

/-! The three ways past a bound. -/

section Past

variable {limiter : RateLimiter} {remote : Remote}

/-- Failures of one address, sent by its host. -/
def directly (remote : Remote) (timed : TimedCall) : Knock := ⟨remote, fun _ => [], timed.now.val⟩

private theorem knocked_directly {calls : List TimedCall}
    (failures : ∀ timed ∈ calls, timed.call = .recordFailure remote.host)
    (periodStart : Time) :
    rejectedWithin limiter.window remote.host periodStart (knocked limiter (calls.map (directly remote))) =
      letThrough periodStart remote.host limiter calls := by
  induction calls generalizing limiter with
  | nil => rfl
  | cons timed rest ih =>
    have fails := failures timed List.mem_cons_self
    have ip : (directly remote timed).ip = remote.host := clientIP_remote remote rfl
    have served : (limiter.serve timed).1 = (limiter.recordFailure remote.host timed.now).1 := by
      unfold RateLimiter.serve
      rw [fails]
    have rest := @ih (limiter.recordFailure remote.host timed.now).1
      (fun other member => failures other (List.mem_cons_of_mem timed member))
    rw [List.map_cons, knocked, letThrough, served, ← rest, ip, rejectedWithin, List.countP_append]
    refine congrArg (· + _) ?_
    cases blocked : limiter.blocked remote.host timed.now with
    | true => simp [directly, letsThrough, blocked]
    | false =>
      simp [directly, letsThrough, blocked, fails]

/-- A header of a client's own choice. -/
def spoofed (number : Nat) : Header :=
  fun name => if name = lit "X-Forwarded-For" then [List.replicate (number + 1) 0x61] else []

/-- The key the limiter counts it under. -/
theorem clientIP_spoofed (remote : Remote) (number : Nat) :
    clientIP (upgradeRequest remote (spoofed number)) = List.replicate (number + 1) 0x61 := by
  have read : (spoofed number).get (lit "X-Forwarded-For") = List.replicate (number + 1) 0x61 := by
    simp [spoofed, Header.get]
  have whole : cut 0x2c (List.replicate (number + 1) 0x61) = (List.replicate (number + 1) 0x61, []) := by
    have parts := @cut_append_left 0x2c (List.replicate (number + 1) 0x61) (by simp) []
    rw [List.append_nil] at parts
    rw [parts]
    simp [cut]
  unfold clientIP
  simp only [upgradeRequest, read, whole]
  rw [if_pos (by simp)]
  refine trimSpace_printable (fun byte member => ?_)
  rw [(List.mem_replicate.mp member).2]
  decide

/-- Requests of one host at one instant, each under an address of its own. -/
def spoofs (remote : Remote) (now : Time) (size : Nat) : List Knock :=
  (List.range size).reverse.map (fun number => ⟨remote, spoofed number, now⟩)

private theorem ordered_spoofs (remote : Remote) (now : Time) (size : Nat) :
    (now :: (spoofs remote now size).map Knock.now).Pairwise (· ≤ ·) := by
  have times : (spoofs remote now size).map Knock.now = List.replicate size now := by
    simp [spoofs, Function.comp_def, List.map_const']
  rw [times, ← List.replicate_succ]
  exact List.pairwise_replicate.mpr (.inr (Int.le_refl now))

/-- None of them finds its address blocked. -/
theorem knocked_spoofs {now : Time} {size : Nat}
    (fresh : ∀ number, number < size → limiter.failures.find? (List.replicate (number + 1) 0x61) = none) :
    knocked limiter (spoofs remote now size) = List.replicate size (remote.host, now) := by
  induction size generalizing limiter with
  | zero => rfl
  | succ size ih =>
    have free : limiter.blocked (List.replicate (size + 1) 0x61) now = false := by
      simp [RateLimiter.blocked, fresh size (Nat.lt_succ_self size)]
    have ip : (⟨remote, spoofed size, now⟩ : Knock).ip = List.replicate (size + 1) 0x61 := clientIP_spoofed remote size
    have rest := @ih (limiter.recordFailure (List.replicate (size + 1) 0x61) now).1 (by
      intro number below
      rw [RateLimiter.find?_recordFailure, if_neg ?_]
      · exact fresh number (by omega)
      · intro same
        have lengths := congrArg List.length same
        simp only [List.length_replicate] at lengths
        omega)
    unfold spoofs at rest ⊢
    rw [List.range_succ, List.reverse_append, List.reverse_singleton, List.singleton_append, List.map_cons, knocked, ip,
      free, rest]
    rfl

/-- Requests of one host that arrive at one instant, before the first is counted. -/
def crowd (remote : Remote) (now : Time) (size : Nat) : List DoorEvent :=
  List.replicate size (.request remote (fun _ => []) [] now)

/-- What a crowd leaves pending. -/
structure Crowded (door : Door) (limiter : RateLimiter) (host : GoString) (now : Time) (size : Nat) : Prop where
  clock : door.ws.clock = now
  limiter : door.ws.limiter = some limiter
  requests : door.ws.requests = List.replicate size ⟨host, [], .counting (lit "ticket required")⟩
  remotes : door.remotes = List.replicate size host
  rejected : door.rejected = []

private theorem crowd_run {forwarding : Bool} {ttl : Duration} (opened : Reading)
    (free : limiter.blocked remote.host opened.val = false) (size : Nat) :
    ∃ door, exec (doorNext ⟨forwarding, true⟩) (.start ttl limiter opened) (crowd remote opened.val size) = some door ∧
      Crowded door limiter remote.host opened.val size := by
  induction size with
  | zero => exact ⟨_, rfl, rfl, rfl, rfl, rfl, rfl⟩
  | succ size ih =>
    obtain ⟨door, ran, crowded⟩ := ih
    have admitted : Exposure.admits ⟨forwarding, true⟩ door (.request remote (fun _ => []) [] opened.val) = true := by
      simp [Exposure.admits, Header.get]
    have arrived := doorNext_request admitted (Int.le_of_eq crowded.clock)
    have asked : wsBlocked door.ws.limiter remote.host opened.val = false := by
      rw [crowded.limiter]
      exact free
    rw [clientIP_remote remote rfl, handleWSArrive, if_neg (by simp [asked]), if_pos rfl] at arrived
    have longer : exec (doorNext ⟨forwarding, true⟩) (.start ttl limiter opened) (crowd remote opened.val (size + 1)) =
        (doorNext ⟨forwarding, true⟩ door (.request remote (fun _ => []) [] opened.val)).bind some := by
      rw [crowd, List.replicate_succ', exec_append]
      show Option.bind (exec _ _ (crowd remote opened.val size)) _ = _
      rw [ran]
      rfl
    rw [arrived] at longer
    refine ⟨_, longer, rfl, crowded.limiter, ?_, ?_, crowded.rejected⟩
    · simp only [crowded.requests, ← List.replicate_succ']
    · simp only [crowded.remotes, ← List.replicate_succ']

/-- All of a crowd get their answer, although the limit has been reached meanwhile. -/
theorem answers_run {exposure : Exposure} {door : Door} {host : GoString} {now : Time} {size served : Nat}
    (clock : door.ws.clock = now) (remotes : door.remotes = List.replicate size host)
    (pending : ∀ number, size - served ≤ number → number < size →
      door.ws.requests[number]? = some ⟨host, [], .counting (lit "ticket required")⟩) (most : served ≤ size) :
    ∃ events after, exec (doorNext exposure) door events = some after ∧
      after.rejected = door.rejected ++ List.replicate served (host, now) := by
  induction served generalizing door with
  | zero => exact ⟨[], door, rfl, by simp⟩
  | succ served ih =>
    have named : door.remotes[size - (served + 1)]? = some host := by
      rw [remotes, List.getElem?_replicate, if_pos (by omega)]
    have counted := @doorNext_count exposure door (size - (served + 1)) host [] (lit "ticket required") host now
      (pending _ (Nat.le_refl _) (by omega)) named (Int.le_of_eq clock)
    obtain ⟨events, after, ran, answered⟩ := @ih
      { door with
        ws := { door.ws with
          clock := now
          limiter := door.ws.limiter.map (fun limiter => (limiter.recordFailure host now).1)
          requests := door.ws.requests.set (size - (served + 1)) ⟨host, [], .answered 401 (lit "ticket required")⟩ }
        rejected := door.rejected ++ [(host, now)] } rfl remotes (by
        intro number least below
        rw [List.getElem?_set_ne (by omega)]
        exact pending number (by omega) below) (by omega)
    refine ⟨.handle (.count (size - (served + 1)) now) :: events, after, ?_, ?_⟩
    · rw [exec, counted]
      exact ran
    · rw [answered, List.append_assoc]
      rfl

end Past

private theorem rejectedWithin_replicate {length : Duration} {host : GoString} {periodStart now : Time}
    (begun : periodStart ≤ now)
    (running : now < periodStart + length) (size : Nat) :
    rejectedWithin length host periodStart (List.replicate size (host, now)) = size := by
  simp [rejectedWithin, List.countP_replicate, begun, running]

/-- A host from which the server is reached. -/
def localRemote : Remote := ⟨lit "127.0.0.1", lit "50000", by decide, by decide⟩

section Exposed

variable {ttl : Duration} {limiter : RateLimiter} {exposure : Exposure}

/-- A host that chooses the header has any number of tickets rejected at one instant. -/
theorem exists_spoofed (fresh : limiter.failures = .empty) (chosen : exposure.forwarding = true) (size : Nat) :
    ∃ events door, exec (doorNext exposure) (.start ttl limiter ⟨0, by decide⟩) events = some door ∧
      door.rejected = List.replicate size (localRemote.host, 0) := by
  obtain ⟨events, door, run, all⟩ := knocks_run (idle_start ttl limiter ⟨0, by decide⟩)
    (ordered_spoofs localRemote 0 size) (.inl chosen)
  refine ⟨events, door, run, all.trans (knocked_spoofs (fun _ _ => ?_))⟩
  rw [fresh]
  rfl

/-- So has a host that sends its requests at once. -/
theorem exists_crowded (fresh : limiter.failures = .empty) (together : exposure.overlapping = true) (size : Nat) :
    ∃ events door, exec (doorNext exposure) (.start ttl limiter ⟨0, by decide⟩) events = some door ∧
      door.rejected = List.replicate size (localRemote.host, 0) := by
  obtain ⟨forwarding, overlapping⟩ := exposure
  obtain rfl : overlapping = true := together
  have free : limiter.blocked localRemote.host 0 = false := by
    unfold RateLimiter.blocked
    rw [fresh]
    rfl
  obtain ⟨middle, arrived, crowded⟩ := @crowd_run limiter localRemote forwarding ttl ⟨0, by decide⟩ free size
  have pending : ∀ number, size - size ≤ number → number < size →
      middle.ws.requests[number]? = some ⟨localRemote.host, [], .counting (lit "ticket required")⟩ := by
    intro number _ below
    rw [crowded.requests, List.getElem?_replicate, if_pos below]
  obtain ⟨events, door, answered, all⟩ := @answers_run ⟨forwarding, true⟩ middle localRemote.host 0 size size
    crowded.clock crowded.remotes pending (Nat.le_refl _)
  refine ⟨crowd localRemote 0 size ++ events, door, ?_, ?_⟩
  · rw [exec_append, arrived]
    exact answered
  · rw [all, crowded.rejected, List.nil_append]

/-- Failures of a host can be sent as they come, whatever the exposure. -/
theorem exists_directly {calls : List TimedCall} (ordered : Ordered calls)
    (failures : ∀ timed ∈ calls, timed.call = .recordFailure localRemote.host) (periodStart : Time) :
    ∃ opened events door, exec (doorNext exposure) (.start ttl limiter opened) events = some door ∧
      rejectedWithin limiter.window localRemote.host periodStart door.rejected =
        letThrough periodStart localRemote.host limiter calls := by
  have times : ((zeroTime + 1) :: (calls.map (directly localRemote)).map Knock.now).Pairwise (· ≤ ·) := by
    rw [List.map_map]
    refine List.pairwise_cons.mpr ⟨?_, List.pairwise_map.mpr ordered⟩
    intro now member
    obtain ⟨timed, _, rfl⟩ := List.mem_map.mp member
    exact timed.now.property
  have direct : exposure.forwarding = true ∨ ∀ knock ∈ calls.map (directly localRemote),
      knock.header.get (lit "X-Forwarded-For") = [] := by
    refine .inr (fun knock member => ?_)
    obtain ⟨timed, _, rfl⟩ := List.mem_map.mp member
    rfl
  obtain ⟨events, door, run, all⟩ := knocks_run
    (idle_start ttl limiter ⟨zeroTime + 1, Int.lt_succ zeroTime⟩) times direct
  refine ⟨_, events, door, run, ?_⟩
  rw [all]
  exact knocked_directly failures periodStart

end Exposed

/-- With a block no shorter than the window, the rejected tickets of a remote host in a period
as long as the window are bounded exactly when clients cannot choose the header and those of
one host come one at a time; the bound is then that of the limiter. -/
theorem remote_rejections_bounded_iff (ttl : Duration) (limit : Int) (window block : Duration) (exposure : Exposure)
    (bound : Int) (wide : 1 < (newRateLimiter limit window block).window)
    (long : (newRateLimiter limit window block).window ≤ (newRateLimiter limit window block).block) :
    (∀ opened events door host periodStart,
      exec (doorNext exposure) (.start ttl (newRateLimiter limit window block) opened) events = some door →
      rejectedWithin (newRateLimiter limit window block).window host periodStart door.rejected ≤ bound) ↔
      exposure.forwarding = false ∧ exposure.overlapping = false ∧
        mostFailures (newRateLimiter limit window block).limit ≤ bound := by
  have positive := newRateLimiter_limit_pos limit window block
  have running : (0 : Int) < 0 + (newRateLimiter limit window block).window := by lia
  constructor
  · intro bounds
    -- more rejections than the bound, all at one instant
    have burst : ∀ events door, exec (doorNext exposure) (.start ttl (newRateLimiter limit window block) ⟨0, by decide⟩)
        events = some door → door.rejected ≠ List.replicate (bound.toNat + 1) (localRemote.host, 0) := by
      intro events door run all
      have few := bounds ⟨0, by decide⟩ events door localRemote.host 0 run
      rw [all, rejectedWithin_replicate (Int.le_refl 0) running] at few
      lia
    refine ⟨?_, ?_, ?_⟩
    · by_contra chosen
      obtain ⟨events, door, run, all⟩ := @exists_spoofed ttl (newRateLimiter limit window block) exposure rfl
        (by simpa using chosen) (bound.toNat + 1)
      exact burst events door run all
    · by_contra together
      obtain ⟨events, door, run, all⟩ := @exists_crowded ttl (newRateLimiter limit window block) exposure rfl
        (by simpa using together) (bound.toNat + 1)
      exact burst events door run all
    · obtain ⟨calls, periodStart, ordered, failures, most⟩ :=
        exists_most_let_through rfl positive wide long localRemote.host
      obtain ⟨opened, events, door, run, same⟩ := exists_directly ordered failures periodStart
      have few := bounds opened events door localRemote.host periodStart run
      rw [same, most] at few
      exact few
  · rintro ⟨direct, single, enough⟩ opened events door host periodStart run
    obtain ⟨forwarding, overlapping⟩ := exposure
    obtain rfl : forwarding = false := direct
    obtain rfl : overlapping = false := single
    obtain ⟨calls, gauged⟩ := gauged_run run
    calc ((rejectedWithin (newRateLimiter limit window block).window host periodStart door.rejected : Nat) : Int)
        ≤ letThrough periodStart host (newRateLimiter limit window block) calls :=
          Int.ofNat_le.mpr (gauged.through host periodStart)
      _ ≤ mostFailures (newRateLimiter limit window block).limit :=
        failures_let_through_le rfl positive (by lia) long gauged.ordered
      _ ≤ bound := enough

/-- Ten failures a minute, as the controller is configured by default: a host whose requests come
one at a time gets eighteen tickets rejected in a minute at most, one whose requests overlap
more than a thousand. -/
theorem eighteen_rejections_a_minute :
    (∀ opened events door host periodStart,
      exec (doorNext ⟨false, false⟩) (.start 0 (newRateLimiter 10 defaultWindow defaultBlockDuration) opened) events =
        some door →
      rejectedWithin (newRateLimiter 10 defaultWindow defaultBlockDuration).window host periodStart door.rejected ≤
        (18 : Int)) ∧
    ¬ ∀ opened events door host periodStart,
      exec (doorNext ⟨false, true⟩) (.start 0 (newRateLimiter 10 defaultWindow defaultBlockDuration) opened) events =
        some door →
      rejectedWithin (newRateLimiter 10 defaultWindow defaultBlockDuration).window host periodStart door.rejected ≤
        (1000 : Int) :=
  ⟨(remote_rejections_bounded_iff 0 10 defaultWindow defaultBlockDuration ⟨false, false⟩ 18 (by decide)
      (by decide)).mpr ⟨rfl, rfl, by decide⟩,
    fun bounds => absurd ((remote_rejections_bounded_iff 0 10 defaultWindow defaultBlockDuration ⟨false, true⟩ 1000
      (by decide) (by decide)).mp bounds).2.1 (by decide)⟩

end NetLatencyMonitor.Controller
