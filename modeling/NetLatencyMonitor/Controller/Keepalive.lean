import NetLatencyMonitor.Clock
import NetLatencyMonitor.Machine.Execution

/-! The keepalive of both sockets, `serveWS` and `serveUIClient`: the write pump pings on a
ticker, and the read side gives up when no pong has moved its deadline in time. -/

namespace NetLatencyMonitor.Controller

open Clock Machine

def wsWriteWait : Duration := 10 * second

def wsPongWait : Duration := 60 * second

def wsPingPeriod : Duration := wsPongWait * 9 / 10

/-- Where the write pump stands. The ticker starts behind the greeting; a write has a
deadline, and a ping remembers the tick it is for. -/
inductive PumpStage where
  | greeting (since : Time)
  | selecting
  | writing (tick : Option Time) (deadline : Time)
  | returned
deriving DecidableEq, Repr

structure Socket where
  clock : Time
  readDeadline : Time
  reading : Bool
  pump : PumpStage
  /-- When the ticker fires next. -/
  tickAt : Time
  /-- A tick in the ticker's channel, which holds one. -/
  ticked : Option Time
  /-- When the last ping was written, if no pong has come since. -/
  unanswered : Option Time
  /-- The read deadline has passed. -/
  cut : Bool
deriving DecidableEq, Repr

/-- The upgrade is done: the read deadline is set, and `serveWS` writes its hello. -/
def Socket.opened (now : Time) : Socket where
  clock := now
  readDeadline := now + wsPongWait
  reading := true
  pump := .greeting now
  tickAt := now
  ticked := none
  unanswered := none
  cut := false

inductive SocketEvent where
  | greeted (ok : Bool)
  | tick
  | takeTick
  | takeFrame
  | written (ok : Bool)
  | pong
  | message
  | timeout
  | peerClosed
  | notice
deriving DecidableEq, Repr

/-- What happens at the clock's instant. -/
def Socket.step (socket : Socket) : SocketEvent → Option Socket
  | .greeted ok =>
    match socket.pump with
    | .greeting since =>
      if ok then
        if since + wsWriteWait < socket.clock then none
        else some { socket with pump := .selecting, tickAt := socket.clock + wsPingPeriod }
      else some { socket with pump := .returned }
    | _ => none
  | .tick =>
    match socket.pump with
    | .greeting _ => none
    | .returned => none
    | _ =>
      if socket.clock = socket.tickAt then
        some { socket with
          ticked := some (socket.ticked.getD socket.clock)
          tickAt := socket.tickAt + wsPingPeriod }
      else none
  | .takeTick =>
    match socket.pump, socket.ticked with
    | .selecting, some tick =>
      some { socket with pump := .writing (some tick) (socket.clock + wsWriteWait), ticked := none }
    | _, _ => none
  | .takeFrame =>
    match socket.pump with
    | .selecting => some { socket with pump := .writing none (socket.clock + wsWriteWait) }
    | _ => none
  | .written ok =>
    match socket.pump with
    | .writing tick deadline =>
      if ok then
        if deadline < socket.clock then none
        else some { socket with
          pump := .selecting
          unanswered := if tick.isSome then some socket.clock else socket.unanswered }
      else some { socket with pump := .returned }
    | _ => none
  | .pong =>
    if socket.reading && decide (socket.clock < socket.readDeadline) then
      some { socket with readDeadline := socket.clock + wsPongWait, unanswered := none }
    else none
  -- a message does not move the deadline
  | .message => if socket.reading && decide (socket.clock < socket.readDeadline) then some socket else none
  | .timeout =>
    if socket.reading && decide (socket.readDeadline ≤ socket.clock) && decide (socket.pump ≠ .returned) then
      some { socket with reading := false, cut := true }
    else none
  | .peerClosed => if socket.reading then some { socket with reading := false } else none
  | .notice =>
    match socket.pump with
    | .selecting => if socket.reading then none else some { socket with pump := .returned }
    | _ => none

/-- The ticker runs. -/
def Socket.ticking (socket : Socket) : Bool :=
  match socket.pump with
  | .greeting _ => false
  | .returned => false
  | _ => true

/-- Time passes up to an instant, not beyond a tick that is still to come, and then
something happens. -/
def socketNext (socket : Socket) (label : Time × SocketEvent) : Option Socket :=
  if label.1 < socket.clock ∨ (socket.ticking = true ∧ socket.tickAt < label.1) then none
  else { socket with clock := label.1 }.step label.2

/-- How long things take: from the upgrade to the ticker, from a tick until its ping is
written, and from there until its pong is read. -/
structure Delays where
  greeting : Duration
  pinging : Duration
  answering : Duration
  greeting_nonneg : 0 ≤ greeting
  pinging_nonneg : 0 ≤ pinging
  answering_nonneg : 0 ≤ answering

/-- Time does not pass a bound that is still to be met. -/
structure Prompt (delays : Delays) (socket : Socket) (label : Time × SocketEvent) : Prop where
  greeted : ∀ since, socket.pump = .greeting since → label.1 ≤ since + delays.greeting
  taken : ∀ tick, socket.ticked = some tick → label.1 ≤ tick + delays.pinging
  written : ∀ tick deadline, socket.pump = .writing (some tick) deadline → label.1 ≤ tick + delays.pinging
  answered : ∀ pinged, socket.unanswered = some pinged → label.1 ≤ pinged + delays.answering

/-- What is left of the read deadline when a tick is due, after a slow greeting. -/
def Delays.slack (delays : Delays) : Duration := wsPongWait - wsPingPeriod - delays.greeting

/-- The pump is not about a ping. -/
def PumpStage.free : PumpStage → Bool
  | .selecting => true
  | .writing none _ => true
  | _ => false

/-- The deadline leaves room for what is still to come: the greeting, the next tick, the
ping of the last tick, or the pong of the last ping. -/
inductive InTime (delays : Delays) (socket : Socket) : Prop
  | greeting (since : Time) (pump : socket.pump = .greeting since) (begun : since ≤ socket.clock)
      (unticked : socket.ticked = none) (answered : socket.unanswered = none)
      (room : since + wsPongWait ≤ socket.readDeadline) : InTime delays socket
  | idle (pump : socket.pump.free = true) (unticked : socket.ticked = none) (answered : socket.unanswered = none)
      (begun : socket.tickAt - wsPingPeriod ≤ socket.clock)
      (room : socket.tickAt + delays.slack ≤ socket.readDeadline) : InTime delays socket
  | queued (pump : socket.pump.free = true) (ticked : socket.ticked = some (socket.tickAt - wsPingPeriod))
      (answered : socket.unanswered = none) (begun : socket.tickAt - wsPingPeriod ≤ socket.clock)
      (room : socket.tickAt - wsPingPeriod + delays.slack ≤ socket.readDeadline) : InTime delays socket
  | pinging (deadline : Time) (pump : socket.pump = .writing (some (socket.tickAt - wsPingPeriod)) deadline)
      (unticked : socket.ticked = none) (answered : socket.unanswered = none)
      (begun : socket.tickAt - wsPingPeriod ≤ socket.clock)
      (room : socket.tickAt - wsPingPeriod + delays.slack ≤ socket.readDeadline) : InTime delays socket
  | sent (pinged : Time) (pump : socket.pump.free = true) (unticked : socket.ticked = none)
      (unanswered : socket.unanswered = some pinged) (begun : socket.tickAt - wsPingPeriod ≤ pinged)
      (soon : pinged ≤ socket.tickAt - wsPingPeriod + delays.pinging) (since : pinged ≤ socket.clock)
      (room : socket.tickAt - wsPingPeriod + delays.slack ≤ socket.readDeadline) : InTime delays socket

/-- The clock has not passed what is still to be met. -/
structure OnTime (delays : Delays) (socket : Socket) : Prop where
  greeted : ∀ since, socket.pump = .greeting since → socket.clock ≤ since + delays.greeting
  taken : ∀ tick, socket.ticked = some tick → socket.clock ≤ tick + delays.pinging
  written : ∀ tick deadline, socket.pump = .writing (some tick) deadline → socket.clock ≤ tick + delays.pinging
  answered : ∀ pinged, socket.unanswered = some pinged → socket.clock ≤ pinged + delays.answering
  ticked : socket.ticking = true → socket.clock ≤ socket.tickAt

section Step

variable {delays : Delays} {socket after : Socket}

theorem InTime.wait (time : InTime delays socket) {now : Time} (later : socket.clock ≤ now) :
    InTime delays { socket with clock := now } := by
  cases time with
  | greeting since pump begun unticked answered room =>
    exact .greeting since pump (Int.le_trans begun later) unticked answered room
  | idle pump unticked answered begun room => exact .idle pump unticked answered (Int.le_trans begun later) room
  | queued pump ticked answered begun room => exact .queued pump ticked answered (Int.le_trans begun later) room
  | pinging deadline pump unticked answered begun room =>
    exact .pinging deadline pump unticked answered (Int.le_trans begun later) room
  | sent pinged pump unticked unanswered begun soon since room =>
    exact .sent pinged pump unticked unanswered begun soon (Int.le_trans since later) room

private theorem PumpStage.free_ticking (free : socket.pump.free = true) : socket.ticking = true := by
  unfold Socket.ticking
  unfold PumpStage.free at free
  split at free
  · rename_i pump
    rw [pump]
  · rename_i deadline pump
    rw [pump]
  · cases free

/-- Under short delays the deadline is not reached. -/
theorem InTime.before_deadline (short : delays.greeting + delays.pinging + delays.answering < wsPongWait - wsPingPeriod)
    (time : InTime delays socket) (onTime : OnTime delays socket) : socket.clock < socket.readDeadline := by
  have := delays.greeting_nonneg
  have := delays.pinging_nonneg
  have := delays.answering_nonneg
  cases time with
  | greeting since pump begun unticked answered room =>
    have := onTime.greeted since pump
    simp only [wsPongWait, wsPingPeriod, second] at *
    lia
  | idle pump unticked answered begun room =>
    have := onTime.ticked (PumpStage.free_ticking pump)
    simp only [Delays.slack, wsPongWait, wsPingPeriod, second] at *
    lia
  | queued pump ticked answered begun room =>
    have := onTime.taken _ ticked
    simp only [Delays.slack, wsPongWait, wsPingPeriod, second] at *
    lia
  | pinging deadline pump unticked answered begun room =>
    have := onTime.written _ deadline pump
    simp only [Delays.slack, wsPongWait, wsPingPeriod, second] at *
    lia
  | sent pinged pump unticked unanswered begun soon since room =>
    have := onTime.answered pinged unanswered
    simp only [Delays.slack, wsPongWait, wsPingPeriod, second] at *
    lia

/-- A tick comes when nothing of the last one is left to do. -/
theorem InTime.tick (short : delays.greeting + delays.pinging + delays.answering < wsPongWait - wsPingPeriod)
    (time : InTime delays socket) (onTime : OnTime delays socket) (step : socket.step .tick = some after) :
    InTime delays after := by
  have := delays.greeting_nonneg
  have := delays.pinging_nonneg
  have := delays.answering_nonneg
  have fired : socket.clock = socket.tickAt ∧ after = { socket with
      ticked := some (socket.ticked.getD socket.clock)
      tickAt := socket.tickAt + wsPingPeriod } := by
    simp only [Socket.step] at step
    split at step
    · cases step
    · cases step
    · split at step
      · rename_i now
        cases step
        exact ⟨now, rfl⟩
      · cases step
  obtain ⟨now, rfl⟩ := fired
  cases time with
  | greeting since pump begun unticked answered room =>
    simp only [Socket.step, pump] at step
    cases step
  | idle pump unticked answered begun room =>
    have same : socket.tickAt + wsPingPeriod - wsPingPeriod = socket.clock := by
      rw [now]
      exact Int.add_sub_cancel _ _
    refine .queued pump ?_ answered ?_ ?_
    · rw [unticked]
      exact congrArg some same.symm
    · exact Int.le_of_eq same
    · rw [show socket.tickAt + wsPingPeriod - wsPingPeriod = socket.tickAt from Int.add_sub_cancel _ _]
      exact room
  | queued pump ticked answered begun room =>
    have late := onTime.taken _ ticked
    simp only [wsPongWait, wsPingPeriod, second] at *
    lia
  | pinging deadline pump unticked answered begun room =>
    have late := onTime.written _ deadline pump
    simp only [wsPongWait, wsPingPeriod, second] at *
    lia
  | sent pinged pump unticked unanswered begun soon since room =>
    have late := onTime.answered pinged unanswered
    simp only [wsPongWait, wsPingPeriod, second] at *
    lia

/-- A pong moves the deadline far enough for the next tick. -/
theorem InTime.pong (time : InTime delays socket) :
    InTime delays { socket with readDeadline := socket.clock + wsPongWait, unanswered := none } := by
  have := delays.greeting_nonneg
  cases time with
  | greeting since pump begun unticked answered room =>
    exact .greeting since pump begun unticked rfl (Int.add_le_add_right begun wsPongWait)
  | idle pump unticked answered begun room =>
    refine .idle pump unticked rfl begun ?_
    simp only [Delays.slack, wsPongWait, wsPingPeriod, second] at *
    lia
  | queued pump ticked answered begun room =>
    refine .queued pump ticked rfl begun ?_
    simp only [Delays.slack, wsPongWait, wsPingPeriod, second] at *
    lia
  | pinging deadline pump unticked answered begun room =>
    refine .pinging deadline pump unticked rfl begun ?_
    simp only [Delays.slack, wsPongWait, wsPingPeriod, second] at *
    lia
  | sent pinged pump unticked unanswered begun soon since room =>
    have begun := Int.le_trans begun since
    refine .idle pump unticked rfl begun ?_
    simp only [Delays.slack, wsPongWait, wsPingPeriod, second] at *
    lia

/-- The pump goes on with something that is not about a ping. -/
theorem InTime.move {pump : PumpStage} (time : InTime delays socket) (was : socket.pump.free = true)
    (free : pump.free = true) : InTime delays { socket with pump } := by
  cases time with
  | greeting since greets begun unticked answered room =>
    rw [greets] at was
    cases was
  | idle _ unticked answered begun room => exact .idle free unticked answered begun room
  | queued _ ticked answered begun room => exact .queued free ticked answered begun room
  | pinging deadline pings unticked answered begun room =>
    rw [pings] at was
    cases was
  | sent pinged _ unticked unanswered begun soon since room =>
    exact .sent pinged free unticked unanswered begun soon since room

private theorem InTime.greeted (time : InTime delays socket) (onTime : OnTime delays socket) {since : Time}
    (pump : socket.pump = .greeting since) :
    InTime delays { socket with pump := .selecting, tickAt := socket.clock + wsPingPeriod } := by
  cases time with
  | greeting started greets begun unticked answered room =>
    have soon := onTime.greeted since pump
    have same : started = since := PumpStage.greeting.inj (greets.symm.trans pump)
    refine .idle rfl unticked answered (Int.le_of_eq (Int.add_sub_cancel _ _)) ?_
    simp only [Delays.slack, wsPongWait, wsPingPeriod, second] at *
    lia
  | idle free | queued free | sent _ free =>
    rw [pump] at free
    cases free
  | pinging deadline pings =>
    rw [pump] at pings
    cases pings

theorem InTime.takeTick (time : InTime delays socket) {tick : Time}
    (ticked : socket.ticked = some tick) :
    InTime delays { socket with pump := .writing (some tick) (socket.clock + wsWriteWait), ticked := none } := by
  cases time with
  | queued free queued answered begun room =>
    have same : tick = socket.tickAt - wsPingPeriod := Option.some.inj (ticked.symm.trans queued)
    exact .pinging _ (by rw [same]) rfl answered begun room
  | greeting _ _ _ unticked | idle _ unticked | pinging _ _ unticked | sent _ _ unticked =>
    rw [ticked] at unticked
    cases unticked

/-- The ping is out. -/
theorem InTime.pinged (time : InTime delays socket) (onTime : OnTime delays socket) {tick deadline : Time}
    (pump : socket.pump = .writing (some tick) deadline) :
    InTime delays { socket with pump := .selecting, unanswered := some socket.clock } := by
  cases time with
  | pinging _ pings unticked answered begun room =>
    have soon := onTime.written _ _ pings
    exact .sent socket.clock rfl unticked rfl begun soon (Int.le_refl _) room
  | greeting _ other =>
    rw [pump] at other
    cases other
  | idle free | queued free | sent _ free =>
    rw [pump] at free
    cases free

/-- Not cut, and in time as long as it is served. -/
structure Alive (delays : Delays) (socket : Socket) : Prop where
  uncut : socket.cut = false
  time : socket.reading = true → socket.pump ≠ .returned → InTime delays socket

theorem Alive.step (short : delays.greeting + delays.pinging + delays.answering < wsPongWait - wsPingPeriod)
    {event : SocketEvent} (alive : Alive delays socket) (onTime : OnTime delays socket)
    (step : socket.step event = some after) : Alive delays after := by
  obtain ⟨uncut, time⟩ := alive
  cases event with
  | greeted ok =>
    simp only [Socket.step] at step
    split at step
    · rename_i since pump
      split at step
      · split at step
        · cases step
        · cases step
          exact ⟨uncut, fun reading _ => (time reading (by simp [pump])).greeted onTime pump⟩
      · cases step
        exact ⟨uncut, fun _ unclosed => absurd rfl unclosed⟩
    · cases step
  | tick =>
    have frame : after.cut = socket.cut ∧ after.reading = socket.reading ∧ after.pump = socket.pump := by
      simp only [Socket.step] at step
      split at step
      · cases step
      · cases step
      · split at step
        · cases step
          exact ⟨rfl, rfl, rfl⟩
        · cases step
    obtain ⟨cut, reads, pump⟩ := frame
    refine ⟨cut.trans uncut, fun reading unclosed => ?_⟩
    exact (time (reads ▸ reading) (pump ▸ unclosed)).tick short onTime step
  | takeTick =>
    simp only [Socket.step] at step
    split at step
    · rename_i tick pump ticked
      cases step
      exact ⟨uncut, fun reading _ => (time reading (by simp [pump])).takeTick ticked⟩
    · cases step
  | takeFrame =>
    simp only [Socket.step] at step
    split at step
    · rename_i pump
      cases step
      exact ⟨uncut, fun reading _ => (time reading (by simp [pump])).move (by rw [pump]; rfl) rfl⟩
    · cases step
  | written ok =>
    simp only [Socket.step] at step
    split at step
    · rename_i tick deadline pump
      split at step
      · split at step
        · cases step
        · cases step
          refine ⟨uncut, fun reading _ => ?_⟩
          have before := time reading (by simp [pump])
          cases tick with
          | none => exact before.move (by rw [pump]; rfl) rfl
          | some tick => exact before.pinged onTime pump
      · cases step
        exact ⟨uncut, fun _ unclosed => absurd rfl unclosed⟩
    · cases step
  | pong =>
    simp only [Socket.step] at step
    split at step
    · cases step
      exact ⟨uncut, fun reading unclosed => (time reading unclosed).pong⟩
    · cases step
  | message =>
    simp only [Socket.step] at step
    split at step
    · cases step
      exact ⟨uncut, time⟩
    · cases step
  | timeout =>
    simp only [Socket.step] at step
    split at step
    · rename_i passed
      simp only [Bool.and_eq_true, decide_eq_true_eq] at passed
      obtain ⟨⟨reading, late⟩, unclosed⟩ := passed
      have early := (time reading unclosed).before_deadline short onTime
      exact absurd late (Int.not_le.mpr early)
    · cases step
  | peerClosed =>
    simp only [Socket.step] at step
    split at step
    · cases step
      exact ⟨uncut, by simp⟩
    · cases step
  | notice =>
    simp only [Socket.step] at step
    split at step
    · split at step
      · cases step
      · cases step
        exact ⟨uncut, fun _ unclosed => absurd rfl unclosed⟩
    · cases step

private theorem alive_next (short : delays.greeting + delays.pinging + delays.answering < wsPongWait - wsPingPeriod)
    {label : Time × SocketEvent} (alive : Alive delays socket) (prompt : Prompt delays socket label)
    (step : socketNext socket label = some after) : Alive delays after := by
  unfold socketNext at step
  split at step
  · cases step
  · rename_i passes
    obtain ⟨forward, due⟩ := not_or.mp passes
    have later : socket.clock ≤ label.1 := Int.not_lt.mp forward
    refine @Alive.step delays { socket with clock := label.1 } after short label.2
      ⟨alive.uncut, fun reading unclosed => (alive.time reading unclosed).wait later⟩ ?_ step
    exact ⟨prompt.greeted, prompt.taken, prompt.written, prompt.answered,
      fun ticking => Int.not_lt.mp (fun late => due ⟨ticking, late⟩)⟩

private theorem alive_opened (now : Time) : Alive delays (.opened now) :=
  ⟨rfl, fun _ _ => .greeting now rfl (Int.le_refl _) rfl rfl (Int.le_refl _)⟩

end Step

/-! The slowest that is allowed. -/

/-- Some run within the delays leads here. -/
abbrev Reached (delays : Delays) : Socket → Prop := Leads socketNext (Prompt delays) (.opened 0)

section Slowest

variable {delays : Delays} {socket after : Socket}

private theorem socketNext_of_step {now : Time} {event : SocketEvent} (forward : socket.clock ≤ now)
    (due : socket.ticking = true → now ≤ socket.tickAt) (step : { socket with clock := now }.step event = some after) :
    socketNext socket (now, event) = some after := by
  unfold socketNext
  rw [if_neg]
  · exact step
  · rintro (back | ⟨ticking, late⟩)
    · exact absurd back (Int.not_lt.mpr forward)
    · exact absurd late (Int.not_lt.mpr (due ticking))

/-- A socket of instant 0 that no pong has reached. -/
def unponged (clock tickAt : Time) (pump : PumpStage) (ticked unanswered : Option Time) : Socket :=
  ⟨clock, 0 + wsPongWait, true, pump, tickAt, ticked, unanswered, false⟩

variable {greeting pinging answering : Duration}

private theorem reached_greeted (greets : 0 ≤ greeting ∧ greeting ≤ delays.greeting) (soon : greeting ≤ wsWriteWait) :
    Reached delays (unponged greeting (greeting + wsPingPeriod) .selecting none none) := by
  refine @Leads.step _ _ _ _ _ _ _ (greeting, .greeted true) (.refl _) ⟨?_, by simp [Socket.opened],
    by simp [Socket.opened], by simp [Socket.opened]⟩
    (socketNext_of_step greets.1 (by simp [Socket.ticking, Socket.opened]) ?_)
  · rintro since same
    cases same
    lia
  · simp [Socket.step, Socket.opened, unponged, soon]

private theorem reached_taken
    (reached : Reached delays (unponged greeting (greeting + wsPingPeriod) .selecting none none)) :
    Reached delays (unponged (greeting + wsPingPeriod) (greeting + wsPingPeriod + wsPingPeriod)
      (.writing (some (greeting + wsPingPeriod)) (greeting + wsPingPeriod + wsWriteWait)) none none) := by
  have positive : 0 ≤ wsPingPeriod := by decide
  have nonneg := delays.pinging_nonneg
  have ticked : Reached delays (unponged (greeting + wsPingPeriod) (greeting + wsPingPeriod + wsPingPeriod)
      .selecting (some (greeting + wsPingPeriod)) none) := by
    refine @Leads.step _ _ _ _ _ _ _ (greeting + wsPingPeriod, .tick) reached ⟨by simp [unponged],
      by simp [unponged], by simp [unponged], by simp [unponged]⟩
      (socketNext_of_step (Int.le_add_of_nonneg_right positive) (fun _ => Int.le_refl _) ?_)
    simp [Socket.step, unponged]
  refine @Leads.step _ _ _ _ _ _ _ (greeting + wsPingPeriod, .takeTick) ticked ⟨by simp [unponged], ?_,
    by simp [unponged], by simp [unponged]⟩
    (socketNext_of_step (Int.le_refl _) (fun _ => Int.le_add_of_nonneg_right positive) ?_)
  · rintro tick same
    cases same
    exact Int.le_add_of_nonneg_right nonneg
  · simp [Socket.step, unponged]

private theorem reached_pinged (pings : 0 ≤ pinging ∧ pinging ≤ delays.pinging) (soon : pinging ≤ wsWriteWait)
    (reached : Reached delays (unponged (greeting + wsPingPeriod) (greeting + wsPingPeriod + wsPingPeriod)
      (.writing (some (greeting + wsPingPeriod)) (greeting + wsPingPeriod + wsWriteWait)) none none)) :
    Reached delays (unponged (greeting + wsPingPeriod + pinging) (greeting + wsPingPeriod + wsPingPeriod) .selecting
      none (some (greeting + wsPingPeriod + pinging))) := by
  have short : wsWriteWait ≤ wsPingPeriod := by decide
  refine @Leads.step _ _ _ _ _ _ _ (greeting + wsPingPeriod + pinging, .written true) reached ⟨by simp [unponged],
    by simp [unponged], ?_, by simp [unponged]⟩ (socketNext_of_step (Int.le_add_of_nonneg_right pings.1) ?_ ?_)
  · rintro tick deadline same
    cases same
    exact Int.add_le_add_left pings.2 _
  · intro _
    exact Int.add_le_add_left (Int.le_trans soon short) _
  · simp [Socket.step, unponged, soon]

/-- The greeting, one tick, its ping and no answer: the deadline of the start passes. -/
theorem reached_cut (greets : 0 ≤ greeting ∧ greeting ≤ delays.greeting)
    (pings : 0 ≤ pinging ∧ pinging ≤ delays.pinging) (answers : 0 ≤ answering ∧ answering ≤ delays.answering)
    (soon : greeting ≤ wsWriteWait ∧ pinging ≤ wsWriteWait ∧ answering ≤ wsWriteWait)
    (long : wsPongWait - wsPingPeriod ≤ greeting + pinging + answering) :
    ∃ socket, Reached delays socket ∧ socket.cut = true := by
  have pinged := reached_pinged pings soon.2.1 (reached_taken (reached_greeted greets soon.1))
  have passed : 0 + wsPongWait ≤ greeting + wsPingPeriod + pinging + answering := by lia
  have before : pinging + answering ≤ wsPingPeriod := by
    have short : wsWriteWait + wsWriteWait ≤ wsPingPeriod := by decide
    lia
  refine ⟨⟨greeting + wsPingPeriod + pinging + answering, 0 + wsPongWait, false, .selecting,
    greeting + wsPingPeriod + wsPingPeriod, none, some (greeting + wsPingPeriod + pinging), true⟩, ?_, rfl⟩
  refine @Leads.step _ _ _ _ _ _ _ (greeting + wsPingPeriod + pinging + answering, .timeout) pinged
    ⟨by simp [unponged], by simp [unponged], by simp [unponged], ?_⟩
    (socketNext_of_step (Int.le_add_of_nonneg_right answers.1) ?_ ?_)
  · rintro ping same
    cases same
    exact Int.add_le_add_left answers.2 _
  · intro _
    show greeting + wsPingPeriod + pinging + answering ≤ greeting + wsPingPeriod + wsPingPeriod
    lia
  · have late : wsPongWait ≤ greeting + wsPingPeriod + pinging + answering := by lia
    simp [Socket.step, unponged, late]

end Slowest

/-- A peer that answers is never cut off exactly when the bounds on the greeting, the ping and
the pong together stay below the difference of the two periods, six seconds; the ten that a
single write may take are longer than that. -/
theorem keepalive_safe_iff (delays : Delays) :
    ((∀ opened events final, exec socketNext (.opened opened) events = some final →
      Along socketNext (Prompt delays) (.opened opened) events → final.cut = false) ↔
      delays.greeting + delays.pinging + delays.answering < wsPongWait - wsPingPeriod) ∧
    wsPongWait - wsPingPeriod < wsWriteWait := by
  refine ⟨?_, by decide⟩
  constructor
  · intro safe
    by_contra long
    -- no delay has to be longer than the difference itself to exhaust it
    have capped : ∀ delay : Duration, 0 ≤ delay → ∃ part : Duration, (0 ≤ part ∧ part ≤ delay) ∧
        part ≤ wsPongWait - wsPingPeriod ∧ (part = delay ∨ part = wsPongWait - wsPingPeriod) := by
      intro delay nonneg
      have positive : (0 : Int) ≤ wsPongWait - wsPingPeriod := by decide
      by_cases below : delay ≤ wsPongWait - wsPingPeriod
      · exact ⟨delay, ⟨nonneg, Int.le_refl _⟩, below, Or.inl rfl⟩
      · exact ⟨_, ⟨positive, Int.le_of_lt (Int.not_le.mp below)⟩, Int.le_refl _, Or.inr rfl⟩
    have within : wsPongWait - wsPingPeriod ≤ wsWriteWait := by decide
    obtain ⟨greeting, greets, greetsSoon, greetsOr⟩ := capped delays.greeting delays.greeting_nonneg
    obtain ⟨pinging, pings, pingsSoon, pingsOr⟩ := capped delays.pinging delays.pinging_nonneg
    obtain ⟨answering, answers, answersSoon, answersOr⟩ := capped delays.answering delays.answering_nonneg
    have exhausted : wsPongWait - wsPingPeriod ≤ greeting + pinging + answering := by lia
    obtain ⟨socket, ⟨events, run, along⟩, cut⟩ := reached_cut greets pings answers
      ⟨Int.le_trans greetsSoon within, Int.le_trans pingsSoon within, Int.le_trans answersSoon within⟩ exhausted
    rw [safe 0 events socket run along] at cut
    cases cut
  · intro short opened events final run along
    have alive : Alive delays final :=
      exec_invariant_along (Alive delays) (alive_opened opened)
        (fun _ _ _ alive prompt step => alive_next short alive prompt step) along run
    exact alive.uncut

end NetLatencyMonitor.Controller
