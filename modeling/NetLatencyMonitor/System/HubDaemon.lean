import NetLatencyMonitor.Machine.Ticker
import NetLatencyMonitor.System.CatchUp

/-! The hub mode of the agent, `Hub.Run`: a startup jitter, a first cycle, and then a cycle
for each tick of a ticker, until the context is cancelled. -/

namespace NetLatencyMonitor.System

open Agent Clock Keyed Machine Spool Text

/-- A hub runner; `NewHub` replaces an interval that is not positive. -/
structure Hub where
  probeInterval : Duration
  startupJitter : Duration
  positive : 0 < probeInterval

def newHub (probeInterval startupJitter : Duration) : Hub :=
  if positive : 0 < probeInterval then ⟨probeInterval, startupJitter, positive⟩
  else ⟨60 * second, startupJitter, by decide⟩

/-- Where `Run` stands. It returns the context's error when it is cancelled in the jitter,
and nil later. -/
inductive HubPhase where
  | jittering (wake : Time)
  | cycling (since : Time)
  | selecting
  | returned (error : Bool)
deriving DecidableEq, Repr

structure Daemon where
  clock : Time
  phase : HubPhase
  db : SpoolDB
  /-- Made after the first cycle. -/
  ticker : Option Ticker
  cancelled : Bool

/-- `Run` begins; `draw` is the random number behind `Int63n`. -/
def Hub.start (hub : Hub) (now : Time) (draw : Int) (db : SpoolDB) : Daemon where
  clock := now
  phase := if 0 < hub.startupJitter then .jittering (now + draw % hub.startupJitter) else .cycling now
  db := db
  ticker := none
  cancelled := false

inductive HubEvent where
  | jittered
  | tick
  | takeTick
  /-- `runCycle` returns, with an error or without. -/
  | cycled (pass : Pass)
  | cancel
  | notice

/-- The spool after a cycle, however it ends. -/
def cycleAfter (codec : JsonCodec) (agent : AgentConfig) (cfg : Config) (db : SpoolDB) (pass : Pass) :
    Option SpoolDB :=
  match exec (cycleNext cfg) (db, cycleStart codec agent pass.cycle db) pass.inputs with
  | some (after, .returned _) => some after
  | _ => none

/-- What happens at the clock's instant. An error of a cycle is only logged. A `select` with
a tick and a cancelled context takes either. -/
def Daemon.step (codec : JsonCodec) (agent : AgentConfig) (cfg : Config) (hub : Hub) (daemon : Daemon) :
    HubEvent → Option Daemon
  | .jittered =>
    match daemon.phase with
    | .jittering wake => if wake ≤ daemon.clock then some { daemon with phase := .cycling daemon.clock } else none
    | _ => none
  | .tick =>
    match daemon.phase, daemon.ticker with
    | .returned _, _ => none
    | _, none => none
    | _, some ticker =>
      if daemon.clock = ticker.due then some { daemon with ticker := some (ticker.fire hub.probeInterval) } else none
  | .takeTick =>
    match daemon.phase, daemon.ticker with
    | .selecting, some ticker =>
      if ticker.ticked then some { daemon with phase := .cycling daemon.clock, ticker := some ticker.take } else none
    | _, _ => none
  | .cycled pass =>
    match daemon.phase with
    | .cycling since =>
      if (since :: pass.instants ++ [daemon.clock]).Pairwise (· ≤ ·) then
        (cycleAfter codec agent cfg daemon.db pass).map (fun db =>
          { daemon with
            phase := .selecting
            db := db
            ticker := some (daemon.ticker.getD (.start hub.probeInterval daemon.clock)) })
      else none
    | _ => none
  | .cancel => some { daemon with cancelled := true }
  | .notice =>
    match daemon.phase with
    | .jittering _ => if daemon.cancelled then some { daemon with phase := .returned true } else none
    | .selecting => if daemon.cancelled then some { daemon with phase := .returned false } else none
    | _ => none

/-- The ticker would have fired before. -/
def Daemon.overdue (daemon : Daemon) (now : Time) : Bool :=
  match daemon.phase, daemon.ticker with
  | .returned _, _ => false
  | _, none => false
  | _, some ticker => decide (ticker.due < now)

/-- Time passes up to an instant, not beyond a tick that is still to come, and then
something happens. -/
def hubNext (codec : JsonCodec) (agent : AgentConfig) (cfg : Config) (hub : Hub) (daemon : Daemon)
    (label : Time × HubEvent) : Option Daemon :=
  if label.1 < daemon.clock ∨ daemon.overdue label.1 = true then none
  else { daemon with clock := label.1 }.step codec agent cfg hub label.2

/-- A tick waits in the channel. -/
def Daemon.ticked (daemon : Daemon) : Bool := daemon.ticker.any Ticker.ticked

/-- A cycle takes no longer than the limit, and a `select` does not wait for what is there. -/
def prompt (limit : Duration) (daemon : Daemon) (label : Time × HubEvent) : Bool :=
  match daemon.phase with
  | .cycling since => decide (label.1 ≤ since + limit)
  | .selecting => !daemon.ticked || decide (label.1 ≤ daemon.clock)
  | _ => true

/-- The cycles of a run, in order. -/
def cyclesOf (events : List (Time × HubEvent)) : List Pass :=
  events.filterMap (fun event => match event.2 with
    | .cycled pass => some pass
    | _ => none)

section Step

variable (codec : JsonCodec) (agent : AgentConfig) (cfg : Config) (hub : Hub)

/-- What a step can do. -/
inductive HubMove (daemon : Daemon) : HubEvent → Daemon → Prop
  | jittered (wake : Time) (phase : daemon.phase = .jittering wake) :
      HubMove daemon .jittered { daemon with phase := .cycling daemon.clock }
  | tick (ticker : Ticker) (running : ∀ error, daemon.phase ≠ .returned error) (made : daemon.ticker = some ticker)
      (due : daemon.clock = ticker.due) :
      HubMove daemon .tick { daemon with ticker := some (ticker.fire hub.probeInterval) }
  | takeTick (ticker : Ticker) (phase : daemon.phase = .selecting) (made : daemon.ticker = some ticker)
      (full : ticker.ticked = true) :
      HubMove daemon .takeTick { daemon with phase := .cycling daemon.clock, ticker := some ticker.take }
  | cycled (pass : Pass) (since : Time) (db : SpoolDB) (phase : daemon.phase = .cycling since)
      (ordered : (since :: pass.instants ++ [daemon.clock]).Pairwise (· ≤ ·))
      (ends : cycleAfter codec agent cfg daemon.db pass = some db) :
      HubMove daemon (.cycled pass) { daemon with
        phase := .selecting
        db := db
        ticker := some (daemon.ticker.getD (.start hub.probeInterval daemon.clock)) }
  | cancel : HubMove daemon .cancel { daemon with cancelled := true }
  | notice (error : Bool) (cancelled : daemon.cancelled = true) :
      HubMove daemon .notice { daemon with phase := .returned error }

variable {codec agent cfg hub} {daemon after : Daemon} {event : HubEvent}

private theorem step_move (step : daemon.step codec agent cfg hub event = some after) :
    HubMove codec agent cfg hub daemon event after := by
  cases event with
  | jittered =>
    simp only [Daemon.step] at step
    split at step
    · rename_i wake phase
      split at step
      · cases step
        exact .jittered wake phase
      · cases step
    · cases step
  | tick =>
    simp only [Daemon.step] at step
    split at step
    · cases step
    · cases step
    · rename_i ticker made running
      split at step
      · rename_i due
        cases step
        exact .tick ticker running made due
      · cases step
  | takeTick =>
    simp only [Daemon.step] at step
    split at step
    · rename_i ticker phase made
      split at step
      · rename_i full
        cases step
        exact .takeTick ticker phase made full
      · cases step
    · cases step
  | cycled pass =>
    simp only [Daemon.step] at step
    split at step
    · rename_i since phase
      split at step
      · rename_i ordered
        obtain ⟨db, ends, rfl⟩ := Option.map_eq_some_iff.mp step
        exact .cycled pass since db phase ordered ends
      · cases step
    · cases step
  | cancel =>
    cases step
    exact .cancel
  | notice =>
    simp only [Daemon.step] at step
    split at step
    · split at step
      · rename_i cancelled
        cases step
        exact .notice true cancelled
      · cases step
    · split at step
      · rename_i cancelled
        cases step
        exact .notice false cancelled
      · cases step
    · cases step

/-- A step: first time passes, then something happens. -/
theorem hubNext_move {label : Time × HubEvent} (step : hubNext codec agent cfg hub daemon label = some after) :
    daemon.clock ≤ label.1 ∧ daemon.overdue label.1 = false ∧
      HubMove codec agent cfg hub { daemon with clock := label.1 } label.2 after := by
  unfold hubNext at step
  split at step
  · cases step
  · rename_i passes
    obtain ⟨forward, due⟩ := not_or.mp passes
    exact ⟨Int.not_lt.mp forward, Bool.eq_false_iff.mpr due, step_move step⟩

end Step

/-! The schedule. -/

/-- Where the loop is: in its `select`, or in a cycle since an instant. -/
def loopPhase : Option Time → HubPhase := workerPhase .selecting .cycling

private theorem loopPhase_inj {first second : Option Time} (same : loopPhase first = loopPhase second) :
    first = second :=
  workerPhase_inj (by simp) (fun _ _ => HubPhase.cycling.inj) same

/-- Where a hub stands after a number of cycles that were short enough. -/
inductive OnSchedule (hub : Hub) (count : Nat) (daemon : Daemon) : Prop
  | starting (unmade : daemon.ticker = none) (first : count = 0)
      (running : ∀ error, daemon.phase ≠ .returned error) : OnSchedule hub count daemon
  | ticking (ticker : Ticker) (served : Nat) (worker : Option Time) (made : daemon.ticker = some ticker)
      (counted : count = served + 1) (phase : daemon.phase = loopPhase worker)
      (punctual : Punctual hub.probeInterval ticker daemon.clock served worker) : OnSchedule hub count daemon
  | stopped (error : Bool) (phase : daemon.phase = .returned error) (cancelled : daemon.cancelled = true)
      (kept : ∀ ticker, daemon.ticker = some ticker → ticker.lost = 0) : OnSchedule hub count daemon

section Schedule

variable {codec : JsonCodec} {agent : AgentConfig} {cfg : Config} {hub : Hub} {daemon after : Daemon} {count : Nat}
  {limit : Duration}

theorem OnSchedule.lost_eq_zero (schedule : OnSchedule hub count daemon) {ticker : Ticker}
    (made : daemon.ticker = some ticker) : ticker.lost = 0 := by
  cases schedule with
  | starting unmade =>
    rw [made] at unmade
    cases unmade
  | ticking other served worker same _ _ punctual =>
    rw [made] at same
    cases same
    exact punctual.lost_eq_zero
  | stopped _ _ _ kept => exact kept ticker made

/-- Time passes for a hub whose cycles stay within the interval. -/
theorem OnSchedule.wait {label : Time × HubEvent} (within : limit ≤ hub.probeInterval)
    (schedule : OnSchedule hub count daemon) (forward : daemon.clock ≤ label.1)
    (due : daemon.overdue label.1 = false) (soon : prompt limit daemon label = true) :
    OnSchedule hub count { daemon with clock := label.1 } := by
  cases schedule with
  | starting unmade first running => exact .starting unmade first running
  | stopped error phase cancelled kept => exact .stopped error phase cancelled kept
  | ticking ticker served worker made counted phase punctual =>
    refine .ticking ticker served worker made counted phase (punctual.wait forward ?_ ?_ ?_)
    · cases worker with
      | none | some =>
        simp only [Daemon.overdue, phase, loopPhase, workerPhase, made, decide_eq_false_iff_not] at due
        exact Int.not_lt.mp due
    · rintro rfl full
      simpa [prompt, phase, loopPhase, workerPhase, Daemon.ticked, made, full] using soon
    · rintro since rfl
      simp only [prompt, phase, loopPhase, workerPhase, decide_eq_true_eq] at soon
      lia

theorem OnSchedule.move {event : HubEvent} (schedule : OnSchedule hub count daemon)
    (move : HubMove codec agent cfg hub daemon event after) :
    OnSchedule hub (count + (cyclesOf [(daemon.clock, event)]).length) after := by
  cases move with
  | jittered wake phase =>
    cases schedule with
    | starting unmade first _ => exact .starting unmade first (fun _ same => by cases same)
    | ticking _ _ worker _ _ loops _ =>
      rw [phase] at loops
      cases worker <;> cases loops
    | stopped error stops =>
      rw [phase] at stops
      cases stops
  | tick ticker running made due =>
    cases schedule with
    | starting unmade =>
      rw [made] at unmade
      cases unmade
    | ticking other served worker same counted phase punctual =>
      rw [made] at same
      cases same
      exact .ticking _ served worker rfl counted phase (punctual.fire hub.positive due)
    | stopped error phase => exact absurd phase (running error)
  | takeTick ticker phase made full =>
    cases schedule with
    | starting unmade =>
      rw [made] at unmade
      cases unmade
    | ticking other served worker same counted loops punctual =>
      rw [made] at same
      cases same
      have idle : worker = none := loopPhase_inj (loops.symm.trans phase)
      subst idle
      exact .ticking _ served (some daemon.clock) rfl counted rfl (punctual.take hub.positive full)
    | stopped error stops =>
      rw [phase] at stops
      cases stops
  | cycled pass since db phase ordered ends =>
    cases schedule with
    | starting unmade first _ =>
      subst first
      rw [unmade]
      exact .ticking _ 0 none rfl rfl rfl (.start hub.positive daemon.clock)
    | ticking ticker served worker made counted loops punctual =>
      have busy : worker = some since := loopPhase_inj (loops.symm.trans phase)
      subst busy
      rw [made]
      exact .ticking ticker (served + 1) none rfl (congrArg (· + 1) counted) rfl punctual.finish
    | stopped error stops =>
      rw [phase] at stops
      cases stops
  | cancel =>
    cases schedule with
    | starting unmade first running => exact .starting unmade first running
    | ticking ticker served worker made counted phase punctual =>
      exact .ticking ticker served worker made counted phase punctual
    | stopped error phase _ kept => exact .stopped error phase rfl kept
  | notice error cancelled =>
    exact .stopped error rfl cancelled (fun ticker made => schedule.lost_eq_zero made)

/-- Cycles that end within the interval keep the schedule. -/
theorem onSchedule_run {start final : Daemon} {events : List (Time × HubEvent)} (within : limit ≤ hub.probeInterval)
    (initially : OnSchedule hub 0 start) (run : exec (hubNext codec agent cfg hub) start events = some final)
    (soon : Along (hubNext codec agent cfg hub) (fun daemon label => prompt limit daemon label = true) start events) :
    OnSchedule hub (cyclesOf events).length final := by
  have held : Along (hubNext codec agent cfg hub) (fun daemon label => prompt limit daemon label = true) start events →
      OnSchedule hub (cyclesOf events).length final := by
    refine exec_history (fun past daemon =>
      Along (hubNext codec agent cfg hub) (fun daemon label => prompt limit daemon label = true) start past →
        OnSchedule hub (cyclesOf past).length daemon) (fun _ => initially) ?_ run
    intro past before label after earlier held step along
    obtain ⟨rest, met⟩ := (along_concat_iff earlier).mp along
    obtain ⟨forward, due, move⟩ := hubNext_move step
    have next := ((held rest).wait within forward due met).move move
    unfold cyclesOf at next ⊢
    rw [List.filterMap_append, List.length_append]
    exact next
  exact held soon

private theorem onSchedule_start (hub : Hub) (now : Time) (draw : Int) (db : SpoolDB) :
    OnSchedule hub 0 (hub.start now draw db) := by
  refine .starting rfl rfl (fun error phase => ?_)
  simp only [Hub.start] at phase
  split at phase
  · cases phase
  · cases phase

theorem OnSchedule.began (schedule : OnSchedule hub count daemon) {ticker : Ticker} {since : Time}
    (made : daemon.ticker = some ticker) (phase : daemon.phase = .cycling since) :
    since = ticker.opened + count * hub.probeInterval := by
  cases schedule with
  | starting unmade =>
    rw [made] at unmade
    cases unmade
  | ticking other served worker same counted loops punctual =>
    rw [made] at same
    cases same
    rw [counted, punctual.began (loopPhase_inj (loops.symm.trans phase))]
    push_cast
    rfl
  | stopped error stops =>
    rw [phase] at stops
    cases stops

end Schedule

/-- A run of the hub whose cycles stay within a limit. -/
def HubRun (codec : JsonCodec) (agent : AgentConfig) (cfg : Config) (hub : Hub) (limit : Duration)
    (events : List (Time × HubEvent)) (final : Daemon) : Prop :=
  ∃ now draw db, exec (hubNext codec agent cfg hub) (hub.start now draw db) events = some final ∧
    Along (hubNext codec agent cfg hub) (fun daemon label => prompt limit daemon label = true)
      (hub.start now draw db) events

private theorem HubRun.onSchedule {codec : JsonCodec} {agent : AgentConfig} {cfg : Config} {hub : Hub}
    {limit : Duration}
    {events : List (Time × HubEvent)} {final : Daemon} (run : HubRun codec agent cfg hub limit events final)
    (within : limit ≤ hub.probeInterval) : OnSchedule hub (cyclesOf events).length final := by
  obtain ⟨now, draw, db, run, soon⟩ := run
  exact onSchedule_run within (onSchedule_start hub now draw db) run soon

/-! Cycles that overrun. -/

section Overrun

variable {codec : JsonCodec} {agent : AgentConfig} {cfg : Config} {hub : Hub} {limit : Duration}
  {daemon after : Daemon}

/-- Some run within the limit leads here from an empty spool. -/
abbrev Reaches (codec : JsonCodec) (agent : AgentConfig) (cfg : Config) (hub : Hub) (limit : Duration) :
    Daemon → Prop :=
  Leads (hubNext codec agent cfg hub) (fun daemon label => prompt limit daemon label = true) (hub.start 0 0 .migrated)

private theorem hubNext_of_step {now : Time} {event : HubEvent} (forward : daemon.clock ≤ now)
    (due : daemon.overdue now = false)
    (step : { daemon with clock := now }.step codec agent cfg hub event = some after) :
    hubNext codec agent cfg hub daemon (now, event) = some after := by
  unfold hubNext
  rw [if_neg]
  · exact step
  · rintro (back | late)
    · exact absurd back (Int.not_lt.mpr forward)
    · rw [due] at late
      cases late

private theorem no_probes_waited : ([] : List Nat).Perm (List.range ([] : List Target).length) := .refl _

/-- A cycle that finds no targets, and takes its time for that. -/
def fruitless : Pass where
  cycle := {
    targets := []
    newRunID := .error []
    now := second
    outcome := fun _ => .error []
    finished := []
    spool := none
    waited := no_probes_waited }
  inputs := []

private theorem cycleAfter_fruitless (db : SpoolDB) : cycleAfter codec agent cfg db fruitless = some db := rfl

private theorem instants_fruitless : fruitless.instants = [] := rfl

/-- In a cycle since an instant, with the next tick due later. -/
def cyclingAt (since due : Time) (ticked : Bool) : Daemon :=
  ⟨since, .cycling since, .migrated, some ⟨0, due, ticked, 0⟩, false⟩

private theorem reaches_first : Reaches codec agent cfg hub limit ⟨0, .cycling 0, .migrated, none, false⟩ := by
  by_cases jitter : 0 < hub.startupJitter
  · refine @Leads.step _ _ _ _ _ _ _ (0, .jittered) (.refl _) ?_ (hubNext_of_step (Int.le_refl _) ?_ ?_)
    · simp [prompt, Hub.start, jitter]
    · simp [Daemon.overdue, Hub.start, jitter]
    · simp [Daemon.step, Hub.start, jitter]
  · refine ⟨[], ?_, trivial⟩
    simp [exec, Hub.start, jitter]

private theorem reaches_loop (overruns : hub.probeInterval < limit) :
    Reaches codec agent cfg hub limit (cyclingAt hub.probeInterval (hub.probeInterval + hub.probeInterval) false) := by
  have positive := hub.positive
  have first : Reaches codec agent cfg hub limit
      ⟨0, .selecting, .migrated, some ⟨0, hub.probeInterval, false, 0⟩, false⟩ := by
    refine @Leads.step _ _ _ _ _ _ _ (0, .cycled fruitless) reaches_first ?_ (hubNext_of_step (Int.le_refl _) rfl ?_)
    · simp only [prompt, decide_eq_true_eq]
      lia
    · simp [Daemon.step, cycleAfter_fruitless, instants_fruitless, Ticker.start]
  have ticked : Reaches codec agent cfg hub limit ⟨hub.probeInterval, .selecting, .migrated,
      some ⟨0, hub.probeInterval + hub.probeInterval, true, 0⟩, false⟩ := by
    refine @Leads.step _ _ _ _ _ _ _ (hub.probeInterval, .tick) first rfl
      (hubNext_of_step (Int.le_of_lt positive) ?_ ?_)
    · simp [Daemon.overdue]
    · simp [Daemon.step, Ticker.fire]
  refine @Leads.step _ _ _ _ _ _ _ (hub.probeInterval, .takeTick) ticked ?_ (hubNext_of_step (Int.le_refl _) ?_ ?_)
  · simp [prompt]
  · simp only [Daemon.overdue, decide_eq_false_iff_not]
    lia
  · simp [Daemon.step, Ticker.take, cyclingAt]

/-- In an overrunning cycle the next tick waits. -/
theorem reaches_queued {since due : Time} (overruns : hub.probeInterval < limit)
    (reached : Reaches codec agent cfg hub limit (cyclingAt since due false)) (later : since ≤ due)
    (soon : due ≤ since + hub.probeInterval) :
    Reaches codec agent cfg hub limit
      ⟨due, .cycling since, .migrated, some ⟨0, due + hub.probeInterval, true, 0⟩, false⟩ := by
  refine @Leads.step _ _ _ _ _ _ _ (due, .tick) reached ?_ (hubNext_of_step later ?_ ?_)
  · simp only [prompt, cyclingAt, decide_eq_true_eq]
    lia
  · simp [Daemon.overdue, cyclingAt]
  · simp [Daemon.step, cyclingAt, Ticker.fire]

/-- One nanosecond later than the tick before it: the worker falls behind. -/
theorem reaches_behind {since due : Time} (overruns : hub.probeInterval < limit)
    (reached : Reaches codec agent cfg hub limit (cyclingAt since due false)) (later : since ≤ due)
    (soon : due ≤ since + hub.probeInterval) (fits : since + limit < due + hub.probeInterval) :
    Reaches codec agent cfg hub limit
      (cyclingAt (since + hub.probeInterval + 1) (due + hub.probeInterval) false) := by
  have ended : Reaches codec agent cfg hub limit ⟨since + hub.probeInterval + 1, .selecting, .migrated,
      some ⟨0, due + hub.probeInterval, true, 0⟩, false⟩ := by
    refine @Leads.step _ _ _ _ _ _ _ (since + hub.probeInterval + 1, .cycled fruitless)
      (reaches_queued overruns reached later soon) ?_ (hubNext_of_step ?_ ?_ ?_)
    · simp only [prompt, decide_eq_true_eq]
      lia
    · show due ≤ since + hub.probeInterval + 1
      lia
    · simp only [Daemon.overdue, decide_eq_false_iff_not]
      lia
    · have ordered : since ≤ since + hub.probeInterval + 1 := by
        have positive := hub.positive
        lia
      simp [Daemon.step, cycleAfter_fruitless, instants_fruitless, ordered]
  refine @Leads.step _ _ _ _ _ _ _ (since + hub.probeInterval + 1, .takeTick) ended ?_
    (hubNext_of_step (Int.le_refl _) ?_ ?_)
  · simp [prompt]
  · simp only [Daemon.overdue, decide_eq_false_iff_not]
    lia
  · simp [Daemon.step, Ticker.take, cyclingAt]

/-- A cycle that lasts until the tick after the next loses that one. -/
theorem reaches_lost {since due : Time} (overruns : hub.probeInterval < limit)
    (reached : Reaches codec agent cfg hub limit (cyclingAt since due false)) (later : since ≤ due)
    (soon : due ≤ since + hub.probeInterval) (lasts : due + hub.probeInterval ≤ since + limit) :
    ∃ daemon ticker, Reaches codec agent cfg hub limit daemon ∧ daemon.ticker = some ticker ∧ ticker.lost = 1 := by
  refine ⟨⟨due + hub.probeInterval, .cycling since, .migrated,
    some ⟨0, due + hub.probeInterval + hub.probeInterval, true, 1⟩, false⟩, _, ?_, rfl, rfl⟩
  refine @Leads.step _ _ _ _ _ _ _ (due + hub.probeInterval, .tick) (reaches_queued overruns reached later soon) ?_
    (hubNext_of_step ?_ ?_ ?_)
  · simpa [prompt] using lasts
  · exact Int.le_add_of_nonneg_right (Int.le_of_lt hub.positive)
  · simp [Daemon.overdue]
  · simp [Daemon.step, Ticker.fire]

/-- Each overrun brings the cycle nearer to the tick after the next, until that one finds the
channel full. -/
theorem reaches_loss {since due : Time} (overruns : hub.probeInterval < limit)
    (reached : Reaches codec agent cfg hub limit (cyclingAt since due false)) (later : since ≤ due)
    (soon : due ≤ since + hub.probeInterval) :
    ∃ daemon ticker, Reaches codec agent cfg hub limit daemon ∧ daemon.ticker = some ticker ∧ ticker.lost = 1 := by
  -- the induction is on what is left until the due tick when the cycle begins
  induction slack : (due - since).toNat generalizing since due with
  | zero =>
    refine reaches_lost overruns reached later soon ?_
    lia
  | succ slack ih =>
    by_cases fits : since + limit < due + hub.probeInterval
    · exact ih (reaches_behind overruns reached later soon fits) (by lia) (by lia) (by lia)
    · exact reaches_lost overruns reached later soon (Int.not_lt.mp fits)

end Overrun

/-- A bound on the duration of the cycles keeps every tick, whatever the cycles return, exactly
when it is at most the timeout of a cycle's context; and with such a bound every cycle after the
first begins at its tick. -/
theorem hub_ticks_kept_iff (codec : JsonCodec) (agent : AgentConfig) (cfg : Config) (hub : Hub) (limit : Duration) :
    ((∀ events final ticker, HubRun codec agent cfg hub limit events final → final.ticker = some ticker →
        ticker.lost = 0) ↔ limit ≤ hub.probeInterval) ∧
      (limit ≤ hub.probeInterval → ∀ events final ticker since, HubRun codec agent cfg hub limit events final →
        final.ticker = some ticker → final.phase = .cycling since →
        since = ticker.opened + (cyclesOf events).length * hub.probeInterval) := by
  refine ⟨⟨fun kept => ?_, fun within events final ticker run made => ?_⟩,
    fun within events final ticker since run made phase => ?_⟩
  · by_contra overruns
    have overruns := Int.not_le.mp overruns
    have positive := hub.positive
    obtain ⟨daemon, ticker, ⟨events, run, along⟩, made, lost⟩ := @reaches_loss codec agent cfg hub limit _ _ overruns
      (reaches_loop overruns) (Int.le_add_of_nonneg_right (Int.le_of_lt positive)) (Int.le_refl _)
    rw [kept events daemon ticker ⟨0, 0, .migrated, run, along⟩ made] at lost
    cases lost
  · exact (run.onSchedule within).lost_eq_zero made
  · exact (run.onSchedule within).began made phase

/-! What the cycles do to the spool. -/

/-- A cycle that ends in this step has gone through its drain. -/
def drains (codec : JsonCodec) (agent : AgentConfig) (cfg : Config) (daemon : Daemon) (label : Time × HubEvent) :
    Bool :=
  match label.2 with
  | .cycled pass => (spokeNext codec agent cfg daemon.db pass).isSome
  | _ => true

/-- Nothing of the next cycle happens before. -/
def Daemon.mark (daemon : Daemon) : Time :=
  match daemon.phase with
  | .cycling since => since
  | _ => daemon.clock

/-- The cycles of a run happen one after the other. -/
structure Ordered (start : Time) (passes : List Pass) (daemon : Daemon) : Prop where
  times : (start :: passes.flatMap Pass.instants).Pairwise (· ≤ ·)
  before : ∀ time ∈ start :: passes.flatMap Pass.instants, time ≤ daemon.mark
  mark : daemon.mark ≤ daemon.clock

section Spool

variable {codec : JsonCodec} {agent : AgentConfig} {cfg : Config} {hub : Hub} {daemon after start final : Daemon}
  {limit : Duration} {events : List (Time × HubEvent)}

private theorem cycleAfter_of_spokeNext {db db' : SpoolDB} {pass : Pass}
    (step : spokeNext codec agent cfg db pass = some db') :
    cycleAfter codec agent cfg db pass = some db' := by
  unfold spokeNext at step
  unfold cycleAfter
  split at step
  · rename_i ran
    rw [ran]
    exact step
  · cases step

private theorem cyclesOf_concat (label : Time × HubEvent) :
    cyclesOf (events ++ [label]) = cyclesOf events ++ cyclesOf [label] :=
  List.filterMap_append

/-- A cycle that drains is a step of the spool; everything else leaves it alone. -/
theorem hubNext_db {label : Time × HubEvent} (step : hubNext codec agent cfg hub daemon label = some after)
    (met : drains codec agent cfg daemon label = true) :
    exec (spokeNext codec agent cfg) daemon.db (cyclesOf [label]) = some after.db := by
  obtain ⟨now, event⟩ := label
  obtain ⟨_, _, move⟩ := hubNext_move step
  cases move with
  | jittered | tick | takeTick | cancel | notice => rfl
  | cycled pass since db phase ordered ends =>
    obtain ⟨reached, went⟩ := Option.isSome_iff_exists.mp met
    have same : some db = some reached := ends.symm.trans (cycleAfter_of_spokeNext went)
    cases same
    simp [cyclesOf, exec, went]

private theorem hub_run_db (run : exec (hubNext codec agent cfg hub) start events = some final)
    (all : Along (hubNext codec agent cfg hub) (fun daemon label => drains codec agent cfg daemon label = true)
      start events) :
    exec (spokeNext codec agent cfg) start.db (cyclesOf events) = some final.db := by
  have held : Along (hubNext codec agent cfg hub) (fun daemon label => drains codec agent cfg daemon label = true)
      start events → exec (spokeNext codec agent cfg) start.db (cyclesOf events) = some final.db := by
    refine exec_history (fun past daemon => Along (hubNext codec agent cfg hub)
      (fun daemon label => drains codec agent cfg daemon label = true) start past →
        exec (spokeNext codec agent cfg) start.db (cyclesOf past) = some daemon.db) (fun _ => rfl) ?_ run
    intro past before label after earlier held step along
    obtain ⟨rest, met⟩ := (along_concat_iff earlier).mp along
    rw [cyclesOf_concat, exec_append, held rest]
    exact hubNext_db step met
  exact held all

theorem Ordered.wait {opened : Time} {passes : List Pass} (ordered : Ordered opened passes daemon) {now : Time}
    (forward : daemon.clock ≤ now) : Ordered opened passes { daemon with clock := now } := by
  obtain ⟨times, before, mark⟩ := ordered
  cases phase : daemon.phase with
  | cycling since =>
    simp only [Daemon.mark, phase] at before mark
    exact ⟨times, by simpa only [Daemon.mark, phase] using before,
      by simpa only [Daemon.mark, phase] using Int.le_trans mark forward⟩
  | jittering | selecting | returned =>
    simp only [Daemon.mark, phase] at before
    refine ⟨times, fun time member => ?_, by simp [Daemon.mark]⟩
    simpa only [Daemon.mark, phase] using Int.le_trans (before time member) forward

theorem Ordered.move {opened now : Time} {passes : List Pass} {event : HubEvent}
    (ordered : Ordered opened passes daemon)
    (move : HubMove codec agent cfg hub daemon event after) :
    Ordered opened (passes ++ cyclesOf [(now, event)]) after := by
  obtain ⟨times, before, mark⟩ := ordered
  have early : ∀ time ∈ opened :: passes.flatMap Pass.instants, time ≤ daemon.clock :=
    fun time member => Int.le_trans (before time member) mark
  have alone : ∀ other : Daemon, (∀ time ∈ opened :: passes.flatMap Pass.instants, time ≤ other.mark) →
      other.mark ≤ other.clock → Ordered opened (passes ++ []) other := by
    intro other reached passed
    rw [List.append_nil]
    exact ⟨times, reached, passed⟩
  cases move with
  | jittered | takeTick | notice => exact alone _ early (Int.le_refl _)
  | tick | cancel => exact alone _ before mark
  | cycled pass since db phase within ends =>
    simp only [Daemon.mark, phase] at before
    obtain ⟨cycle, _, last⟩ := List.pairwise_append.mp within
    obtain ⟨first, inner⟩ := List.pairwise_cons.mp cycle
    rw [show passes ++ cyclesOf [(now, HubEvent.cycled pass)] = passes ++ [pass] from rfl]
    have whole : opened :: (passes ++ [pass]).flatMap Pass.instants =
        (opened :: passes.flatMap Pass.instants) ++ pass.instants := by simp
    refine ⟨?_, fun time member => ?_, Int.le_refl _⟩
    · rw [whole]
      refine List.pairwise_append.mpr ⟨times, inner, fun time old other member => ?_⟩
      exact Int.le_trans (before time old) (first other member)
    · rw [whole, List.mem_append] at member
      rcases member with old | member
      · exact early time old
      · exact last time (List.mem_cons_of_mem _ member) _ (List.mem_singleton_self _)

private theorem ordered_run {now : Time} {draw : Int} {db : SpoolDB}
    (run : exec (hubNext codec agent cfg hub) (hub.start now draw db) events = some final) :
    Ordered now (cyclesOf events) final := by
  refine exec_history (fun past daemon => Ordered now (cyclesOf past) daemon) ?_ ?_ run
  · have mark : (hub.start now draw db).mark = now := by
      unfold Hub.start Daemon.mark
      split
      · rename_i since phase
        split at phase
        · cases phase
        · cases phase
          rfl
      · rfl
    exact ⟨List.pairwise_singleton _ _, by simp [cyclesOf, mark], Int.le_of_eq mark⟩
  · intro past before label after _ ordered step
    obtain ⟨forward, _, move⟩ := hubNext_move step
    rw [cyclesOf_concat]
    exact (ordered.wait forward).move move

/-- No cycle is still running when an interval has passed. -/
theorem cycle_short {limit : Duration} (within : limit < hub.probeInterval)
    (run : exec (hubNext codec agent cfg hub) start events = some final)
    (soon : Along (hubNext codec agent cfg hub) (fun daemon label => prompt limit daemon label = true) start events)
    (initially : ∀ since, start.phase = .cycling since → start.clock < since + hub.probeInterval) :
    ∀ since, final.phase = .cycling since → final.clock < since + hub.probeInterval := by
  have positive := hub.positive
  refine exec_invariant_along (fun daemon => ∀ since, daemon.phase = .cycling since →
    daemon.clock < since + hub.probeInterval) initially ?_ soon run
  intro before label after held met step since phase
  have kept : before.phase = .cycling since → label.1 < since + hub.probeInterval := by
    intro was
    simp only [prompt, was, decide_eq_true_eq] at met
    lia
  obtain ⟨_, _, move⟩ := hubNext_move step
  generalize label.2 = event at move
  cases move with
  | jittered | takeTick =>
    cases phase
    exact Int.lt_add_of_pos_right _ positive
  | tick | cancel => exact kept phase
  | cycled | notice => cases phase

end Spool

/-- Once the controller accepts every send, a hub whose cycles are shorter than the probe
interval and end with their drain has cut its backlog by at least one batch, less its own
new run, for every interval since its ticker was made. The backlog is out of its
backoff at the start and retention drops nothing. -/
theorem hub_clears_backlog (codec : JsonCodec) (agent : AgentConfig) (cfg : Config) (hub : Hub) (limit : Duration)
    (now : Time) (draw : Int) (db : SpoolDB) (events : List (Time × HubEvent)) (final : Daemon) (ticker : Ticker)
    (intervals : Nat) (positive : 0 < cfg.drainRows) (within : limit < hub.probeInterval)
    (run : exec (hubNext codec agent cfg hub) (hub.start now draw db) events = some final)
    (soon : Along (hubNext codec agent cfg hub) (fun daemon label => prompt limit daemon label = true)
      (hub.start now draw db) events)
    (draining : Along (hubNext codec agent cfg hub) (fun daemon label => drains codec agent cfg daemon label = true)
      (hub.start now draw db) events)
    (online : ∀ pass ∈ cyclesOf events, pass.Online) (past : ∀ row ∈ db.rows.rows, row.enqueuedAt ≤ toSql now)
    (ready : ∀ row ∈ db.rows.rows, eligible cfg now row = true)
    (fresh : (db.oldestFirst.map SpoolRow.probeRunID ++ (cyclesOf events).map Pass.runID).Nodup)
    (kept : final.db.dropsTotal = db.dropsTotal) (uncancelled : final.cancelled = false)
    (made : final.ticker = some ticker)
    (passed : ticker.opened + intervals * hub.probeInterval ≤ final.clock) :
    final.db.depth ≤ db.depth - intervals * (cfg.drainRows.toNat - 1) := by
  have depth := spoke_run_depth positive (hub_run_db run draining) online (ordered_run run).times past ready fresh kept
  have short := cycle_short within run soon (by
    intro since phase
    simp only [Hub.start] at phase
    split at phase
    · cases phase
    · cases phase
      exact Int.lt_add_of_pos_right _ hub.positive)
  have enough : intervals ≤ (cyclesOf events).length := by
    cases HubRun.onSchedule ⟨now, draw, db, run, soon⟩ (Int.le_of_lt within) with
    | starting unmade =>
      rw [made] at unmade
      cases unmade
    | stopped _ _ cancelled =>
      rw [uncancelled] at cancelled
      cases cancelled
    | ticking other served worker same counted phase punctual =>
      rw [made] at same
      cases same
      have bound := punctual.now_le (Int.le_sub_one_of_lt hub.positive) (by
        rintro since rfl
        have within := short since phase
        lia)
      have next : ((served : Int) + 2) * hub.probeInterval = (served + 1) * hub.probeInterval + hub.probeInterval := by
        ring
      have fewer : (intervals : Int) * hub.probeInterval < (served + 2) * hub.probeInterval := by lia
      have fewer := Int.lt_of_mul_lt_mul_right fewer (Int.le_of_lt hub.positive)
      omega
  rw [depth]
  exact Nat.sub_le_sub_left (Nat.mul_le_mul_right _ enough) _

/-- A minute between two cycles, and no jitter. -/
def everyMinute : Hub := newHub (60 * second) 0

/-- The first cycle sends the backlog of two runs; a minute later the ticker fires. -/
def recoveringHub : List (Time × HubEvent) := [(2 * second, .cycled recovering), (62 * second, .tick)]

private theorem recoveringHub_run :
    (exec (hubNext plainCodec (spokeConfig (lit "spoke-1")) twoRows everyMinute) (everyMinute.start second 0 twoRuns)
      recoveringHub).map (fun final => (final.clock, final.db.dropsTotal, final.ticker, final.cancelled)) =
      some (62 * second, 0, some ⟨2 * second, 122 * second, true, 0⟩, false) := by
  set_option maxRecDepth 8000 in
  rfl

theorem two_runs_cleared_in_a_minute :
    ∃ final ticker,
      exec (hubNext plainCodec (spokeConfig (lit "spoke-1")) twoRows everyMinute)
        (everyMinute.start second 0 twoRuns) recoveringHub = some final ∧
      final.ticker = some ticker ∧ ticker.opened + (1 : Nat) * everyMinute.probeInterval ≤ final.clock ∧
      final.db.depth ≤ twoRuns.depth - 1 * (twoRows.drainRows.toNat - 1) := by
  obtain ⟨final, run, reads⟩ := Option.map_eq_some_iff.mp recoveringHub_run
  obtain ⟨clock, kept, made, uncancelled⟩ : final.clock = 62 * second ∧ final.db.dropsTotal = 0 ∧
      final.ticker = some ⟨2 * second, 122 * second, true, 0⟩ ∧ final.cancelled = false := by simpa using reads
  have passed : 2 * second + (1 : Nat) * everyMinute.probeInterval ≤ final.clock := by
    rw [clock]
    decide
  refine ⟨final, _, run, made, passed, ?_⟩
  set_option maxRecDepth 8000 in
  exact hub_clears_backlog plainCodec (spokeConfig (lit "spoke-1")) twoRows everyMinute (59 * second) second 0 twoRuns
    recoveringHub final _ 1 (by decide) (by decide) run (by decide) (by decide)
    (List.forall_mem_singleton.mpr recovering_online) (by decide) (by decide) (by decide) kept uncancelled made passed

end NetLatencyMonitor.System
