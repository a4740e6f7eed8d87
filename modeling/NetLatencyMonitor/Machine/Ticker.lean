import Mathlib.Tactic.Ring

/-! A periodic ticker whose channel holds one tick, and a worker that serves its ticks one
after the other. Nothing here mentions a particular program. -/

namespace NetLatencyMonitor.Machine

structure Ticker where
  opened : Int
  /-- When it fires next. -/
  due : Int
  /-- A tick waits in the channel. -/
  ticked : Bool
  /-- Ticks that found the channel full. -/
  lost : Nat
deriving DecidableEq, Repr

def Ticker.start (period now : Int) : Ticker := ⟨now, now + period, false, 0⟩

def Ticker.fire (period : Int) (ticker : Ticker) : Ticker :=
  { ticker with
    due := ticker.due + period
    ticked := true
    lost := if ticker.ticked then ticker.lost + 1 else ticker.lost }

def Ticker.take (ticker : Ticker) : Ticker := { ticker with ticked := false }

/-- The phase of a worker, by the instant its current service began. -/
def workerPhase {Phase : Type} (idle : Phase) (busy : Int → Phase) : Option Int → Phase
  | none => idle
  | some since => busy since

theorem workerPhase_inj {Phase : Type} {idle : Phase} {busy : Int → Phase} (apart : ∀ since, busy since ≠ idle)
    (faithful : ∀ first second, busy first = busy second → first = second) {first second : Option Int}
    (same : workerPhase idle busy first = workerPhase idle busy second) : first = second := by
  cases first with
  | none =>
    cases second with
    | none => rfl
    | some since => exact absurd same.symm (apart since)
  | some began =>
    cases second with
    | none => exact absurd same (apart began)
    | some since => exact congrArg some (faithful began since same)

/-- A worker that keeps up: where it stands between two ticks, by the number of ticks it
has served and the instant its current service began. -/
inductive Punctual (period : Int) (ticker : Ticker) (now : Int) (served : Nat) : Option Int → Prop
  | idle (empty : ticker.ticked = false) (kept : ticker.lost = 0)
      (due : ticker.due = ticker.opened + (served + 1) * period) (late : ticker.due - period ≤ now)
      (early : now ≤ ticker.due) : Punctual period ticker now served none
  | pending (full : ticker.ticked = true) (kept : ticker.lost = 0)
      (due : ticker.due = ticker.opened + (served + 2) * period)
      (instant : now = ticker.due - period) : Punctual period ticker now served none
  | serving (since : Int) (empty : ticker.ticked = false) (kept : ticker.lost = 0)
      (due : ticker.due = ticker.opened + (served + 2) * period) (began : since = ticker.due - period)
      (late : since ≤ now) (early : now ≤ ticker.due) : Punctual period ticker now served (some since)
  | queued (since : Int) (full : ticker.ticked = true) (kept : ticker.lost = 0)
      (due : ticker.due = ticker.opened + (served + 3) * period) (began : since = ticker.due - 2 * period)
      (instant : now = ticker.due - period) : Punctual period ticker now served (some since)

namespace Punctual

variable {period now : Int} {ticker : Ticker} {served : Nat} {worker : Option Int}

theorem start (positive : 0 < period) (now : Int) : Punctual period (.start period now) now 0 none := by
  refine .idle rfl rfl ?_ ?_ ?_
  · simp [Ticker.start]
  · exact Int.le_of_eq (Int.add_sub_cancel _ _)
  · exact Int.le_add_of_nonneg_right (Int.le_of_lt positive)

theorem lost_eq_zero (punctual : Punctual period ticker now served worker) : ticker.lost = 0 := by
  cases punctual with
  | idle _ kept => exact kept
  | pending _ kept => exact kept
  | serving _ _ kept => exact kept
  | queued _ _ kept => exact kept

/-- A service begins exactly when its tick is due. -/
theorem began (punctual : Punctual period ticker now served worker) {since : Int} (serves : worker = some since) :
    since = ticker.opened + (served + 1) * period := by
  cases punctual with
  | idle => cases serves
  | pending => cases serves
  | serving _ _ _ due began =>
    cases serves
    rw [began, due]
    ring
  | queued _ _ _ due began =>
    cases serves
    rw [began, due]
    ring

/-- How many ticks have been served, by the clock: no more than have been due. -/
theorem le_now (positive : 0 < period) (punctual : Punctual period ticker now served worker) :
    ticker.opened + served * period ≤ now := by
  have next : ((served : Int) + 1) * period = served * period + period := by ring
  have second : ((served : Int) + 2) * period = served * period + 2 * period := by ring
  have third : ((served : Int) + 3) * period = served * period + 3 * period := by ring
  cases punctual with
  | idle _ _ due late _ => lia
  | pending _ _ due instant => lia
  | serving since _ _ due began late _ => lia
  | queued since _ _ due began instant => lia

/-- How many ticks have been served, by the clock: all but the last that was due, or the one
in service. -/
theorem now_le {slack : Int} (nonneg : 0 ≤ slack) (punctual : Punctual period ticker now served worker)
    (short : ∀ since, worker = some since → now ≤ since + slack) :
    now ≤ ticker.opened + (served + 1) * period + slack := by
  have next : ((served : Int) + 2) * period = (served + 1) * period + period := by ring
  have second : ((served : Int) + 3) * period = (served + 1) * period + 2 * period := by ring
  cases punctual with
  | idle _ _ due _ early => lia
  | pending _ _ due instant => lia
  | serving since _ _ due began _ _ =>
    have within := short since rfl
    lia
  | queued since _ _ due began instant =>
    have within := short since rfl
    lia

/-- Time passes, not beyond the next tick, not while a tick waits for an idle worker, and
not beyond a period of service. -/
theorem wait (punctual : Punctual period ticker now served worker) {later : Int} (forward : now ≤ later)
    (due : later ≤ ticker.due) (taken : worker = none → ticker.ticked = true → later ≤ now)
    (short : ∀ since, worker = some since → later ≤ since + period) :
    Punctual period ticker later served worker := by
  cases punctual with
  | idle empty kept dueAt late _ => exact .idle empty kept dueAt (Int.le_trans late forward) due
  | pending full kept dueAt instant =>
    have same : later = now := Int.le_antisymm (taken rfl full) forward
    exact .pending full kept dueAt (same.trans instant)
  | serving since empty kept dueAt began late _ =>
    exact .serving since empty kept dueAt began (Int.le_trans late forward) due
  | queued since full kept dueAt began instant =>
    have bound := short since rfl
    exact .queued since full kept dueAt began (by lia)

/-- The ticker fires: the channel is empty. -/
theorem fire (positive : 0 < period) (punctual : Punctual period ticker now served worker) (due : now = ticker.due) :
    Punctual period (ticker.fire period) now served worker := by
  have instant : now = (ticker.fire period).due - period := by
    rw [due]
    exact (Int.add_sub_cancel _ _).symm
  cases punctual with
  | idle empty kept dueAt _ _ =>
    refine .pending rfl (by simp [Ticker.fire, empty, kept]) ?_ instant
    simp only [Ticker.fire, dueAt]
    ring
  | pending _ _ _ before => lia
  | serving since empty kept dueAt began _ _ =>
    refine .queued since rfl (by simp [Ticker.fire, empty, kept]) ?_ ?_ instant
    · simp only [Ticker.fire, dueAt]
      ring
    · simp only [Ticker.fire]
      lia
  | queued _ _ _ _ _ before => lia

/-- An idle worker takes the tick. -/
theorem take (positive : 0 < period) (punctual : Punctual period ticker now served none)
    (full : ticker.ticked = true) : Punctual period ticker.take now served (some now) := by
  cases punctual with
  | idle empty =>
    rw [full] at empty
    cases empty
  | pending _ kept due instant =>
    refine .serving now rfl kept due instant (Int.le_refl _) ?_
    show now ≤ ticker.due
    lia

/-- The service ends. -/
theorem finish {since : Int} (punctual : Punctual period ticker now served (some since)) :
    Punctual period ticker now (served + 1) none := by
  cases punctual with
  | serving _ empty kept due began late early =>
    refine .idle empty kept ?_ (began ▸ late) early
    rw [due]
    push_cast
    ring
  | queued _ full kept due _ instant =>
    refine .pending full kept ?_ instant
    rw [due]
    push_cast
    ring

end Punctual

end NetLatencyMonitor.Machine
