import Mathlib.Algebra.Group.Int.Defs
import NetLatencyMonitor.Clock
import NetLatencyMonitor.Machine.Execution
import NetLatencyMonitor.Text.GoString

/-! The replication gate: the tracker that `/readyz` asks, and the watcher that feeds it
from `systemctl` and the journal. The tracker may be asked between any two steps of a
poll. -/

namespace NetLatencyMonitor.Litestream

open Clock Machine Text

/-- What the tracker holds; a zero `lastSyncAt` is "never". -/
structure Status where
  lastSyncAt : Time := zeroTime
  serviceActive : Bool := false
  errors : Nat := 0
  lagMax : Duration
deriving DecidableEq, Repr

def newTracker (maxLag : Duration) : Status := { lagMax := maxLag }

namespace Status

/-- `RecordSync` with the tracker's clock at `now`; a zero time means now. -/
def recordSync (status : Status) (time now : Time) : Status :=
  let time := if time = zeroTime then now else time
  if time > status.lastSyncAt then { status with lastSyncAt := time } else status

def recordError (status : Status) : Status := { status with errors := status.errors + 1 }

def setServiceActive (status : Status) (active : Bool) : Status := { status with serviceActive := active }

def lag (status : Status) (now : Time) : Duration :=
  if status.lastSyncAt = zeroTime then 2 ^ 62 - 1 else now - status.lastSyncAt

def healthy (status : Status) (maxLag : Duration) (now : Time) : Bool :=
  if !status.serviceActive then false
  else if status.lastSyncAt = zeroTime then false
  else decide (now - status.lastSyncAt ≤ maxLag)

end Status

/-- A line of the unit's journal: its stamp, and the text `journalctl -o short-iso`
prints for it. -/
structure Line where
  stamp : Time
  text : GoString
deriving DecidableEq, Repr

def isErr (text : GoString) : Bool :=
  let lower := toLower text
  contains (lit "error") lower || contains (lit "failed") lower || contains (lit "fatal") lower

def isSync (text : GoString) : Bool :=
  let lower := toLower text
  !isErr text && (contains (lit "snapshot") lower || contains (lit "wal segment") lower ||
    contains (lit "replicated") lower || contains (lit "synced") lower)

/-- `parseLine` with the tracker's clock at `now`. The line's own stamp is not read. -/
def parseLine (now : Time) (text : GoString) (tracker : Status) : Status :=
  if isErr text then tracker.recordError
  else if isSync text then tracker.recordSync zeroTime now
  else tracker

/-- Where a poll stands. -/
inductive Phase where
  | idle
  | clock
  | journal (since : Time)
  | lines (next : Line) (rest : List Line)
deriving DecidableEq, Repr

def Phase.scanning : List Line → Phase
  | [] => .idle
  | next :: rest => .lines next rest

/-- The lines a poll still has to parse. -/
def Phase.pending : Phase → List Line
  | .lines next rest => next :: rest
  | _ => []

/-- The watcher with its tracker, and the latest reading of the machine's clock. -/
structure Watcher where
  tracker : Status
  initialLookback : Duration
  lastPoll : Time := zeroTime
  phase : Phase := .idle
  clock : Time
deriving DecidableEq, Repr

/-- The default `PollInterval`. -/
def pollInterval : Duration := 30 * second

/-- What `journalctl --since` prints at the given instant, for a `since` formatted in
whole seconds: the lines logged by then that are stamped at or after it. -/
def journalctl (journal : List Line) (since now : Time) : List Line :=
  journal.filter (fun line => decide (toSql since * second ≤ line.stamp) && decide (line.stamp ≤ now))

/-- `bufio.Scanner` stops at the first line that does not fit its buffer of 64 KiB. -/
def scan (out : List Line) : List Line := out.takeWhile (fun line => decide (line.text.length < 65536))

/-- The next step of a poll and what the outside answers: whether `systemctl is-active`
succeeds, whether `journalctl` fails. -/
inductive PollStep where
  | systemctl (active : Bool)
  | readClock
  | journalctl (failed : Bool)
  | parse
deriving DecidableEq, Repr

/-- One step of `poll` at an instant no earlier than the last. -/
def watchNext (journal : List Line) (w : Watcher) : Time × PollStep → Option Watcher
  | (now, step) =>
    if now < w.clock then none
    else match w.phase, step with
      | .idle, .systemctl active =>
        some { w with tracker := w.tracker.setServiceActive active, phase := .clock, clock := now }
      | .clock, .readClock =>
        let since := if w.lastPoll = zeroTime then now - w.initialLookback else w.lastPoll
        some { w with lastPoll := now, phase := .journal since, clock := now }
      | .journal since, .journalctl failed =>
        let out := if failed then [] else scan (Litestream.journalctl journal since now)
        some { w with phase := .scanning out, clock := now }
      | .lines next rest, .parse =>
        some { w with tracker := parseLine now next.text w.tracker, phase := .scanning rest, clock := now }
      | _, _ => none

/-- The watcher, and the lines passed to `parseLine` so far with the clock at that moment. -/
structure Observed where
  watcher : Watcher
  parsed : List (Time × Line) := []
deriving DecidableEq, Repr

/-- The line a step passes to `parseLine`. -/
def Watcher.passes (w : Watcher) : Time × PollStep → List (Time × Line)
  | (now, .parse) => (w.phase.pending.take 1).map (fun line => (now, line))
  | _ => []

def observe (journal : List Line) (o : Observed) (step : Time × PollStep) : Option Observed :=
  (watchNext journal o.watcher step).map (fun after => ⟨after, o.parsed ++ o.watcher.passes step⟩)

/-- Every run of the watcher can be observed, and what is observed is that run. -/
theorem exec_observe {journal : List Line} {o : Observed} {steps : List (Time × PollStep)} :
    (exec (observe journal) o steps).map Observed.watcher = exec (watchNext journal) o.watcher steps := by
  induction steps generalizing o with
  | nil => rfl
  | cons step rest ih =>
    rw [exec, exec, observe]
    cases watchNext journal o.watcher step with
    | none => rfl
    | some after => exact ih

section Run

variable {journal : List Line} {w after : Watcher} {step : Time × PollStep}

@[simp] theorem pending_scanning (out : List Line) : (Phase.scanning out).pending = out := by
  cases out with
  | nil => rfl
  | cons next rest => rfl

theorem mem_journalctl {since now : Time} {line : Line} :
    line ∈ journalctl journal since now ↔
      line ∈ journal ∧ toSql since * second ≤ line.stamp ∧ line.stamp ≤ now := by
  simp [journalctl]

/-- What a step can do: answer for the service, take the time, take lines from the
journal or parse the next of them. -/
inductive Polled (journal : List Line) (w : Watcher) : Time × PollStep → Watcher → Prop where
  | activity {now : Time} (active : Bool) (idle : w.phase = .idle) (later : w.clock ≤ now) :
      Polled journal w (now, .systemctl active)
        { w with tracker := w.tracker.setServiceActive active, phase := .clock, clock := now }
  | window {now : Time} (taken : w.phase = .clock) (later : w.clock ≤ now) :
      Polled journal w (now, .readClock)
        { w with
          lastPoll := now
          phase := .journal (if w.lastPoll = zeroTime then now - w.initialLookback else w.lastPoll)
          clock := now }
  | fetch {now since : Time} (failed : Bool) (asked : w.phase = .journal since) (later : w.clock ≤ now) :
      Polled journal w (now, .journalctl failed)
        { w with phase := .scanning (if failed then [] else scan (journalctl journal since now)), clock := now }
  | parse {now : Time} {next : Line} {rest : List Line} (scanning : w.phase = .lines next rest)
      (later : w.clock ≤ now) :
      Polled journal w (now, .parse)
        { w with tracker := parseLine now next.text w.tracker, phase := .scanning rest, clock := now }

theorem watchNext_polled (stepped : watchNext journal w step = some after) : Polled journal w step after := by
  obtain ⟨now, action⟩ := step
  simp only [watchNext] at stepped
  split at stepped
  · cases stepped
  · rename_i notBefore
    have later : w.clock ≤ now := Int.not_lt.mp notBefore
    split at stepped
    · rename_i active idle
      cases stepped
      exact .activity active idle later
    · rename_i taken
      cases stepped
      exact .window taken later
    · rename_i since failed asked
      cases stepped
      exact .fetch failed asked later
    · rename_i next rest scanning
      cases stepped
      exact .parse scanning later
    · cases stepped

end Run

/-- A whole poll of an active service at one instant, with one line to parse. -/
def pollOnce (now : Time) : List (Time × PollStep) :=
  [(now, .systemctl true), (now, .readClock), (now, .journalctl false), (now, .parse)]

end NetLatencyMonitor.Litestream
