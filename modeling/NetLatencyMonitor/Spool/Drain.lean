import NetLatencyMonitor.Spool.Schema

/-! `Enqueue` and `Drain` one SQL statement at a time. Between two statements the
process may stop, the context may be cancelled, and other processes may run
statements on the same file. -/

namespace NetLatencyMonitor.Spool

open Clock Text

inductive SendOutcome where
  | accepted
  | permanentFail
  | transientFail
deriving DecidableEq, Repr

structure Config where
  drainRows : Int
  maxAge : Duration
  maxSize : Int
  backoffBase : Duration
  backoffMax : Duration
deriving DecidableEq, Repr

/-- The doubling loop of `Backoff`; the second component is whether it returned early. -/
def backoffLoop (max : Duration) : Nat → Duration → Duration × Bool
  | 0, w => (w, false)
  | rounds + 1, w =>
    let w := wrap64 (w * 2)
    if w ≥ max ∨ w ≤ 0 then (max, true) else backoffLoop max rounds w

def backoff (attempts : Int) (base max : Duration) : Duration :=
  let (w, capped) := backoffLoop max attempts.toNat base
  if capped then w else if w > max then max else w

structure Candidate where
  id : Nat
  probeRunID : GoString
  payload : GoString
  attempts : Int
  lastAttemptAt : Option SqlTime
deriving DecidableEq, Repr

def SpoolRow.candidate (row : SpoolRow) : Candidate :=
  ⟨row.id, row.probeRunID, row.payload, row.attempts, row.lastAttemptAt⟩

structure DrainStats where
  considered : Nat := 0
  skipped : Nat := 0
  accepted : Nat := 0
  permanent : Nat := 0
  transient : Nat := 0
  dropped : Nat := 0
deriving DecidableEq, Repr

/-- Where a call of the spool stands: the statement, send or stat it does next, with
the locals it still needs. -/
inductive SpoolCall where
  | insert (probeRunID payload : GoString)
  | select
  | sending (now : Time) (current : Candidate) (rest : List Candidate) (stats : DrainStats)
  | settle (now : Time) (current : Candidate) (outcome : SendOutcome) (message : GoString)
      (rest : List Candidate) (stats : DrainStats)
  | footprint (stats : DrainStats)
  | oldestAge (size : Int) (stats : DrainStats)
  | depth (size : Int) (age : Duration) (stats : DrainStats)
  | deleteOldest (stats : DrainStats)
  | bumpDrops (stats : DrainStats)
  | enqueued (duplicate : Bool)
  | drained (stats : DrainStats)
deriving DecidableEq, Repr

/-- `Enqueue` up to its statement; `none` is one of its two argument errors. -/
def enqueue (probeRunID payload : GoString) : Option SpoolCall :=
  if probeRunID = [] then none else if payload = [] then none else some (.insert probeRunID payload)

/-- `Drain` up to its first statement. -/
def drain : SpoolCall := .select

namespace SpoolCall

/-- Whether the row's backoff window is still open. -/
def waits (cfg : Config) (now : Time) (c : Candidate) : Bool :=
  c.lastAttemptAt.any (fun last =>
    decide (last * second + backoff c.attempts cfg.backoffBase cfg.backoffMax > now))

/-- The loop of `Drain` from one send to the next: rows in backoff are skipped. -/
def nextSend (cfg : Config) (now : Time) (stats : DrainStats) : List Candidate → SpoolCall
  | [] => .footprint stats
  | c :: rest =>
    if waits cfg now c then nextSend cfg now { stats with skipped := stats.skipped + 1 } rest
    else .sending now c rest stats

def count (stats : DrainStats) : SendOutcome → DrainStats
  | .accepted => { stats with accepted := stats.accepted + 1 }
  | .permanentFail => { stats with permanent := stats.permanent + 1 }
  | .transientFail => { stats with transient := stats.transient + 1 }

/-- The statement that applies an outcome to its row. -/
def applyOutcome (db : SpoolDB) (id : Nat) (now : Time) (message : GoString) : SendOutcome → SpoolDB
  | .accepted => db.deleteRow id
  | .permanentFail => db.markFailure id now message
  | .transientFail => db.markFailure id now message

/-- Run the SQL statement the call has come to, at the given instant. -/
def statement (cfg : Config) (db : SpoolDB) (now : Time) : SpoolCall → Option (SpoolDB × SpoolCall)
  | .insert probeRunID payload =>
    match db.insert probeRunID payload now with
    | none => some (db, .enqueued true)
    | some after => some (after, .enqueued false)
  | .select =>
    let batch := (SpoolDB.limit db.oldestFirst cfg.drainRows).map SpoolRow.candidate
    some (db, nextSend cfg now { considered := batch.length } batch)
  | .settle started current outcome message rest stats =>
    some (applyOutcome db current.id now message outcome, nextSend cfg started (count stats outcome) rest)
  | .oldestAge size stats =>
    let age := match db.minEnqueuedAt with
      | none => 0
      | some oldest => now - oldest * second
    some (db, .depth size age stats)
  | .depth size age stats =>
    if db.depth = 0 ∨ (size ≤ cfg.maxSize ∧ age ≤ cfg.maxAge) then some (db, .drained stats)
    else some (db, .deleteOldest stats)
  | .deleteOldest stats =>
    let (after, removed) := db.deleteOldest
    if removed = 0 then some (after, .drained stats) else some (after, .bumpDrops stats)
  | .bumpDrops stats => some (db.bumpDrops, .footprint { stats with dropped := stats.dropped + 1 })
  | .sending _ _ _ _ => none
  | .footprint _ => none
  | .enqueued _ => none
  | .drained _ => none

/-- The sender has returned. -/
def sent (outcome : SendOutcome) (message : GoString) : SpoolCall → Option SpoolCall
  | .sending now current rest stats => some (.settle now current outcome message rest stats)
  | _ => none

/-- `FootprintBytes` has returned. -/
def measured (size : Int) : SpoolCall → Option SpoolCall
  | .footprint stats => some (.oldestAge size stats)
  | _ => none

/-- Nothing is left to do. -/
def finished : SpoolCall → Bool
  | .enqueued _ => true
  | .drained _ => true
  | _ => false

end SpoolCall

end NetLatencyMonitor.Spool
