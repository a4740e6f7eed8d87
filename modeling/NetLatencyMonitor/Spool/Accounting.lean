import NetLatencyMonitor.Machine.Execution
import NetLatencyMonitor.Spool.Drain

/-! Where every spooled row went. One process calls `Enqueue` and `Drain` in any order;
any statement may fail, the context may be cancelled and the process may stop and
start again between any two statements. -/

namespace NetLatencyMonitor.Spool

open Clock Machine Text

/-- One agent process on its spool. The last three fields only count: rows enqueued,
rows deleted on acceptance, and calls that ended between a retention delete and the
bump of `drops_total`. -/
structure SpoolProcess where
  db : SpoolDB
  call : Option SpoolCall
  enqueued : Nat
  accepted : Nat
  unbumped : Nat

def SpoolProcess.start : SpoolProcess := ⟨.migrated, none, 0, 0, 0⟩

inductive SpoolEvent where
  | enqueue (probeRunID payload : GoString)
  | drain
  | statement (now : Time)
  | sent (outcome : SendOutcome) (message : GoString)
  | measured (size : Int)
  | interrupt
  | reopen

/-- Rows a statement enqueues. -/
def enqueuedBy (db : SpoolDB) (now : Time) : SpoolCall → Nat
  | .insert probeRunID payload => if (db.insert probeRunID payload now).isSome then 1 else 0
  | _ => 0

/-- Rows a statement deletes because the sender accepted them. -/
def acceptedBy (db : SpoolDB) : SpoolCall → Nat
  | .settle _ current .accepted _ _ _ => (db.rows.find? current.id).toList.length
  | _ => 0

/-- The row is deleted and not yet counted. -/
def owesBump : Option SpoolCall → Nat
  | some (.bumpDrops _) => 1
  | _ => 0

/-- A finished call is no longer in progress. -/
def ongoing (call : SpoolCall) : Option SpoolCall := if call.finished then none else some call

def spoolNext (cfg : Config) (process : SpoolProcess) : SpoolEvent → Option SpoolProcess
  | .enqueue probeRunID payload =>
    match process.call with
    | some _ => none
    | none => some { process with call := enqueue probeRunID payload }
  | .drain =>
    match process.call with
    | some _ => none
    | none => some { process with call := some drain }
  | .statement now =>
    process.call.bind (fun call => (call.statement cfg process.db now).map (fun (db, next) =>
      { process with
        db
        call := ongoing next
        enqueued := process.enqueued + enqueuedBy process.db now call
        accepted := process.accepted + acceptedBy process.db call }))
  | .sent outcome message =>
    (process.call.bind (SpoolCall.sent outcome message)).map (fun next => { process with call := some next })
  | .measured size =>
    (process.call.bind (SpoolCall.measured size)).map (fun next => { process with call := some next })
  | .interrupt =>
    process.call.map (fun call =>
      { process with call := none, unbumped := process.unbumped + owesBump (some call) })
  | .reopen =>
    match process.call with
    | some _ => none
    | none => some process

/-- Every row ever enqueued is spooled, accepted, or dropped and counted, but for the
drops whose bump was cut off or is still to come. -/
def Balanced (process : SpoolProcess) : Prop :=
  (process.enqueued : Int) = process.db.depth + process.accepted + process.db.dropsTotal +
    process.unbumped + owesBump process.call

/-- No call ends between a retention delete and its bump. -/
def FinishesBump (process : SpoolProcess) (event : SpoolEvent) : Prop :=
  event = .interrupt → owesBump process.call = 0

section Steps

variable {cfg : Config}

@[simp] theorem owesBump_nextSend (now : Time) (stats : DrainStats) (batch : List Candidate) :
    owesBump (ongoing (SpoolCall.nextSend cfg now stats batch)) = 0 := by
  induction batch generalizing stats with
  | nil => rfl
  | cons c rest ih =>
    unfold SpoolCall.nextSend
    split
    · exact ih _
    · rfl

/-- An outcome's statement removes the row only on acceptance, and then counts it. -/
theorem applyOutcome_balance (db : SpoolDB) (started now : Time) (current : Candidate)
    (outcome : SendOutcome) (message : GoString) (rest : List Candidate) (stats : DrainStats) :
    (SpoolCall.applyOutcome db current.id now message outcome).depth +
        acceptedBy db (.settle started current outcome message rest stats) = db.depth ∧
      (SpoolCall.applyOutcome db current.id now message outcome).dropsTotal = db.dropsTotal := by
  cases outcome with
  | accepted =>
    refine ⟨?_, rfl⟩
    simp only [SpoolCall.applyOutcome, acceptedBy]
    cases found : db.rows.find? current.id with
    | none =>
      rw [SpoolDB.deleteRow_absent found]
      rfl
    | some row => exact SpoolDB.depth_deleteRow found
  | permanentFail => exact ⟨SpoolDB.depth_markFailure db current.id now message, rfl⟩
  | transientFail => exact ⟨SpoolDB.depth_markFailure db current.id now message, rfl⟩

/-- One statement moves rows between the accounts and loses none. -/
theorem statement_balance {db after : SpoolDB} {now : Time} {call next : SpoolCall}
    (taken : call.statement cfg db now = some (after, next)) :
    (after.depth : Int) + after.dropsTotal + owesBump (ongoing next) + acceptedBy db call =
      db.depth + db.dropsTotal + owesBump (some call) + enqueuedBy db now call := by
  cases call with
  | insert probeRunID payload =>
    simp only [SpoolCall.statement] at taken
    cases inserted : db.insert probeRunID payload now with
    | none =>
      rw [inserted] at taken
      cases taken
      simp [enqueuedBy, acceptedBy, inserted, owesBump, ongoing, SpoolCall.finished]
    | some grown =>
      rw [inserted] at taken
      cases taken
      obtain ⟨deeper, drops⟩ := SpoolDB.depth_insert inserted
      simp [enqueuedBy, acceptedBy, inserted, owesBump, ongoing, SpoolCall.finished, deeper, drops]
      omega
  | select =>
    cases taken
    rw [owesBump_nextSend]
    rfl
  | settle started current outcome message rest stats =>
    cases taken
    obtain ⟨depth, drops⟩ := applyOutcome_balance db started now current outcome message rest stats
    rw [owesBump_nextSend, drops]
    simp only [owesBump, enqueuedBy]
    omega
  | oldestAge size stats =>
    cases taken
    simp [acceptedBy, enqueuedBy, owesBump, ongoing, SpoolCall.finished]
  | depth size age stats =>
    simp only [SpoolCall.statement] at taken
    split at taken
    · cases taken
      simp [acceptedBy, enqueuedBy, owesBump, ongoing, SpoolCall.finished]
    · cases taken
      simp [acceptedBy, enqueuedBy, owesBump, ongoing, SpoolCall.finished]
  | deleteOldest stats =>
    obtain ⟨depth, drops⟩ := SpoolDB.depth_deleteOldest db
    simp only [SpoolCall.statement] at taken
    split at taken
    · rename_i none
      cases taken
      simp only [acceptedBy, enqueuedBy, owesBump, ongoing, SpoolCall.finished, drops]
      simp only [if_true]
      omega
    · rename_i some
      cases taken
      have one : db.deleteOldest.2 = 1 := by
        unfold SpoolDB.deleteOldest at some ⊢
        split
        · rename_i empty
          rw [empty] at some
          exact absurd rfl some
        · rfl
      simp [acceptedBy, enqueuedBy, owesBump, ongoing, SpoolCall.finished, drops]
      omega
  | bumpDrops stats =>
    cases taken
    simp [acceptedBy, enqueuedBy, owesBump, ongoing, SpoolCall.finished, SpoolDB.bumpDrops, SpoolDB.depth]
    omega
  | sending now current rest stats => cases taken
  | footprint stats => cases taken
  | enqueued duplicate => cases taken
  | drained stats => cases taken

/-- What a step can do: put a call in place that owes no bump where none did, run a
statement, or end the call. -/
inductive SpoolEffect (cfg : Config) (process : SpoolProcess) : SpoolEvent → SpoolProcess → Prop where
  | moved {event : SpoolEvent} {call : Option SpoolCall} (goesOn : event ≠ .interrupt)
      (before : owesBump process.call = 0) (after : owesBump call = 0) :
      SpoolEffect cfg process event { process with call }
  | stated {now : Time} {call next : SpoolCall} {db : SpoolDB} (current : process.call = some call)
      (stepped : call.statement cfg process.db now = some (db, next)) :
      SpoolEffect cfg process (.statement now)
        { process with
          db
          call := ongoing next
          enqueued := process.enqueued + enqueuedBy process.db now call
          accepted := process.accepted + acceptedBy process.db call }
  | interrupted {call : SpoolCall} (current : process.call = some call) :
      SpoolEffect cfg process .interrupt
        { process with call := none, unbumped := process.unbumped + owesBump (some call) }

private theorem owesBump_enqueue (probeRunID payload : GoString) : owesBump (enqueue probeRunID payload) = 0 := by
  unfold enqueue
  split
  · rfl
  · split
    · rfl
    · rfl

private theorem spoolNext_effect {process after : SpoolProcess} {event : SpoolEvent}
    (taken : spoolNext cfg process event = some after) : SpoolEffect cfg process event after := by
  cases event with
  | enqueue probeRunID payload =>
    simp only [spoolNext] at taken
    split at taken
    · cases taken
    · rename_i idle
      cases taken
      exact .moved (by simp) (by rw [idle]; rfl) (owesBump_enqueue probeRunID payload)
  | drain =>
    simp only [spoolNext] at taken
    split at taken
    · cases taken
    · rename_i idle
      cases taken
      exact .moved (by simp) (by rw [idle]; rfl) rfl
  | statement now =>
    obtain ⟨call, current, moved⟩ := Option.bind_eq_some_iff.mp taken
    obtain ⟨⟨db, next⟩, stepped, same⟩ := Option.map_eq_some_iff.mp moved
    cases same
    exact .stated current stepped
  | sent outcome message =>
    obtain ⟨next, moved, same⟩ := Option.map_eq_some_iff.mp taken
    obtain ⟨call, current, answered⟩ := Option.bind_eq_some_iff.mp moved
    cases same
    cases call with
    | sending started candidate rest stats =>
      cases answered
      exact .moved (by simp) (by rw [current]; rfl) rfl
    | _ => cases answered
  | measured size =>
    obtain ⟨next, moved, same⟩ := Option.map_eq_some_iff.mp taken
    obtain ⟨call, current, answered⟩ := Option.bind_eq_some_iff.mp moved
    cases same
    cases call with
    | footprint stats =>
      cases answered
      exact .moved (by simp) (by rw [current]; rfl) rfl
    | _ => cases answered
  | interrupt =>
    obtain ⟨call, current, same⟩ := Option.map_eq_some_iff.mp taken
    cases same
    exact .interrupted current
  | reopen =>
    simp only [spoolNext] at taken
    split at taken
    · cases taken
    · rename_i idle
      cases taken
      have quiet : owesBump process.call = 0 := by rw [idle]; rfl
      exact .moved (by simp) quiet quiet

private theorem balanced_next {process after : SpoolProcess} {event : SpoolEvent} (balanced : Balanced process)
    (taken : spoolNext cfg process event = some after) : Balanced after := by
  unfold Balanced at balanced ⊢
  cases spoolNext_effect taken with
  | moved goesOn before quiet =>
    rw [before] at balanced
    rw [quiet]
    exact balanced
  | stated current stepped =>
    have move := statement_balance stepped
    rw [current] at balanced
    simp only [Int.natCast_add]
    omega
  | interrupted current =>
    rw [current] at balanced
    simp only [Int.natCast_add, owesBump] at balanced ⊢
    omega

/-- Only an interruption leaves a drop uncounted. -/
theorem unbumped_next {process after : SpoolProcess} {event : SpoolEvent}
    (taken : spoolNext cfg process event = some after) :
    after.unbumped = 0 ↔ process.unbumped = 0 ∧ FinishesBump process event := by
  cases spoolNext_effect taken with
  | moved goesOn before quiet =>
    have vacuous : FinishesBump process event := fun same => absurd same goesOn
    simp [vacuous]
  | @stated now call next db current stepped =>
    have vacuous : FinishesBump process (.statement now) := fun same => by cases same
    simp [vacuous]
  | interrupted current =>
    simp only [FinishesBump, current, forall_const]
    omega

end Steps

/-- Row accounting at every moment without a call in progress: it is exact if and only
if no call ended between a retention delete and the bump that counts it. -/
theorem spool_accounting_iff (cfg : Config) (events : List SpoolEvent) (process : SpoolProcess)
    (run : exec (spoolNext cfg) .start events = some process) (idle : process.call = none) :
    (process.enqueued : Int) = process.db.depth + process.accepted + process.db.dropsTotal ↔
      Along (spoolNext cfg) FinishesBump .start events := by
  have initially : Balanced .start := by
    unfold Balanced
    rfl
  have balanced : Balanced process :=
    exec_invariant Balanced initially (fun _ _ _ held step => balanced_next held step) run
  have counted : process.unbumped = 0 ↔ Along (spoolNext cfg) FinishesBump .start events := by
    refine exec_history (fun past state => state.unbumped = 0 ↔ Along (spoolNext cfg) FinishesBump .start past)
      ⟨fun _ => trivial, fun _ => rfl⟩ ?_ run
    intro past before event after earlier soFar step
    rw [unbumped_next step, soFar, along_concat_iff earlier]
  rw [← counted]
  unfold Balanced at balanced
  rw [idle] at balanced
  simp only [owesBump] at balanced
  omega

/-- A spool that may hold nothing: every row is over the size bound. -/
def tightConfig : Config where
  drainRows := 100
  maxAge := 3600 * second
  maxSize := 0
  backoffBase := second
  backoffMax := 60 * second

/-- One row is enqueued, its send fails, and retention deletes it. -/
def dropOneRow : List SpoolEvent :=
  [.enqueue (lit "run-1") (lit "payload"), .statement 0, .drain, .statement 0,
    .sent .transientFail (lit "503"), .statement 0, .measured 4096, .statement 0, .statement 0, .statement 0]

/-- The process stops between the retention delete and its bump: the row is in none of
the three accounts. -/
theorem stop_before_bump_loses_drop :
    ∃ process, exec (spoolNext tightConfig) .start (dropOneRow ++ [.interrupt, .reopen]) = some process ∧
      process.call = none ∧
      (process.enqueued : Int) ≠ process.db.depth + process.accepted + process.db.dropsTotal := by
  refine ⟨_, rfl, rfl, ?_⟩
  decide

/-- The same run carried to the end of the drain. -/
theorem drop_counted :
    ∃ process,
      exec (spoolNext tightConfig) .start
        (dropOneRow ++ [.statement 0, .measured 0, .statement 0, .statement 0]) = some process ∧
      process.call = none ∧ process.db.dropsTotal = 1 ∧
      ((process.enqueued : Int) = process.db.depth + process.accepted + process.db.dropsTotal ↔
        Along (spoolNext tightConfig) FinishesBump .start
          (dropOneRow ++ [.statement 0, .measured 0, .statement 0, .statement 0])) :=
  ⟨_, rfl, rfl, rfl, spool_accounting_iff tightConfig
    (dropOneRow ++ [.statement 0, .measured 0, .statement 0, .statement 0]) _ rfl rfl⟩

end NetLatencyMonitor.Spool
