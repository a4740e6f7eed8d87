import NetLatencyMonitor.Clock
import NetLatencyMonitor.Keyed.Table
import NetLatencyMonitor.Text.GoString

/-! The per-IP limiter of failed ticket validations. -/

namespace NetLatencyMonitor.Tickets

open Clock Keyed Text

def defaultBlockDuration : Duration := 60 * second

def defaultWindow : Duration := 60 * second

structure IpState where
  ip : GoString
  count : Int := 0
  windowStart : Time
  blockedUntil : Time := zeroTime
deriving DecidableEq, Repr

structure RateLimiter where
  failures : Table IpState IpState.ip
  limit : Int
  window : Duration
  block : Duration

def newRateLimiter (limit : Int) (window block : Duration) : RateLimiter where
  failures := .empty
  limit := if limit ≤ 0 then 10 else limit
  window := if window ≤ 0 then defaultWindow else window
  block := if block ≤ 0 then defaultBlockDuration else block

/-- One more failure, counted from a new window when the old one has passed. -/
def IpState.fail (limit : Int) (window block : Duration) (now : Time) (st : IpState) : IpState :=
  if now < st.blockedUntil then st
  else
    let st := if now - st.windowStart > window then { st with count := 0, windowStart := now } else st
    let st := { st with count := st.count + 1 }
    if st.count ≥ limit then { st with blockedUntil := now + block } else st

/-- What `PruneExpired` deletes: the block is over and the count window has rolled. -/
def IpState.expired (window : Duration) (now : Time) (st : IpState) : Bool :=
  decide (st.blockedUntil < now) && decide (now - st.windowStart > window)

theorem IpState.fail_ip (limit : Int) (window block : Duration) (now : Time) (st : IpState) :
    (st.fail limit window block now).ip = st.ip := by
  unfold IpState.fail
  split
  · rfl
  · simp only
    split <;> split <;> rfl

/-! The three ways a failure goes. -/

section Fail

variable {limit : Int} {window block : Duration} {now : Time} {st : IpState}

theorem IpState.fail_blocked (blocked : now < st.blockedUntil) : st.fail limit window block now = st :=
  if_pos blocked

theorem IpState.fail_rolled (unblocked : ¬ now < st.blockedUntil) (rolled : now - st.windowStart > window) :
    st.fail limit window block now =
      ⟨st.ip, 1, now, if 1 ≥ limit then now + block else st.blockedUntil⟩ := by
  unfold IpState.fail
  rw [if_neg unblocked, if_pos rolled]
  by_cases full : 1 ≥ limit
  · simp [full]
  · simp [full]

theorem IpState.fail_counted (unblocked : ¬ now < st.blockedUntil) (inside : ¬ now - st.windowStart > window) :
    st.fail limit window block now =
      ⟨st.ip, st.count + 1, st.windowStart, if st.count + 1 ≥ limit then now + block else st.blockedUntil⟩ := by
  unfold IpState.fail
  rw [if_neg unblocked, if_neg inside]
  by_cases full : st.count + 1 ≥ limit
  · simp [full]
  · simp [full]

end Fail

namespace RateLimiter

def blocked (limiter : RateLimiter) (ip : GoString) (now : Time) : Bool :=
  match limiter.failures.find? ip with
  | none => false
  | some st => decide (now < st.blockedUntil)

/-- `RecordFailure`, with whether this failure put the IP into a block. -/
def recordFailure (limiter : RateLimiter) (ip : GoString) (now : Time) : RateLimiter × Bool :=
  let fail := IpState.fail limiter.limit limiter.window limiter.block now
  let before := (limiter.failures.find? ip).getD { ip, windowStart := now }
  let failures := limiter.failures.upsert (fail { ip, windowStart := now }) fail
    (IpState.fail_ip limiter.limit limiter.window limiter.block now)
  ({ limiter with failures },
    !decide (now < before.blockedUntil) && decide ((fail before).count ≥ limiter.limit))

/-- `PruneExpired`, with the number of entries it deleted. -/
def pruneExpired (limiter : RateLimiter) (now : Time) : RateLimiter × Nat :=
  ({ limiter with failures := limiter.failures.filter (fun st => !st.expired limiter.window now) },
    limiter.failures.rows.countP (IpState.expired limiter.window now))

/-! What a lookup finds after a call. -/

theorem find?_recordFailure (limiter : RateLimiter) (ip : GoString) (now : Time) (other : GoString) :
    (limiter.recordFailure ip now).1.failures.find? other =
      if other = ip then
        some (IpState.fail limiter.limit limiter.window limiter.block now
          ((limiter.failures.find? ip).getD { ip, windowStart := now }))
      else limiter.failures.find? other := by
  have own : (IpState.fail limiter.limit limiter.window limiter.block now { ip, windowStart := now }).ip = ip :=
    IpState.fail_ip _ _ _ _ _
  unfold recordFailure
  simp only [Table.find?_upsert, own]
  cases limiter.failures.find? ip with
  | none => rfl
  | some st => rfl

theorem find?_pruneExpired (limiter : RateLimiter) (now : Time) (ip : GoString) :
    (limiter.pruneExpired now).1.failures.find? ip =
      (limiter.failures.find? ip).filter (fun st => !st.expired limiter.window now) :=
  Table.find?_filter

end RateLimiter

end NetLatencyMonitor.Tickets
