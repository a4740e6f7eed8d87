import Mathlib.Data.Int.Order.Basic
import NetLatencyMonitor.Machine.Unwinding
import NetLatencyMonitor.Tickets.RateLimiter

/-! Runs of the limiter's three calls at times that do not go back: what the entry of one
IP stands for, that no other call touches it, and that a block has its cause in the calls
before it. -/

namespace NetLatencyMonitor.Tickets

open Clock Keyed Text Machine

inductive Call where
  | recordFailure (ip : GoString)
  | blocked (ip : GoString)
  | pruneExpired
deriving DecidableEq, Repr

/-- The IP a call is about. -/
def Call.ip? : Call → Option GoString
  | .recordFailure ip => some ip
  | .blocked ip => some ip
  | .pruneExpired => none

/-- A call and the reading of the clock it takes under the mutex. -/
structure TimedCall where
  now : Reading
  call : Call
deriving DecidableEq, Repr

/-- What the calls return. -/
inductive Answer where
  | flag (value : Bool)
  | pruned (count : Nat)
deriving DecidableEq, Repr

def RateLimiter.serve (limiter : RateLimiter) (timed : TimedCall) : RateLimiter × Answer :=
  match timed.call with
  | .recordFailure ip =>
    let (after, blocks) := limiter.recordFailure ip timed.now
    (after, .flag blocks)
  | .blocked ip => (limiter, .flag (limiter.blocked ip timed.now))
  | .pruneExpired =>
    let (after, count) := limiter.pruneExpired timed.now
    (after, .pruned count)

/-- Calls at non-decreasing times. -/
def Ordered (calls : List TimedCall) : Prop := calls.Pairwise (fun first second => first.now ≤ second.now)

/-! One entry. -/

/-- What an entry means for the calls to come: a count and the start of its window, and
the end of the block when that still lasts. -/
structure Tally where
  count : Int
  windowStart : Time
  blockedUntil : Option Time
deriving DecidableEq, Repr

/-- An entry whose block and window are over means no more than a missing one. -/
def IpState.tally (window : Duration) (now : Time) (st : IpState) : Option Tally :=
  if now < st.blockedUntil then some ⟨st.count, st.windowStart, some st.blockedUntil⟩
  else if now - st.windowStart > window then none
  else some ⟨st.count, st.windowStart, none⟩

/-- What is left of a tally at a later time. -/
def Tally.later (window : Duration) (now : Time) (tally : Tally) : Option Tally :=
  match tally.blockedUntil with
  | some blockEnd =>
    if now < blockEnd then some tally
    else if now - tally.windowStart > window then none
    else some { tally with blockedUntil := none }
  | none => if now - tally.windowStart > window then none else some tally

/-- A failure in terms of the tally: there is never a passed window to reset. -/
def Tally.fail (limit : Int) (block : Duration) (now : Time) (tally : Option Tally) : Tally × Bool :=
  let tally := tally.getD ⟨0, now, none⟩
  if tally.blockedUntil.isSome then (tally, false)
  else
    let tally := { tally with count := tally.count + 1 }
    if tally.count ≥ limit then ({ tally with blockedUntil := some (now + block) }, true) else (tally, false)

section Entry

variable {limit : Int} {window block : Duration} {now : Time} {st : IpState}

private theorem IpState.tally_blocked (blocked : now < st.blockedUntil) :
    st.tally window now = some ⟨st.count, st.windowStart, some st.blockedUntil⟩ :=
  if_pos blocked

theorem IpState.tally_over (unblocked : ¬ now < st.blockedUntil) (rolled : now - st.windowStart > window) :
    st.tally window now = none := by
  rw [IpState.tally, if_neg unblocked, if_pos rolled]

private theorem IpState.tally_open (unblocked : ¬ now < st.blockedUntil) (inside : ¬ now - st.windowStart > window) :
    st.tally window now = some ⟨st.count, st.windowStart, none⟩ := by
  rw [IpState.tally, if_neg unblocked, if_neg inside]

theorem IpState.tally_later {laterTime : Time} (passed : now ≤ laterTime) (st : IpState) :
    st.tally window laterTime = (st.tally window now).bind (Tally.later window laterTime) := by
  by_cases blocked : now < st.blockedUntil
  · rw [tally_blocked blocked]
    rfl
  · have ended : ¬ laterTime < st.blockedUntil := by lia
    by_cases rolled : now - st.windowStart > window
    · have still : laterTime - st.windowStart > window := by lia
      rw [tally_over blocked rolled, tally_over ended still]
      rfl
    · rw [tally_open blocked rolled, IpState.tally, if_neg ended]
      rfl

private theorem IpState.tally_expired (expired : st.expired window now = true) : st.tally window now = none := by
  simp only [IpState.expired, Bool.and_eq_true, decide_eq_true_eq] at expired
  exact tally_over (by lia) expired.2

theorem Tally.fail_open {count : Int} {windowStart : Time} :
    Tally.fail limit block now (some ⟨count, windowStart, none⟩) =
      if count + 1 ≥ limit then (⟨count + 1, windowStart, some (now + block)⟩, true)
      else (⟨count + 1, windowStart, none⟩, false) := rfl

theorem Tally.fail_none : Tally.fail limit block now none = Tally.fail limit block now (some ⟨0, now, none⟩) := rfl

/-- A failure of an entry in its tally. -/
theorem IpState.tally_fail (windowPos : 0 < window) (blockPos : 0 < block) (st : IpState) :
    (st.fail limit window block now).tally window now =
        some (Tally.fail limit block now (st.tally window now)).1 ∧
      (!decide (now < st.blockedUntil) && decide ((st.fail limit window block now).count ≥ limit)) =
        (Tally.fail limit block now (st.tally window now)).2 := by
  have ahead : now < now + block := by lia
  have opened : ¬ now - now > window := by lia
  by_cases blocked : now < st.blockedUntil
  · rw [fail_blocked blocked, tally_blocked blocked]
    simp [Tally.fail, blocked]
  · by_cases rolled : now - st.windowStart > window
    · rw [fail_rolled blocked rolled, tally_over blocked rolled, Tally.fail_none, Tally.fail_open, Int.zero_add]
      by_cases full : 1 ≥ limit
      · rw [if_pos full, if_pos full, tally_blocked ahead]
        simp [blocked, full]
      · have fresh : IpState.tally window now ⟨st.ip, 1, now, st.blockedUntil⟩ = some ⟨1, now, none⟩ :=
          tally_open blocked opened
        rw [if_neg full, if_neg full, fresh]
        simp [full]
    · rw [fail_counted blocked rolled, tally_open blocked rolled, Tally.fail_open]
      by_cases full : st.count + 1 ≥ limit
      · rw [if_pos full, if_pos full, tally_blocked ahead]
        simp [blocked, full]
      · have more : IpState.tally window now ⟨st.ip, st.count + 1, st.windowStart, st.blockedUntil⟩ =
            some ⟨st.count + 1, st.windowStart, none⟩ := tally_open blocked rolled
        rw [if_neg full, if_neg full, more]
        simp [full]

/-- A missing entry fails as the one that is made for it. -/
theorem tally_fail_new (windowPos : 0 < window) (read : zeroTime < now) (ip : GoString) :
    Tally.fail limit block now (IpState.tally window now { ip, windowStart := now }) =
      Tally.fail limit block now none := by
  have unblocked : ¬ now < zeroTime := by lia
  have opened : ¬ now - now > window := by lia
  rw [IpState.tally_open unblocked opened, Tally.fail_none]

end Entry

/-! The limiter, seen through the tallies. -/

namespace RateLimiter

def tally (limiter : RateLimiter) (now : Time) (ip : GoString) : Option Tally :=
  (limiter.failures.find? ip).bind (IpState.tally limiter.window now)

theorem tally_later {limiter : RateLimiter} {now laterTime : Time} (passed : now ≤ laterTime) (ip : GoString) :
    limiter.tally laterTime ip = (limiter.tally now ip).bind (Tally.later limiter.window laterTime) := by
  unfold tally
  cases limiter.failures.find? ip with
  | none => rfl
  | some st => exact st.tally_later passed

theorem blocked_eq_tally (limiter : RateLimiter) (now : Time) (ip : GoString) :
    limiter.blocked ip now = ((limiter.tally now ip).bind Tally.blockedUntil).isSome := by
  unfold blocked tally
  cases limiter.failures.find? ip with
  | none => rfl
  | some st =>
    by_cases blocked : now < st.blockedUntil
    · simp [IpState.tally_blocked blocked, blocked]
    · by_cases rolled : now - st.windowStart > limiter.window
      · simp [IpState.tally_over blocked rolled, blocked]
      · simp [IpState.tally_open blocked rolled, blocked]

theorem tally_pruneExpired (limiter : RateLimiter) (now : Time) (ip : GoString) :
    (limiter.pruneExpired now).1.tally now ip = limiter.tally now ip := by
  unfold tally
  rw [find?_pruneExpired]
  cases limiter.failures.find? ip with
  | none => rfl
  | some st =>
    cases expired : st.expired limiter.window now with
    | false =>
      rw [Option.filter_some_pos (by rw [expired]; rfl)]
      rfl
    | true =>
      rw [Option.filter_some_neg (by rw [expired]; rfl)]
      exact (IpState.tally_expired expired).symm

theorem tally_recordFailure_other (limiter : RateLimiter) (now : Time) {ip other : GoString} (different : other ≠ ip) :
    (limiter.recordFailure ip now).1.tally now other = limiter.tally now other := by
  unfold tally
  rw [find?_recordFailure, if_neg different]
  rfl

/-- A failure acts on the tally of its IP, and answers as the tally does. -/
theorem tally_recordFailure {limiter : RateLimiter} (windowPos : 0 < limiter.window) (blockPos : 0 < limiter.block)
    {now : Time} (read : zeroTime < now) (ip : GoString) :
    (limiter.recordFailure ip now).1.tally now ip =
        some (Tally.fail limiter.limit limiter.block now (limiter.tally now ip)).1 ∧
      (limiter.recordFailure ip now).2 = (Tally.fail limiter.limit limiter.block now (limiter.tally now ip)).2 := by
  have written := find?_recordFailure limiter ip now ip
  rw [if_pos rfl] at written
  have window : (limiter.recordFailure ip now).1.window = limiter.window := rfl
  cases found : limiter.failures.find? ip with
  | none =>
    obtain ⟨after, answer⟩ := @IpState.tally_fail limiter.limit limiter.window limiter.block now windowPos blockPos
      { ip, windowStart := now }
    rw [tally_fail_new windowPos read] at after answer
    rw [found] at written
    unfold tally
    rw [written, window, found]
    refine ⟨after, ?_⟩
    simp only [recordFailure, found]
    exact answer
  | some st =>
    obtain ⟨after, answer⟩ := @IpState.tally_fail limiter.limit limiter.window limiter.block now windowPos blockPos st
    rw [found] at written
    unfold tally
    rw [written, window, found]
    refine ⟨after, ?_⟩
    simp only [recordFailure, found]
    exact answer

end RateLimiter

/-! Two limiters that answer alike about some IPs. -/

/-- Whether a call is about one of the IPs. -/
def about (ips : GoString → Bool) (timed : TimedCall) : Bool := timed.call.ip?.any ips

structure Alike (ips : GoString → Bool) (now : Reading) (left right : RateLimiter) : Prop where
  limit : left.limit = right.limit
  window : left.window = right.window
  block : left.block = right.block
  windowPos : 0 < left.window
  blockPos : 0 < left.block
  tallies : ∀ ip, ips ip = true → left.tally now ip = right.tally now ip

section Runs

variable {ips : GoString → Bool}

theorem Alike.later {now laterTime : Reading} {left right : RateLimiter} (passed : now ≤ laterTime)
    (alike : Alike ips now left right) : Alike ips laterTime left right where
  limit := alike.limit
  window := alike.window
  block := alike.block
  windowPos := alike.windowPos
  blockPos := alike.blockPos
  tallies := by
    intro ip among
    rw [RateLimiter.tally_later passed, RateLimiter.tally_later passed, alike.tallies ip among, alike.window]

theorem serve_settings (limiter : RateLimiter) (timed : TimedCall) :
    (limiter.serve timed).1.limit = limiter.limit ∧ (limiter.serve timed).1.window = limiter.window ∧
      (limiter.serve timed).1.block = limiter.block := by
  unfold RateLimiter.serve
  cases timed.call with
  | recordFailure ip => exact ⟨rfl, rfl, rfl⟩
  | blocked ip => exact ⟨rfl, rfl, rfl⟩
  | pruneExpired => exact ⟨rfl, rfl, rfl⟩

/-- A call that is not about an IP leaves the tally of the IP. -/
theorem tally_serve_other {limiter : RateLimiter} {timed : TimedCall} {ip : GoString}
    (other : timed.call.ip? ≠ some ip) :
    (limiter.serve timed).1.tally timed.now ip = limiter.tally timed.now ip := by
  obtain ⟨now, call⟩ := timed
  cases call with
  | recordFailure failed =>
    exact limiter.tally_recordFailure_other now (fun same => other (congrArg some same.symm))
  | blocked asked => rfl
  | pruneExpired => exact limiter.tally_pruneExpired now ip

theorem Alike.unseen {timed : TimedCall} {left right : RateLimiter} (hidden : about ips timed = false)
    (alike : Alike ips timed.now left right) : Alike ips timed.now (left.serve timed).1 right := by
  obtain ⟨limit, window, block⟩ := serve_settings left timed
  refine ⟨limit.trans alike.limit, window.trans alike.window, block.trans alike.block, window ▸ alike.windowPos,
    block ▸ alike.blockPos, fun ip among => ?_⟩
  rw [tally_serve_other, alike.tallies ip among]
  intro same
  rw [about, same] at hidden
  exact absurd (among.symm.trans hidden) (by decide)

theorem Alike.visible {timed : TimedCall} {left right : RateLimiter} (seen : about ips timed = true)
    (alike : Alike ips timed.now left right) :
    (left.serve timed).2 = (right.serve timed).2 ∧ Alike ips timed.now (left.serve timed).1 (right.serve timed).1 := by
  obtain ⟨now, call⟩ := timed
  cases call with
  | recordFailure ip =>
    obtain ⟨leftAfter, leftAnswer⟩ := left.tally_recordFailure alike.windowPos alike.blockPos now.2 ip
    obtain ⟨rightAfter, rightAnswer⟩ := right.tally_recordFailure (alike.window ▸ alike.windowPos)
      (alike.block ▸ alike.blockPos) now.2 ip
    rw [alike.tallies ip seen, alike.limit, alike.block] at leftAfter leftAnswer
    refine ⟨congrArg Answer.flag (leftAnswer.trans rightAnswer.symm),
      alike.limit, alike.window, alike.block, alike.windowPos, alike.blockPos, fun other among => ?_⟩
    by_cases same : other = ip
    · subst other
      exact leftAfter.trans rightAfter.symm
    · exact (left.tally_recordFailure_other now same).trans
        ((alike.tallies other among).trans (right.tally_recordFailure_other now same).symm)
  | blocked ip =>
    refine ⟨congrArg Answer.flag ?_, alike⟩
    rw [RateLimiter.blocked_eq_tally, RateLimiter.blocked_eq_tally, alike.tallies ip seen]
  | pruneExpired => cases seen

instance : Preorder Reading := @Subtype.preorder Time Int.instLinearOrder.toPreorder _

private theorem alike_unwinds (ips : GoString → Bool) :
    Unwinds RateLimiter.serve TimedCall.now (about ips) (Alike ips) where
  later := Alike.later
  unseen := Alike.unseen
  visible := Alike.visible

theorem newRateLimiter_alike (limit : Int) (window block : Duration) (now : Reading) :
    Alike ips now (newRateLimiter limit window block) (newRateLimiter limit window block) := by
  refine ⟨rfl, rfl, rfl, ?_, ?_, fun _ _ => rfl⟩
  · unfold newRateLimiter
    simp only
    split
    · decide
    · lia
  · unfold newRateLimiter
    simp only
    split
    · decide
    · lia

/-- The answers about some IPs are those of the calls about them alone. -/
theorem answers_about (limit : Int) (window block : Duration) {calls : List TimedCall} (ordered : Ordered calls)
    (ips : GoString → Bool) :
    (answers RateLimiter.serve (newRateLimiter limit window block) calls).filter
        (fun answered => about ips answered.1) =
      answers RateLimiter.serve (newRateLimiter limit window block) (calls.filter (about ips)) :=
  (alike_unwinds ips).answers_filter ordered (fun timed _ => newRateLimiter_alike limit window block timed.now)

/-- Leaving out the `PruneExpired` calls changes no result of the others. -/
theorem pruneExpired_unobservable (limit : Int) (window block : Duration) {calls : List TimedCall}
    (ordered : Ordered calls) :
    (answers RateLimiter.serve (newRateLimiter limit window block) calls).filter
        (fun answered => decide (answered.1.call ≠ .pruneExpired)) =
      answers RateLimiter.serve (newRateLimiter limit window block)
        (calls.filter (fun timed => decide (timed.call ≠ .pruneExpired))) := by
  have all : ∀ timed : TimedCall, about (fun _ => true) timed = decide (timed.call ≠ .pruneExpired) := by
    rintro ⟨now, call⟩
    cases call <;> rfl
  simp only [← all]
  exact answers_about limit window block ordered (fun _ => true)

end Runs

/-- A reading of the clock this long after the epoch. -/
def secondsIn (count : Nat) : Reading := ⟨count * second, by
  show (-62135596800 : Int) * 1000000000 < (count : Int) * 1000000000
  omega⟩

/-- One failure, a prune after its window, a second failure. -/
def prunedRun : List TimedCall :=
  [⟨secondsIn 0, .recordFailure (lit "a")⟩, ⟨secondsIn 61, .pruneExpired⟩, ⟨secondsIn 61, .recordFailure (lit "a")⟩]

theorem pruneExpired_unobservable_between :
    Ordered prunedRun ∧
      (answers RateLimiter.serve (newRateLimiter 2 (60 * second) (60 * second)) prunedRun).filter
          (fun answered => decide (answered.1.call ≠ .pruneExpired)) =
        answers RateLimiter.serve (newRateLimiter 2 (60 * second) (60 * second))
          (prunedRun.filter (fun timed => decide (timed.call ≠ .pruneExpired))) := by
  have ordered : Ordered prunedRun := by
    unfold Ordered
    decide
  exact ⟨ordered, pruneExpired_unobservable 2 (60 * second) (60 * second) ordered⟩

end NetLatencyMonitor.Tickets
