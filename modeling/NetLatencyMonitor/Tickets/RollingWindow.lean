import NetLatencyMonitor.Machine.History
import NetLatencyMonitor.Tickets.BlockCause

/-! The rolling window the limiter is documented to enforce, against the one count and one
window start it keeps. -/

namespace NetLatencyMonitor.Tickets

open Clock Keyed Text Machine

/-- One call's effect on the failures of an IP recorded since its last block: calls during
a block record nothing, and the call that starts a block leaves none. -/
def record (ip : GoString) (limiter : RateLimiter) (timed : TimedCall) (times : List Time) : List Time :=
  if timed.call = .recordFailure ip then
    if limiter.blocked ip timed.now then times
    else if (limiter.recordFailure ip timed.now).2 then []
    else times ++ [timed.now.val]
  else times

/-- The failures of an IP recorded since its last block, along a run. -/
def recorded (start : RateLimiter) (ip : GoString) (calls : List TimedCall) : List Time :=
  (calls.foldl (fun (state : RateLimiter × List Time) timed =>
    ((state.1.serve timed).1, record ip state.1 timed state.2)) (start, [])).2

/-- The failures among these that lie in the window that ends now. -/
def inWindow (window : Duration) (now : Time) (times : List Time) : Nat :=
  times.countP (fun time => decide (now - window ≤ time) && decide (time ≤ now))

/-- The documented behaviour of one call: with the limit reached in the rolling window, a
failure of an IP that is not blocked starts a block, which lasts for its whole length
whatever is called meanwhile. -/
def Enforced (start : RateLimiter) (past : List TimedCall) (timed : TimedCall) : Prop :=
  ∀ ip, timed.call = .recordFailure ip → (reached RateLimiter.serve start past).blocked ip timed.now = false →
    start.limit ≤ inWindow start.window timed.now (recorded start ip past ++ [timed.now.val]) →
    ((reached RateLimiter.serve start past).recordFailure ip timed.now).2 = true ∧
      ∀ (later : List TimedCall) (laterTime : Reading), (∀ other ∈ timed :: later, other.now ≤ laterTime) →
        laterTime.val < timed.now.val + start.block →
        (reached RateLimiter.serve start (past ++ timed :: later)).blocked ip laterTime = true

/-- A failure that opens a new window drops no failure of the rolling one. -/
def OpensFresh (start : RateLimiter) (past : List TimedCall) (timed : TimedCall) : Prop :=
  ∀ ip, timed.call = .recordFailure ip → (reached RateLimiter.serve start past).tally timed.now ip = none →
    ∀ time ∈ recorded start ip past, time < timed.now.val - start.window

section Recorded

variable {start : RateLimiter} {ip : GoString}

private theorem recorded_concat (past : List TimedCall) (timed : TimedCall) :
    recorded start ip (past ++ [timed]) =
      record ip (reached RateLimiter.serve start past) timed (recorded start ip past) := by
  have state : ∀ (calls : List TimedCall) (pair : RateLimiter × List Time),
      (calls.foldl (fun (state : RateLimiter × List Time) timed =>
        ((state.1.serve timed).1, record ip state.1 timed state.2)) pair).1 =
        reached RateLimiter.serve pair.1 calls := by
    intro calls
    induction calls with
    | nil => exact fun _ => rfl
    | cons first rest ih => exact fun pair => ih _
  unfold recorded
  rw [List.foldl_concat, state]

private theorem record_other {limiter : RateLimiter} {timed : TimedCall} (other : timed.call ≠ .recordFailure ip)
    (times : List Time) : record ip limiter timed times = times := if_neg other

private theorem record_blocked {limiter : RateLimiter} {now : Reading} (blocked : limiter.blocked ip now = true)
    (times : List Time) : record ip limiter ⟨now, .recordFailure ip⟩ times = times := by
  unfold record
  rw [if_pos rfl, if_pos blocked]

private theorem record_unblocked {limiter : RateLimiter} {now : Reading} (unblocked : limiter.blocked ip now = false)
    (times : List Time) :
    record ip limiter ⟨now, .recordFailure ip⟩ times = [] ∨
      record ip limiter ⟨now, .recordFailure ip⟩ times = times ++ [now.val] := by
  unfold record
  rw [if_pos rfl, if_neg (Bool.eq_false_iff.mp unblocked)]
  split
  · exact Or.inl rfl
  · exact Or.inr rfl

end Recorded

/-- What an entry knows of the recorded failures: those since its window start are in its
count, and older ones are out of every rolling window that reaches it. -/
structure Covers (window : Duration) (st : IpState) (times : List Time) : Prop where
  counted : (times.countP (fun time => decide (st.windowStart ≤ time)) : Int) ≤ st.count
  old : ∀ time ∈ times, time < st.windowStart → time < st.windowStart - window

section Covers

variable {limit : Int} {window block : Duration} {now : Time} {st : IpState} {times : List Time}

theorem Covers.nonneg (covers : Covers window st times) : 0 ≤ st.count :=
  Int.le_trans (Int.natCast_nonneg _) covers.counted

/-- After a failure that starts a block there is nothing to cover. -/
theorem covers_nil {next : IpState} (nonneg : 0 ≤ next.count) : Covers window next [] :=
  ⟨nonneg, fun _ member => (List.not_mem_nil member).elim⟩

private theorem covers_opened {next : IpState} (windowPos : 0 < window) (opened : next.windowStart = now)
    (one : 1 ≤ next.count)
    (fresh : ∀ time ∈ times, time < now - window) : Covers window next (times ++ [now]) := by
  have uncounted : times.countP (fun time => decide (next.windowStart ≤ time)) = 0 := by
    rw [List.countP_eq_zero]
    intro time member inside
    have early := fresh time member
    have late : next.windowStart ≤ time := of_decide_eq_true inside
    lia
  constructor
  · rw [List.countP_append, uncounted, Nat.zero_add]
    exact Int.le_trans (Int.ofNat_le.mpr List.countP_le_length) one
  · intro time member early
    rcases List.mem_append.mp member with before | last
    · exact opened ▸ fresh time before
    · rw [List.mem_singleton.mp last, opened] at early
      exact absurd early (Int.lt_irrefl now)

theorem Covers.counts {next : IpState} (covers : Covers window st times) (same : next.windowStart = st.windowStart)
    (more : st.count + 1 ≤ next.count) (inside : st.windowStart ≤ now) : Covers window next (times ++ [now]) := by
  constructor
  · rw [List.countP_append, same, Int.natCast_add]
    have last : [now].countP (fun time => decide (st.windowStart ≤ time)) ≤ 1 := List.countP_le_length
    have before := covers.counted
    lia
  · intro time member early
    rw [same] at early ⊢
    rcases List.mem_append.mp member with before | last
    · exact covers.old time before early
    · rw [List.mem_singleton.mp last] at early
      exact absurd inside (Int.not_le.mpr early)

/-- The failures of the rolling window are in the count, unless the window has passed. -/
theorem Covers.inWindow_le (covers : Covers window st times) (inside : ¬ now - st.windowStart > window)
    (started : st.windowStart ≤ now) : (inWindow window now (times ++ [now]) : Int) ≤ st.count + 1 := by
  have fewer : times.countP (fun time => decide (now - window ≤ time) && decide (time ≤ now)) ≤
      times.countP (fun time => decide (st.windowStart ≤ time)) := by
    refine List.countP_mono_left (fun time member recent => ?_)
    simp only [Bool.and_eq_true, decide_eq_true_eq] at recent ⊢
    by_contra early
    have out := covers.old time member (Int.not_le.mp early)
    have current : now - st.windowStart ≤ window := Int.not_lt.mp inside
    lia
  have last : [now].countP (fun time => decide (now - window ≤ time) && decide (time ≤ now)) ≤ 1 :=
    List.countP_le_length
  have counted := covers.counted
  unfold inWindow
  rw [List.countP_append, Int.natCast_add]
  lia

private theorem inWindow_fresh (fresh : ∀ time ∈ times, time < now - window) :
    inWindow window now (times ++ [now]) ≤ 1 := by
  have uncounted : times.countP (fun time => decide (now - window ≤ time) && decide (time ≤ now)) = 0 := by
    rw [List.countP_eq_zero]
    intro time member recent
    simp only [Bool.and_eq_true, decide_eq_true_eq] at recent
    have early := fresh time member
    lia
  unfold inWindow
  rw [List.countP_append, uncounted, Nat.zero_add]
  exact List.countP_le_length

end Covers

section Lookups

variable {limiter : RateLimiter} {ip : GoString} {now : Reading}

private theorem blocked_of_find? {st : IpState} (found : limiter.failures.find? ip = some st) :
    limiter.blocked ip now = decide (now.val < st.blockedUntil) := by
  simp only [RateLimiter.blocked, found]

private theorem tally_of_find? {st : IpState} (found : limiter.failures.find? ip = some st) :
    limiter.tally now ip = st.tally limiter.window now := by
  simp only [RateLimiter.tally, found, Option.bind_some]

private theorem unblocked_of_missing (missing : limiter.failures.find? ip = none) :
    limiter.blocked ip now = false ∧ limiter.tally now ip = none := by
  simp only [RateLimiter.blocked, RateLimiter.tally, missing, Option.bind_none, and_self]

/-- The entry that is made for the first failure. -/
theorem fail_new (windowPos : 0 < limiter.window) :
    IpState.fail limiter.limit limiter.window limiter.block now { ip, windowStart := now.val } =
      ⟨ip, 1, now, if 1 ≥ limiter.limit then now.val + limiter.block else zeroTime⟩ := by
  have unblocked : ¬ now.val < zeroTime := Int.not_lt.mpr (Int.le_of_lt now.2)
  have opened : ¬ now.val - now.val > limiter.window := by lia
  exact IpState.fail_counted unblocked opened

/-- A failure of an entry that covers the recorded failures leaves one that does, when a new
window opens fresh. -/
theorem covers_recordFailure {times : List Time} {st : IpState} (windowPos : 0 < limiter.window)
    (before : ∀ entry, limiter.failures.find? ip = some entry →
      Covers limiter.window entry times ∧ entry.windowStart ≤ now.val)
    (fresh : limiter.tally now ip = none → ∀ time ∈ times, time < now.val - limiter.window)
    (found : (limiter.recordFailure ip now).1.failures.find? ip = some st) :
    Covers limiter.window st (record ip limiter ⟨now, .recordFailure ip⟩ times) := by
  rw [RateLimiter.find?_recordFailure, if_pos rfl] at found
  cases old : limiter.failures.find? ip with
  | none =>
    obtain ⟨unblocked, missing⟩ := @unblocked_of_missing _ ip now old
    rw [old, Option.getD_none, fail_new windowPos] at found
    cases found
    rcases record_unblocked unblocked times with cleared | added
    · rw [cleared]
      exact covers_nil (show (0 : Int) ≤ 1 by decide)
    · rw [added]
      exact covers_opened windowPos rfl (Int.le_refl 1) (fresh missing)
  | some entry =>
    rw [old, Option.getD_some] at found
    obtain ⟨covers, started⟩ := before entry old
    by_cases blocked : now.val < entry.blockedUntil
    · rw [IpState.fail_blocked blocked] at found
      cases found
      rw [record_blocked (by rw [blocked_of_find? old]; exact decide_eq_true blocked)]
      exact covers
    · have unblocked : limiter.blocked ip now = false := by
        rw [blocked_of_find? old]
        exact decide_eq_false blocked
      by_cases rolled : now.val - entry.windowStart > limiter.window
      · rw [IpState.fail_rolled blocked rolled] at found
        cases found
        have opens : limiter.tally now ip = none := by
          rw [tally_of_find? old]
          exact IpState.tally_over blocked rolled
        rcases record_unblocked unblocked times with cleared | added
        · rw [cleared]
          exact covers_nil (show (0 : Int) ≤ 1 by decide)
        · rw [added]
          exact covers_opened windowPos rfl (Int.le_refl 1) (fresh opens)
      · rw [IpState.fail_counted blocked rolled] at found
        cases found
        rcases record_unblocked unblocked times with cleared | added
        · rw [cleared]
          exact covers_nil (Int.le_trans covers.nonneg (Int.le_add_of_nonneg_right (by decide)))
        · rw [added]
          exact covers.counts rfl (Int.le_refl _) started

/-- With the limit reached in the rolling window, the failure blocks. -/
theorem recordFailure_blocks_of_covers {times : List Time} (windowPos : 0 < limiter.window)
    (before : ∀ entry, limiter.failures.find? ip = some entry →
      Covers limiter.window entry times ∧ entry.windowStart ≤ now.val)
    (fresh : limiter.tally now ip = none → ∀ time ∈ times, time < now.val - limiter.window)
    (unblocked : limiter.blocked ip now = false)
    (enough : limiter.limit ≤ inWindow limiter.window now.val (times ++ [now.val])) :
    (limiter.recordFailure ip now).2 = true := by
  cases old : limiter.failures.find? ip with
  | none =>
    have full : 1 ≥ limiter.limit :=
      Int.le_trans enough (Int.ofNat_le.mpr (inWindow_fresh (fresh (unblocked_of_missing old).2)))
    simp only [RateLimiter.recordFailure, old, Option.getD_none, fail_new windowPos]
    have early : ¬ now.val < zeroTime := Int.not_lt.mpr (Int.le_of_lt now.2)
    rw [decide_eq_false early]
    exact decide_eq_true full
  | some entry =>
    obtain ⟨covers, started⟩ := before entry old
    rw [blocked_of_find? old] at unblocked
    have free : ¬ now.val < entry.blockedUntil := of_decide_eq_false unblocked
    simp only [RateLimiter.recordFailure, old, Option.getD_some]
    rw [decide_eq_false free]
    by_cases rolled : now.val - entry.windowStart > limiter.window
    · have opens : limiter.tally now ip = none := by
        rw [tally_of_find? old]
        exact IpState.tally_over free rolled
      have full : 1 ≥ limiter.limit := Int.le_trans enough (Int.ofNat_le.mpr (inWindow_fresh (fresh opens)))
      rw [IpState.fail_rolled free rolled]
      exact decide_eq_true full
    · have full : entry.count + 1 ≥ limiter.limit := Int.le_trans enough (covers.inWindow_le rolled started)
      rw [IpState.fail_counted free rolled]
      exact decide_eq_true full

/-- A failure that blocks leaves an entry blocked for the length of a block. -/
theorem recordFailure_blockedUntil (blocks : (limiter.recordFailure ip now).2 = true) :
    ∃ st, (limiter.recordFailure ip now).1.failures.find? ip = some st ∧
      st.blockedUntil = now.val + limiter.block := by
  refine ⟨_, (RateLimiter.find?_recordFailure limiter ip now ip).trans (if_pos rfl), ?_⟩
  simp only [RateLimiter.recordFailure, Bool.and_eq_true, Bool.not_eq_true', decide_eq_true_eq,
    decide_eq_false_iff_not] at blocks
  obtain ⟨free, full⟩ := blocks
  revert full
  generalize (limiter.failures.find? ip).getD { ip, windowStart := now.val } = st at free ⊢
  by_cases rolled : now.val - st.windowStart > limiter.window
  · rw [IpState.fail_rolled free rolled]
    exact fun full => if_pos full
  · rw [IpState.fail_counted free rolled]
    exact fun full => if_pos full

/-- Until its block ends, no call touches an entry. -/
theorem find?_during_block {st : IpState} {later : List TimedCall} (found : limiter.failures.find? ip = some st)
    (during : ∀ timed ∈ later, timed.now.val < st.blockedUntil) :
    (reached RateLimiter.serve limiter later).failures.find? ip = some st := by
  induction later generalizing limiter with
  | nil => exact found
  | cons timed rest ih =>
    refine ih ?_ (fun other member => during other (List.mem_cons_of_mem timed member))
    have blocked := during timed List.mem_cons_self
    obtain ⟨now, call⟩ := timed
    cases call with
    | blocked asked => exact found
    | pruneExpired =>
      refine (RateLimiter.find?_pruneExpired limiter now ip).trans (Option.filter_eq_some_iff.mpr ⟨found, ?_⟩)
      have early : ¬ st.blockedUntil < now.val := Int.not_lt.mpr (Int.le_of_lt blocked)
      simp only [IpState.expired, decide_eq_false early, Bool.false_and, Bool.not_false]
    | recordFailure failed =>
      refine (RateLimiter.find?_recordFailure limiter failed now ip).trans ?_
      by_cases same : ip = failed
      · rw [if_pos same, ← same, found, Option.getD_some, IpState.fail_blocked blocked]
      · rw [if_neg same]
        exact found

end Lookups

section Runs

variable {start : RateLimiter}

/-- Along a run in which every new window opens fresh, every entry covers the recorded
failures of its IP. -/
theorem covers_run (empty : start.failures = .empty) (windowPos : 0 < start.window) {calls : List TimedCall}
    (ordered : Ordered calls) (fresh : Throughout (OpensFresh start) calls) {ip : GoString} {st : IpState}
    (found : (reached RateLimiter.serve start calls).failures.find? ip = some st) :
    Covers start.window st (recorded start ip calls) := by
  induction calls using List.reverseRecOn generalizing ip st with
  | nil =>
    have absent : start.failures.find? ip = some st := found
    rw [empty] at absent
    cases absent
  | append_singleton past timed ih =>
    have earlier := (List.pairwise_append.mp ordered).1
    obtain ⟨freshBefore, opensFresh⟩ := fresh.split
    have before := @ih earlier freshBefore
    have window := (reached_settings start past).2.1
    rw [reached_append] at found
    rw [recorded_concat]
    obtain ⟨now, call⟩ := timed
    cases call with
    | blocked asked =>
      rw [record_other (by simp)]
      exact before found
    | pruneExpired =>
      rw [record_other (by simp)]
      have kept := RateLimiter.find?_pruneExpired (reached RateLimiter.serve start past) now ip
      exact before (Option.filter_eq_some_iff.mp (kept.symm.trans found)).1
    | recordFailure failed =>
      by_cases same : ip = failed
      · subst failed
        rw [← window]
        refine covers_recordFailure (window ▸ windowPos) (fun entry old => ⟨window ▸ before old, ?_⟩)
          (fun opens => window ▸ opensFresh ip rfl opens) found
        exact (backed_run empty windowPos earlier old).started (fun timed member =>
          ordered.bound timed (List.mem_append_left _ member))
      · have written :=
          (RateLimiter.find?_recordFailure (reached RateLimiter.serve start past) failed now ip).symm.trans found
        rw [if_neg same] at written
        rw [record_other (fun own => same (Call.recordFailure.inj own).symm)]
        exact before written

private theorem enforced_of_covers (empty : start.failures = .empty) (windowPos : 0 < start.window)
    {past : List TimedCall}
    {timed : TimedCall} (ordered : Ordered (past ++ [timed]))
    (fresh : Throughout (OpensFresh start) (past ++ [timed])) :
    Enforced start past timed := by
  intro ip call unblocked enough
  obtain ⟨limit, window, block⟩ := reached_settings start past
  have earlier := (List.pairwise_append.mp ordered).1
  obtain ⟨freshBefore, opensFresh⟩ := fresh.split
  have blocks : ((reached RateLimiter.serve start past).recordFailure ip timed.now).2 = true := by
    rw [← limit, ← window] at enough
    refine recordFailure_blocks_of_covers (window ▸ windowPos) (fun entry old => ⟨?_, ?_⟩)
      (fun opens => window ▸ opensFresh ip call opens) unblocked enough
    · exact window ▸ covers_run empty windowPos earlier freshBefore old
    · exact (backed_run empty windowPos earlier old).started (fun other member =>
        ordered.bound other (List.mem_append_left _ member))
  refine ⟨blocks, fun later laterTime bound within => ?_⟩
  obtain ⟨st, found, ends⟩ := recordFailure_blockedUntil blocks
  rw [block] at ends
  have served : (RateLimiter.serve (reached RateLimiter.serve start past) timed).1 =
      ((reached RateLimiter.serve start past).recordFailure ip timed.now).1 := by
    simp only [RateLimiter.serve, call]
  have continued : reached RateLimiter.serve start (past ++ timed :: later) =
      reached RateLimiter.serve ((reached RateLimiter.serve start past).recordFailure ip timed.now).1 later := by
    rw [reached_append, ← served]
    rfl
  have stays : (reached RateLimiter.serve start (past ++ timed :: later)).failures.find? ip = some st := by
    rw [continued]
    refine find?_during_block found (fun other member => ?_)
    have inside : other.now.val ≤ laterTime.val := bound other (List.mem_cons_of_mem timed member)
    rw [ends]
    exact Int.lt_of_le_of_lt inside within
  rw [blocked_of_find? stays, ends]
  exact decide_eq_true within

/-- In every run in which a failure opens a new window only when no failure recorded since
the IP's last block is still in the rolling window, every call behaves as documented. -/
theorem rolling_window_enforced (limit : Int) (window block : Duration) {calls : List TimedCall}
    (ordered : Ordered calls) (fresh : Throughout (OpensFresh (newRateLimiter limit window block)) calls) :
    Throughout (Enforced (newRateLimiter limit window block)) calls := by
  intro past timed future split
  subst split
  obtain ⟨before, opensFresh⟩ := fresh.split
  have positive := (newRateLimiter_alike limit window block timed.now : Alike (fun _ => true) _ _ _).windowPos
  refine enforced_of_covers rfl positive ?_ (throughout_concat before opensFresh)
  have front : (past ++ [timed]).Sublist (past ++ timed :: future) :=
    (List.Sublist.refl past).append (List.Sublist.cons_cons timed (List.nil_sublist future))
  exact List.Pairwise.sublist front ordered

end Runs

/-- Failures in the seconds 0, 59 and 61. -/
def straddling : List TimedCall :=
  [⟨secondsIn 0, .recordFailure (lit "a")⟩, ⟨secondsIn 59, .recordFailure (lit "a")⟩,
   ⟨secondsIn 61, .recordFailure (lit "a")⟩]

/-- The failure in second 62 is the third within 60 seconds, and does not block. -/
theorem straddling_burst_not_blocked :
    Ordered (straddling ++ [⟨secondsIn 62, .recordFailure (lit "a")⟩]) ∧
      (reached RateLimiter.serve (newRateLimiter 3 (60 * second) (60 * second)) straddling).blocked
        (lit "a") (secondsIn 62) = false ∧
      recorded (newRateLimiter 3 (60 * second) (60 * second)) (lit "a") straddling =
        [0, 59 * second, 61 * second] ∧
      ¬ Throughout (Enforced (newRateLimiter 3 (60 * second) (60 * second)))
        (straddling ++ [⟨secondsIn 62, .recordFailure (lit "a")⟩]) := by
  have unblocked : (reached RateLimiter.serve (newRateLimiter 3 (60 * second) (60 * second)) straddling).blocked
      (lit "a") (secondsIn 62) = false := by decide +kernel
  refine ⟨?_, unblocked, by decide +kernel, fun enforced => ?_⟩
  · unfold Ordered
    decide
  · have blocks := (enforced straddling _ [] rfl (lit "a") rfl unblocked (by decide +kernel)).1
    exact absurd blocks (by decide +kernel)

/-- A burst that starts with its window is blocked. -/
theorem rolling_window_enforced_in_burst :
    Throughout (Enforced (newRateLimiter 2 (60 * second) (60 * second)))
      ([⟨secondsIn 0, .recordFailure (lit "a")⟩] ++ [⟨secondsIn 59, .recordFailure (lit "a")⟩]) := by
  refine rolling_window_enforced 2 (60 * second) (60 * second) ?_ ?_
  · unfold Ordered
    decide
  · refine throughout_concat (throughout_concat (throughout_nil _) ?_) ?_
    · intro ip _ _ time member
      cases member
    · intro ip call opens
      cases call
      exact absurd opens (by decide +kernel)

end NetLatencyMonitor.Tickets
