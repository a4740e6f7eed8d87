import NetLatencyMonitor.Tickets.LimiterRuns

/-! Every block has its cause: enough failures of the IP within one window, the last of
them at the start of the block. -/

namespace NetLatencyMonitor.Tickets

open Clock Keyed Text Machine

/-- The `RecordFailure` calls about an IP from an instant on. -/
def failuresSince (ip : GoString) (earliest : Time) (calls : List TimedCall) : Nat :=
  calls.countP (fun timed => decide (timed.call = .recordFailure ip) && decide (earliest ≤ timed.now.val))

/-- The `RecordFailure` calls about an IP between two instants, both included. -/
def failuresBetween (ip : GoString) (earliest upTo : Time) (calls : List TimedCall) : Nat :=
  calls.countP (fun timed => decide (timed.call = .recordFailure ip) && decide (earliest ≤ timed.now.val) &&
    decide (timed.now.val ≤ upTo))

/-- A block until `blockEnd` is that of a failure with enough others in the window before it. -/
def HasCause (limiter : RateLimiter) (calls : List TimedCall) (ip : GoString) (blockEnd : Time) : Prop :=
  ∃ failed : Reading, ⟨failed, .recordFailure ip⟩ ∈ calls ∧ blockEnd = failed.val + limiter.block ∧
    limiter.limit ≤ failuresBetween ip (failed.val - limiter.window) failed.val calls

/-- What the calls so far say about an entry. -/
structure Backed (limiter : RateLimiter) (calls : List TimedCall) (st : IpState) : Prop where
  opened : ∃ timed ∈ calls, timed.now.val = st.windowStart
  counted : st.count ≤ failuresSince st.ip st.windowStart calls
  caused : st.blockedUntil = zeroTime ∨ HasCause limiter calls st.ip st.blockedUntil

section Backed

variable {limiter : RateLimiter} {calls : List TimedCall} {st : IpState} {ip : GoString}

theorem Backed.append (backed : Backed limiter calls st) (more : List TimedCall) :
    Backed limiter (calls ++ more) st where
  opened := by
    obtain ⟨timed, member, same⟩ := backed.opened
    exact ⟨timed, List.mem_append_left more member, same⟩
  counted := by
    unfold failuresSince
    rw [List.countP_append]
    exact Int.le_trans backed.counted (Int.ofNat_le.mpr (Nat.le_add_right _ _))
  caused := by
    refine backed.caused.imp_right ?_
    rintro ⟨failed, member, same, enough⟩
    refine ⟨failed, List.mem_append_left more member, same, ?_⟩
    unfold failuresBetween
    rw [List.countP_append]
    exact Int.le_trans enough (Int.ofNat_le.mpr (Nat.le_add_right _ _))

private theorem failuresSince_concat {earliest : Time} {now : Reading} (inside : earliest ≤ now.val) :
    failuresSince ip earliest (calls ++ [⟨now, .recordFailure ip⟩]) = failuresSince ip earliest calls + 1 := by
  unfold failuresSince
  rw [List.countP_append, List.countP_singleton, if_pos (by simp [inside])]

private theorem failuresBetween_pos {now : Reading} (member : ⟨now, .recordFailure ip⟩ ∈ calls) {earliest : Time}
    (inside : earliest ≤ now.val) : 1 ≤ failuresBetween ip earliest now.val calls := by
  refine List.countP_pos_iff.mpr ⟨_, member, ?_⟩
  simp [inside]

private theorem failuresSince_le_between {earliest earlier : Time} {now : Reading}
    (bound : ∀ timed ∈ calls, timed.now ≤ now)
    (wider : earlier ≤ earliest) : failuresSince ip earliest calls ≤ failuresBetween ip earlier now.val calls := by
  refine List.countP_mono_left (fun timed member counted => ?_)
  simp only [Bool.and_eq_true, decide_eq_true_eq] at counted ⊢
  exact ⟨⟨counted.1, Int.le_trans wider counted.2⟩, bound timed member⟩

theorem Backed.started {now : Reading} (backed : Backed limiter calls st) (bound : ∀ timed ∈ calls, timed.now ≤ now) :
    st.windowStart ≤ now.val := by
  obtain ⟨opening, present, same⟩ := backed.opened
  exact same ▸ bound opening present

/-- A failure keeps its entry backed by the calls, itself among them. -/
theorem Backed.fail {now : Reading} (windowPos : 0 < limiter.window) (member : ⟨now, .recordFailure st.ip⟩ ∈ calls)
    (bound : ∀ timed ∈ calls, timed.now ≤ now) (backed : Backed limiter calls st)
    (room : st.count + 1 ≤ failuresSince st.ip st.windowStart calls) :
    Backed limiter calls (st.fail limiter.limit limiter.window limiter.block now) := by
  by_cases blocked : now.val < st.blockedUntil
  · rw [IpState.fail_blocked blocked]
    exact backed
  by_cases rolled : now.val - st.windowStart > limiter.window
  · rw [IpState.fail_rolled blocked rolled]
    have one : 1 ≤ failuresSince st.ip now.val calls :=
      List.countP_pos_iff.mpr ⟨_, member, by simp⟩
    refine ⟨⟨_, member, rfl⟩, Int.ofNat_le.mpr one, ?_⟩
    by_cases full : 1 ≥ limiter.limit
    · rw [if_pos full]
      have inside : now.val - limiter.window ≤ now.val := by lia
      exact Or.inr ⟨now, member, rfl, Int.le_trans full
        (Int.ofNat_le.mpr (failuresBetween_pos member inside))⟩
    · rw [if_neg full]
      exact backed.caused
  · rw [IpState.fail_counted blocked rolled]
    refine ⟨backed.opened, room, ?_⟩
    by_cases full : st.count + 1 ≥ limiter.limit
    · rw [if_pos full]
      have inside : now.val - limiter.window ≤ st.windowStart := by lia
      exact Or.inr ⟨now, member, rfl, Int.le_trans full (Int.le_trans room
        (Int.ofNat_le.mpr (failuresSince_le_between bound inside)))⟩
    · rw [if_neg full]
      exact backed.caused

end Backed

section Runs

variable {start : RateLimiter}

theorem reached_settings (start : RateLimiter) (calls : List TimedCall) :
    (reached RateLimiter.serve start calls).limit = start.limit ∧
      (reached RateLimiter.serve start calls).window = start.window ∧
      (reached RateLimiter.serve start calls).block = start.block := by
  induction calls generalizing start with
  | nil => exact ⟨rfl, rfl, rfl⟩
  | cons timed rest ih =>
    obtain ⟨limit, window, block⟩ := ih (start.serve timed).1
    obtain ⟨sameLimit, sameWindow, sameBlock⟩ := serve_settings start timed
    exact ⟨limit.trans sameLimit, window.trans sameWindow, block.trans sameBlock⟩

theorem Ordered.bound {past : List TimedCall} {timed : TimedCall} (ordered : Ordered (past ++ [timed])) :
    ∀ earlier ∈ past ++ [timed], earlier.now ≤ timed.now := by
  intro earlier member
  rcases List.mem_append.mp member with before | last
  · exact (List.pairwise_append.mp ordered).2.2 earlier before timed List.mem_cons_self
  · rw [List.mem_singleton.mp last]

/-- Along every run from an empty limiter, every entry is backed by the calls so far. -/
theorem backed_run (empty : start.failures = .empty) (windowPos : 0 < start.window) {calls : List TimedCall}
    (ordered : Ordered calls) {ip : GoString} {st : IpState}
    (found : (reached RateLimiter.serve start calls).failures.find? ip = some st) : Backed start calls st := by
  induction calls using List.reverseRecOn generalizing ip st with
  | nil =>
    have absent : start.failures.find? ip = some st := found
    rw [empty] at absent
    cases absent
  | append_singleton past timed ih =>
    have bound := ordered.bound
    obtain ⟨limit, window, block⟩ := reached_settings start past
    have before : ∀ {name : GoString} {entry : IpState},
        (reached RateLimiter.serve start past).failures.find? name = some entry →
          Backed start (past ++ [timed]) entry :=
      fun present => (ih (List.pairwise_append.mp ordered).1 present).append [timed]
    rw [reached_append] at found
    obtain ⟨now, call⟩ := timed
    cases call with
    | blocked asked => exact before found
    | pruneExpired =>
      have kept := RateLimiter.find?_pruneExpired (reached RateLimiter.serve start past) now ip
      exact before (Option.filter_eq_some_iff.mp (kept.symm.trans found)).1
    | recordFailure failed =>
      have written :=
        (RateLimiter.find?_recordFailure (reached RateLimiter.serve start past) failed now ip).symm.trans found
      by_cases same : ip = failed
      · rw [if_pos same, limit, window, block] at written
        subst ip
        have member : (⟨now, .recordFailure failed⟩ : TimedCall) ∈ past ++ [⟨now, .recordFailure failed⟩] :=
          List.mem_append_right past List.mem_cons_self
        cases old : (reached RateLimiter.serve start past).failures.find? failed with
        | none =>
          rw [old] at written
          cases written
          refine Backed.fail windowPos member bound ⟨⟨_, member, rfl⟩, Int.natCast_nonneg _, Or.inl rfl⟩ ?_
          exact Int.ofNat_le.mpr (List.countP_pos_iff.mpr ⟨_, member, by simp⟩)
        | some entry =>
          rw [old, Option.getD_some] at written
          cases written
          have own : entry.ip = failed := (Table.find?_eq_some_iff.mp old).2
          subst own
          refine Backed.fail windowPos member bound (before old) ?_
          -- the window was opened by an earlier call, so this one falls into it
          have earlier := ih (List.pairwise_append.mp ordered).1 old
          have inside := earlier.started (fun timed member => bound timed (List.mem_append_left _ member))
          rw [failuresSince_concat inside]
          exact Int.add_le_add_right earlier.counted 1
      · rw [if_neg same] at written
        exact before written

/-- A block that lasts was caused by a failure not more than its length ago. -/
theorem blocked_caused (empty : start.failures = .empty) (windowPos : 0 < start.window) {past : List TimedCall}
    {now : Reading} {ip : GoString} (ordered : Ordered past) (bound : ∀ timed ∈ past, timed.now ≤ now)
    (blocked : (reached RateLimiter.serve start past).blocked ip now = true) :
    ∃ failed : Reading, ⟨failed, .recordFailure ip⟩ ∈ past ∧ failed ≤ now ∧ now.val < failed.val + start.block ∧
      start.limit ≤ failuresBetween ip (failed.val - start.window) failed.val past := by
  unfold RateLimiter.blocked at blocked
  split at blocked
  · cases blocked
  · rename_i st found
    have stillBlocked : now.val < st.blockedUntil := of_decide_eq_true blocked
    have own : st.ip = ip := (Table.find?_eq_some_iff.mp found).2
    have backed := backed_run empty windowPos ordered found
    rcases backed.caused with never | ⟨failed, member, same, enough⟩
    · rw [never] at stillBlocked
      exact absurd stillBlocked (Int.not_lt.mpr (Int.le_of_lt now.2))
    · rw [own] at member enough
      exact ⟨failed, member, bound _ member, same ▸ stillBlocked, enough⟩

/-- In every run the answers about an IP depend only on the calls about it, and an IP that
is reported blocked had, at a failure less than the length of a block ago, reached the
limit within the window. -/
theorem blocks_own_ip_with_cause (limit : Int) (window block : Duration) {calls : List TimedCall}
    (ordered : Ordered calls) :
    (∀ ip, (answers RateLimiter.serve (newRateLimiter limit window block) calls).filter
          (fun answered => decide (answered.1.call.ip? = some ip)) =
        answers RateLimiter.serve (newRateLimiter limit window block)
          (calls.filter (fun timed => decide (timed.call.ip? = some ip)))) ∧
      ∀ (past : List TimedCall) (now : Reading) (ip : GoString) (future : List TimedCall),
        calls = past ++ ⟨now, .blocked ip⟩ :: future →
        (reached RateLimiter.serve (newRateLimiter limit window block) past).blocked ip now = true →
        ∃ failed : Reading, ⟨failed, .recordFailure ip⟩ ∈ past ∧ failed ≤ now ∧
          now.val < failed.val + (newRateLimiter limit window block).block ∧
          (newRateLimiter limit window block).limit ≤
            failuresBetween ip (failed.val - (newRateLimiter limit window block).window) failed.val past := by
  constructor
  · intro ip
    have own : ∀ timed : TimedCall, about (fun other => decide (other = ip)) timed =
        decide (timed.call.ip? = some ip) := by
      rintro ⟨now, call⟩
      cases call with
      | recordFailure failed => simp [about, Call.ip?]
      | blocked asked => simp [about, Call.ip?]
      | pruneExpired => rfl
    simp only [← own]
    exact answers_about limit window block ordered _
  · intro past now ip future split blocked
    subst split
    obtain ⟨earlier, _, across⟩ := List.pairwise_append.mp ordered
    exact blocked_caused rfl (newRateLimiter_alike limit window block now : Alike (fun _ => true) now _ _).windowPos
      earlier (fun timed member => across timed member _ List.mem_cons_self) blocked

end Runs

/-- Two failures of one IP and one of another; then the first IP is looked up. -/
def twoFailures : List TimedCall :=
  [⟨secondsIn 0, .recordFailure (lit "a")⟩, ⟨secondsIn 1, .recordFailure (lit "b")⟩,
   ⟨secondsIn 2, .recordFailure (lit "a")⟩]

theorem blocks_own_ip_with_cause_after_two :
    ∃ failed : Reading, ⟨failed, .recordFailure (lit "a")⟩ ∈ twoFailures ∧
      (2 : Int) ≤ failuresBetween (lit "a") (failed.val - 60 * second) failed.val twoFailures := by
  have ordered : Ordered (twoFailures ++ [⟨secondsIn 3, .blocked (lit "a")⟩]) := by
    unfold Ordered
    decide
  obtain ⟨failed, member, _, _, enough⟩ := (blocks_own_ip_with_cause 2 (60 * second) (60 * second) ordered).2
    twoFailures (secondsIn 3) (lit "a") [] rfl (by decide +kernel)
  exact ⟨failed, member, enough⟩

end NetLatencyMonitor.Tickets
