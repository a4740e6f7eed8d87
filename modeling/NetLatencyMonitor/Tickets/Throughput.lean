import NetLatencyMonitor.Tickets.BlockCause

/-! How many failures of one IP the limiter lets through in a period as long as its window:
a count that starts before the period may be all but full when its window ends, and a new
count starts then. -/

namespace NetLatencyMonitor.Tickets

open Clock Keyed Text Machine

/-- The call records a failure of the IP in the period, while the IP is not blocked. -/
def letsThrough (periodStart : Time) (ip : GoString) (limiter : RateLimiter) (timed : TimedCall) : Bool :=
  decide (timed.call = .recordFailure ip) && !limiter.blocked ip timed.now &&
    decide (periodStart ≤ timed.now.val) && decide (timed.now.val < periodStart + limiter.window)

/-- The failures of an IP that are let through in the period, along a run. -/
def letThrough (periodStart : Time) (ip : GoString) : RateLimiter → List TimedCall → Nat
  | _, [] => 0
  | limiter, timed :: rest =>
    (if letsThrough periodStart ip limiter timed then 1 else 0) + letThrough periodStart ip (limiter.serve timed).1 rest

theorem letThrough_append (periodStart : Time) (ip : GoString) (limiter : RateLimiter) (past calls : List TimedCall) :
    letThrough periodStart ip limiter (past ++ calls) =
      letThrough periodStart ip limiter past +
        letThrough periodStart ip (reached RateLimiter.serve limiter past) calls := by
  induction past generalizing limiter with
  | nil =>
    simp only [List.nil_append, letThrough, Nat.zero_add]
    rfl
  | cons first rest ih =>
    simp only [List.cons_append, letThrough, ih, Nat.add_assoc]
    rfl

/-- The most that is let through. -/
def mostFailures (limit : Int) : Int := max limit (2 * limit - 2)

/-- What every tally satisfies: it counts a failure, and its block outlasts its window. -/
def Sound (limit : Int) (window : Duration) (now : Time) (tally : Option Tally) : Prop :=
  ∀ count windowStart blockEnd, tally = some ⟨count, windowStart, blockEnd⟩ →
    1 ≤ count ∧ windowStart ≤ now ∧
      match blockEnd with
      | none => count < limit ∨ windowStart + window ≤ now
      | some blockEnd => windowStart + window ≤ blockEnd

/-- What a tally says about the failures let through since the period began. -/
inductive Metered (limit : Int) (window : Duration) (periodStart now : Time) : Option Tally → Int → Prop
  | untouched (tally : Option Tally) (sound : Sound limit window now tally) :
      Metered limit window periodStart now tally 0
  | afterwards (tally : Option Tally) (through : Int) (ended : periodStart + window ≤ now)
      (few : through ≤ mostFailures limit) :
      Metered limit window periodStart now tally through
  /-- The count that began before the period has lapsed. -/
  | lapsed (through : Int) (begun : periodStart ≤ now) (few : through + 2 ≤ limit) :
      Metered limit window periodStart now none through
  /-- The count began before the period. -/
  | older (count through : Int) (windowStart : Time) (begun : periodStart ≤ now) (early : windowStart < periodStart)
      (few : through + 1 ≤ count) (below : count < limit) :
      Metered limit window periodStart now (some ⟨count, windowStart, none⟩) through
  /-- The count began in the period. -/
  | inner (count through : Int) (windowStart : Time) (begun : periodStart ≤ now) (late : periodStart ≤ windowStart)
      (below : count < limit) (few : through ≤ count ∨ through + 2 ≤ limit + count) :
      Metered limit window periodStart now (some ⟨count, windowStart, none⟩) through
  /-- The block outlasts the period. -/
  | blocked (count through : Int) (windowStart blockEnd : Time) (begun : periodStart ≤ now)
      (outlasts : periodStart + window ≤ blockEnd) (few : through ≤ mostFailures limit) :
      Metered limit window periodStart now (some ⟨count, windowStart, some blockEnd⟩) through

section Metered

variable {limit : Int} {window block : Duration} {periodStart now : Time} {tally : Option Tally} {through : Int}

private theorem Metered.le_most (positive : 1 ≤ limit) (metered : Metered limit window periodStart now tally through) :
    through ≤ mostFailures limit := by
  unfold mostFailures
  cases metered with
  | untouched _ sound => lia
  | afterwards _ _ ended few => exact few
  | lapsed _ begun few => lia
  | older count _ windowStart begun early few below => lia
  | inner count _ windowStart begun late below few => lia
  | blocked count _ windowStart blockEnd begun outlasts few => exact few

theorem Sound.later (sound : Sound limit window now tally) {laterTime : Time} (passed : now ≤ laterTime) :
    Sound limit window laterTime (tally.bind (Tally.later window laterTime)) := by
  cases tally with
  | none =>
    intro count windowStart blockEnd same
    cases same
  | some tally =>
    obtain ⟨count, windowStart, blockEnd⟩ := tally
    obtain ⟨counted, started, ends⟩ := sound count windowStart blockEnd rfl
    cases blockEnd with
    | none =>
      have ends : count < limit ∨ windowStart + window ≤ now := ends
      simp only [Option.bind_some, Tally.later]
      split
      · intro _ _ _ same
        cases same
      · intro _ _ _ same
        cases same
        exact ⟨counted, Int.le_trans started passed, ends.imp_right (fun rolled => Int.le_trans rolled passed)⟩
    | some blockEnd =>
      have ends : windowStart + window ≤ blockEnd := ends
      simp only [Option.bind_some, Tally.later]
      split
      · intro _ _ _ same
        cases same
        exact ⟨counted, Int.le_trans started passed, ends⟩
      · rename_i ended
        split
        · intro _ _ _ same
          cases same
        · intro _ _ _ same
          cases same
          exact ⟨counted, Int.le_trans started passed, .inr (Int.le_trans ends (Int.not_lt.mp ended))⟩

theorem Metered.later (positive : 1 ≤ limit) (metered : Metered limit window periodStart now tally through)
    {laterTime : Time}
    (passed : now ≤ laterTime) :
    Metered limit window periodStart laterTime (tally.bind (Tally.later window laterTime)) through := by
  by_cases ended : periodStart + window ≤ laterTime
  · exact .afterwards _ _ ended (metered.le_most positive)
  · cases metered with
    | untouched _ sound => exact .untouched _ (sound.later passed)
    | afterwards _ _ before => exact absurd (Int.le_trans before passed) ended
    | lapsed _ begun few => exact .lapsed _ (Int.le_trans begun passed) few
    | older count _ windowStart begun early few below =>
      simp only [Option.bind_some, Tally.later]
      split
      · exact .lapsed _ (Int.le_trans begun passed) (by lia)
      · exact .older count through windowStart (Int.le_trans begun passed) early few below
    | inner count _ windowStart begun late below few =>
      simp only [Option.bind_some, Tally.later]
      split
      · rename_i rolled
        exact absurd rolled (by lia)
      · exact .inner count through windowStart (Int.le_trans begun passed) late below few
    | blocked count _ windowStart blockEnd begun outlasts few =>
      simp only [Option.bind_some, Tally.later]
      rw [if_pos (by lia)]
      exact .blocked count through windowStart blockEnd (Int.le_trans begun passed) outlasts few

theorem Sound.fail (long : window ≤ block) (sound : Sound limit window now tally)
    (unblocked : tally.bind Tally.blockedUntil = none) :
    Sound limit window now (some (Tally.fail limit block now tally).1) := by
  have counted : ∀ count windowStart, 0 ≤ count → windowStart ≤ now →
      Sound limit window now (some (Tally.fail limit block now (some ⟨count, windowStart, none⟩)).1) := by
    intro count windowStart nonneg started
    rw [Tally.fail_open]
    split
    · intro _ _ _ same
      cases same
      refine ⟨by lia, started, ?_⟩
      show windowStart + window ≤ now + block
      lia
    · intro _ _ _ same
      cases same
      exact ⟨by lia, started, .inl (by lia)⟩
  cases tally with
  | none =>
    rw [Tally.fail_none]
    exact counted 0 now (Int.le_refl _) (Int.le_refl _)
  | some tally =>
    obtain ⟨count, windowStart, blockEnd⟩ := tally
    obtain rfl : blockEnd = none := unblocked
    obtain ⟨one, started, _⟩ := sound count windowStart none rfl
    exact counted count windowStart (by lia) started

/-- A failure that is let through in the period. -/
theorem Metered.fail (positive : 1 ≤ limit) (long : window ≤ block)
    (metered : Metered limit window periodStart now tally through)
    (unblocked : tally.bind Tally.blockedUntil = none) (begun : periodStart ≤ now)
    (running : now < periodStart + window) :
    Metered limit window periodStart now (some (Tally.fail limit block now tally).1) (through + 1) := by
  have blocks : ∀ count windowStart, through + 1 ≤ mostFailures limit →
      Metered limit window periodStart now (some ⟨count, windowStart, some (now + block)⟩) (through + 1) := by
    intro count windowStart few
    exact .blocked count (through + 1) windowStart (now + block) begun (by lia) few
  have opens : (through = 0 ∨ through + 2 ≤ limit) →
      Metered limit window periodStart now (some (Tally.fail limit block now none).1) (through + 1) := by
    intro few
    rw [Tally.fail_none, Tally.fail_open]
    split
    · refine blocks _ _ ?_
      unfold mostFailures
      lia
    · exact .inner _ _ now begun begun (by lia) (by lia)
  cases metered with
  | afterwards _ _ ended => exact absurd ended (Int.not_le.mpr running)
  | lapsed _ begun few => exact opens (.inr few)
  | blocked count _ windowStart blockEnd begun outlasts few => cases unblocked
  | older count _ windowStart begun early few below =>
    rw [Tally.fail_open]
    split
    · refine blocks _ _ ?_
      unfold mostFailures
      lia
    · exact .older _ _ windowStart begun early (by lia) (by lia)
  | inner count _ windowStart begun late below few =>
    rw [Tally.fail_open]
    split
    · refine blocks _ _ ?_
      unfold mostFailures
      lia
    · exact .inner _ _ windowStart begun late (by lia) (by lia)
  | untouched _ sound =>
    cases tally with
    | none => exact opens (.inl rfl)
    | some tally =>
      obtain ⟨count, windowStart, blockEnd⟩ := tally
      obtain rfl : blockEnd = none := unblocked
      obtain ⟨one, started, ends⟩ := sound count windowStart none rfl
      have ends : count < limit ∨ windowStart + window ≤ now := ends
      rw [Tally.fail_open]
      split
      · refine blocks _ _ ?_
        unfold mostFailures
        lia
      · by_cases early : windowStart < periodStart
        · exact .older _ _ windowStart begun early (by lia) (by lia)
        · exact .inner _ _ windowStart begun (Int.not_lt.mp early) (by lia) (by lia)

/-- A failure outside the period. -/
theorem Metered.fail_outside (positive : 1 ≤ limit) (long : window ≤ block)
    (metered : Metered limit window periodStart now tally through) (unblocked : tally.bind Tally.blockedUntil = none)
    (outside : ¬ (periodStart ≤ now ∧ now < periodStart + window)) :
    Metered limit window periodStart now (some (Tally.fail limit block now tally).1) through := by
  by_cases ended : periodStart + window ≤ now
  · exact .afterwards _ _ ended (metered.le_most positive)
  · have early : ¬ periodStart ≤ now := fun begun => outside ⟨begun, Int.not_le.mp ended⟩
    cases metered with
    | untouched _ sound => exact .untouched _ (sound.fail long unblocked)
    | afterwards _ _ passed => exact absurd passed ended
    | lapsed _ begun | older _ _ _ begun | inner _ _ _ begun | blocked _ _ _ _ begun => exact absurd begun early

end Metered

section Runs

variable {start : RateLimiter} {periodStart : Time} {ip : GoString}

/-- A failure of an IP that is blocked leaves its tally. -/
theorem fail_of_blocked {limit : Int} {block : Duration} {now : Time} {tally : Option Tally}
    (blocked : (tally.bind Tally.blockedUntil).isSome = true) : some (Tally.fail limit block now tally).1 = tally := by
  cases tally with
  | none => cases blocked
  | some tally =>
    have isBlocked : tally.blockedUntil.isSome = true := blocked
    simp [Tally.fail, isBlocked]

private theorem metered_serve {limiter : RateLimiter} {timed : TimedCall} {through : Int} (positive : 1 ≤ limiter.limit)
    (windowPos : 0 < limiter.window) (long : limiter.window ≤ limiter.block)
    (metered : Metered limiter.limit limiter.window periodStart timed.now (limiter.tally timed.now ip) through) :
    Metered limiter.limit limiter.window periodStart timed.now ((limiter.serve timed).1.tally timed.now ip)
      (through + if letsThrough periodStart ip limiter timed then 1 else 0) := by
  obtain ⟨now, call⟩ := timed
  by_cases own : call = .recordFailure ip
  · subst own
    have blockPos : 0 < limiter.block := Int.lt_of_lt_of_le windowPos long
    have after := (RateLimiter.tally_recordFailure windowPos blockPos now.2 ip).1
    have served : (limiter.serve ⟨now, .recordFailure ip⟩).1 = (limiter.recordFailure ip now).1 := rfl
    have state := RateLimiter.blocked_eq_tally limiter now ip
    rw [served, after]
    cases blocked : limiter.blocked ip now with
    | true =>
      rw [blocked] at state
      have unchanged : letsThrough periodStart ip limiter ⟨now, .recordFailure ip⟩ = false := by
        simp [letsThrough, blocked]
      rw [unchanged, fail_of_blocked state.symm]
      simpa using metered
    | false =>
      rw [blocked] at state
      have unblocked : (limiter.tally now ip).bind Tally.blockedUntil = none := by simpa using state.symm
      by_cases inside : periodStart ≤ now.val ∧ now.val < periodStart + limiter.window
      · have admitted : letsThrough periodStart ip limiter ⟨now, .recordFailure ip⟩ = true := by
          simp [letsThrough, blocked, inside]
        rw [admitted]
        exact metered.fail positive long unblocked inside.1 inside.2
      · have uncounted : letsThrough periodStart ip limiter ⟨now, .recordFailure ip⟩ = false := by
          simpa [letsThrough, blocked] using inside
        rw [uncounted]
        simpa using metered.fail_outside positive long unblocked inside
  · have uncounted : letsThrough periodStart ip limiter ⟨now, call⟩ = false := by simp [letsThrough, own]
    have same : (limiter.serve ⟨now, call⟩).1.tally now ip = limiter.tally now ip := by
      cases call with
      | recordFailure other =>
        exact RateLimiter.tally_recordFailure_other limiter now (fun same => own (by rw [same]))
      | blocked asked => rfl
      | pruneExpired => exact RateLimiter.tally_pruneExpired limiter now ip
    rw [uncounted, same]
    simpa using metered

private theorem metered_run (empty : start.failures = .empty) (positive : 1 ≤ start.limit)
    (windowPos : 0 < start.window)
    (long : start.window ≤ start.block) {calls : List TimedCall} (ordered : Ordered calls) {now : Reading}
    (bound : ∀ timed ∈ calls, timed.now ≤ now) :
    Metered start.limit start.window periodStart now ((reached RateLimiter.serve start calls).tally now ip)
      (letThrough periodStart ip start calls) := by
  induction calls using List.reverseRecOn generalizing now with
  | nil =>
    have missing : start.tally now ip = none := by simp [RateLimiter.tally, empty, Table.empty, Table.find?]
    show Metered _ _ _ _ (start.tally now ip) _
    rw [missing]
    refine .untouched _ ?_
    intro _ _ _ same
    cases same
  | append_singleton past timed ih =>
    obtain ⟨earlier, _, across⟩ := List.pairwise_append.mp ordered
    have before := ih earlier (fun other member => across other member timed List.mem_cons_self)
    obtain ⟨limit, window, block⟩ := reached_settings start past
    have served := serve_settings (reached RateLimiter.serve start past) timed
    have stepped := @metered_serve periodStart ip (reached RateLimiter.serve start past) timed
      (letThrough periodStart ip start past) (limit ▸ positive) (window ▸ windowPos) (by rw [window, block]; exact long)
      (by rw [limit, window]; exact before)
    rw [limit, window] at stepped
    have passed : timed.now.val ≤ now.val := bound timed (List.mem_append_right _ List.mem_cons_self)
    have later := @RateLimiter.tally_later ((reached RateLimiter.serve start past).serve timed).1 _ _ passed ip
    rw [served.2.1, window] at later
    have count : ((letThrough periodStart ip start (past ++ [timed]) : Nat) : Int) =
        letThrough periodStart ip start past +
        if letsThrough periodStart ip (reached RateLimiter.serve start past) timed then 1 else 0 := by
      rw [letThrough_append, Int.natCast_add]
      simp only [letThrough, Nat.add_zero]
      split
      · rfl
      · rfl
    rw [count, reached_append]
    show Metered _ _ _ _ (((reached RateLimiter.serve start past).serve timed).1.tally now ip) _
    rw [later]
    exact stepped.later positive passed

end Runs

section Burst

variable {periodStart : Time} {ip : GoString} {limiter : RateLimiter} {count : Int} {windowStart : Time} {now : Reading}

/-- A number of failures at one instant. -/
def burst (ip : GoString) (now : Reading) (size : Nat) : List TimedCall := List.replicate size ⟨now, .recordFailure ip⟩

/-- The tally counts so far, with room up to the limit. -/
def Counts (limiter : RateLimiter) (now : Time) (ip : GoString) (count : Int) (windowStart : Time) : Prop :=
  (limiter.tally now ip).getD ⟨0, now, none⟩ = ⟨count, windowStart, none⟩

theorem Counts.unblocked (counts : Counts limiter now ip count windowStart) : limiter.blocked ip now = false := by
  rw [RateLimiter.blocked_eq_tally]
  unfold Counts at counts
  cases tally : limiter.tally now ip with
  | none => rfl
  | some tally =>
    rw [tally, Option.getD_some] at counts
    rw [counts]
    rfl

theorem Counts.serve (windowPos : 0 < limiter.window) (blockPos : 0 < limiter.block)
    (counts : Counts limiter now ip count windowStart) (room : count + 1 < limiter.limit) :
    Counts (limiter.serve ⟨now, .recordFailure ip⟩).1 now ip (count + 1) windowStart := by
  have same : Tally.fail limiter.limit limiter.block now (limiter.tally now ip) =
      Tally.fail limiter.limit limiter.block now (some ⟨count, windowStart, none⟩) := by
    unfold Tally.fail
    rw [counts]
    rfl
  unfold Counts
  show Option.getD ((limiter.recordFailure ip now).1.tally now ip) _ = _
  rw [(RateLimiter.tally_recordFailure windowPos blockPos now.2 ip).1, same, Tally.fail_open,
    if_neg (Int.not_le.mpr room)]
  rfl

/-- A burst that stays below the limit counts all of its failures. -/
theorem counts_burst {size : Nat} (windowPos : 0 < limiter.window) (blockPos : 0 < limiter.block)
    (counts : Counts limiter now ip count windowStart) (room : count + size < limiter.limit) :
    Counts (reached RateLimiter.serve limiter (burst ip now size)) now ip (count + size) windowStart := by
  induction size generalizing limiter count with
  | zero => simpa [burst, reached] using counts
  | succ size ih =>
    obtain ⟨limit, window, block⟩ := serve_settings limiter ⟨now, .recordFailure ip⟩
    have rest := ih (window ▸ windowPos) (block ▸ blockPos) (counts.serve windowPos blockPos (by lia))
      (by rw [limit]; lia)
    rw [show count + (size + 1 : Nat) = count + 1 + size by lia]
    exact rest

/-- A burst up to the limit is let through. -/
theorem letThrough_burst {size : Nat} (windowPos : 0 < limiter.window) (blockPos : 0 < limiter.block)
    (counts : Counts limiter now ip count windowStart) (room : count + size ≤ limiter.limit)
    (begun : periodStart ≤ now.val) (running : now.val < periodStart + limiter.window) :
    letThrough periodStart ip limiter (burst ip now size) = size := by
  induction size generalizing limiter count with
  | zero => rfl
  | succ size ih =>
    have first : letsThrough periodStart ip limiter ⟨now, .recordFailure ip⟩ = true := by
      simp [letsThrough, counts.unblocked, begun, running]
    obtain ⟨limit, window, block⟩ := serve_settings limiter ⟨now, .recordFailure ip⟩
    have rest : letThrough periodStart ip (limiter.serve ⟨now, .recordFailure ip⟩).1 (burst ip now size) = size := by
      cases size with
      | zero => rfl
      | succ size =>
        exact ih (window ▸ windowPos) (block ▸ blockPos) (counts.serve windowPos blockPos (by lia))
          (by rw [limit]; lia) (by rw [window]; exact running)
    show (if letsThrough periodStart ip limiter ⟨now, .recordFailure ip⟩ then 1 else 0) + _ = _
    rw [first]
    show 1 + letThrough periodStart ip (limiter.serve ⟨now, .recordFailure ip⟩).1 (burst ip now size) = size + 1
    rw [rest, Nat.add_comm]

/-- What has been counted is there while its window lasts, and gone behind it. -/
theorem Counts.later (counts : Counts limiter now ip count windowStart) (counted : 0 < count) {laterTime : Time}
    (passed : now.val ≤ laterTime) :
    if laterTime - windowStart > limiter.window then Counts limiter laterTime ip 0 laterTime
    else Counts limiter laterTime ip count windowStart := by
  have tally : limiter.tally now ip = some ⟨count, windowStart, none⟩ := by
    unfold Counts at counts
    cases found : limiter.tally now ip with
    | none =>
      rw [found, Option.getD_none] at counts
      cases counts
      exact absurd counted (Int.lt_irrefl 0)
    | some tally =>
      rw [found, Option.getD_some] at counts
      rw [counts]
  have after : limiter.tally laterTime ip = Tally.later limiter.window laterTime ⟨count, windowStart, none⟩ := by
    rw [RateLimiter.tally_later passed, tally]
    rfl
  unfold Counts
  rw [after]
  simp only [Tally.later]
  split
  · rfl
  · rfl

end Burst

theorem failures_let_through_le {start : RateLimiter} {calls : List TimedCall} {periodStart : Time} {ip : GoString}
    (empty : start.failures = .empty) (positive : 1 ≤ start.limit) (windowPos : 0 < start.window)
    (long : start.window ≤ start.block) (ordered : Ordered calls) :
    letThrough periodStart ip start calls ≤ mostFailures start.limit := by
  cases calls using List.reverseRecOn with
  | nil =>
    unfold mostFailures
    simp only [letThrough]
    lia
  | append_singleton past last =>
    exact (metered_run empty positive windowPos long ordered ordered.bound).le_most positive

/-- The worst case: one failure, all but one that fill its window, and a full burst right behind
the window. -/
def worstBurst (limiter : RateLimiter) (windowPos : 0 < limiter.window) (ip : GoString) : List TimedCall :=
  burst ip ⟨0, by decide⟩ 1 ++ burst ip ⟨limiter.window, by unfold zeroTime second; lia⟩ (limiter.limit.toNat - 2) ++
    burst ip ⟨limiter.window + 1, by unfold zeroTime second; lia⟩ limiter.limit.toNat

private theorem letThrough_worstBurst {start : RateLimiter} {ip : GoString} (empty : start.failures = .empty)
    (limitTwo : 2 ≤ start.limit) (wide : 1 < start.window) (long : start.window ≤ start.block)
    (windowPos : 0 < start.window) :
    letThrough 2 ip start (worstBurst start windowPos ip) = 2 * start.limit - 2 := by
  have blockPos : 0 < start.block := Int.lt_of_lt_of_le windowPos long
  have fresh : Counts start 0 ip 0 0 := by simp [Counts, RateLimiter.tally, empty, Table.empty, Table.find?]
  -- the first failure opens the window, ahead of the period
  have opened := @counts_burst ip start 0 0 ⟨0, by decide⟩ 1 windowPos blockPos fresh (by lia)
  have ahead : letThrough 2 ip start (burst ip ⟨0, by decide⟩ 1) = 0 := by
    simp [burst, letThrough, letsThrough]
  obtain ⟨limit, window, block⟩ := reached_settings start (burst ip ⟨0, by decide⟩ 1)
  unfold worstBurst
  rw [letThrough_append, letThrough_append, reached_append, ahead]
  generalize reached RateLimiter.serve start (burst ip ⟨0, by decide⟩ 1) = first at opened limit window block ⊢
  have kept : Counts first start.window ip 1 0 := by
    have later := opened.later (by decide) (Int.le_of_lt windowPos : (0 : Int) ≤ start.window)
    rw [if_neg (by rw [window]; lia)] at later
    exact later
  -- all but one of the limit are counted when the window ends
  have filled := @counts_burst ip first 1 0 ⟨start.window, by unfold zeroTime second; lia⟩ (start.limit.toNat - 2)
    (window ▸ windowPos) (block ▸ blockPos) kept (by rw [limit]; lia)
  have inside := @letThrough_burst 2 ip first 1 0 ⟨start.window, by unfold zeroTime second; lia⟩
    (start.limit.toNat - 2) (window ▸ windowPos) (block ▸ blockPos) kept (by rw [limit]; lia)
    (by show 2 ≤ start.window; lia) (by show start.window < _; rw [window]; lia)
  obtain ⟨sameLimit, sameWindow, sameBlock⟩ := reached_settings first
    (burst ip ⟨start.window, by unfold zeroTime second; lia⟩ (start.limit.toNat - 2))
  rw [inside]
  generalize reached RateLimiter.serve first
    (burst ip ⟨start.window, by unfold zeroTime second; lia⟩ (start.limit.toNat - 2)) = full
    at filled sameLimit sameWindow sameBlock ⊢
  have gone : Counts full (start.window + 1) ip 0 (start.window + 1) := by
    have later := filled.later (by lia) (show start.window ≤ start.window + 1 by lia)
    rw [if_pos (by rw [sameWindow, window]; lia)] at later
    exact later
  have behind := @letThrough_burst 2 ip full 0 (start.window + 1) ⟨start.window + 1, by unfold zeroTime second; lia⟩
    start.limit.toNat (by rw [sameWindow, window]; exact windowPos) (by rw [sameBlock, block]; exact blockPos) gone
    (by rw [sameLimit, limit]; lia) (by show 2 ≤ start.window + 1; lia)
    (by show start.window + 1 < _; rw [sameWindow, window]; lia)
  rw [behind]
  lia

private theorem ordered_worstBurst (start : RateLimiter) (windowPos : 0 < start.window) (ip : GoString) :
    Ordered (worstBurst start windowPos ip) := by
  have within : ∀ (now : Reading) (size : Nat), Ordered (burst ip now size) := by
    intro now size
    refine List.pairwise_replicate.mpr (.inr ?_)
    exact Int.le_refl now.val
  have across : ∀ {first second : Reading} {many more : Nat}, first.val ≤ second.val →
      ∀ one ∈ burst ip first many, ∀ other ∈ burst ip second more, one.now ≤ other.now := by
    intro first second many more before one member other present
    rw [(List.mem_replicate.mp member).2, (List.mem_replicate.mp present).2]
    exact before
  refine List.pairwise_append.mpr ⟨List.pairwise_append.mpr ⟨within _ _, within _ _, across ?_⟩, within _ _, ?_⟩
  · exact Int.le_of_lt windowPos
  · intro one member other present
    rcases List.mem_append.mp member with early | late
    · exact across (show (0 : Int) ≤ start.window + 1 by lia) one early other present
    · exact across (show start.window ≤ start.window + 1 by lia) one late other present

/-- Some failures of an IP are let through as often as any can be. -/
theorem exists_most_let_through {start : RateLimiter} (empty : start.failures = .empty) (positive : 1 ≤ start.limit)
    (wide : 1 < start.window) (long : start.window ≤ start.block) (ip : GoString) :
    ∃ calls periodStart, Ordered calls ∧ (∀ timed ∈ calls, timed.call = .recordFailure ip) ∧
      letThrough periodStart ip start calls = mostFailures start.limit := by
  have windowPos : 0 < start.window := by lia
  by_cases one : start.limit = 1
  · refine ⟨burst ip ⟨0, by decide⟩ 1, 0, List.pairwise_singleton _ _, ?_, ?_⟩
    · intro timed member
      rw [(List.mem_replicate.mp member).2]
    · have free : start.blocked ip 0 = false := by simp [RateLimiter.blocked, empty, Table.empty, Table.find?]
      have most : mostFailures start.limit = 1 := by
        rw [one]
        rfl
      rw [most]
      simp [burst, letThrough, letsThrough, free, windowPos]
  · refine ⟨worstBurst start windowPos ip, 2, ordered_worstBurst start windowPos ip, ?_, ?_⟩
    · intro timed member
      simp only [worstBurst, List.mem_append] at member
      rcases member with (first | second) | third
      · rw [(List.mem_replicate.mp first).2]
      · rw [(List.mem_replicate.mp second).2]
      · rw [(List.mem_replicate.mp third).2]
    · rw [letThrough_worstBurst empty (by lia) wide long windowPos]
      unfold mostFailures
      lia

theorem newRateLimiter_limit_pos (limit : Int) (window block : Duration) :
    1 ≤ (newRateLimiter limit window block).limit := by
  simp only [newRateLimiter]
  split
  · decide
  · lia

/-- With a block that is no shorter than the window, the most failures of an IP that are let
through in a period as long as the window are fewer than twice the limit, and no smaller
number bounds them. -/
theorem failures_let_through_iff (limit : Int) (window block : Duration) (bound : Int)
    (wide : 1 < (newRateLimiter limit window block).window)
    (long : (newRateLimiter limit window block).window ≤ (newRateLimiter limit window block).block) :
    (∀ calls periodStart ip, Ordered calls →
      letThrough periodStart ip (newRateLimiter limit window block) calls ≤ bound) ↔
      mostFailures (newRateLimiter limit window block).limit ≤ bound := by
  have positive := newRateLimiter_limit_pos limit window block
  constructor
  · intro bounds
    obtain ⟨calls, periodStart, ordered, _, most⟩ := exists_most_let_through rfl positive wide long []
    exact most ▸ bounds calls periodStart [] ordered
  · intro enough calls periodStart ip ordered
    exact Int.le_trans (failures_let_through_le rfl positive (by lia) long ordered) enough

/-- A limit of three failures a minute lets four through, and not five. -/
theorem three_a_minute_let_through :
    (∀ calls periodStart ip, Ordered calls →
      (letThrough periodStart ip (newRateLimiter 3 (60 * second) (60 * second)) calls : Int) ≤ 4) ∧
      ¬ ∀ calls periodStart ip, Ordered calls →
        (letThrough periodStart ip (newRateLimiter 3 (60 * second) (60 * second)) calls : Int) ≤ 3 :=
  ⟨(failures_let_through_iff 3 (60 * second) (60 * second) 4 (by decide) (by decide)).mpr (by decide),
    fun bounds => absurd ((failures_let_through_iff 3 (60 * second) (60 * second) 3 (by decide) (by decide)).mp bounds)
      (by decide)⟩

end NetLatencyMonitor.Tickets
