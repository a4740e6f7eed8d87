import NetLatencyMonitor.Agent.TargetCache
import NetLatencyMonitor.Machine.Unwinding

/-! When the target cache fetches and what it answers, in terms of the calls so far and
what they returned. -/

namespace NetLatencyMonitor.Agent

open Clock Controller Text Machine

/-- What `Targets` returns, and whether it fetched. -/
structure Returned where
  fetched : Bool
  targets : List Target
  version : Int
  error : Option GoString := none
deriving DecidableEq, Repr

/-- `Targets`: a reading of the clock to decide, the outcome of the fetch if there is one,
and the reading that is stored after it. A failed fetch is its error text. -/
def TargetCache.callTargets (cache : TargetCache) (maxAge : Duration) (started : Time)
    (fetch : Except GoString TargetsResponse) (finished : Time) : TargetCache × Returned :=
  if cache.needRefresh maxAge started then
    match fetch with
    -- stale on error: the cached values, and the caller logs
    | .error text => (cache, ⟨true, cache.targets, cache.knownVersion, some text⟩)
    | .ok response =>
      (cache.store response finished, ⟨true, TargetCache.decodeTargets response, response.targetsVersion, none⟩)
  else (cache, ⟨false, cache.targets, cache.knownVersion, none⟩)

inductive CacheCall where
  | noticeVersion (v : Int)
  | targets (started : Reading) (fetch : Except GoString TargetsResponse) (finished : Reading)

/-- One call; `NoticeVersion` returns nothing. -/
def TargetCache.serve (maxAge : Duration) (cache : TargetCache) : CacheCall → TargetCache × Option Returned
  | .noticeVersion v => (cache.noticeVersion v, none)
  | .targets started fetch finished =>
    let (after, returned) := cache.callTargets maxAge started fetch finished
    (after, some returned)

/-! What a log of calls and their results says. -/

abbrev CacheLog := List (CacheCall × Option Returned)

structure Success where
  targets : List Target
  version : Int
  finished : Reading
deriving DecidableEq, Repr

/-- The successful fetch an entry of the log stands for: the call fetched, and this is the
list and the version in the response it got. -/
def success? : CacheCall × Option Returned → Option Success
  | (.targets _ (.ok response) finished, some returned) =>
    if returned.fetched then
      some ⟨response.targets.map (fun entry => ⟨entry.id, entry.address⟩), response.targetsVersion, finished⟩
    else none
  | _ => none

/-- The positive version an entry notices. -/
def notice? : CacheCall × Option Returned → Option Int
  | (.noticeVersion v, _) => if 0 < v then some v else none
  | _ => none

def lastSuccess (log : CacheLog) : Option Success := log.reverse.findSome? success?

/-- The latest positive version noticed since the last successful fetch. -/
def latestNotice (log : CacheLog) : Option Int :=
  (log.reverse.takeWhile (fun entry => (success? entry).isNone)).findSome? notice?

private theorem lastSuccess_concat (log : CacheLog) (entry : CacheCall × Option Returned) :
    lastSuccess (log ++ [entry]) = (success? entry).or (lastSuccess log) := by
  unfold lastSuccess
  rw [List.reverse_concat, List.findSome?_cons]
  cases success? entry with
  | none => rfl
  | some success => rfl

private theorem latestNotice_success {log : CacheLog} {entry : CacheCall × Option Returned} {success : Success}
    (succeeded : success? entry = some success) : latestNotice (log ++ [entry]) = none := by
  unfold latestNotice
  rw [List.reverse_concat, List.takeWhile_cons, succeeded]
  rfl

private theorem latestNotice_other {log : CacheLog} {entry : CacheCall × Option Returned}
    (other : success? entry = none) :
    latestNotice (log ++ [entry]) = (notice? entry).or (latestNotice log) := by
  unfold latestNotice
  rw [List.reverse_concat, List.takeWhile_cons, other]
  simp only [Option.isNone_none, if_true, List.findSome?_cons]
  cases notice? entry with
  | none => rfl
  | some v => rfl

private theorem latestNotice_pos {log : CacheLog} {v : Int} (noticed : latestNotice log = some v) : 0 < v := by
  obtain ⟨entry, _, same⟩ := List.exists_of_findSome?_eq_some noticed
  obtain ⟨call, returned⟩ := entry
  cases call with
  | noticeVersion version =>
    simp only [notice?] at same
    split at same
    · cases same
      assumption
    · cases same
  | targets started fetch finished => cases same

/-- The cache's fields in terms of the log. -/
structure Tracks (log : CacheLog) (cache : TargetCache) : Prop where
  targets : cache.targets = (lastSuccess log).elim [] Success.targets
  knownVersion : cache.knownVersion = (lastSuccess log).elim 0 Success.version
  lastFetched : cache.lastFetched = (lastSuccess log).elim zeroTime (fun success => success.finished.val)
  expectedNotice : cache.expectedNotice = (latestNotice log).getD cache.knownVersion

section Steps

variable {log : CacheLog} {cache : TargetCache} {maxAge : Duration}

/-- An entry that is neither a success nor a positive notice leaves what the log says. -/
theorem Tracks.silent {entry : CacheCall × Option Returned} (tracks : Tracks log cache)
    (noSuccess : success? entry = none) (noNotice : notice? entry = none) : Tracks (log ++ [entry]) cache := by
  have last : lastSuccess (log ++ [entry]) = lastSuccess log := by
    rw [lastSuccess_concat, noSuccess, Option.none_or]
  have latest : latestNotice (log ++ [entry]) = latestNotice log := by
    rw [latestNotice_other noSuccess, noNotice, Option.none_or]
  obtain ⟨targets, knownVersion, lastFetched, expectedNotice⟩ := tracks
  exact ⟨last ▸ targets, last ▸ knownVersion, last ▸ lastFetched, latest ▸ expectedNotice⟩

theorem Tracks.notice (tracks : Tracks log cache) (v : Int) :
    Tracks (log ++ [(.noticeVersion v, none)]) (cache.noticeVersion v) := by
  by_cases positive : 0 < v
  · have noticed : cache.noticeVersion v = { cache with expectedNotice := v } := if_neg (Int.not_le.mpr positive)
    have last : lastSuccess (log ++ [(.noticeVersion v, none)]) = lastSuccess log := lastSuccess_concat _ _
    have latest : latestNotice (log ++ [(.noticeVersion v, none)]) = some v := by
      rw [latestNotice_other rfl, notice?, if_pos positive]
      rfl
    obtain ⟨targets, knownVersion, lastFetched, _⟩ := tracks
    rw [noticed]
    refine ⟨last ▸ targets, last ▸ knownVersion, last ▸ lastFetched, ?_⟩
    rw [latest]
    rfl
  · have ignored : cache.noticeVersion v = cache := if_pos (Int.not_lt.mp positive)
    rw [ignored]
    exact tracks.silent rfl (if_neg positive)

theorem Tracks.stored (response : TargetsResponse) (started finished : Reading) :
    Tracks (log ++ [(.targets started (.ok response) finished,
        some ⟨true, TargetCache.decodeTargets response, response.targetsVersion, none⟩)])
      (cache.store response finished) := by
  have last := lastSuccess_concat log (.targets started (.ok response) finished,
    some ⟨true, TargetCache.decodeTargets response, response.targetsVersion, none⟩)
  have success : success? (.targets started (.ok response) finished,
      some ⟨true, TargetCache.decodeTargets response, response.targetsVersion, none⟩) =
      some ⟨TargetCache.decodeTargets response, response.targetsVersion, finished⟩ := rfl
  rw [success, Option.some_or] at last
  refine ⟨?_, ?_, ?_, ?_⟩
  · rw [last]
    rfl
  · rw [last]
    rfl
  · rw [last]
    rfl
  · rw [latestNotice_success success]
    rfl

theorem Tracks.serve (tracks : Tracks log cache) (call : CacheCall) :
    Tracks (log ++ [(call, (cache.serve maxAge call).2)]) (cache.serve maxAge call).1 := by
  cases call with
  | noticeVersion v => exact tracks.notice v
  | targets started fetch finished =>
    simp only [TargetCache.serve, TargetCache.callTargets]
    split
    · cases fetch with
      | error text => exact tracks.silent rfl rfl
      | ok response => exact @Tracks.stored log cache response started finished
    · cases fetch with
      | error text => exact tracks.silent rfl rfl
      | ok response => exact tracks.silent rfl rfl

end Steps

/-- Along every run of a new cache, its fields are what the log says. -/
theorem tracks_run (maxAge : Duration) (calls : List CacheCall) :
    Tracks (answers (TargetCache.serve maxAge) {} calls) (reached (TargetCache.serve maxAge) {} calls) := by
  induction calls using List.reverseRecOn with
  | nil => exact ⟨rfl, rfl, rfl, rfl⟩
  | append_singleton past call ih =>
    rw [answers_concat, reached_append]
    exact ih.serve call

/-- When a call should fetch, from the log alone. -/
def ShouldFetch (log : CacheLog) (maxAge : Duration) (started : Time) : Prop :=
  match lastSuccess log with
  | none => True
  | some success =>
    (∃ v, latestNotice log = some v ∧ v ≠ success.version) ∨
      (0 < maxAge ∧ maxAge ≤ started - success.finished.val)

private theorem Tracks.needRefresh_iff {log : CacheLog} {cache : TargetCache} (tracks : Tracks log cache)
    (maxAge : Duration)
    (started : Time) : cache.needRefresh maxAge started = true ↔ ShouldFetch log maxAge started := by
  obtain ⟨_, knownVersion, lastFetched, expectedNotice⟩ := tracks
  unfold ShouldFetch TargetCache.needRefresh
  cases last : lastSuccess log with
  | none =>
    rw [last] at lastFetched
    simp only [lastFetched, Option.elim_none, decide_true, Bool.true_or]
  | some success =>
    rw [last] at lastFetched knownVersion
    simp only [Option.elim_some] at lastFetched knownVersion
    have read : success.finished.val ≠ zeroTime := Int.ne_of_gt success.finished.2
    simp only [lastFetched, read, decide_false, Bool.false_or, Bool.or_eq_true, Bool.and_eq_true,
      decide_eq_true_eq, gt_iff_lt, ge_iff_le]
    refine or_congr ?_ Iff.rfl
    cases latest : latestNotice log with
    | none =>
      rw [latest, Option.getD_none] at expectedNotice
      simp [expectedNotice]
    | some v =>
      rw [latest, Option.getD_some] at expectedNotice
      have positive := latestNotice_pos latest
      simp only [expectedNotice, knownVersion, Option.some.injEq, exists_eq_left']
      exact and_iff_right (Int.ne_of_gt positive)

/-- Notices that do not name the version of the last fetch keep a refresh due, and so does
time. -/
theorem needRefresh_kept {cache : TargetCache} {maxAge : Duration} {started next : Time} (passed : started ≤ next)
    (due : cache.needRefresh maxAge started = true) {notices : List Int}
    (other : cache.lastFetched ≠ zeroTime → ∀ v ∈ notices, 0 < v → v ≠ cache.knownVersion) :
    (notices.foldl TargetCache.noticeVersion cache).needRefresh maxAge next = true := by
  induction notices generalizing cache with
  | nil =>
    rw [List.foldl_nil]
    simp only [TargetCache.needRefresh, Bool.or_eq_true, Bool.and_eq_true, decide_eq_true_eq] at due ⊢
    rcases due with due | aged
    · exact Or.inl due
    · exact Or.inr ⟨aged.1, by lia⟩
  | cons v rest ih =>
    have later : cache.lastFetched ≠ zeroTime → ∀ w ∈ rest, 0 < w → w ≠ cache.knownVersion :=
      fun fetched w member => other fetched w (List.mem_cons_of_mem v member)
    by_cases positive : 0 < v
    · have noticed : cache.noticeVersion v = { cache with expectedNotice := v } := if_neg (Int.not_le.mpr positive)
      rw [List.foldl_cons, noticed]
      refine ih ?_ later
      by_cases fetched : cache.lastFetched = zeroTime
      · simp [TargetCache.needRefresh, fetched]
      · have nonzero : v ≠ 0 := Int.ne_of_gt positive
        simp [TargetCache.needRefresh, nonzero, other fetched v List.mem_cons_self positive]
    · have ignored : cache.noticeVersion v = cache := if_pos (Int.not_lt.mp positive)
      rw [List.foldl_cons, ignored]
      exact ih due later

section Run

variable (maxAge : Duration) (past : List CacheCall)

def cacheAfter : TargetCache := reached (TargetCache.serve maxAge) {} past

def logAfter : CacheLog := answers (TargetCache.serve maxAge) {} past

/-- What is expected of a call of `Targets` after a run of calls. -/
structure RefreshesRight (started : Reading) (fetch : Except GoString TargetsResponse) (finished : Reading) : Prop where
  fetches : ((cacheAfter maxAge past).callTargets maxAge started fetch finished).2.fetched = true ↔
    ShouldFetch (logAfter maxAge past) maxAge started
  /-- The list and version are those of the last successful fetch, its own included. -/
  answers : (((cacheAfter maxAge past).callTargets maxAge started fetch finished).2.targets,
      ((cacheAfter maxAge past).callTargets maxAge started fetch finished).2.version) =
    (lastSuccess (logAfter maxAge (past ++ [.targets started fetch finished]))).elim ([], 0)
      (fun success => (success.targets, success.version))
  /-- A failed fetch changes nothing, and the next `Targets` fetches again, unless a notice
  in between takes the mismatch back. -/
  failed : ∀ text, ((cacheAfter maxAge past).callTargets maxAge started fetch finished).2.error = some text →
    ((cacheAfter maxAge past).callTargets maxAge started fetch finished).1 = cacheAfter maxAge past ∧
      ∀ (notices : List Int) (next : Reading) (fetch' : Except GoString TargetsResponse) (finished' : Reading),
        started ≤ next →
        (∀ success, lastSuccess (logAfter maxAge past) = some success → ∀ v ∈ notices, 0 < v → v ≠ success.version) →
        ((notices.foldl TargetCache.noticeVersion
          ((cacheAfter maxAge past).callTargets maxAge started fetch finished).1).callTargets
            maxAge next fetch' finished').2.fetched = true

end Run

private theorem callTargets_fetched (cache : TargetCache) (maxAge : Duration) (started : Time)
    (fetch : Except GoString TargetsResponse) (finished : Time) :
    (cache.callTargets maxAge started fetch finished).2.fetched = cache.needRefresh maxAge started := by
  unfold TargetCache.callTargets
  split
  · rename_i due
    cases fetch with
    | error text => exact due.symm
    | ok response => exact due.symm
  · rename_i fresh
    exact (Bool.eq_false_iff.mpr fresh).symm

private theorem callTargets_failed {cache : TargetCache} {maxAge : Duration} {started : Time}
    {fetch : Except GoString TargetsResponse} {finished : Time} {text : GoString}
    (failed : (cache.callTargets maxAge started fetch finished).2.error = some text) :
    cache.needRefresh maxAge started = true ∧ (cache.callTargets maxAge started fetch finished).1 = cache := by
  unfold TargetCache.callTargets at failed ⊢
  split at failed
  · rename_i due
    rw [if_pos due]
    cases fetch with
    | error reason => exact ⟨due, rfl⟩
    | ok response => cases failed
  · cases failed

/-- `Targets` returns what the cache then holds. -/
theorem callTargets_returns (cache : TargetCache) (maxAge : Duration) (started : Time)
    (fetch : Except GoString TargetsResponse) (finished : Time) :
    (cache.callTargets maxAge started fetch finished).2.targets =
        (cache.callTargets maxAge started fetch finished).1.targets ∧
      (cache.callTargets maxAge started fetch finished).2.version =
        (cache.callTargets maxAge started fetch finished).1.knownVersion := by
  unfold TargetCache.callTargets
  split
  · cases fetch with
    | error text => exact ⟨rfl, rfl⟩
    | ok response => exact ⟨rfl, rfl⟩
  · exact ⟨rfl, rfl⟩

/-- After every run of calls, and whatever its fetch brings, `Targets` fetches exactly when
it should, returns the latest list there is, and a failure leaves everything as it was. -/
theorem targets_refreshesRight (maxAge : Duration) (past : List CacheCall) (started : Reading)
    (fetch : Except GoString TargetsResponse) (finished : Reading) :
    RefreshesRight maxAge past started fetch finished where
  fetches := by
    rw [callTargets_fetched]
    exact (tracks_run maxAge past).needRefresh_iff maxAge started
  answers := by
    have tracks := tracks_run maxAge (past ++ [.targets started fetch finished])
    have same : reached (TargetCache.serve maxAge) {} (past ++ [.targets started fetch finished]) =
        ((cacheAfter maxAge past).callTargets maxAge started fetch finished).1 := reached_append _ _ _
    obtain ⟨targets, version⟩ := callTargets_returns (cacheAfter maxAge past) maxAge started fetch finished
    rw [targets, version, ← same, tracks.targets, tracks.knownVersion]
    unfold logAfter
    cases lastSuccess (Machine.answers (TargetCache.serve maxAge) {} (past ++ [.targets started fetch finished])) with
    | none => rfl
    | some success => rfl
  failed := by
    intro text error
    obtain ⟨due, same⟩ := callTargets_failed error
    refine ⟨same, fun notices next fetch' finished' passed other => ?_⟩
    rw [callTargets_fetched, same]
    refine needRefresh_kept passed due (fun fetched v member positive => ?_)
    have tracks := tracks_run maxAge past
    have lastFetched : (cacheAfter maxAge past).lastFetched = _ := tracks.lastFetched
    have knownVersion : (cacheAfter maxAge past).knownVersion = _ := tracks.knownVersion
    rw [knownVersion]
    rw [lastFetched] at fetched
    unfold logAfter at other
    cases last : lastSuccess (Machine.answers (TargetCache.serve maxAge) {} past) with
    | none =>
      rw [last] at fetched
      exact absurd rfl fetched
    | some success => exact other success last v member positive

end NetLatencyMonitor.Agent
