import NetLatencyMonitor.Clock
import NetLatencyMonitor.Controller.Targets
import NetLatencyMonitor.Text.Utf8

/-! The agent's cache of `/api/v1/targets`. -/

namespace NetLatencyMonitor.Agent

open Clock Controller Text

/-- `config.Target`. -/
structure Target where
  id : GoString
  address : GoString
deriving DecidableEq, Repr

/-- The fields under the cache's mutex. -/
structure TargetCache where
  targets : List Target := []
  knownVersion : Int := 0
  lastFetched : Time := zeroTime
  expectedNotice : Int := 0
deriving DecidableEq, Repr

namespace TargetCache

/-- `NoticeVersion`: remember the version a results post echoed. -/
def noticeVersion (cache : TargetCache) (v : Int) : TargetCache :=
  if v ≤ 0 then cache else { cache with expectedNotice := v }

/-- Whether `Targets` fetches before it answers. -/
def needRefresh (cache : TargetCache) (maxAge : Duration) (now : Time) : Bool :=
  decide (cache.lastFetched = zeroTime) ||
    (decide (cache.expectedNotice ≠ 0) && decide (cache.expectedNotice ≠ cache.knownVersion)) ||
    (decide (maxAge > 0) && decide (now - cache.lastFetched ≥ maxAge))

/-- What `fetch` makes of a response body. -/
def decodeTargets (response : TargetsResponse) : List Target :=
  response.targets.map (fun entry => ⟨entry.id, entry.address⟩)

/-- The response as JSON carries it to the agent. -/
def received (response : TargetsResponse) : TargetsResponse :=
  { response with
    targets := response.targets.map (fun entry => ⟨toValidUTF8 entry.id, toValidUTF8 entry.address⟩) }

/-- A successful fetch replaces list and version together. -/
def store (cache : TargetCache) (response : TargetsResponse) (now : Time) : TargetCache :=
  { cache with
    targets := decodeTargets response
    knownVersion := response.targetsVersion
    expectedNotice := response.targetsVersion
    lastFetched := now }

@[simp] theorem noticeVersion_targets (cache : TargetCache) (v : Int) :
    (cache.noticeVersion v).targets = cache.targets := by
  unfold noticeVersion
  split
  · rfl
  · rfl

@[simp] theorem noticeVersion_knownVersion (cache : TargetCache) (v : Int) :
    (cache.noticeVersion v).knownVersion = cache.knownVersion := by
  unfold noticeVersion
  split
  · rfl
  · rfl

end TargetCache

end NetLatencyMonitor.Agent
