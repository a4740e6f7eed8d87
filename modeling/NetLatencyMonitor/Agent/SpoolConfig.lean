import NetLatencyMonitor.Agent.Config
import NetLatencyMonitor.Spool.Retention

/-! The spool's settings from environment variables, and the unit conversions of what
`LoadSpool` accepts. -/

namespace NetLatencyMonitor.Agent

open Clock Text Spool
open Controller (ok_of_bind)

/-- The settings as they are read; `int` has 64 bits. -/
structure SpoolConfig where
  path : GoString
  drainRows : Int
  maxAgeHours : Int
  maxSizeMB : Int
  backoffBaseSeconds : Int
  backoffMaxSeconds : Int
deriving DecidableEq, Repr

inductive SpoolConfigError where
  | setting (error : ConfigError)
  | backoffOrder
deriving DecidableEq, Repr

def SpoolConfigError.text (quote : GoString → GoString) : SpoolConfigError → GoString
  | .setting error => error.text quote
  | .backoffOrder => lit "NLM_SPOOL_BACKOFF_MAX_SECONDS must be >= NLM_SPOOL_BACKOFF_BASE_SECONDS"

def spoolInt (env : Env) (key : GoString) (default : Int) : Except SpoolConfigError Int :=
  match getInt env key default with
  | .error error => .error (.setting error)
  | .ok n => .ok n

/-- The checks of `LoadSpool`, in order. -/
def checkSpool (c : SpoolConfig) : Except SpoolConfigError SpoolConfig :=
  if c.drainRows ≤ 0 then .error (.setting (.notPositive (lit "NLM_SPOOL_DRAIN_ROWS")))
  else if c.maxAgeHours ≤ 0 then .error (.setting (.notPositive (lit "NLM_SPOOL_MAX_AGE_HOURS")))
  else if c.maxSizeMB ≤ 0 then .error (.setting (.notPositive (lit "NLM_SPOOL_MAX_SIZE_MB")))
  else if c.backoffBaseSeconds ≤ 0 then .error (.setting (.notPositive (lit "NLM_SPOOL_BACKOFF_BASE_SECONDS")))
  else if c.backoffMaxSeconds < c.backoffBaseSeconds then .error .backoffOrder
  else .ok c

def loadSpool (env : Env) : Except SpoolConfigError SpoolConfig := do
  let path := getString env (lit "NLM_SPOOL_PATH") (lit "/var/lib/nlm/spool.db")
  let drainRows ← spoolInt env (lit "NLM_SPOOL_DRAIN_ROWS") 100
  let maxAgeHours ← spoolInt env (lit "NLM_SPOOL_MAX_AGE_HOURS") 24
  let maxSizeMB ← spoolInt env (lit "NLM_SPOOL_MAX_SIZE_MB") 100
  let backoffBaseSeconds ← spoolInt env (lit "NLM_SPOOL_BACKOFF_BASE_SECONDS") 30
  let backoffMaxSeconds ← spoolInt env (lit "NLM_SPOOL_BACKOFF_MAX_SECONDS") 3600
  checkSpool { path, drainRows, maxAgeHours, maxSizeMB, backoffBaseSeconds, backoffMaxSeconds }

def hour : Duration := 3600000000000

namespace SpoolConfig

def maxAge (c : SpoolConfig) : Duration := wrap64 (c.maxAgeHours * hour)

def maxSizeBytes (c : SpoolConfig) : Int := wrap64 (wrap64 (c.maxSizeMB * 1024) * 1024)

def backoffBase (c : SpoolConfig) : Duration := wrap64 (c.backoffBaseSeconds * second)

def backoffMax (c : SpoolConfig) : Duration := wrap64 (c.backoffMaxSeconds * second)

/-- What `openSpool` hands to the spool. -/
def spool (c : SpoolConfig) : Config where
  drainRows := c.drainRows
  maxAge := c.maxAge
  maxSize := c.maxSizeBytes
  backoffBase := c.backoffBase
  backoffMax := c.backoffMax

end SpoolConfig

/-- What the checks guarantee about the numbers as they are read. -/
structure SpoolChecked (c : SpoolConfig) : Prop where
  drainRows : 0 < c.drainRows
  maxAgeHours : 0 < c.maxAgeHours
  maxSizeMB : 0 < c.maxSizeMB
  backoffBaseSeconds : 0 < c.backoffBaseSeconds
  backoffOrder : c.backoffBaseSeconds ≤ c.backoffMaxSeconds

private theorem checkSpool_ok {c accepted : SpoolConfig} (checked : checkSpool c = .ok accepted) :
    accepted = c ∧ SpoolChecked c := by
  unfold checkSpool at checked
  split at checked
  · cases checked
  split at checked
  · cases checked
  split at checked
  · cases checked
  split at checked
  · cases checked
  split at checked
  · cases checked
  · cases checked
    exact ⟨rfl, by constructor <;> lia⟩

private theorem loadSpool_ok {env : Env} {c : SpoolConfig} (loaded : loadSpool env = .ok c) : SpoolChecked c := by
  obtain ⟨drainRows, _, loaded⟩ := ok_of_bind loaded
  obtain ⟨maxAgeHours, _, loaded⟩ := ok_of_bind loaded
  obtain ⟨maxSizeMB, _, loaded⟩ := ok_of_bind loaded
  obtain ⟨backoffBaseSeconds, _, loaded⟩ := ok_of_bind loaded
  obtain ⟨backoffMaxSeconds, _, loaded⟩ := ok_of_bind loaded
  obtain ⟨same, accepted⟩ := checkSpool_ok loaded
  exact same ▸ accepted

/-- Each conversion is exact, and what follows from that. -/
structure MeansWhatItSays (c : SpoolConfig) : Prop where
  maxAge : c.maxAge = c.maxAgeHours * hour
  maxSizeBytes : c.maxSizeBytes = c.maxSizeMB * (1024 * 1024)
  backoffBase : c.backoffBase = c.backoffBaseSeconds * second
  backoffMax : c.backoffMax = c.backoffMaxSeconds * second
  maxAgePos : 0 < c.maxAge
  maxSizePos : 0 < c.maxSizeBytes
  backoffBasePos : 0 < c.backoffBase
  backoffOrder : c.backoffBase ≤ c.backoffMax
  /-- A row alone in the spool passes the age test at the moment it is enqueued. -/
  keepsNew : ∀ (db after : SpoolDB) (probeRunID payload : GoString) (now : Time), db.depth = 0 →
    db.insert probeRunID payload now = some after → oldestAge after now ≤ c.spool.maxAge

section Conversions

variable {c : SpoolConfig}

private theorem maxAge_exact_iff (accepted : SpoolChecked c) :
    c.maxAge = c.maxAgeHours * hour ↔ c.maxAgeHours ≤ 2562047 := by
  have positive := accepted.maxAgeHours
  rw [SpoolConfig.maxAge, wrap64_eq_self_iff, show hour = (3600000000000 : Int) from rfl]
  omega

private theorem maxSizeBytes_exact_iff (accepted : SpoolChecked c) :
    c.maxSizeBytes = c.maxSizeMB * (1024 * 1024) ↔ c.maxSizeMB ≤ 8796093022207 := by
  have positive := accepted.maxSizeMB
  have once : c.maxSizeBytes = wrap64 (c.maxSizeMB * (1024 * 1024)) := by
    rw [SpoolConfig.maxSizeBytes, wrap64, wrap64, wrap64, Int.bmod_mul_bmod, Int.mul_assoc]
  rw [once, wrap64_eq_self_iff]
  omega

end Conversions

/-- A row's age at the moment it is enqueued is less than a second. -/
theorem oldestAge_insert {db after : SpoolDB} {probeRunID payload : GoString} {now : Time} (empty : db.depth = 0)
    (inserted : db.insert probeRunID payload now = some after) :
    oldestAge after now = now - toSql now * second := by
  have rows : db.rows.rows = [] := List.eq_nil_of_length_eq_zero empty
  unfold SpoolDB.insert at inserted
  split at inserted
  · cases inserted
  · cases inserted
    have single : ∀ row : SpoolRow, Keyed.orderBy SpoolRow.enqueuedAt [row] = [row] :=
      fun _ => rfl
    simp only [oldestAge, SpoolDB.minEnqueuedAt, SpoolDB.oldestFirst, rows, List.nil_append, single,
      List.head?_cons, Option.map_some]

private theorem meansWhatItSays_of_bounds {c : SpoolConfig} (accepted : SpoolChecked c) (age : c.maxAgeHours ≤ 2562047)
    (size : c.maxSizeMB ≤ 8796093022207) (backoff : c.backoffMaxSeconds ≤ 9223372036) : MeansWhatItSays c := by
  have ⟨_, agePos, sizePos, basePos, order⟩ := accepted
  have maxAge := (maxAge_exact_iff accepted).mpr age
  have maxSizeBytes := (maxSizeBytes_exact_iff accepted).mpr size
  have backoffBase : c.backoffBase = c.backoffBaseSeconds * second :=
    (wrap64_seconds_iff basePos).mpr (Int.le_trans order backoff)
  have backoffMax : c.backoffMax = c.backoffMaxSeconds * second :=
    (wrap64_seconds_iff (Int.lt_of_lt_of_le basePos order)).mpr backoff
  have hourPos : 0 < hour := by decide
  have secondPos : 0 < second := by decide
  refine ⟨maxAge, maxSizeBytes, backoffBase, backoffMax, ?_, ?_, ?_, ?_, ?_⟩
  · rw [maxAge]
    exact Int.mul_pos agePos hourPos
  · rw [maxSizeBytes]
    exact Int.mul_pos sizePos (by decide)
  · rw [backoffBase]
    exact Int.mul_pos basePos secondPos
  · rw [backoffBase, backoffMax]
    exact Int.mul_le_mul_of_nonneg_right order (Int.le_of_lt secondPos)
  · intro db after probeRunID payload now empty inserted
    rw [oldestAge_insert empty inserted]
    show now - toSql now * second ≤ c.maxAge
    have young := lt_toSql now
    have long : hour ≤ c.maxAge := by
      rw [maxAge]
      have scaled : 1 * hour ≤ c.maxAgeHours * hour :=
        Int.mul_le_mul_of_nonneg_right agePos (Int.le_of_lt hourPos)
      rw [Int.one_mul] at scaled
      exact scaled
    have unit : second ≤ hour := by decide
    lia

/-- The settings of an accepted environment mean what they say exactly up to these bounds. -/
theorem loadSpool_exact_iff {env : Env} {c : SpoolConfig} (loaded : loadSpool env = .ok c) :
    MeansWhatItSays c ↔
      c.maxAgeHours ≤ 2562047 ∧ c.maxSizeMB ≤ 8796093022207 ∧ c.backoffMaxSeconds ≤ 9223372036 := by
  have accepted := loadSpool_ok loaded
  constructor
  · intro means
    exact ⟨(maxAge_exact_iff accepted).mp means.maxAge, (maxSizeBytes_exact_iff accepted).mp means.maxSizeBytes,
      (wrap64_seconds_iff (Int.lt_of_lt_of_le accepted.backoffBaseSeconds accepted.backoffOrder)).mp means.backoffMax⟩
  · rintro ⟨age, size, backoff⟩
    exact meansWhatItSays_of_bounds accepted age size backoff

/-- A retention of 9999999 hours, and the defaults otherwise. -/
def keepForever : Env := fun key => if key = lit "NLM_SPOOL_MAX_AGE_HOURS" then some (lit "9999999") else none

def keepForeverConfig : SpoolConfig := ⟨lit "/var/lib/nlm/spool.db", 100, 9999999, 100, 30, 3600⟩

/-- It is accepted, its maximal age is negative, and a row is too old when it is enqueued. -/
theorem keepForever_expires_at_once :
    loadSpool keepForever = .ok keepForeverConfig ∧ keepForeverConfig.maxAge = -893491747419103232 ∧
      (∀ after, SpoolDB.migrated.insert (lit "run-1") [] 0 = some after →
        ¬ oldestAge after 0 ≤ keepForeverConfig.spool.maxAge) ∧
      ¬ MeansWhatItSays keepForeverConfig := by
  have loaded : loadSpool keepForever = .ok keepForeverConfig := by decide +kernel
  refine ⟨loaded, by decide, ?_, fun means => ?_⟩
  · intro after inserted
    rw [oldestAge_insert rfl inserted]
    decide
  · exact absurd ((maxAge_exact_iff (loadSpool_ok loaded)).mp means.maxAge) (by decide)

/-- The defaults mean what they say. -/
theorem loadSpool_exact_defaults :
    MeansWhatItSays ⟨lit "/var/lib/nlm/spool.db", 100, 24, 100, 30, 3600⟩ := by
  have loaded : loadSpool (fun _ => none) = .ok ⟨lit "/var/lib/nlm/spool.db", 100, 24, 100, 30, 3600⟩ := by
    decide +kernel
  exact (loadSpool_exact_iff loaded).mpr ⟨by decide, by decide, by decide⟩

end NetLatencyMonitor.Agent
