import NetLatencyMonitor.Agent.Config
import NetLatencyMonitor.Controller.Readiness
import NetLatencyMonitor.Text.Rounding

/-! The controller's configuration from environment variables, and what `/readyz` makes of the
two gates it sets. -/

namespace NetLatencyMonitor.Controller

open Agent Clock Litestream Text

structure ControllerConfig where
  dbPath : GoString
  listen : GoString
  baseURL : GoString
  maxClockDriftMS : Float64
  maxLitestreamLagSecs : Int
  wsTicketRateLimit : Int
  metricsToken : GoString
  chronycBinary : GoString
  adminToken : GoString
  wsAllowedOrigins : List GoString
deriving DecidableEq, Repr

inductive ControllerConfigError where
  | setting (error : ConfigError)
  | empty (key : GoString)
deriving DecidableEq, Repr

def ControllerConfigError.text (quote : GoString → GoString) : ControllerConfigError → GoString
  | .setting error => error.text quote
  | .empty key => key ++ lit " must not be empty"

def controllerInt (env : Env) (key : GoString) (default : Int) : Except ControllerConfigError Int :=
  match getInt env key default with
  | .error error => .error (.setting error)
  | .ok n => .ok n

/-- A number that has to be positive. -/
def positiveInt (env : Env) (key : GoString) (default : Int) : Except ControllerConfigError Int :=
  match controllerInt env key default with
  | .error error => .error error
  | .ok n => if n ≤ 0 then .error (.setting (.notPositive key)) else .ok n

/-- The drift gate may be zero. -/
def driftGate (env : Env) : Except ControllerConfigError Int :=
  match controllerInt env (lit "NLM_READY_MAX_CLOCK_DRIFT_MS") 100 with
  | .error error => .error error
  | .ok n => if n < 0 then .error (.setting (.negative (lit "NLM_READY_MAX_CLOCK_DRIFT_MS"))) else .ok n

/-- The parts of `NLM_WS_ALLOWED_ORIGINS` that are not blank. -/
def allowedOrigins (raw : GoString) : List GoString :=
  if raw = [] then [] else ((split 0x2c raw).map trimSpace).filter (fun origin => decide (origin ≠ []))

def loadController (env : Env) : Except ControllerConfigError ControllerConfig :=
  let dbPath := getString env (lit "NLM_CONTROLLER_DB_PATH") (lit "/var/lib/nlm/nlm.db")
  let listen := getString env (lit "NLM_CONTROLLER_LISTEN") (lit ":8080")
  let baseURL := getString env (lit "NLM_CONTROLLER_BASE_URL") []
  let metricsToken := getString env (lit "NLM_METRICS_TOKEN") []
  let chronycBinary := getString env (lit "NLM_CHRONYC_BINARY") (lit "chronyc")
  let adminToken := getString env (lit "NLM_ADMIN_TOKEN") []
  let wsAllowedOrigins := allowedOrigins (getString env (lit "NLM_WS_ALLOWED_ORIGINS") [])
  if dbPath = [] then .error (.empty (lit "NLM_CONTROLLER_DB_PATH"))
  else if listen = [] then .error (.empty (lit "NLM_CONTROLLER_LISTEN"))
  else do
    let driftMS ← driftGate env
    let maxLitestreamLagSecs ← positiveInt env (lit "NLM_LITESTREAM_MAX_LAG_SECONDS") 300
    let wsTicketRateLimit ← positiveInt env (lit "NLM_WS_TICKET_RATE_LIMIT") 10
    return {
      dbPath, listen, baseURL, maxClockDriftMS := .finite (floatOfInt driftMS), maxLitestreamLagSecs,
      wsTicketRateLimit, metricsToken, chronycBinary, adminToken, wsAllowedOrigins }

/-- `MaxLitestreamLag`. -/
def ControllerConfig.maxLitestreamLag (c : ControllerConfig) : Duration :=
  wrap64 (c.maxLitestreamLagSecs * second)

/-- The gates `main` hands to the server. -/
def ControllerConfig.gates (c : ControllerConfig) : Gates := ⟨c.maxClockDriftMS, c.maxLitestreamLag⟩

/-- The tracker knows of a sync this long ago at most, by an active service. -/
def TrackerReads.Synced (lag : Duration) (reads : TrackerReads) : Prop :=
  reads.healthy.1.serviceActive = true ∧ reads.healthy.1.lastSyncAt ≠ zeroTime ∧
    reads.healthy.2 - reads.healthy.1.lastSyncAt ≤ lag

private theorem isHealthy_iff {maxLag : Duration} {reads : TrackerReads} :
    reads.isHealthy maxLag = true ↔ reads.Synced maxLag := by
  unfold TrackerReads.isHealthy Status.healthy TrackerReads.Synced
  cases reads.healthy.1.serviceActive with
  | false => simp
  | true =>
    by_cases never : reads.healthy.1.lastSyncAt = zeroTime
    · simp [never]
    · simp [never]

/-- The path and the address have defaults, so only the numbers can be refused. -/
theorem loadController_ok {env : Env} {c : ControllerConfig} (loaded : loadController env = .ok c) :
    ∃ driftMS, driftGate env = .ok driftMS ∧ c.maxClockDriftMS = .finite (floatOfInt driftMS) ∧
      positiveInt env (lit "NLM_LITESTREAM_MAX_LAG_SECONDS") 300 = .ok c.maxLitestreamLagSecs := by
  simp only [loadController] at loaded
  split at loaded
  · cases loaded
  split at loaded
  · cases loaded
  · obtain ⟨driftMS, drift, loaded⟩ := ok_of_bind loaded
    obtain ⟨lagSecs, lag, loaded⟩ := ok_of_bind loaded
    obtain ⟨limit, _, loaded⟩ := ok_of_bind loaded
    cases loaded
    exact ⟨driftMS, drift, rfl, lag⟩

private theorem positiveInt_pos {env : Env} {key : GoString} {default n : Int}
    (read : positiveInt env key default = .ok n) :
    0 < n := by
  unfold positiveInt at read
  split at read
  · cases read
  · split at read
    · cases read
    · cases read
      lia

private theorem driftGate_nonneg {env : Env} {n : Int} (read : driftGate env = .ok n) : 0 ≤ n := by
  unfold driftGate at read
  split at read
  · cases read
  · split at read
    · cases read
    · cases read
      lia

/-- `int` has 64 bits. -/
theorem driftGate_lt {env : Env} {n : Int} (read : driftGate env = .ok n) : n < 2 ^ 63 := by
  unfold driftGate controllerInt at read
  cases got : getInt env (lit "NLM_READY_MAX_CLOCK_DRIFT_MS") 100 with
  | error error =>
    rw [got] at read
    cases read
  | ok value =>
    rw [got] at read
    simp only at read
    split at read
    · cases read
    · cases read
      exact getInt_lt (by decide) got

/-- Ready for a measured drift: within a gate that is switched on, and replicated. -/
theorem ready_measured_iff {gate drift : ℚ} {maxLag : Duration} {reads : TrackerReads} :
    (handleReadyz ⟨.finite gate, maxLag⟩ (some (.ok (.finite drift))) (some reads)).status = 200 ↔
      (0 < gate → drift ≤ gate) ∧ reads.Synced maxLag := by
  rw [← isHealthy_iff]
  have litestream := checkLitestream_passes maxLag reads
  have chrony : (checkChrony (.finite gate) (some (.ok (.finite drift)))).passes = true ↔
      (0 < gate → drift ≤ gate) := by
    by_cases above : 0 < gate ∧ gate < drift
    · simp [checkChrony, Float64.lt, above, ChronyCheck.passes]
    · have through : 0 < gate → drift ≤ gate := fun positive => not_lt.mp (fun late => above ⟨positive, late⟩)
      have off : ((Float64.finite 0).lt (.finite gate) && (Float64.finite gate).lt (.finite drift)) = false := by
        simpa [Float64.lt] using through
      simp only [checkChrony, off, Bool.false_eq_true, ↓reduceIte, ChronyCheck.passes]
      exact iff_of_true trivial through
  rw [← chrony]
  unfold handleReadyz
  cases passes : (checkChrony (.finite gate) (some (.ok (.finite drift)))).passes <;>
    cases healthy : reads.isHealthy maxLag <;> simp [writeJSON, passes, litestream, healthy]

/-- A tracker with an active service that was last synced at instant 0. -/
def syncedAtZero (now : Time) : TrackerReads where
  status := ⟨0, true, 0, 0⟩
  lag := (⟨0, true, 0, 0⟩, now)
  healthy := (⟨0, true, 0, 0⟩, now)

/-- The least duration. -/
def longAgo : Time := -9223372036854775808

private theorem synced_syncedAtZero {lag : Duration} {now : Time} : (syncedAtZero now).Synced lag ↔ now ≤ lag := by
  have known : (0 : Time) ≠ zeroTime := by decide
  simp [TrackerReads.Synced, syncedAtZero, known]

/-- The gate is the configured drift as a `float64`, which keeps the same drifts out when it
is not above it. -/
theorem gate_as_configured_iff {driftMS : Int} (nonneg : 0 ≤ driftMS) (fits : driftMS < 2 ^ 63) :
    (∀ drift, Representable drift → ((0 < floatOfInt driftMS → drift ≤ floatOfInt driftMS) ↔ drift ≤ driftMS)) ↔
      0 < driftMS ∧ floatOfInt driftMS ≤ driftMS := by
  obtain ⟨n, rfl⟩ := Int.eq_ofNat_of_zero_le nonneg
  have gate : floatOfInt n = roundToBits n := by
    rw [floatOfInt, if_neg (Int.not_lt.mpr nonneg), Int.natAbs_natCast]
  rw [gate, Int.cast_natCast]
  constructor
  · intro configured
    have on : 0 < roundToBits n := by
      by_contra off
      have zero : roundToBits n = 0 := Nat.eq_zero_of_not_pos off
      have through := (configured 1 representable_one).mp (fun positive => by simp [zero] at positive)
      exact off (roundToBits_pos (by exact_mod_cast through))
    have down := (configured _ (representable_roundToBits (by omega))).mp (fun _ => le_rfl)
    refine ⟨?_, down⟩
    have below : roundToBits n ≤ n := by exact_mod_cast down
    omega
  · rintro ⟨positive, down⟩ drift held
    have on : (0 : ℚ) < roundToBits n := by exact_mod_cast roundToBits_pos (by omega)
    constructor
    · exact fun through => le_trans (through on) down
    · exact fun below _ => le_roundToBits held below (by exact_mod_cast down)

/-- `/readyz` answers for the drift and the lag that have been configured, at every drift that is
a `float64`, exactly when the drift is not zero, which switches the gate off, and not rounded up,
and the lag in nanoseconds fits. -/
theorem readyz_as_configured_iff (env : Env) (c : ControllerConfig) (driftMS : Int)
    (loaded : loadController env = .ok c) (read : driftGate env = .ok driftMS) :
    (∀ (drift : ℚ) (reads : TrackerReads), Representable drift →
      ((handleReadyz c.gates (some (.ok (.finite drift))) (some reads)).status = 200 ↔
        drift ≤ driftMS ∧ reads.Synced (c.maxLitestreamLagSecs * second))) ↔
      0 < driftMS ∧ floatOfInt driftMS ≤ driftMS ∧ c.maxLitestreamLagSecs ≤ 9223372036 := by
  obtain ⟨driftRead, same, gate, lagRead⟩ := loadController_ok loaded
  rw [read] at same
  cases same
  have nonneg := driftGate_nonneg read
  have lagPos := positiveInt_pos lagRead
  have gates : c.gates = ⟨.finite (floatOfInt driftMS), c.maxLitestreamLag⟩ := by rw [ControllerConfig.gates, gate]
  rw [gates, ← and_assoc, ← gate_as_configured_iff nonneg (driftGate_lt read), ← wrap64_seconds_iff lagPos]
  constructor
  · intro configured
    constructor
    · -- a sync that lies ahead passes any lag
      intro drift held
      have early : longAgo ≤ c.maxLitestreamLag := @Int.le_bmod (c.maxLitestreamLagSecs * second) (2 ^ 64) (by decide)
      have configuredEarly : longAgo ≤ c.maxLitestreamLagSecs * second :=
        Int.le_trans (by decide) (Int.le_of_lt (Int.mul_pos lagPos (show (0 : Int) < second by decide)))
      have answer := configured drift (syncedAtZero longAgo) held
      rw [ready_measured_iff, synced_syncedAtZero, synced_syncedAtZero] at answer
      simpa only [early, configuredEarly, and_true] using answer
    · -- no drift passes any gate
      refine eq_of_forall_le_iff (fun age => ?_)
      have still : (0 : ℚ) ≤ driftMS := by exact_mod_cast nonneg
      have answer := configured 0 (syncedAtZero age) representable_zero
      rw [ready_measured_iff, synced_syncedAtZero, synced_syncedAtZero] at answer
      have through : 0 < floatOfInt driftMS → (0 : ℚ) ≤ floatOfInt driftMS := le_of_lt
      simpa only [still, true_and, and_iff_right through, ControllerConfig.maxLitestreamLag] using answer
  · rintro ⟨drifts, lag⟩ drift reads held
    rw [ready_measured_iff, drifts drift held, ControllerConfig.maxLitestreamLag, lag]

/-- The defaults: 100 ms and five minutes. -/
def defaultController : ControllerConfig :=
  ⟨lit "/var/lib/nlm/nlm.db", lit ":8080", [], .finite 100, 300, 10, [], lit "chronyc", [], []⟩

theorem default_gates_as_configured :
    loadController (fun _ => none) = .ok defaultController ∧
      ∀ (drift : ℚ) (reads : TrackerReads), Representable drift →
        ((handleReadyz defaultController.gates (some (.ok (.finite drift))) (some reads)).status = 200 ↔
          drift ≤ (100 : Int) ∧ reads.Synced (300 * second)) := by
  have loaded : loadController (fun _ => none) = .ok defaultController := by decide +kernel
  refine ⟨loaded, ?_⟩
  exact (readyz_as_configured_iff (fun _ => none) defaultController 100 loaded (by decide)).mpr
    ⟨by decide, by decide +kernel, by decide⟩

end NetLatencyMonitor.Controller
