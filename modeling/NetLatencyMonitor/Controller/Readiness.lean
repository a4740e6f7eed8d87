import NetLatencyMonitor.Chrony.Tracking
import NetLatencyMonitor.Litestream.Watcher

/-! `/readyz`: the clock gate over what `chronyc` printed, and the replication gate. -/

namespace NetLatencyMonitor.Controller

open Chrony Clock Text

/-- The entry `chrony` of the checks; without an error the query has not been configured. -/
inductive ChronyCheck where
  | failed (error : Option ChronyError)
  | drifted (driftMS maxMS : Float64)
  | ok (driftMS : Float64)
deriving DecidableEq, Repr

/-- The member `error` of a failed check. -/
def ChronyCheck.errorText (quote : GoString → GoString) : ChronyCheck → Option GoString
  | .failed none => some (lit "not configured (fail-closed)")
  | .failed (some error) => some (error.text quote)
  | _ => none

def ChronyCheck.passes : ChronyCheck → Bool
  | .ok _ => true
  | _ => false

/-- The clock gate; `drift` is the querier's answer, and there is none without a querier. -/
def checkChrony (maxDriftMS : Float64) : Option (Except ChronyError Float64) → ChronyCheck
  | none => .failed none
  | some (.error error) => .failed (some error)
  | some (.ok drift) =>
    if (Float64.finite 0).lt maxDriftMS && maxDriftMS.lt drift then .drifted drift maxDriftMS else .ok drift

/-- `Duration.Seconds`. -/
def seconds (duration : Duration) : ℚ := mkRat duration 1000000000

/-- What the tracker answers to `Status`, `Lag` and `Healthy`: three calls, between which
the watcher may write. -/
structure TrackerReads where
  status : Litestream.Status
  lag : Litestream.Status × Time
  healthy : Litestream.Status × Time
deriving DecidableEq, Repr

/-- The entry `litestream` of the checks. -/
inductive LitestreamCheck where
  | failed (serviceActive : Bool) (lagSeconds maxLag : ℚ)
  | ok (lagSeconds : ℚ)
deriving DecidableEq, Repr

def LitestreamCheck.passes : LitestreamCheck → Bool
  | .ok _ => true
  | .failed _ _ _ => false

def TrackerReads.isHealthy (maxLag : Duration) (reads : TrackerReads) : Bool :=
  reads.healthy.1.healthy maxLag reads.healthy.2

def checkLitestream (maxLag : Duration) (reads : TrackerReads) : LitestreamCheck :=
  let lag := seconds (reads.lag.1.lag reads.lag.2)
  if !reads.isHealthy maxLag then .failed reads.status.serviceActive lag (seconds maxLag) else .ok lag

structure ReadyzBody where
  status : GoString
  chrony : ChronyCheck
  litestream : Option LitestreamCheck
deriving DecidableEq, Repr

/-- JSON has no numbers for NaN and the infinities. -/
def ReadyzBody.encodable (body : ReadyzBody) : Bool :=
  match body.chrony with
  | .failed _ => true
  | .drifted drift max => drift.isFinite && max.isFinite
  | .ok drift => drift.isFinite

/-- The answer: `writeJSON` writes the status first, and no body when encoding fails. -/
structure ReadyzResponse where
  status : Nat
  body : Option ReadyzBody
deriving DecidableEq, Repr

def writeJSON (status : Nat) (body : ReadyzBody) : ReadyzResponse :=
  ⟨status, if body.encodable then some body else none⟩

/-- The gates of the server's options. -/
structure Gates where
  maxDriftMS : Float64
  maxLag : Duration
deriving DecidableEq, Repr

def handleReadyz (gates : Gates) (drift : Option (Except ChronyError Float64)) (tracker : Option TrackerReads) :
    ReadyzResponse :=
  let chrony := checkChrony gates.maxDriftMS drift
  let litestream := tracker.map (checkLitestream gates.maxLag)
  let failed := !chrony.passes || litestream.any (fun check => !check.passes)
  if failed then writeJSON 503 ⟨lit "degraded", chrony, litestream⟩
  else writeJSON 200 ⟨lit "ok", chrony, litestream⟩

/-! What the answer's status says. -/

/-- The first field behind the colon is a finite number of seconds within the gate. -/
def Within (maxDriftMS : Float64) (out : GoString) : Prop :=
  ∃ first value, (offsetFields out).head? = some first ∧ parseFloat first = .ok (.finite value) ∧
    maxDriftMS.Bounds (|value| * 1000)

/-- The clock gate holds: ready only within it, and unavailable otherwise. -/
structure FailsClosed (gates : Gates) (out : GoString) (answer : ReadyzResponse) : Prop where
  ready : answer.status = 200 → Within gates.maxDriftMS out
  unavailable : ¬ Within gates.maxDriftMS out → answer.status = 503

/-- The first of at least two fields spells a number that no comparison puts above the
gate: NaN, or an infinity when the gate is infinite itself. -/
def Unordered (maxDriftMS : Float64) (out : GoString) : Prop :=
  ∃ first second others, offsetFields out = first :: second :: others ∧
    (SpellsNaN first ∨ SpellsInf first ∧ maxDriftMS = .inf false)

/-- The replication gate does not stand in the way. -/
def Replicated (maxLag : Duration) (tracker : Option TrackerReads) : Prop :=
  ∀ reads ∈ tracker, reads.isHealthy maxLag = true

private theorem handleReadyz_status (gates : Gates) (drift : Option (Except ChronyError Float64))
    (tracker : Option TrackerReads) :
    (handleReadyz gates drift tracker).status = 200 ∨ (handleReadyz gates drift tracker).status = 503 := by
  unfold handleReadyz
  simp only
  split
  · exact .inr rfl
  · exact .inl rfl

private theorem checkChrony_passes_iff {maxDriftMS : Float64} (positive : (Float64.finite 0).lt maxDriftMS = true)
    {drift : Except ChronyError Float64} :
    (checkChrony maxDriftMS (some drift)).passes = true ↔ ∃ ms, drift = .ok ms ∧ maxDriftMS.lt ms = false := by
  cases drift with
  | error error => simp [checkChrony, ChronyCheck.passes]
  | ok ms =>
    cases above : maxDriftMS.lt ms with
    | true => simp [checkChrony, ChronyCheck.passes, positive, above]
    | false => simp [checkChrony, ChronyCheck.passes, above]

theorem checkLitestream_passes (maxLag : Duration) (reads : TrackerReads) :
    (checkLitestream maxLag reads).passes = reads.isHealthy maxLag := by
  cases healthy : reads.isHealthy maxLag with
  | true => simp [checkLitestream, LitestreamCheck.passes, healthy]
  | false => simp [checkLitestream, LitestreamCheck.passes, healthy]

/-- Ready means that both gates let through. -/
theorem handleReadyz_ready_iff {gates : Gates} (positive : (Float64.finite 0).lt gates.maxDriftMS = true)
    {drift : Except ChronyError Float64} {tracker : Option TrackerReads} :
    (handleReadyz gates (some drift) tracker).status = 200 ↔
      (∃ ms, drift = .ok ms ∧ gates.maxDriftMS.lt ms = false) ∧ Replicated gates.maxLag tracker := by
  rw [← checkChrony_passes_iff positive]
  unfold handleReadyz
  simp only
  cases tracker with
  | none => cases passes : (checkChrony gates.maxDriftMS (some drift)).passes <;> simp [writeJSON, Replicated]
  | some reads =>
    have litestream := checkLitestream_passes gates.maxLag reads
    cases passes : (checkChrony gates.maxDriftMS (some drift)).passes <;>
      cases healthy : reads.isHealthy gates.maxLag <;> simp [writeJSON, Replicated, litestream, healthy]

/-- A word of `ParseFloat` is no finite number. -/
theorem not_finite_of_spelled {first : GoString} (spelled : SpellsNaN first ∨ SpellsInf first) (value : ℚ) :
    parseFloat first ≠ .ok (.finite value) := by
  intro parsed
  rcases spelled with nan | inf
  · rw [parseFloat_nan_iff.mpr nan] at parsed
    cases parsed
  · obtain ⟨negative, read⟩ := parseFloat_inf_iff.mpr inf
    rw [read] at parsed
    cases parsed

/-- A number of seconds is let through when it is within the gate, or unordered with it. -/
theorem lt_magnitude_eq_false {bound : Float64} (positive : (Float64.finite 0).lt bound = true)
    {first : GoString} {secs : Float64} (parsed : parseFloat first = .ok secs)
    (through : bound.lt (secs.magnitude.mul (.finite 1000)) = false) :
    (∃ value, secs = .finite value ∧ bound.Bounds (|value| * 1000)) ∨
      SpellsNaN first ∨ SpellsInf first ∧ bound = .inf false := by
  cases secs with
  | finite value =>
    rw [Float64.magnitude_finite] at through
    exact .inl ⟨value, rfl, (Float64.lt_finite_eq_false_iff positive _).mp through⟩
  | inf negative =>
    rw [Float64.magnitude_inf] at through
    have infinite : bound.lt (.inf false) = false := through
    exact .inr (.inr ⟨parseFloat_inf_iff.mp ⟨negative, parsed⟩,
      (Float64.lt_inf_eq_false_iff positive).mp infinite⟩)
  | nan => exact .inr (.inl (parseFloat_nan_iff.mp parsed))

/-- An unordered number is let through. -/
theorem Unordered.passes {bound : Float64} {out : GoString} (unordered : Unordered bound out) :
    ∃ ms, parseTracking out = .ok ms ∧ bound.lt ms = false := by
  obtain ⟨first, second, others, found, nan | ⟨inf, rfl⟩⟩ := unordered
  · exact ⟨_, parseTracking_ok_iff.mpr ⟨first, second, others, .nan, found, parseFloat_nan_iff.mpr nan, rfl⟩,
      Float64.lt_nan bound⟩
  · obtain ⟨negative, parsed⟩ := parseFloat_inf_iff.mpr inf
    refine ⟨_, parseTracking_ok_iff.mpr ⟨first, second, others, _, found, parsed, rfl⟩, ?_⟩
    rw [Float64.magnitude_inf]
    decide

private theorem Unordered.not_within {bound : Float64} {out : GoString} (unordered : Unordered bound out) :
    ¬ Within bound out := by
  obtain ⟨first, second, others, found, spelled⟩ := unordered
  rintro ⟨_, value, head, parsed, _⟩
  rw [found] at head
  cases head
  exact not_finite_of_spelled (spelled.imp_right And.left) value parsed

/-- Whatever else is let through is within the gate. -/
theorem within_of_passes {bound : Float64} (positive : (Float64.finite 0).lt bound = true) {out : GoString}
    {ms : Float64} (tracked : parseTracking out = .ok ms) (through : bound.lt ms = false) :
    Within bound out ∨ Unordered bound out := by
  obtain ⟨first, second, others, secs, found, parsed, rfl⟩ := parseTracking_ok_iff.mp tracked
  rcases lt_magnitude_eq_false positive parsed through with ⟨value, rfl, bounded⟩ | spelled
  · exact .inl ⟨first, value, by rw [found]; rfl, parsed, bounded⟩
  · exact .inr ⟨first, second, others, found, spelled⟩

/-- The clock gate fails closed on what `chronyc` prints exactly when the answer is
unavailable for another reason, or the offset is a number that can be compared. -/
theorem readyz_failsClosed_iff {gates : Gates} (positive : (Float64.finite 0).lt gates.maxDriftMS = true)
    (binary : GoString) (run : Run) (tracker : Option TrackerReads) :
    FailsClosed gates run.printed (handleReadyz gates (some (drift binary run)) tracker) ↔
      run.failure ≠ none ∨ ¬ Replicated gates.maxLag tracker ∨ ¬ Unordered gates.maxDriftMS run.printed := by
  constructor
  · intro closed
    by_contra reason
    simp only [not_or, not_not] at reason
    obtain ⟨ran, replicated, unordered⟩ := reason
    obtain ⟨ms, tracked, through⟩ := unordered.passes
    have measured : drift binary run = .ok ms := drift_ok_iff.mpr ⟨ran, tracked⟩
    have answered := (handleReadyz_ready_iff positive).mpr ⟨⟨ms, measured, through⟩, replicated⟩
    exact unordered.not_within (closed.ready answered)
  · intro reason
    have ready : (handleReadyz gates (some (drift binary run)) tracker).status = 200 →
        Within gates.maxDriftMS run.printed := by
      intro answered
      obtain ⟨⟨ms, measured, through⟩, replicated⟩ := (handleReadyz_ready_iff positive).mp answered
      obtain ⟨ran, tracked⟩ := drift_ok_iff.mp measured
      rcases within_of_passes positive tracked through with inside | unordered
      · exact inside
      · rcases reason with failed | stale | ordered
        · exact absurd ran failed
        · exact absurd replicated stale
        · exact absurd unordered ordered
    exact ⟨ready, fun outside =>
      (handleReadyz_status gates _ tracker).resolve_left (fun answered => outside (ready answered))⟩

/-- A gate of 100 ms. -/
def hundred : Gates := ⟨.finite 100, 0⟩

def notANumber : Run := ⟨lit "System time     : NaN seconds slow of NTP time", none⟩

/-- An offset that is not a number is let through, and the answer has no body. -/
theorem nan_offset_ready :
    handleReadyz hundred (some (drift [] notANumber)) none = ⟨200, none⟩ ∧
      ¬ FailsClosed hundred notANumber.printed (handleReadyz hundred (some (drift [] notANumber)) none) := by
  have answered : handleReadyz hundred (some (drift [] notANumber)) none = ⟨200, none⟩ := by decide +kernel
  have unordered : Unordered hundred.maxDriftMS notANumber.printed :=
    ⟨lit "NaN", lit "seconds", [lit "slow", lit "of", lit "NTP", lit "time"], by decide +kernel, .inl (by decide)⟩
  exact ⟨answered, fun closed => unordered.not_within (closed.ready (by rw [answered]))⟩

def fast45 : Run := ⟨lit "System time     : 0.045 seconds fast of NTP time", none⟩

/-- An offset of 45 ms is within it. -/
theorem fast45_failsClosed :
    (handleReadyz hundred (some (drift [] fast45)) none).status = 200 ∧
      FailsClosed hundred fast45.printed (handleReadyz hundred (some (drift [] fast45)) none) := by
  refine ⟨by decide +kernel, (readyz_failsClosed_iff (by decide) [] fast45 none).mpr (.inr (.inr ?_))⟩
  rintro ⟨first, second, others, found, spelled⟩
  have read : offsetFields fast45.printed =
      [lit "0.045", lit "seconds", lit "fast", lit "of", lit "NTP", lit "time"] := by decide +kernel
  rw [read] at found
  cases found
  exact absurd spelled (by decide)

end NetLatencyMonitor.Controller
