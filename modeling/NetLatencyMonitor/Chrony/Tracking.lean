import NetLatencyMonitor.Text.Float
import NetLatencyMonitor.Text.Number
import NetLatencyMonitor.Text.Split

/-! The offset of the system clock, as `chronyc tracking` prints it. -/

namespace NetLatencyMonitor.Chrony

open Text

/-- From here on `float64` rounds to an infinity. -/
def overflow : ℚ := 2 ^ 1024 - 2 ^ 970

/-- `strconv.ParseFloat` at 64 bits, before rounding. -/
def parseFloat (text : GoString) : Except NumError Float64 :=
  match special text with
  | some number => .ok number
  | none => match readFloat text with
    | none => .error .malformed
    | some value => if overflow ≤ |value| then .error .outOfRange else .ok (.finite value)

inductive ChronyError where
  | run (bin text : GoString)
  | unexpectedLine (line : GoString)
  | parseOffset (field : GoString) (error : NumError)
  | noSystemTime
deriving DecidableEq, Repr

/-- The error's message; `quote` is the verb `%q`. -/
def ChronyError.text (quote : GoString → GoString) : ChronyError → GoString
  | .run bin text => lit "chrony: " ++ bin ++ lit " tracking: " ++ text
  | .unexpectedLine line => lit "chrony: unexpected System time line: " ++ quote line
  | .parseOffset field error =>
    lit "chrony: parse offset " ++ quote field ++ lit ": strconv.ParseFloat: parsing " ++ quote field ++
      lit ": " ++ error.text
  | .noSystemTime => lit "chrony: no System time line in output"

/-- A trimmed line that `ParseTracking` takes for the one it looks for. -/
def isSystemTime (line : GoString) : Bool := (lit "System time").isPrefixOf line && decide (0x3a ∈ line)

/-- The offset on such a line, in milliseconds without its sign. -/
def parseOffset (line : GoString) : Except ChronyError Float64 :=
  match fields (cut 0x3a line).2 with
  | first :: _ :: _ => match parseFloat first with
    | .error error => .error (.parseOffset first error)
    | .ok secs => .ok (secs.magnitude.mul (.finite 1000))
  | _ => .error (.unexpectedLine line)

/-- The loop of `ParseTracking` over the lines that are left. -/
def parseLines : List GoString → Except ChronyError Float64
  | [] => .error .noSystemTime
  | line :: rest =>
    if isSystemTime (trimSpace line) then parseOffset (trimSpace line) else parseLines rest

def parseTracking (out : GoString) : Except ChronyError Float64 := parseLines (split 0x0a out)

/-- A run of the command: what it printed to both of its outputs, and how it failed if it
did; a run cut off by its timeout has failed. -/
structure Run where
  printed : GoString
  failure : Option GoString
deriving DecidableEq, Repr

/-- `CommandQuerier.Drift`, where an empty `binary` means the default. -/
def drift (binary : GoString) (run : Run) : Except ChronyError Float64 :=
  let bin := if binary = [] then lit "chronyc" else binary
  match run.failure with
  | some text => .error (.run bin text)
  | none => parseTracking run.printed

/-! What the loop finds. -/

/-- The first line that starts with the words and has a colon. -/
def systemTime (out : GoString) : Option GoString := ((split 0x0a out).map trimSpace).find? isSystemTime

/-- The fields behind its colon. -/
def offsetFields (out : GoString) : List GoString :=
  ((systemTime out).map fun line => fields (cut 0x3a line).2).getD []

private theorem parseLines_eq (lines : List GoString) :
    parseLines lines = match (lines.map trimSpace).find? isSystemTime with
      | some line => parseOffset line
      | none => .error .noSystemTime := by
  induction lines with
  | nil => rfl
  | cons line rest ih =>
    rw [parseLines, List.map_cons, List.find?_cons]
    cases isSystemTime (trimSpace line) with
    | true => rfl
    | false => exact ih

private theorem parseTracking_eq (out : GoString) :
    parseTracking out = match systemTime out with
      | some line => parseOffset line
      | none => .error .noSystemTime :=
  parseLines_eq (split 0x0a out)

private theorem parseOffset_ok_iff {line : GoString} {ms : Float64} :
    parseOffset line = .ok ms ↔ ∃ first second others secs, fields (cut 0x3a line).2 = first :: second :: others ∧
      parseFloat first = .ok secs ∧ secs.magnitude.mul (.finite 1000) = ms := by
  unfold parseOffset
  split
  next first second others found =>
    rw [found]
    cases parsed : parseFloat first with
    | error error =>
      constructor
      · intro impossible
        cases impossible
      · rintro ⟨_, _, _, secs, same, ok, _⟩
        cases same
        rw [parsed] at ok
        cases ok
    | ok secs =>
      constructor
      · intro same
        exact ⟨first, second, others, secs, rfl, parsed, Except.ok.inj same⟩
      · rintro ⟨_, _, _, secs', same, ok, rfl⟩
        cases same
        rw [parsed] at ok
        cases ok
        rfl
  next short =>
    constructor
    · intro impossible
      cases impossible
    · rintro ⟨first, second, others, _, found, _⟩
      exact absurd found (short first second others)

/-- A drift is read off at least two fields, of which the first is a number. -/
theorem parseTracking_ok_iff {out : GoString} {ms : Float64} :
    parseTracking out = .ok ms ↔ ∃ first second others secs, offsetFields out = first :: second :: others ∧
      parseFloat first = .ok secs ∧ secs.magnitude.mul (.finite 1000) = ms := by
  rw [parseTracking_eq, offsetFields]
  cases systemTime out with
  | some line => exact parseOffset_ok_iff
  | none => simp

theorem drift_ok_iff {binary : GoString} {run : Run} {ms : Float64} :
    drift binary run = .ok ms ↔ run.failure = none ∧ parseTracking run.printed = .ok ms := by
  cases failed : run.failure with
  | none => simp [drift, failed]
  | some text => simp [drift, failed]

/-! What `ParseFloat` makes of the words for no number and for the infinities. -/

/-- Only a word gives a number that is not finite. -/
theorem parseFloat_ok_word {text : GoString} {number : Float64} (word : number.isFinite = false) :
    parseFloat text = .ok number ↔ special text = some number := by
  cases found : special text with
  | some read => simp [parseFloat, found]
  | none =>
    cases digits : readFloat text with
    | none => simp [parseFloat, found, digits]
    | some value =>
      have other : number ≠ .finite value := by
        rintro rfl
        cases word
      by_cases large : overflow ≤ |value|
      · simp [parseFloat, found, digits, large]
      · simp [parseFloat, found, digits, large, other.symm]

theorem parseFloat_nan_iff {text : GoString} : parseFloat text = .ok .nan ↔ SpellsNaN text := by
  rw [parseFloat_ok_word rfl, special_nan_iff]

theorem parseFloat_inf_iff {text : GoString} :
    (∃ negative, parseFloat text = .ok (.inf negative)) ↔ SpellsInf text := by
  rw [← special_inf_iff]
  exact exists_congr (fun _ => parseFloat_ok_word rfl)

end NetLatencyMonitor.Chrony
