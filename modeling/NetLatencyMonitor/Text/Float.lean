import Mathlib.Algebra.Order.Field.Rat
import NetLatencyMonitor.Text.GoString

/-! `float64` without its rounding, and the numbers `strconv.ParseFloat` reads. -/

namespace NetLatencyMonitor.Text

/-- A `float64`: an exact rational, an infinity, or NaN. -/
inductive Float64 where
  | finite (value : ℚ)
  | inf (negative : Bool)
  | nan
deriving DecidableEq, Repr

namespace Float64

/-- The operator `<`, which no NaN satisfies on either side. -/
def lt : Float64 → Float64 → Bool
  | nan, _ => false
  | _, nan => false
  | inf negative, inf other => negative && !other
  | inf negative, finite _ => negative
  | finite _, inf negative => !negative
  | finite value, finite other => decide (value < other)

def neg : Float64 → Float64
  | finite value => finite (-value)
  | inf negative => inf (!negative)
  | nan => nan

def mul : Float64 → Float64 → Float64
  | finite value, finite other => finite (value * other)
  | inf negative, inf other => inf (negative != other)
  | inf negative, finite value => if value = 0 then nan else inf (negative != decide (value < 0))
  | finite value, inf negative => if value = 0 then nan else inf (negative != decide (value < 0))
  | nan, _ => nan
  | _, nan => nan

def isFinite : Float64 → Bool
  | finite _ => true
  | _ => false

/-- The source's absolute value: NaN is not below zero and stays. -/
def magnitude (number : Float64) : Float64 := if number.lt (finite 0) then number.neg else number

@[simp] theorem magnitude_finite (value : ℚ) : magnitude (finite value) = finite |value| := by
  by_cases below : value < 0
  · simp [magnitude, lt, neg, below, abs_of_neg below]
  · simp [magnitude, lt, below, abs_of_nonneg (not_lt.mp below)]

@[simp] theorem magnitude_inf (negative : Bool) : magnitude (inf negative) = inf false := by
  cases negative with
  | false => rfl
  | true => rfl

/-- An upper bound on a rational. -/
def Bounds : Float64 → ℚ → Prop
  | finite bound, value => value ≤ bound
  | inf negative, _ => negative = false
  | nan, _ => False

/-- What is not below a positive number is bounded by it only among the finite numbers. -/
theorem lt_finite_eq_false_iff {bound : Float64} (positive : (finite 0).lt bound = true) (value : ℚ) :
    bound.lt (finite value) = false ↔ bound.Bounds value := by
  cases bound with
  | finite bound => simp [lt, Bounds]
  | inf negative => simp [lt, Bounds]
  | nan => cases positive

/-- No positive number but infinity keeps infinity out of the numbers above it. -/
theorem lt_inf_eq_false_iff {bound : Float64} (positive : (finite 0).lt bound = true) :
    bound.lt (inf false) = false ↔ bound = inf false := by
  cases bound with
  | finite bound => simp [lt]
  | inf negative => cases negative with
    | false => simp [lt]
    | true => cases positive
  | nan => cases positive

@[simp] theorem lt_nan (bound : Float64) : bound.lt nan = false := by
  cases bound with
  | finite value => rfl
  | inf negative => rfl
  | nan => rfl

end Float64

/-- An optional sign, and whether it is a minus. -/
def sign : GoString → Bool × GoString
  | 0x2b :: rest => (false, rest)
  | 0x2d :: rest => (true, rest)
  | text => (false, text)

def SpellsNaN (text : GoString) : Prop := text.map lowerASCII = lit "nan"

def SpellsInf (text : GoString) : Prop :=
  (sign text).2.map lowerASCII = lit "inf" ∨ (sign text).2.map lowerASCII = lit "infinity"

instance (text : GoString) : Decidable (SpellsNaN text) := inferInstanceAs (Decidable (_ = _))

instance (text : GoString) : Decidable (SpellsInf text) := inferInstanceAs (Decidable (_ ∨ _))

/-- `special` on a text it reads to the end: an infinity may have a sign, NaN may not. -/
def special (text : GoString) : Option Float64 :=
  if SpellsInf text then some (.inf (sign text).1)
  else if SpellsNaN text then some .nan
  else none

/-- A spelling of NaN has no sign and is none of an infinity. -/
theorem SpellsNaN.not_spellsInf {text : GoString} (spelled : SpellsNaN text) : ¬ SpellsInf text := by
  have unsigned : (sign text).2 = text := by
    unfold sign
    split
    · exact absurd (congrArg List.head? spelled) (show ¬ some (lowerASCII 0x2b) = (lit "nan").head? by decide)
    · exact absurd (congrArg List.head? spelled) (show ¬ some (lowerASCII 0x2d) = (lit "nan").head? by decide)
    · rfl
  rintro (inf | infinity)
  · rw [unsigned, spelled] at inf
    exact absurd inf (by decide)
  · rw [unsigned, spelled] at infinity
    exact absurd infinity (by decide)

theorem special_nan_iff {text : GoString} : special text = some .nan ↔ SpellsNaN text := by
  constructor
  · intro read
    unfold special at read
    split at read
    · cases read
    · split at read
      · assumption
      · cases read
  · intro spelled
    rw [special, if_neg spelled.not_spellsInf, if_pos spelled]

theorem special_inf_iff {text : GoString} : (∃ negative, special text = some (.inf negative)) ↔ SpellsInf text := by
  constructor
  · rintro ⟨negative, read⟩
    unfold special at read
    split at read
    · assumption
    · split at read
      · cases read
      · cases read
  · intro spelled
    exact ⟨_, if_pos spelled⟩

/-- The value of a digit; the letters count in base 16 only. -/
def digit (base : Nat) (byte : UInt8) : Option Nat :=
  if 0x30 ≤ byte ∧ byte ≤ 0x39 then some (byte.toNat - 0x30)
  else if base = 16 ∧ 0x61 ≤ lowerASCII byte ∧ lowerASCII byte ≤ 0x66 then
    some ((lowerASCII byte).toNat - 0x61 + 10)
  else none

/-- The digits of a mantissa read so far, and how many of them stand behind the point. -/
structure Mantissa where
  value : Nat := 0
  behind : Nat := 0
  sawdot : Bool := false
  sawdigits : Bool := false
deriving DecidableEq, Repr

def Mantissa.push (mantissa : Mantissa) (base digit : Nat) : Mantissa :=
  { mantissa with
    value := mantissa.value * base + digit
    behind := if mantissa.sawdot then mantissa.behind + 1 else 0
    sawdigits := true }

/-- The digit loop of `readFloat`, up to the first byte that is no digit, no underscore and
no first point. -/
def readMantissa (base : Nat) : Mantissa → GoString → Mantissa × GoString
  | mantissa, [] => (mantissa, [])
  | mantissa, byte :: rest =>
    if byte = 0x5f then readMantissa base mantissa rest
    else if byte = 0x2e then
      if mantissa.sawdot then (mantissa, byte :: rest)
      else readMantissa base { mantissa with sawdot := true } rest
    else match digit base byte with
      | some value => readMantissa base (mantissa.push base value) rest
      | none => (mantissa, byte :: rest)

/-- The digits of an exponent, to the end of the text. From five digits on it only counts
that there are many. -/
def readDigits : Nat → GoString → Option Nat
  | e, [] => some e
  | e, byte :: rest =>
    if byte = 0x5f then readDigits e rest
    else match digit 10 byte with
      | some value => readDigits (if e < 10000 then e * 10 + value else e) rest
      | none => none

/-- What stands behind the exponent's letter: a sign, then at least one digit first. -/
def readExponent (text : GoString) : Option Int :=
  match (sign text).2 with
  | [] => none
  | byte :: rest =>
    if (digit 10 byte).isNone then none
    else (readDigits 0 (byte :: rest)).map fun e => if (sign text).1 then -(e : Int) else e

/-- The last character `underscoreOK` saw. -/
inductive Saw where
  | start
  | digit
  | underscore
  | other
deriving DecidableEq, Repr

/-- The loop of `underscoreOK`: an underscore stands behind a digit or the base prefix, and
in front of a digit. -/
def underscoresFrom (base : Nat) : Saw → GoString → Bool
  | saw, [] => saw ≠ .underscore
  | saw, byte :: rest =>
    if (digit base byte).isSome then underscoresFrom base .digit rest
    else if byte = 0x5f then saw = .digit && underscoresFrom base .underscore rest
    else saw ≠ .underscore && underscoresFrom base .other rest

def underscoreOK (text : GoString) : Bool :=
  match (sign text).2 with
  | 0x30 :: letter :: rest =>
    if lowerASCII letter = 0x78 then underscoresFrom 16 .digit rest
    else if lowerASCII letter = 0x62 ∨ lowerASCII letter = 0x6f then underscoresFrom 10 .digit rest
    else underscoresFrom 10 .start (0x30 :: letter :: rest)
  | digits => underscoresFrom 10 .start digits

/-- A mantissa times a power of the base; of 2 for hexadecimal digits. -/
def scale (base : Nat) (exponent : Int) (value : Nat) : ℚ :=
  if 0 ≤ exponent then ((value * base ^ exponent.toNat : Nat) : ℚ)
  else mkRat value (base ^ (-exponent).toNat)

/-- The base and what stands behind its prefix, which needs one more byte. -/
def basePrefix : GoString → Nat × GoString
  | 0x30 :: letter :: byte :: rest =>
    if lowerASCII letter = 0x78 then (16, byte :: rest) else (10, 0x30 :: letter :: byte :: rest)
  | text => (10, text)

/-- `readFloat` on a text it reads to the end, with the value computed exactly. A
hexadecimal mantissa needs an exponent. -/
def readFloat (text : GoString) : Option ℚ :=
  let (negative, unsigned) := sign text
  let (base, digits) := basePrefix unsigned
  let (mantissa, rest) := readMantissa base {} digits
  let letter : UInt8 := if base = 16 then 0x70 else 0x65
  let exponent := match rest with
    | [] => if base = 16 then none else some 0
    | byte :: behind => if lowerASCII byte = letter then readExponent behind else none
  if !mantissa.sawdigits then none
  else match exponent with
    | none => none
    | some e =>
      if 0x5f ∈ text ∧ !underscoreOK text then none
      else
        let value := if base = 16 then scale 2 (e - 4 * mantissa.behind) mantissa.value
          else scale 10 (e - mantissa.behind) mantissa.value
        some (if negative then -value else value)

end NetLatencyMonitor.Text
