import Mathlib.Algebra.Group.Int.Defs
import Mathlib.Algebra.Group.Nat.Defs
import NetLatencyMonitor.Text.GoString

/-! `strconv.Atoi`, and the errors it shares with `ParseFloat`. -/

namespace NetLatencyMonitor.Text

/-- Why `strconv` reads no number. -/
inductive NumError where
  | malformed
  | outOfRange
deriving DecidableEq, Repr

def NumError.text : NumError → GoString
  | .malformed => lit "invalid syntax"
  | .outOfRange => lit "value out of range"

/-- The digit loop of `ParseUint`, base 10 and 64 bits: it stops at the first digit that
overflows, before it has seen the rest. -/
def parseDigits : Nat → GoString → Except NumError Nat
  | n, [] => .ok n
  | n, digit :: rest =>
    if digit < 0x30 ∨ 0x39 < digit then .error .malformed
    else if n * 10 + (digit.toNat - 0x30) ≥ 2 ^ 64 then .error .outOfRange
    else parseDigits (n * 10 + (digit.toNat - 0x30)) rest

/-- `strconv.Atoi` on a 64-bit platform. -/
def atoi (s : GoString) : Except NumError Int :=
  let (negative, digits) := match s with
    | 0x2d :: rest => (true, rest)
    | 0x2b :: rest => (false, rest)
    | _ => (false, s)
  if digits = [] then .error .malformed
  else match parseDigits 0 digits with
    | .error error => .error error
    | .ok n =>
      if negative then if n > 2 ^ 63 then .error .outOfRange else .ok (-n)
      else if n ≥ 2 ^ 63 then .error .outOfRange else .ok n

/-- What it reads fits `int64`. -/
theorem atoi_lt {s : GoString} {n : Int} (read : atoi s = .ok n) : n < 2 ^ 63 := by
  unfold atoi at read
  split at read
  split at read
  · cases read
  split at read
  · cases read
  · split at read
    · split at read
      · cases read
      · cases read
        omega
    · split at read
      · cases read
      · cases read
        omega

end NetLatencyMonitor.Text
