import NetLatencyMonitor.Text.GoString

/-! `encoding/hex` and `base64.RawURLEncoding`. -/

namespace NetLatencyMonitor.Text

def hexDigit (value : Nat) : UInt8 :=
  if value < 10 then UInt8.ofNat (0x30 + value) else UInt8.ofNat (0x61 + (value - 10))

/-- The value of a hexadecimal digit, in either case. -/
def hexValue (digit : UInt8) : Option Nat :=
  if 0x30 ≤ digit && digit ≤ 0x39 then some (digit.toNat - 0x30)
  else if 0x61 ≤ digit && digit ≤ 0x66 then some (digit.toNat - 0x61 + 10)
  else if 0x41 ≤ digit && digit ≤ 0x46 then some (digit.toNat - 0x41 + 10)
  else none

/-- `hex.EncodeToString`. -/
def hexEncode : GoString → GoString
  | [] => []
  | byte :: rest => hexDigit (byte.toNat / 16) :: hexDigit (byte.toNat % 16) :: hexEncode rest

/-- `hex.DecodeString`; `none` is its error. -/
def hexDecode : GoString → Option GoString
  | [] => some []
  | [_] => none
  | high :: low :: rest => do
    let upper ← hexValue high
    let lower ← hexValue low
    let bytes ← hexDecode rest
    return UInt8.ofNat (upper * 16 + lower) :: bytes

private theorem hexValue_hexDigit : ∀ value < 16, hexValue (hexDigit value) = some value := by decide

theorem hexDecode_hexEncode (bytes : GoString) : hexDecode (hexEncode bytes) = some bytes := by
  induction bytes with
  | nil => rfl
  | cons byte rest ih =>
    have small := byte.toNat_lt
    have upper := hexValue_hexDigit (byte.toNat / 16) (by omega)
    have lower := hexValue_hexDigit (byte.toNat % 16) (by omega)
    have whole : UInt8.ofNat (byte.toNat / 16 * 16 + byte.toNat % 16) = byte := by
      rw [Nat.div_add_mod', UInt8.ofNat_toNat]
    simp only [hexEncode, hexDecode, upper, lower, ih, whole, Option.bind_eq_bind, Option.bind_some]
    rfl

/-- The alphabet of `base64.URLEncoding`. -/
def base64Digit (value : Nat) : UInt8 :=
  if value < 26 then UInt8.ofNat (0x41 + value)
  else if value < 52 then UInt8.ofNat (0x61 + (value - 26))
  else if value < 62 then UInt8.ofNat (0x30 + (value - 52))
  else if value = 62 then 0x2d
  else 0x5f

/-- `base64.RawURLEncoding.EncodeToString`: no padding. -/
def rawURLEncode : GoString → GoString
  | [] => []
  | [first] =>
    let bits := first.toNat * 16
    [base64Digit (bits / 64), base64Digit (bits % 64)]
  | [first, second] =>
    let bits := (first.toNat * 256 + second.toNat) * 4
    [base64Digit (bits / 4096), base64Digit (bits / 64 % 64), base64Digit (bits % 64)]
  | first :: second :: third :: rest =>
    let bits := (first.toNat * 256 + second.toNat) * 256 + third.toNat
    base64Digit (bits / 262144) :: base64Digit (bits / 4096 % 64) ::
      base64Digit (bits / 64 % 64) :: base64Digit (bits % 64) :: rawURLEncode rest

theorem rawURLEncode_ne_nil {bytes : GoString} (nonempty : bytes ≠ []) : rawURLEncode bytes ≠ [] := by
  unfold rawURLEncode
  split
  · exact absurd rfl nonempty
  · exact List.cons_ne_nil _ _
  · exact List.cons_ne_nil _ _
  · exact List.cons_ne_nil _ _

end NetLatencyMonitor.Text
