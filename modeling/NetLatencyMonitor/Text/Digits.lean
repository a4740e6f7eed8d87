import Mathlib.Algebra.Group.Nat.Defs
import Mathlib.Data.List.Lex
import NetLatencyMonitor.Text.GoString

/-! Numbers in decimal digits of a fixed width: their bytes compare as the numbers do, and
reading them gives the number back. -/

namespace NetLatencyMonitor.Text

def digitByte (digit : Nat) : UInt8 := UInt8.ofNat (0x30 + digit)

/-- The last digits of a number, as many as the width. -/
def digits : Nat → Nat → GoString
  | 0, _ => []
  | width + 1, number => digits width (number / 10) ++ [digitByte (number % 10)]

def isDigitByte (byte : UInt8) : Bool := 0x30 ≤ byte && byte ≤ 0x39

/-- The value of a text of digits, and `none` for any other text. -/
def digitsValue (text : GoString) : Option Nat :=
  text.foldl (fun value byte =>
    value.bind (fun value => if isDigitByte byte then some (value * 10 + (byte.toNat - 0x30)) else none)) (some 0)

@[simp] theorem length_digits (width number : Nat) : (digits width number).length = width := by
  induction width generalizing number with
  | zero => rfl
  | succ width ih => simp [digits, ih]

theorem digitByte_toNat {digit : Nat} (small : digit < 10) : (digitByte digit).toNat = 0x30 + digit := by
  unfold digitByte
  rw [UInt8.toNat_ofNat']
  omega

theorem isDigitByte_digitByte {digit : Nat} (small : digit < 10) : isDigitByte (digitByte digit) = true := by
  have value := digitByte_toNat small
  simp only [isDigitByte, Bool.and_eq_true, decide_eq_true_eq, UInt8.le_iff_toNat_le, value]
  exact ⟨Nat.le_add_right 48 digit, by show 48 + digit ≤ 57; omega⟩

theorem isDigitByte_of_mem {width number : Nat} {byte : UInt8} (member : byte ∈ digits width number) :
    isDigitByte byte = true := by
  induction width generalizing number with
  | zero => cases member
  | succ width ih =>
    rcases List.mem_append.mp member with earlier | last
    · exact ih earlier
    · rw [List.mem_singleton.mp last]
      exact isDigitByte_digitByte (Nat.mod_lt _ (by decide))

theorem digitsValue_digits {width number : Nat} (fits : number < 10 ^ width) :
    digitsValue (digits width number) = some number := by
  induction width generalizing number with
  | zero =>
    rw [Nat.pow_zero, Nat.lt_one_iff] at fits
    rw [fits]
    rfl
  | succ width ih =>
    have front := ih (show number / 10 < 10 ^ width by rw [Nat.pow_succ] at fits; omega)
    have last : number % 10 < 10 := Nat.mod_lt _ (by decide)
    unfold digitsValue at front ⊢
    rw [digits, List.foldl_append, front]
    simp only [List.foldl_cons, List.foldl_nil, Option.bind_some, isDigitByte_digitByte last, if_true,
      digitByte_toNat last]
    exact congrArg some (by omega)

/-! Order. -/

/-- Texts that start with equally long parts compare by these first. -/
theorem append_lt_append_iff {first second : List Nat} (long : first.length = second.length) (left right : List Nat) :
    first ++ left < second ++ right ↔ first < second ∨ first = second ∧ left < right := by
  induction first generalizing second with
  | nil =>
    rw [List.eq_nil_of_length_eq_zero long.symm]
    simp
  | cons head rest ih =>
    cases second with
    | nil => cases long
    | cons other others =>
      have tails := ih (Nat.succ.inj long)
      simp only [List.cons_append, List.cons_lt_cons_iff, tails, List.cons.injEq]
      constructor
      · rintro (less | ⟨same, less | ⟨equal, further⟩⟩)
        · exact .inl (.inl less)
        · exact .inl (.inr ⟨same, less⟩)
        · exact .inr ⟨⟨same, equal⟩, further⟩
      · rintro ((less | ⟨same, less⟩) | ⟨⟨same, equal⟩, further⟩)
        · exact .inl less
        · exact .inr ⟨same, .inl less⟩
        · exact .inr ⟨same, .inr ⟨equal, further⟩⟩

private theorem digits_injective {width first second : Nat} (fits : first < 10 ^ width) (fitsToo : second < 10 ^ width)
    (same : digits width first = digits width second) : first = second := by
  have read := digitsValue_digits fits
  rw [same, digitsValue_digits fitsToo] at read
  exact (Option.some.inj read).symm

/-- Digits of one width compare as their numbers do. -/
theorem collation_digits_lt_iff {width first second : Nat} (fits : first < 10 ^ width) (fitsToo : second < 10 ^ width) :
    collation (digits width first) < collation (digits width second) ↔ first < second := by
  induction width generalizing first second with
  | zero =>
    rw [Nat.pow_zero, Nat.lt_one_iff] at fits fitsToo
    simp [fits, fitsToo, digits, collation]
  | succ width ih =>
    rw [Nat.pow_succ] at fits fitsToo
    have front := @ih (first / 10) (second / 10) (by omega) (by omega)
    have same : collation (digits width (first / 10)) = collation (digits width (second / 10)) ↔
        first / 10 = second / 10 := by
      constructor
      · intro equal
        exact digits_injective (by omega) (by omega) (collation_injective equal)
      · intro equal
        rw [equal]
    unfold collation at front same ⊢
    rw [digits, digits, List.map_append, List.map_append, append_lt_append_iff (by simp), front, same]
    simp only [List.map_cons, List.map_nil, digitByte_toNat (Nat.mod_lt _ (by decide : 0 < 10)), List.cons_lt_cons_iff,
      List.not_lt_nil, and_false, or_false]
    omega

/-- The same with anything behind the digits. -/
theorem collation_digits_append_lt_iff {width first second : Nat} (fits : first < 10 ^ width)
    (fitsToo : second < 10 ^ width) (left right : GoString) :
    collation (digits width first ++ left) < collation (digits width second ++ right) ↔
      first < second ∨ first = second ∧ collation left < collation right := by
  have front := collation_digits_lt_iff fits fitsToo
  have same : collation (digits width first) = collation (digits width second) ↔ first = second :=
    ⟨fun equal => digits_injective fits fitsToo (collation_injective equal), fun equal => by rw [equal]⟩
  unfold collation at front same ⊢
  rw [List.map_append, List.map_append, append_lt_append_iff (by simp), front, same]

/-- The same byte in front. -/
theorem collation_cons_lt_iff (byte : UInt8) (left right : GoString) :
    collation (byte :: left) < collation (byte :: right) ↔ collation left < collation right := by
  simp [collation]

end NetLatencyMonitor.Text
