import NetLatencyMonitor.Text.Encoding

/-! Well-formed UTF-8, what JSON makes of any other text, and two kinds of text that are
always well-formed. -/

namespace NetLatencyMonitor.Text

/-- What a lead byte asks for: how many bytes follow, and the range of the first. -/
def utf8Lead (byte : UInt8) : Option (Nat × UInt8 × UInt8) :=
  if byte < 0x80 then some (0, 0x80, 0xbf)
  else if byte < 0xc2 then none
  else if byte < 0xe0 then some (1, 0x80, 0xbf)
  else if byte = 0xe0 then some (2, 0xa0, 0xbf)
  else if byte = 0xed then some (2, 0x80, 0x9f)
  else if byte < 0xf0 then some (2, 0x80, 0xbf)
  else if byte = 0xf0 then some (3, 0x90, 0xbf)
  else if byte < 0xf4 then some (3, 0x80, 0xbf)
  else if byte = 0xf4 then some (3, 0x80, 0x8f)
  else none

def utf8From : Nat × UInt8 × UInt8 → GoString → Bool
  | (missing, _, _), [] => missing == 0
  | (0, _, _), byte :: rest =>
    match utf8Lead byte with
    | none => false
    | some expected => utf8From expected rest
  | (missing + 1, low, high), byte :: rest =>
    decide (low ≤ byte) && decide (byte ≤ high) && utf8From (missing, 0x80, 0xbf) rest

/-- `utf8.ValidString`. -/
def validUTF8 (text : GoString) : Bool := utf8From (0, 0x80, 0xbf) text

private theorem validUTF8_of_ascii {text : GoString} (ascii : ∀ byte ∈ text, byte < 0x80) :
    validUTF8 text = true := by
  unfold validUTF8
  induction text with
  | nil => rfl
  | cons byte rest ih =>
    have small := ascii byte List.mem_cons_self
    have lead : utf8Lead byte = some (0, 0x80, 0xbf) := if_pos small
    simp only [utf8From, lead]
    exact ih (fun other member => ascii other (List.mem_cons_of_mem _ member))

/-- The bytes a lead byte asks for are there. -/
def utf8Continues : Nat × UInt8 × UInt8 → GoString → Bool
  | (0, _, _), _ => true
  | (_ + 1, _, _), [] => false
  | (missing + 1, low, high), byte :: rest =>
    decide (low ≤ byte) && decide (byte ≤ high) && utf8Continues (missing, 0x80, 0xbf) rest

/-- U+FFFD. -/
def replacementChar : GoString := [0xef, 0xbf, 0xbd]

/-- The rest of a text of which `pending` bytes belong to a sequence already begun. -/
def toValidFrom : Nat → GoString → GoString
  | _, [] => []
  | pending + 1, byte :: rest => byte :: toValidFrom pending rest
  | 0, byte :: rest =>
    match utf8Lead byte with
    | none => replacementChar ++ toValidFrom 0 rest
    | some expected =>
      if utf8Continues expected rest then byte :: toValidFrom expected.1 rest
      else replacementChar ++ toValidFrom 0 rest

/-- A string after its way through `encoding/json`: the encoder writes `\ufffd` for every
byte at which no rune can be decoded, and the decoder reads that back. -/
def toValidUTF8 (text : GoString) : GoString := toValidFrom 0 text

private theorem utf8Continues_of_from {expected : Nat × UInt8 × UInt8} {text : GoString}
    (valid : utf8From expected text = true) : utf8Continues expected text = true := by
  induction text generalizing expected with
  | nil =>
    obtain ⟨missing, low, high⟩ := expected
    cases missing with
    | zero => rfl
    | succ more => cases valid
  | cons byte rest ih =>
    obtain ⟨missing, low, high⟩ := expected
    cases missing with
    | zero => rfl
    | succ more =>
      simp only [utf8From, Bool.and_eq_true] at valid
      simp only [utf8Continues, Bool.and_eq_true]
      exact ⟨valid.1, ih valid.2⟩

private theorem toValidFrom_of_from {expected : Nat × UInt8 × UInt8} {text : GoString}
    (valid : utf8From expected text = true) : toValidFrom expected.1 text = text := by
  induction text generalizing expected with
  | nil => simp [toValidFrom]
  | cons byte rest ih =>
    obtain ⟨missing, low, high⟩ := expected
    cases missing with
    | zero =>
      simp only [utf8From] at valid
      cases lead : utf8Lead byte with
      | none =>
        rw [lead] at valid
        cases valid
      | some expected =>
        simp only [lead] at valid
        simp only [toValidFrom, lead, utf8Continues_of_from valid, if_true, ih valid]
    | succ more =>
      simp only [utf8From, Bool.and_eq_true] at valid
      simp only [toValidFrom, ih valid.2]

/-- Valid text is carried unchanged. -/
theorem toValidUTF8_of_valid {text : GoString} (valid : validUTF8 text = true) : toValidUTF8 text = text :=
  toValidFrom_of_from valid

private theorem utf8From_toValidFrom {expected : Nat × UInt8 × UInt8} {text : GoString}
    (continues : utf8Continues expected text = true) : utf8From expected (toValidFrom expected.1 text) = true := by
  induction text generalizing expected with
  | nil =>
    obtain ⟨missing, low, high⟩ := expected
    cases missing with
    | zero => rfl
    | succ more => cases continues
  | cons byte rest ih =>
    obtain ⟨missing, low, high⟩ := expected
    have replaced : utf8From (0, low, high) (replacementChar ++ toValidFrom 0 rest) = true :=
      @ih (0, 0x80, 0xbf) (by simp [utf8Continues])
    cases missing with
    | zero =>
      simp only [toValidFrom]
      cases lead : utf8Lead byte with
      | none => exact replaced
      | some expected =>
        by_cases complete : utf8Continues expected rest = true
        · simp only [complete, if_true, utf8From, lead]
          exact ih complete
        · simp only [complete]
          exact replaced
    | succ more =>
      simp only [utf8Continues, Bool.and_eq_true] at continues
      simp only [toValidFrom, utf8From, Bool.and_eq_true]
      exact ⟨continues.1, ih continues.2⟩

/-- Whatever was sent, valid text arrives. -/
theorem validUTF8_toValidUTF8 (text : GoString) : validUTF8 (toValidUTF8 text) = true :=
  @utf8From_toValidFrom (0, 0x80, 0xbf) text (by simp [utf8Continues])

theorem toValidUTF8_eq_iff {text : GoString} : toValidUTF8 text = text ↔ validUTF8 text = true := by
  constructor
  · intro same
    rw [← same]
    exact validUTF8_toValidUTF8 text
  · exact toValidUTF8_of_valid

/-- Nothing is lost altogether. -/
theorem toValidUTF8_ne_nil {text : GoString} (filled : text ≠ []) : toValidUTF8 text ≠ [] := by
  cases text with
  | nil => exact absurd rfl filled
  | cons byte rest =>
    unfold toValidUTF8 toValidFrom
    split
    · exact List.cons_ne_nil _ _
    · split
      · exact List.cons_ne_nil _ _
      · exact List.cons_ne_nil _ _

-- different texts can arrive as the same one
example : toValidUTF8 [0x68, 0xff] = toValidUTF8 [0x68, 0xfe] := by decide

private theorem hexDigit_ascii : ∀ value < 16, hexDigit value < 0x80 := by decide

private theorem hexEncode_ascii {bytes : GoString} : ∀ byte ∈ hexEncode bytes, byte < 0x80 := by
  induction bytes with
  | nil => simp [hexEncode]
  | cons first rest ih =>
    have small := first.toNat_lt
    intro byte member
    simp only [hexEncode, List.mem_cons] at member
    rcases member with rfl | rfl | later
    · exact hexDigit_ascii _ (by omega)
    · exact hexDigit_ascii _ (by omega)
    · exact ih byte later

/-- `UUID.String`: five groups of hexadecimal digits. -/
def uuidString (uuid : Vector UInt8 16) : GoString :=
  let bytes := uuid.toList
  hexEncode (bytes.take 4) ++ lit "-" ++ hexEncode ((bytes.drop 4).take 2) ++ lit "-" ++
    hexEncode ((bytes.drop 6).take 2) ++ lit "-" ++ hexEncode ((bytes.drop 8).take 2) ++ lit "-" ++
    hexEncode (bytes.drop 10)

private theorem uuidString_ascii (uuid : Vector UInt8 16) : ∀ byte ∈ uuidString uuid, byte < 0x80 := by
  have dash : ∀ byte ∈ lit "-", byte < 0x80 := by
    intro byte single
    have same : byte = 0x2d := List.mem_singleton.mp single
    rw [same]
    decide
  intro byte member
  simp only [uuidString, List.mem_append] at member
  rcases member with (((((((digits | mark) | digits) | mark) | digits) | mark) | digits) | mark) | digits
  · exact hexEncode_ascii byte digits
  · exact dash byte mark
  · exact hexEncode_ascii byte digits
  · exact dash byte mark
  · exact hexEncode_ascii byte digits
  · exact dash byte mark
  · exact hexEncode_ascii byte digits
  · exact dash byte mark
  · exact hexEncode_ascii byte digits

theorem uuidString_valid (uuid : Vector UInt8 16) : validUTF8 (uuidString uuid) = true :=
  validUTF8_of_ascii (uuidString_ascii uuid)

theorem uuidString_ne_nil (uuid : Vector UInt8 16) : uuidString uuid ≠ [] := by
  intro empty
  have dash : lit "-" ≠ [] := by decide
  simp only [uuidString, List.append_eq_nil_iff] at empty
  exact dash empty.1.2

end NetLatencyMonitor.Text
