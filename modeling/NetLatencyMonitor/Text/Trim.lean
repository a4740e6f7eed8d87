import NetLatencyMonitor.Text.GoString
import NetLatencyMonitor.Text.Strip

/-! What `strings.TrimSpace` removes and what it leaves, for every byte string. -/

namespace NetLatencyMonitor.Text

/-- The encoding of one white space rune. -/
inductive SpaceRune : GoString → Prop
  | byte {first : UInt8} (space : isSpaceByte first = true) : SpaceRune [first]
  | pair {first second : UInt8} (space : isSpacePair first second = true) : SpaceRune [first, second]
  | triple {first second third : UInt8} (space : isSpaceTriple first second third = true) :
      SpaceRune [first, second, third]

/-- White space only. -/
abbrev Blank (text : GoString) : Prop := Tokens SpaceRune text

/-- No white space rune in front. -/
abbrev NoLeadingSpace (text : GoString) : Prop := NoLead SpaceRune text

/-- No white space rune at the end. -/
abbrev NoTrailingSpace (text : GoString) : Prop := NoLead (fun rune => SpaceRune rune.reverse) text.reverse

/-- No white space around the text. -/
def Trimmed (text : GoString) : Prop := NoLeadingSpace text ∧ NoTrailingSpace text

/-! The runes are told apart by any of their ends: a single byte is ASCII, the first byte
of a longer one is no continuation byte and all others are. -/

def isContinuation (byte : UInt8) : Bool := 0x80 ≤ byte && byte ≤ 0xbf

private theorem isSpaceByte_iff {byte : UInt8} :
    isSpaceByte byte = true ↔ (9 ≤ byte.toNat ∧ byte.toNat ≤ 13) ∨ byte.toNat = 32 := by
  simp [isSpaceByte, UInt8.le_iff_toNat_le, ← UInt8.toNat_inj]

private theorem isSpacePair_iff {first second : UInt8} :
    isSpacePair first second = true ↔
      first.toNat = 194 ∧ (second.toNat = 133 ∨ second.toNat = 160) := by
  simp [isSpacePair, ← UInt8.toNat_inj]

private theorem isSpaceTriple_bytes {first second third : UInt8} (space : isSpaceTriple first second third = true) :
    (225 ≤ first.toNat ∧ first.toNat ≤ 227) ∧ (128 ≤ second.toNat ∧ second.toNat ≤ 154) ∧
      128 ≤ third.toNat ∧ third.toNat ≤ 175 := by
  simp [isSpaceTriple, UInt8.le_iff_toNat_le, ← UInt8.toNat_inj] at space
  omega

private theorem isContinuation_iff {byte : UInt8} :
    isContinuation byte = true ↔ 128 ≤ byte.toNat ∧ byte.toNat ≤ 191 := by
  simp [isContinuation, UInt8.le_iff_toNat_le]

/-- Neither end of a two-byte rune is a space byte. -/
theorem isSpacePair_ends {first second : UInt8} (space : isSpacePair first second = true) :
    isSpaceByte first = false ∧ isSpaceByte second = false := by
  have bytes := isSpacePair_iff.mp space
  simp only [Bool.eq_false_iff, Ne, isSpaceByte_iff]
  omega

/-- Neither end of a three-byte rune is a shorter one. -/
theorem isSpaceTriple_ends {first second third : UInt8} (space : isSpaceTriple first second third = true) :
    isSpaceByte first = false ∧ isSpacePair first second = false ∧
      isSpaceByte third = false ∧ isSpacePair second third = false := by
  have bytes := isSpaceTriple_bytes space
  simp only [Bool.eq_false_iff, Ne, isSpaceByte_iff, isSpacePair_iff]
  omega

private theorem SpaceRune.first_tail {rune : GoString} (space : SpaceRune rune) :
    ∃ first tail, rune = first :: tail ∧ isContinuation first = false ∧
      ∀ byte ∈ tail, isContinuation byte = true := by
  cases space with
  | byte space =>
    have := isSpaceByte_iff.mp space
    refine ⟨_, [], rfl, ?_, fun byte member => (List.not_mem_nil member).elim⟩
    rw [Bool.eq_false_iff, Ne, isContinuation_iff]
    omega
  | pair space =>
    have := isSpacePair_iff.mp space
    refine ⟨_, [_], rfl, ?_, ?_⟩
    · rw [Bool.eq_false_iff, Ne, isContinuation_iff]
      omega
    · intro byte member
      rw [List.mem_singleton.mp member, isContinuation_iff]
      omega
  | triple space =>
    have := isSpaceTriple_bytes space
    refine ⟨_, [_, _], rfl, ?_, ?_⟩
    · rw [Bool.eq_false_iff, Ne, isContinuation_iff]
      omega
    · intro byte member
      simp only [List.mem_cons, List.not_mem_nil, or_false] at member
      rcases member with rfl | rfl
      · rw [isContinuation_iff]
        omega
      · rw [isContinuation_iff]
        omega

private theorem SpaceRune.ne_nil {rune : GoString} (space : SpaceRune rune) : rune ≠ [] := by
  obtain ⟨first, tail, rfl, _⟩ := space.first_tail
  exact List.cons_ne_nil first tail

private theorem trimLeftSpace_strips : Strips SpaceRune trimLeftSpace where
  nonempty := fun _ space => space.ne_nil
  step := by
    intro rune rest space
    cases space with
    | byte space => rcases rest with _ | ⟨second, _ | ⟨third, rest⟩⟩ <;> simp [trimLeftSpace, space]
    | pair space =>
      obtain ⟨first, _⟩ := isSpacePair_ends space
      rcases rest with _ | ⟨third, rest⟩ <;> simp [trimLeftSpace, first, space]
    | triple space =>
      obtain ⟨first, pair, _⟩ := isSpaceTriple_ends space
      simp [trimLeftSpace, first, pair, space]
  stop := by
    intro text free
    have noByte : ∀ first rest, text = first :: rest → isSpaceByte first = false := fun first rest same =>
      Bool.eq_false_iff.mpr (fun space => free [first] rest (.byte space) same)
    have noPair : ∀ first second rest, text = first :: second :: rest → isSpacePair first second = false :=
      fun first second rest same =>
        Bool.eq_false_iff.mpr (fun space => free [first, second] rest (.pair space) same)
    have noTriple : ∀ first second third rest, text = first :: second :: third :: rest →
        isSpaceTriple first second third = false := fun first second third rest same =>
      Bool.eq_false_iff.mpr (fun space => free [first, second, third] rest (.triple space) same)
    rcases text with _ | ⟨first, _ | ⟨second, _ | ⟨third, rest⟩⟩⟩
    · rfl
    · simp [trimLeftSpace, noByte first [] rfl]
    · simp [trimLeftSpace, noByte first _ rfl, noPair first second [] rfl]
    · simp [trimLeftSpace, noByte first _ rfl, noPair first second _ rfl, noTriple first second third rest rfl]

private theorem trimRightSpaceRev_strips : Strips (fun rune => SpaceRune rune.reverse) trimRightSpaceRev where
  nonempty := by
    rintro rune space rfl
    exact space.ne_nil rfl
  step := by
    intro rune rest space
    generalize forward : rune.reverse = original at space
    have same : rune = original.reverse := by rw [← forward, List.reverse_reverse]
    subst rune
    cases space with
    | byte space => rcases rest with _ | ⟨second, _ | ⟨third, rest⟩⟩ <;> simp [trimRightSpaceRev, space]
    | pair space =>
      obtain ⟨_, last⟩ := isSpacePair_ends space
      rcases rest with _ | ⟨third, rest⟩ <;> simp [trimRightSpaceRev, last, space]
    | triple space =>
      obtain ⟨_, _, last, pair⟩ := isSpaceTriple_ends space
      simp [trimRightSpaceRev, last, pair, space]
  stop := by
    intro text free
    have noByte : ∀ first rest, text = first :: rest → isSpaceByte first = false := fun first rest same =>
      Bool.eq_false_iff.mpr (fun space => free [first] rest (.byte space) same)
    have noPair : ∀ first second rest, text = first :: second :: rest → isSpacePair second first = false :=
      fun first second rest same =>
        Bool.eq_false_iff.mpr (fun space => free [first, second] rest (.pair space) same)
    have noTriple : ∀ first second third rest, text = first :: second :: third :: rest →
        isSpaceTriple third second first = false := fun first second third rest same =>
      Bool.eq_false_iff.mpr (fun space => free [first, second, third] rest (.triple space) same)
    rcases text with _ | ⟨first, _ | ⟨second, _ | ⟨third, rest⟩⟩⟩
    · rfl
    · simp [trimRightSpaceRev, noByte first [] rfl]
    · simp [trimRightSpaceRev, noByte first _ rfl, noPair first second [] rfl]
    · simp [trimRightSpaceRev, noByte first _ rfl, noPair first second _ rfl, noTriple first second third rest rfl]

/-! `TrimSpace`: what it takes away and what it leaves. -/

/-- White space starts with no continuation byte, so it cannot complete a rune. -/
theorem noLeadingSpace_append {text blank : GoString} (free : NoLeadingSpace text) (filled : text ≠ [])
    (white : Blank blank) : NoLeadingSpace (text ++ blank) := by
  intro rune rest space same
  rcases List.append_eq_append_iff.mp same with ⟨middle, tail, cut⟩ | ⟨middle, tail, cut⟩
  · -- the rune reaches beyond the text
    obtain ⟨runes, each, rfl⟩ := white
    cases middle with
    | nil => exact free rune [] space (by rw [tail, List.append_nil, List.append_nil])
    | cons first others =>
      cases runes with
      | nil => cases cut
      | cons next later =>
        obtain ⟨start, behind, split, fresh, _⟩ := (each next List.mem_cons_self).first_tail
        obtain ⟨head, inner, parts, _, continued⟩ := space.first_tail
        rw [split, List.flatten_cons, List.cons_append, List.cons_append] at cut
        obtain ⟨rfl, _⟩ := List.cons.inj cut
        obtain ⟨opening, remaining, rfl⟩ := List.exists_cons_of_ne_nil filled
        rw [parts, List.cons_append] at tail
        have inside : start ∈ inner := by
          rw [(List.cons.inj tail).2]
          exact List.mem_append_right _ List.mem_cons_self
        rw [continued start inside] at fresh
        cases fresh
  · exact free rune middle space tail

theorem trimSpace_decompose (text : GoString) :
    ∃ before behind, Blank before ∧ Blank behind ∧ text = before ++ trimSpace text ++ behind ∧
      Trimmed (trimSpace text) := by
  obtain ⟨before, white, left, leading⟩ := trimLeftSpace_strips.decompose text
  obtain ⟨behindRev, whiteRev, right, trailing⟩ :=
    trimRightSpaceRev_strips.decompose (trimLeftSpace text).reverse
  have whiteBehind : Blank behindRev.reverse := by
    have reversed := tokens_reverse whiteRev
    simp only [List.reverse_reverse] at reversed
    exact reversed
  have whole : trimLeftSpace text = trimSpace text ++ behindRev.reverse := by
    have both := congrArg List.reverse right
    rw [List.reverse_reverse, List.reverse_append] at both
    exact both
  refine ⟨before, behindRev.reverse, white, whiteBehind, ?_, ?_, ?_⟩
  · rw [List.append_assoc, ← whole]
    exact left
  · intro rune rest space same
    refine leading rune (rest ++ behindRev.reverse) space ?_
    rw [whole, same, List.append_assoc]
  · unfold NoTrailingSpace trimSpace
    rw [List.reverse_reverse]
    exact trailing

theorem trimSpace_trimmed (text : GoString) : Trimmed (trimSpace text) := by
  obtain ⟨_, _, _, _, _, trimmed⟩ := trimSpace_decompose text
  exact trimmed

/-- White space around a trimmed text is exactly what is removed. -/
theorem trimSpace_pad {before text behind : GoString} (white : Blank before) (trimmed : Trimmed text)
    (whiteBehind : Blank behind) : trimSpace (before ++ text ++ behind) = text := by
  obtain ⟨leading, trailing⟩ := trimmed
  unfold trimSpace
  rw [List.append_assoc, trimLeftSpace_strips.tokens_append white]
  by_cases empty : text = []
  · subst text
    have gone : trimLeftSpace behind = [] := by
      have all := trimLeftSpace_strips.tokens_append whiteBehind []
      rw [List.append_nil] at all
      exact all
    rw [List.nil_append, gone]
    rfl
  · rw [trimLeftSpace_strips.stop _ (noLeadingSpace_append leading empty whiteBehind), List.reverse_append,
      trimRightSpaceRev_strips.tokens_append (tokens_reverse_iff.mpr whiteBehind),
      trimRightSpaceRev_strips.stop _ trailing, List.reverse_reverse]

theorem trimSpace_eq_self_iff {text : GoString} : trimSpace text = text ↔ Trimmed text := by
  constructor
  · intro same
    exact same ▸ trimSpace_trimmed text
  · intro trimmed
    have padded := trimSpace_pad tokens_nil trimmed tokens_nil
    rw [List.nil_append, List.append_nil] at padded
    exact padded

@[simp] theorem trimSpace_idempotent (text : GoString) : trimSpace (trimSpace text) = trimSpace text :=
  trimSpace_eq_self_iff.mpr (trimSpace_trimmed text)

theorem trimSpace_blank {text : GoString} (white : Blank text) : trimSpace text = [] := by
  have trimmed : Trimmed [] := by
    constructor
    · intro rune rest space same
      exact space.ne_nil (List.append_eq_nil_iff.mp same.symm).1
    · intro rune rest space same
      have empty : rune = [] := (List.append_eq_nil_iff.mp same.symm).1
      exact space.ne_nil (by rw [empty]; rfl)
  have padded := trimSpace_pad white trimmed tokens_nil
  rw [List.append_nil, List.append_nil] at padded
  exact padded

theorem trimSpace_append_left {blank : GoString} (white : Blank blank) (text : GoString) :
    trimSpace (blank ++ text) = trimSpace text := by
  unfold trimSpace
  rw [trimLeftSpace_strips.tokens_append white]

theorem trimSpace_append_right {blank : GoString} (text : GoString) (white : Blank blank) :
    trimSpace (text ++ blank) = trimSpace text := by
  obtain ⟨before, behind, whiteBefore, whiteBehind, split, trimmed⟩ := trimSpace_decompose text
  have longer : text ++ blank = before ++ trimSpace text ++ (behind ++ blank) := by
    rw [← List.append_assoc, ← split]
  rw [longer]
  exact trimSpace_pad whiteBefore trimmed (tokens_append_tokens whiteBehind white)

/-- The bytes of white space are control characters, spaces and bytes outside ASCII. -/
theorem Blank.bytes {text : GoString} (white : Blank text) {byte : UInt8} (member : byte ∈ text) :
    byte.toNat ≤ 32 ∨ 128 ≤ byte.toNat := by
  obtain ⟨runes, each, rfl⟩ := white
  obtain ⟨rune, present, inside⟩ := List.mem_flatten.mp member
  cases each rune present with
  | byte space =>
    have bytes := isSpaceByte_iff.mp space
    rw [List.mem_singleton.mp inside]
    omega
  | pair space =>
    have bytes := isSpacePair_iff.mp space
    simp only [List.mem_cons, List.not_mem_nil, or_false] at inside
    rcases inside with rfl | rfl
    · omega
    · omega
  | triple space =>
    have bytes := isSpaceTriple_bytes space
    simp only [List.mem_cons, List.not_mem_nil, or_false] at inside
    rcases inside with rfl | rfl | rfl
    · omega
    · omega
    · omega

/-- Nothing is trimmed from printable ASCII without blanks. -/
theorem trimSpace_printable {text : GoString} (printable : ∀ byte ∈ text, 33 ≤ byte.toNat ∧ byte.toNat < 128) :
    trimSpace text = text := by
  obtain ⟨before, behind, white, whiteBehind, whole, _⟩ := trimSpace_decompose text
  have empty : ∀ {blank : GoString}, Blank blank → blank ⊆ text → blank = [] := by
    intro blank white inside
    refine List.eq_nil_iff_forall_not_mem.mpr (fun byte member => ?_)
    have bytes := white.bytes member
    have shown := printable byte (inside member)
    omega
  have left : before = [] := by
    refine empty white (fun byte member => ?_)
    rw [whole]
    exact List.mem_append_left _ (List.mem_append_left _ member)
  have right : behind = [] := by
    refine empty whiteBehind (fun byte member => ?_)
    rw [whole]
    exact List.mem_append_right _ member
  rw [left, right, List.nil_append, List.append_nil] at whole
  exact whole.symm

/-! `textproto.TrimString`. -/

section TrimString

variable {text : GoString}

/-- No white space at either end. -/
structure Bare (text : GoString) : Prop where
  first : ∀ byte ∈ text.head?, isASCIISpace byte = false
  last : ∀ byte ∈ text.getLast?, isASCIISpace byte = false

theorem Bare.trimString (bare : Bare text) : trimString text = text := by
  have front : text.dropWhile isASCIISpace = text := by
    cases text with
    | nil => rfl
    | cons byte rest => exact List.dropWhile_cons_of_neg (by simp [bare.first byte rfl])
  unfold Text.trimString
  rw [front, List.rdropWhile_eq_self_iff]
  intro filled
  simp [bare.last _ (List.getLast?_eq_getLast_of_ne_nil filled)]

end TrimString

end NetLatencyMonitor.Text
