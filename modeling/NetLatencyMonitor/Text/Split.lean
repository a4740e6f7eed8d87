import NetLatencyMonitor.Text.Trim

/-! `strings.Split`, `strings.Join` and `strings.Cut` at a one-byte separator, and
`strings.Fields`: splitting undoes joining, and white space around the whole text only
touches the outer parts. -/

namespace NetLatencyMonitor.Text

variable {separator : UInt8}

/-- `strings.Join` with a one-byte separator. -/
def join (separator : UInt8) : List GoString → GoString
  | [] => []
  | [part] => part
  | part :: next :: rest => part ++ separator :: join separator (next :: rest)

/-- A field of `strings.Fields` has at least one byte. -/
def field (bytes : GoString) : List GoString := if bytes = [] then [] else [bytes]

/-- `strings.Fields` with the bytes of an unfinished field. No byte of a rune but its first
can start a white space rune, so the scan need not keep to rune boundaries. -/
def fieldsFrom (bytes : GoString) : GoString → List GoString
  | [] => field bytes
  | [first] => if isSpaceByte first then field bytes else field (bytes ++ [first])
  | [first, second] =>
    if isSpaceByte first then field bytes ++ fieldsFrom [] [second]
    else if isSpacePair first second then field bytes
    else fieldsFrom (bytes ++ [first]) [second]
  | first :: second :: third :: rest =>
    if isSpaceByte first then field bytes ++ fieldsFrom [] (second :: third :: rest)
    else if isSpacePair first second then field bytes ++ fieldsFrom [] (third :: rest)
    else if isSpaceTriple first second third then field bytes ++ fieldsFrom [] rest
    else fieldsFrom (bytes ++ [first]) (second :: third :: rest)

/-- `strings.Fields`. -/
def fields (text : GoString) : List GoString := fieldsFrom [] text

/-- Put a text in front of the first part. -/
def onFirst (front : GoString) : List GoString → List GoString
  | [] => [front]
  | first :: others => (front ++ first) :: others

private theorem split_ne_nil (separator : UInt8) (text : GoString) : split separator text ≠ [] := by
  cases text with
  | nil => exact List.cons_ne_nil _ _
  | cons byte rest =>
    unfold split
    split
    · exact List.cons_ne_nil _ _
    · split
      · exact List.cons_ne_nil _ _
      · exact List.cons_ne_nil _ _

private theorem split_append_left {front : GoString} (free : separator ∉ front) (text : GoString) :
    split separator (front ++ text) = onFirst front (split separator text) := by
  induction front with
  | nil =>
    cases parts : split separator text with
    | nil => exact absurd parts (split_ne_nil separator text)
    | cons first others => exact parts
  | cons byte rest ih =>
    have other : byte ≠ separator := fun same => free (same ▸ List.mem_cons_self)
    rw [List.cons_append, split, if_neg other, ih (fun member => free (List.mem_cons_of_mem byte member))]
    cases parts : split separator text with
    | nil => exact absurd parts (split_ne_nil separator text)
    | cons first others => rfl

private theorem split_free {text : GoString} (free : separator ∉ text) : split separator text = [text] := by
  have parts := split_append_left free []
  rw [List.append_nil] at parts
  rw [parts]
  exact congrArg (· :: []) (List.append_nil text)

private theorem split_part {part : GoString} (free : separator ∉ part) (text : GoString) :
    split separator (part ++ separator :: text) = part :: split separator text := by
  rw [split_append_left free, split, if_pos rfl]
  exact congrArg (· :: split separator text) (List.append_nil part)

/-- Splitting undoes joining. -/
theorem split_join {parts : List GoString} (nonempty : parts ≠ [])
    (free : ∀ part ∈ parts, separator ∉ part) : split separator (join separator parts) = parts := by
  induction parts with
  | nil => exact absurd rfl nonempty
  | cons part rest ih =>
    cases rest with
    | nil => exact split_free (free part List.mem_cons_self)
    | cons next others =>
      rw [join, split_part (free part List.mem_cons_self),
        ih (List.cons_ne_nil _ _) (fun other member => free other (List.mem_cons_of_mem part member))]

/-- White space behind the text stands behind its last part. -/
theorem split_append_right {behind : GoString} (free : separator ∉ behind) (text : GoString) :
    ∃ parts last, split separator text = parts ++ [last] ∧
      split separator (text ++ behind) = parts ++ [last ++ behind] := by
  induction text with
  | nil => exact ⟨[], [], rfl, split_free free⟩
  | cons byte rest ih =>
    obtain ⟨parts, last, before, after⟩ := ih
    rw [List.cons_append, split, split]
    by_cases same : byte = separator
    · rw [if_pos same, if_pos same]
      exact ⟨[] :: parts, last, by rw [before]; rfl, by rw [after]; rfl⟩
    · rw [if_neg same, if_neg same, before, after]
      cases parts with
      | nil => exact ⟨[], byte :: last, rfl, rfl⟩
      | cons first others => exact ⟨(byte :: first) :: others, last, rfl, rfl⟩

/-- No white space rune contains a printable ASCII byte. -/
theorem Blank.free {blank : GoString} (white : Blank blank)
    (printable : 33 ≤ separator.toNat ∧ separator.toNat < 128) : separator ∉ blank := by
  intro member
  have bytes := white.bytes member
  omega

/-- Trimmed parts are the same whether or not the whole text is trimmed first. -/
theorem split_trimSpace (printable : 33 ≤ separator.toNat ∧ separator.toNat < 128) (text : GoString) :
    (split separator (trimSpace text)).map trimSpace = (split separator text).map trimSpace := by
  obtain ⟨before, behind, whiteBefore, whiteBehind, whole, _⟩ := trimSpace_decompose text
  obtain ⟨parts, last, inner, outer⟩ :=
    split_append_right (whiteBehind.free printable) (before ++ trimSpace text)
  have ends : (split separator text).map trimSpace = (split separator (before ++ trimSpace text)).map trimSpace := by
    rw [whole, trimSpace_pad whiteBefore (trimSpace_trimmed text) whiteBehind, outer, inner, List.map_append,
      List.map_append, List.map_singleton, List.map_singleton, trimSpace_append_right last whiteBehind]
  rw [ends, split_append_left (whiteBefore.free printable)]
  cases inside : split separator (trimSpace text) with
  | nil => exact absurd inside (split_ne_nil separator _)
  | cons first others => simp [onFirst, trimSpace_append_left whiteBefore first]

/-! `Cut`. -/

theorem cut_part {before : GoString} (free : separator ∉ before) (behind : GoString) :
    cut separator (before ++ separator :: behind) = (before, behind) := by
  induction before with
  | nil => simp [cut]
  | cons byte rest ih =>
    have other : byte ≠ separator := fun same => free (same ▸ List.mem_cons_self)
    rw [List.cons_append, cut, if_neg other, ih (fun member => free (List.mem_cons_of_mem byte member))]

theorem cut_append_left {front : GoString} (free : separator ∉ front) (text : GoString) :
    cut separator (front ++ text) = (front ++ (cut separator text).1, (cut separator text).2) := by
  induction front with
  | nil => rfl
  | cons byte rest ih =>
    have other : byte ≠ separator := fun same => free (same ▸ List.mem_cons_self)
    rw [List.cons_append, cut, if_neg other, ih (fun member => free (List.mem_cons_of_mem byte member))]
    rfl

theorem cut_append_right {text : GoString} (present : separator ∈ text) (behind : GoString) :
    cut separator (text ++ behind) = ((cut separator text).1, (cut separator text).2 ++ behind) := by
  induction text with
  | nil => cases present
  | cons byte rest ih =>
    rw [List.cons_append, cut, cut]
    by_cases same : byte = separator
    · rw [if_pos same, if_pos same]
    · have later : separator ∈ rest := (List.mem_cons.mp present).resolve_left (Ne.symm same)
      rw [if_neg same, if_neg same, ih later]

end NetLatencyMonitor.Text
