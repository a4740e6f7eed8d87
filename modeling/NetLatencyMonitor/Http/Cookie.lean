import NetLatencyMonitor.Http.Request
import NetLatencyMonitor.Text.Split

/-! Cookies between the server and its clients: the `Set-Cookie` line `net/http` writes, and
what the server reads back when a request presents the line's pair. -/

namespace NetLatencyMonitor.Http

open Text

/-- The fields of `http.Cookie` that the program sets. -/
structure Cookie where
  name : GoString
  value : GoString
  path : GoString := []
  maxAge : Int := 0
  httpOnly : Bool := false
  secure : Bool := false
  sameSiteStrict : Bool := false

/-- Bytes that a cookie cannot carry are dropped, and a blank or a comma makes it quoted. -/
def sanitizeCookieValue (value : GoString) : GoString :=
  let kept := value.filter validCookieValueByte
  if kept.contains 0x20 || kept.contains 0x2c then 0x22 :: (kept ++ [0x22]) else kept

def validCookiePathByte (byte : UInt8) : Bool := 0x20 ≤ byte && byte < 0x7f && byte != 0x3b

/-- What stands behind the name and the value. -/
def Cookie.attributes (cookie : Cookie) : List GoString :=
  (if cookie.path = [] then [] else [lit " Path=" ++ cookie.path.filter validCookiePathByte]) ++
  (if 0 < cookie.maxAge then [lit " Max-Age=" ++ lit (toString cookie.maxAge)]
    else if cookie.maxAge < 0 then [lit " Max-Age=0"] else []) ++
  (if cookie.httpOnly then [lit " HttpOnly"] else []) ++
  (if cookie.secure then [lit " Secure"] else []) ++
  (if cookie.sameSiteStrict then [lit " SameSite=Strict"] else [])

/-- The name and the value as they travel. -/
def Cookie.pair (cookie : Cookie) : GoString := cookie.name ++ 0x3d :: sanitizeCookieValue cookie.value

/-- `Cookie.String`. `SetCookie` adds no header for a name that is not a token. -/
def Cookie.string (cookie : Cookie) : GoString :=
  if isToken cookie.name then join 0x3b (cookie.pair :: cookie.attributes) else []

/-- What a client sends back of a `Set-Cookie` line: the text in front of its first semicolon. -/
def setPair (line : GoString) : GoString := (cut 0x3b line).1

/-- The texts between the semicolons of the `Cookie` headers. -/
def cookieParts (header : Header) : List GoString :=
  (header (lit "Cookie")).flatMap (fun line => split 0x3b (trimString line))

/-- The request presents a pair as its cookie of this name: the pair is one of the parts, and no
part in front of it is read as a cookie of the name. -/
def Request.Presents (request : Request) (name pair : GoString) : Prop :=
  ∃ before part behind, cookieParts request.header = before ++ part :: behind ∧ trimString part = pair ∧
    ∀ other ∈ before, ∀ value, parseCookiePart other ≠ some (name, value)

/-- A text without a semicolon and without white space around it. -/
structure Plain (text : GoString) : Prop where
  bare : Bare text
  whole : 0x3b ∉ text

private theorem isASCIISpace_of_valid {byte : UInt8} (valid : validCookieValueByte byte = true) (other : byte ≠ 0x20) :
    isASCIISpace byte = false := by
  unfold isASCIISpace
  unfold validCookieValueByte at valid
  simp only [Bool.and_eq_true, decide_eq_true_eq, Bool.or_eq_false_iff, beq_eq_false_iff_ne] at valid ⊢
  obtain ⟨⟨⟨⟨printable, _⟩, _⟩, _⟩, _⟩ := valid
  refine ⟨⟨⟨other, ?_⟩, ?_⟩, ?_⟩
  · rintro rfl
    exact absurd printable (by decide)
  · rintro rfl
    exact absurd printable (by decide)
  · rintro rfl
    exact absurd printable (by decide)

section Sanitize

variable (value : GoString)

private theorem plain_sanitizeCookieValue : Plain (sanitizeCookieValue value) := by
  have valid : ∀ byte ∈ value.filter validCookieValueByte, validCookieValueByte byte = true :=
    fun byte member => (List.mem_filter.mp member).2
  have whole : 0x3b ∉ value.filter validCookieValueByte := fun member => absurd (valid _ member) (by decide)
  unfold sanitizeCookieValue
  dsimp only
  split
  · refine ⟨⟨?_, ?_⟩, ?_⟩
    · intro byte head
      cases head
      rfl
    · intro byte last
      rw [← List.cons_append, List.getLast?_concat] at last
      cases last
      rfl
    · rw [List.mem_cons, List.mem_append, List.mem_singleton]
      rintro (quote | inside | quote)
      · cases quote
      · exact whole inside
      · cases quote
  · rename_i unquoted
    have blankless : ∀ byte ∈ value.filter validCookieValueByte, isASCIISpace byte = false := by
      intro byte member
      refine isASCIISpace_of_valid (valid byte member) ?_
      rintro rfl
      simp [member] at unquoted
    exact ⟨⟨fun byte head => blankless byte (List.mem_of_head? head),
      fun byte last => blankless byte (List.mem_of_getLast? last)⟩, whole⟩

private theorem parseCookieValue_quoted {kept : GoString} (valid : kept.all validCookieValueByte = true) :
    parseCookieValue (0x22 :: (kept ++ [0x22])) = some kept := by
  have last : (0x22 :: (kept ++ [0x22])).getLast? = some 0x22 := by
    rw [← List.cons_append, List.getLast?_concat]
  have long : 1 < (0x22 :: (kept ++ [0x22])).length := by
    simp only [List.length_cons, List.length_append]
    omega
  unfold parseCookieValue
  simp only [last, long, List.head?_cons, List.drop_succ_cons, List.drop_zero, List.dropLast_concat, decide_true,
    BEq.rfl, Bool.and_self, if_true, valid]

private theorem parseCookieValue_unquoted {kept : GoString} (valid : kept.all validCookieValueByte = true) :
    parseCookieValue kept = some kept := by
  have unquoted : (kept.head? == some 0x22) = false := by
    rw [beq_eq_false_iff_ne]
    intro head
    exact absurd (List.all_eq_true.mp valid _ (List.mem_of_head? head)) (by decide)
  unfold parseCookieValue
  simp only [unquoted, Bool.and_false, Bool.false_and, Bool.false_eq_true, if_false, valid, if_true]

/-- Reading takes the quotes off again; the dropped bytes stay lost. -/
theorem parseCookieValue_sanitize :
    parseCookieValue (sanitizeCookieValue value) = some (value.filter validCookieValueByte) := by
  have valid : (value.filter validCookieValueByte).all validCookieValueByte = true :=
    List.all_eq_true.mpr (fun byte member => (List.mem_filter.mp member).2)
  unfold sanitizeCookieValue
  dsimp only
  split
  · exact parseCookieValue_quoted valid
  · exact parseCookieValue_unquoted valid

end Sanitize

private theorem isToken_plain {name : GoString} (token : isToken name = true) :
    name ≠ [] ∧ 0x3d ∉ name ∧ Plain name := by
  unfold isToken at token
  rw [Bool.and_eq_true] at token
  have bytes := List.all_eq_true.mp token.2
  have blankless : ∀ byte ∈ name, isASCIISpace byte = false := by
    intro byte member
    have kept := bytes byte member
    cases blank : isASCIISpace byte with
    | false => rfl
    | true =>
      simp only [isASCIISpace, Bool.or_eq_true, beq_iff_eq] at blank
      rcases blank with ((rfl | rfl) | rfl) | rfl
      · exact absurd kept (by decide)
      · exact absurd kept (by decide)
      · exact absurd kept (by decide)
      · exact absurd kept (by decide)
  refine ⟨by simpa using token.1, fun equals => absurd (bytes _ equals) (by decide), ?_, ?_⟩
  · exact ⟨fun byte head => blankless byte (List.mem_of_head? head),
      fun byte last => blankless byte (List.mem_of_getLast? last)⟩
  · exact fun semicolon => absurd (bytes _ semicolon) (by decide)

section Pair

variable {cookie : Cookie}

private theorem plain_pair (token : isToken cookie.name = true) : Plain cookie.pair := by
  obtain ⟨filled, _, name⟩ := isToken_plain token
  have value := plain_sanitizeCookieValue cookie.value
  unfold Cookie.pair
  refine ⟨⟨?_, ?_⟩, ?_⟩
  · intro byte head
    rw [List.head?_append, Option.or_of_isSome (by simpa using filled)] at head
    exact name.bare.first byte head
  · intro byte last
    rw [List.getLast?_append, List.getLast?_cons, Option.some_or] at last
    cases finish : (sanitizeCookieValue cookie.value).getLast? with
    | none =>
      rw [finish] at last
      cases last
      rfl
    | some final =>
      rw [finish] at last
      exact value.bare.last byte (by rw [finish]; exact last)
  · rw [List.mem_append, List.mem_cons]
    rintro (inName | equals | inValue)
    · exact name.whole inName
    · cases equals
    · exact value.whole inValue

/-- The pair of a `Set-Cookie` line is that of its cookie, whatever the attributes. -/
theorem setPair_string (token : isToken cookie.name = true) : setPair cookie.string = cookie.pair := by
  have whole := (plain_pair token).whole
  unfold setPair Cookie.string
  rw [if_pos token]
  cases cookie.attributes with
  | nil =>
    have cutOff := cut_append_left whole []
    rw [List.append_nil] at cutOff
    rw [join, cutOff]
    exact List.append_nil cookie.pair
  | cons next others => rw [join, cut_part whole]

/-- The server reads its own pair as the value, but for the bytes a cookie cannot carry. -/
theorem parseCookiePart_pair (token : isToken cookie.name = true) {part : GoString}
    (same : trimString part = cookie.pair) :
    parseCookiePart part = some (cookie.name, cookie.value.filter validCookieValueByte) := by
  obtain ⟨_, uncut, name⟩ := isToken_plain token
  have filled : cookie.pair ≠ [] := by simp [Cookie.pair]
  unfold parseCookiePart
  rw [same]
  simp only [filled, if_false]
  unfold Cookie.pair
  simp only [cut_part uncut, name.bare.trimString, token, if_true, parseCookieValue_sanitize, Option.map_some]

private theorem readCookies_eq (header : Header) :
    readCookies header = (cookieParts header).filterMap parseCookiePart :=
  (List.filterMap_flatMap).symm

/-- `Request.Cookie` on a request that presents the pair. -/
theorem cookie_presented (token : isToken cookie.name = true) {request : Request}
    (presents : request.Presents cookie.name cookie.pair) :
    request.cookie cookie.name = some (cookie.value.filter validCookieValueByte) := by
  obtain ⟨before, part, behind, parts, same, first⟩ := presents
  have unread : (before.filterMap parseCookiePart).find? (fun read => decide (read.1 = cookie.name)) = none := by
    rw [List.find?_eq_none]
    intro read member named
    obtain ⟨other, inside, parsed⟩ := List.mem_filterMap.mp member
    exact first other inside read.2 (by rw [parsed, ← of_decide_eq_true named])
  unfold Request.cookie
  rw [readCookies_eq, parts, List.filterMap_append, List.find?_append, unread, Option.none_or, List.filterMap_cons,
    parseCookiePart_pair token same]
  simp

end Pair

end NetLatencyMonitor.Http
