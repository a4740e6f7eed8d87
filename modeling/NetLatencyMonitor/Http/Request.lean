import NetLatencyMonitor.Text.GoString

/-! The parts of a request that `net/http` hands to a handler: headers under their
canonical names and the cookies parsed out of them. -/

namespace NetLatencyMonitor.Http

open Text

/-- `http.Header`: the values of a canonical header name, in order of arrival. -/
abbrev Header := GoString → List GoString

/-- `Header.Get`: the first value, or the empty string. -/
def Header.get (header : Header) (name : GoString) : GoString := (header name).headD []

structure Request where
  method : GoString
  /-- The segments of the cleaned, percent-decoded path. -/
  path : List GoString
  header : Header
  remoteAddr : GoString := []

/-- `httpguts.ValidHeaderFieldValue`: no control characters but the tab. The client's
transport refuses to send any other value. -/
def validHeaderFieldValue (value : GoString) : Bool :=
  value.all (fun byte => (0x20 ≤ byte && byte != 0x7f) || byte == 0x09)

/-- The characters of an RFC 7230 token. -/
def isTokenByte (byte : UInt8) : Bool :=
  (0x30 ≤ byte && byte ≤ 0x39) || (0x41 ≤ byte && byte ≤ 0x5a) || (0x61 ≤ byte && byte ≤ 0x7a) ||
    (lit "!#$%&'*+-.^_`|~").contains byte

def isToken (name : GoString) : Bool := !name.isEmpty && name.all isTokenByte

def validCookieValueByte (byte : UInt8) : Bool :=
  0x20 ≤ byte && byte < 0x7f && byte != 0x22 && byte != 0x3b && byte != 0x5c

/-- `parseCookieValue` with double quotes allowed: strip one pair of them, then
check every byte. -/
def parseCookieValue (raw : GoString) : Option GoString :=
  let stripped :=
    if 1 < raw.length && raw.head? == some 0x22 && raw.getLast? == some 0x22
    then (raw.drop 1).dropLast else raw
  if stripped.all validCookieValueByte then some stripped else none

/-- One `;`-separated part of a Cookie header, as a name and its value. -/
def parseCookiePart (part : GoString) : Option (GoString × GoString) :=
  let part := trimString part
  if part = [] then none
  else
    let (name, value) := cut 0x3d part
    let name := trimString name
    if isToken name then (parseCookieValue value).map (fun value => (name, value)) else none

/-- `readCookies`: every well-formed cookie of every Cookie header, in order. -/
def readCookies (header : Header) : List (GoString × GoString) :=
  (header (lit "Cookie")).flatMap (fun line => (split 0x3b (trimString line)).filterMap parseCookiePart)

/-- `Request.Cookie`: the value of the first cookie with that name; `none` is `ErrNoCookie`. -/
def Request.cookie (request : Request) (name : GoString) : Option GoString :=
  ((readCookies request.header).find? (fun cookie => decide (cookie.1 = name))).map Prod.snd

end NetLatencyMonitor.Http
