import Mathlib.Data.List.DropRight
import Mathlib.Order.Basic

/-! Go strings: immutable byte sequences, usually but not necessarily UTF-8. The
functions below are the ones of the packages `strings` and `net/textproto` that
the program calls. -/

namespace NetLatencyMonitor.Text

abbrev GoString := List UInt8

instance : LawfulBEq GoString := inferInstance

/-- A string literal of the source, as its UTF-8 bytes. -/
def lit (text : String) : GoString := text.toUTF8.data.toList

/-- The column SQLite's BINARY collation compares: bytes as numbers, left to right. -/
def collation (text : GoString) : List Nat := text.map UInt8.toNat

theorem collation_injective : Function.Injective collation :=
  List.map_injective_iff.mpr (fun _ _ same => UInt8.toNat_inj.mp same)

/-- The white space of `net/textproto`: space, tab, newline, carriage return. -/
def isASCIISpace (byte : UInt8) : Bool :=
  byte == 0x20 || byte == 0x09 || byte == 0x0a || byte == 0x0d

/-- `textproto.TrimString`, which `net/http` applies to header values and cookie parts. -/
def trimString (text : GoString) : GoString :=
  (text.dropWhile isASCIISpace).rdropWhile isASCIISpace

/-- The single-byte part of `unicode.IsSpace`. -/
def isSpaceByte (byte : UInt8) : Bool :=
  (0x09 ≤ byte && byte ≤ 0x0d) || byte == 0x20

/-- U+0085 and U+00A0, as their two bytes. -/
def isSpacePair (first second : UInt8) : Bool :=
  first == 0xc2 && (second == 0x85 || second == 0xa0)

/-- U+1680, U+2000 to U+200A, U+2028, U+2029, U+202F, U+205F and U+3000. -/
def isSpaceTriple (first second third : UInt8) : Bool :=
  (first == 0xe1 && second == 0x9a && third == 0x80) ||
  (first == 0xe2 && second == 0x80 &&
    ((0x80 ≤ third && third ≤ 0x8a) || third == 0xa8 || third == 0xa9 || third == 0xaf)) ||
  (first == 0xe2 && second == 0x81 && third == 0x9f) ||
  (first == 0xe3 && second == 0x80 && third == 0x80)

/-- Drop white space runes from the front. -/
def trimLeftSpace : GoString → GoString
  | [] => []
  | [first] => if isSpaceByte first then [] else [first]
  | [first, second] =>
    if isSpaceByte first then trimLeftSpace [second]
    else if isSpacePair first second then []
    else [first, second]
  | first :: second :: third :: rest =>
    if isSpaceByte first then trimLeftSpace (second :: third :: rest)
    else if isSpacePair first second then trimLeftSpace (third :: rest)
    else if isSpaceTriple first second third then trimLeftSpace rest
    else first :: second :: third :: rest

/-- The same from the back; the argument and the result are reversed. A white
space rune ends the text exactly when its encoding does, since only its first
byte can start a rune. -/
def trimRightSpaceRev : GoString → GoString
  | [] => []
  | [first] => if isSpaceByte first then [] else [first]
  | [first, second] =>
    if isSpaceByte first then trimRightSpaceRev [second]
    else if isSpacePair second first then []
    else [first, second]
  | first :: second :: third :: rest =>
    if isSpaceByte first then trimRightSpaceRev (second :: third :: rest)
    else if isSpacePair second first then trimRightSpaceRev (third :: rest)
    else if isSpaceTriple third second first then trimRightSpaceRev rest
    else first :: second :: third :: rest

/-- `strings.TrimSpace`. -/
def trimSpace (text : GoString) : GoString :=
  (trimRightSpaceRev (trimLeftSpace text).reverse).reverse

def lowerASCII (byte : UInt8) : UInt8 :=
  if 0x41 ≤ byte && byte ≤ 0x5a then byte + 0x20 else byte

/-- `strings.EqualFold` against a pattern without `k` and `s`: no rune outside
ASCII folds to another letter, so the comparison is bytewise. -/
def equalFold (text pattern : GoString) : Bool :=
  text.map lowerASCII == pattern.map lowerASCII

/-- `strings.ToLower` as a search for an ASCII text sees it: the letters A to Z, and the
two runes outside ASCII whose lower case is an ASCII letter, U+0130 and U+212A. What
other runes become stays outside ASCII, so their bytes are kept. -/
def toLower : GoString → GoString
  | [] => []
  | [byte] => [lowerASCII byte]
  | [first, second] =>
    if first == 0xc4 && second == 0xb0 then [0x69] else lowerASCII first :: toLower [second]
  | first :: second :: third :: rest =>
    if first == 0xc4 && second == 0xb0 then 0x69 :: toLower (third :: rest)
    else if first == 0xe2 && second == 0x84 && third == 0xaa then 0x6b :: toLower rest
    else lowerASCII first :: toLower (second :: third :: rest)

/-- `strings.Contains`. -/
def contains (pattern : GoString) : GoString → Bool
  | [] => pattern.isEmpty
  | byte :: rest => pattern.isPrefixOf (byte :: rest) || contains pattern rest

/-- `strings.Cut` at a one-byte separator: what stands before and after its first
occurrence, and the whole text before nothing when there is none. -/
def cut (separator : UInt8) : GoString → GoString × GoString
  | [] => ([], [])
  | byte :: rest =>
    if byte = separator then ([], rest)
    else ((byte :: (cut separator rest).1), (cut separator rest).2)

/-- `strings.Split` at a one-byte separator. -/
def split (separator : UInt8) : GoString → List GoString
  | [] => [[]]
  | byte :: rest =>
    if byte = separator then [] :: split separator rest
    else match split separator rest with
      | [] => [[byte]]
      | first :: others => (byte :: first) :: others

end NetLatencyMonitor.Text
