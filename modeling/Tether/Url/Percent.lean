import Tether.Url.Address

/-!
# Percent encoding

Bytes that a part of a URL may not hold are written as a percent sign and two
hexadecimal digits. Which ones these are depends on the part.

* `percentEncode`, `percentDecode`: a text with such bytes, and the bytes of one.
-/

namespace Tether.Url

/-- Control characters and all other than ASCII characters. -/
def isControl (c : Char) : Bool := c.toNat < 0x20 || 0x7f ≤ c.toNat

/-- What a fragment may not hold. -/
def notInFragment (c : Char) : Bool :=
  isControl c || c = ' ' || c = '"' || c = '<' || c = '>' || c.toNat = 0x60

/-- What a query may not hold. -/
def notInQuery (c : Char) : Bool :=
  isControl c || c = ' ' || c = '"' || c = '#' || c = '<' || c = '>'

/-- What the query of a special URL may not hold. -/
def notInSpecialQuery (c : Char) : Bool := notInQuery c || c = '\''

/-- What a path may not hold. -/
def notInPath (c : Char) : Bool :=
  notInFragment c || c = '#' || c = '?' || c = '\x7b' || c = '\x7d'

/-- What a name of a user or a password may not hold. -/
def notInUserinfo (c : Char) : Bool :=
  notInPath c || c = '/' || c = ':' || c = ';' || c = '=' || c = '@' || c = '[' || c = '\\' ||
    c = ']' || c = '^' || c = '|'

/-- A hexadecimal digit, upper case. -/
def upperHexDigit (n : Nat) : Char :=
  if n < 10 then Char.ofNat ('0'.toNat + n) else Char.ofNat ('A'.toNat + (n - 10))

/-- A byte in percent encoding. -/
def percentByte (b : UInt8) : List Char :=
  ['%', upperHexDigit (b.toNat / 16), upperHexDigit (b.toNat % 16)]

/-- A text in which the characters of a set are in percent encoding. -/
def percentEncode (isEncoded : Char → Bool) (cs : List Char) : List Char :=
  cs.flatMap fun c => if isEncoded c then (String.utf8EncodeChar c).flatMap percentByte else [c]

/-- The bytes of a text in percent encoding. -/
def percentDecode : List Char → List UInt8
  | [] => []
  | '%' :: a :: b :: cs =>
    match digitValue? a, digitValue? b with
    | some x, some y => UInt8.ofNat (16 * x + y) :: percentDecode cs
    | _, _ => '%'.toNat.toUInt8 :: percentDecode (a :: b :: cs)
  | c :: cs => String.utf8EncodeChar c ++ percentDecode cs

end Tether.Url
