import Tether.Decimal.Shortest

/-!
# Layouts of floats

A float is written with its shortest digits. A `Layout` says where positional
notation ends and how the exponent is marked; `Layout.render` writes a float.

* `Layout.json`: numbers in JSON text;
* `Layout.plain`: numbers in messages, always positional;
* `Layout.record`: numbers in the description of a record.
-/

namespace Tether.Decimal

/-- How a float is written. -/
structure Layout where
  /-- The choice between two equally near decimals. -/
  tie : Tie
  /-- The exponents of the leading digit that are written positionally. -/
  isPositional : Int → Bool
  /-- Whether a positive exponent has a sign. -/
  signed : Bool
  /-- Whether a whole number has the fraction `.0`. -/
  pointed : Bool

namespace Layout

/-- JSON text: positional from `10 ^ -5` to below `10 ^ 16`. -/
def json : Layout where
  tie := .even
  isPositional e := -5 ≤ e && e ≤ 15
  signed := true
  pointed := true

/-- Messages: always positional, whole numbers without a point. -/
def plain : Layout where
  tie := .up
  isPositional _ := true
  signed := false
  pointed := false

/-- Descriptions of records: positional from `10 ^ -4` to below `10 ^ 16`. -/
def record : Layout where
  tie := .up
  isPositional e := -4 ≤ e && e ≤ 15
  signed := false
  pointed := true

/-- The digits of `d` in positional notation, the last one at `10 ^ k`. -/
def positional (l : Layout) (digits : List Char) (k : Int) : List Char :=
  if 0 ≤ k then
    digits ++ List.replicate k.toNat '0' ++ if l.pointed then ['.', '0'] else []
  else
    let places := (-k).toNat
    let padded := List.replicate (places + 1 - digits.length) '0' ++ digits
    let whole := padded.length - places
    padded.take whole ++ '.' :: padded.drop whole

/-- The digits with a point after the first one, and the exponent `e` of that one. -/
def scientific (l : Layout) (digits : List Char) (e : Int) : List Char :=
  let mark := if l.signed && 0 ≤ e then ['e', '+'] else ['e']
  let exponent := (toString e).toList
  match digits with
  | [] => mark ++ exponent
  | [d] => d :: mark ++ exponent
  | d :: ds => d :: '.' :: ds ++ mark ++ exponent

/-- A decimal in the layout. -/
def renderScaled (l : Layout) (s : Scaled) : List Char :=
  let digits := Nat.toDigits 10 s.significand
  let e := s.exponent + digits.length - 1
  if l.isPositional e then l.positional digits s.exponent else l.scientific digits e

/-- The size of a finite float in the layout. -/
def renderSize (l : Layout) (bits : UInt64) : List Char :=
  -- Without the sign, both zeros have no bits.
  if bits <<< 1 = 0 then l.positional ['0'] 0
  else l.renderScaled ((Binary.ofBits bits).shortest l.tie)

/-- A float in the layout: the sign, also that of zero, and its size. -/
def render (l : Layout) (x : Float) : String :=
  if x.isNaN then "NaN"
  else
    let bits := x.toBits
    let size := if x.isInf then "inf".toList else l.renderSize bits
    String.ofList (if bits >>> 63 = 1 then '-' :: size else size)

end Layout

end Tether.Decimal
