/-!
# Numerals

Floats as users write them in settings: digits with an optional sign, fraction
and exponent, or one of the words `nan`, `inf` and `infinity` in letters of either
case. The float nearest to the number is meant.

* `readFloat?`: the float of a numeral;
* `roundDiv`: a quotient rounded to the nearest whole number, a half to the even
  neighbour.
-/

namespace Tether.Decimal

/-- The number of the decimal digits. -/
def ofDigits (ds : List Char) : Nat :=
  ds.foldl (fun n d => 10 * n + (d.toNat - '0'.toNat)) 0

/-- The number of one or more decimal digits and nothing else. -/
def natOfText? (cs : List Char) : Option Nat :=
  if cs ≠ [] ∧ cs.all Char.isDigit then some (ofDigits cs) else none

/-- The whole number of digits with an optional sign. -/
def intOfText? : List Char → Option Int
  | '-' :: cs => (natOfText? cs).map fun n => -n
  | '+' :: cs => (natOfText? cs).map fun n => n
  | cs => (natOfText? cs).map fun n => n

/-- The float nearest to `n · 10 ^ e`. Below `10 ^ -324` it is zero, and from
    `10 ^ 309` on infinite. -/
def scaled (n : Nat) (e : Int) : Float :=
  let size : Int := (Nat.toDigits 10 n).length + e
  if n = 0 ∨ size ≤ -324 then 0.0
  else if 310 ≤ size then 1.0 / 0.0
  else Float.ofScientific n (e < 0) e.natAbs

/-- The float nearest to the number of digits with an optional fraction and
    exponent. -/
def positiveFloat? (cs : List Char) : Option Float :=
  let isMark (c : Char) := c == 'e' || c == 'E'
  let mantissa := cs.takeWhile fun c => !isMark c
  let exponent? :=
    match cs.dropWhile fun c => !isMark c with
    | [] => some 0
    | _ :: e => intOfText? e
  let whole := mantissa.takeWhile (· != '.')
  let fraction := (mantissa.dropWhile (· != '.')).drop 1
  match natOfText? (whole ++ fraction), exponent? with
  | some n, some e => some (scaled n (e - fraction.length))
  | _, _ => none

/-- The float of a numeral. -/
def readFloat? (s : String) : Option Float :=
  let size? (cs : List Char) :=
    match String.ofList (cs.map Char.toLower) with
    | "inf" | "infinity" => some (1.0 / 0.0)
    | "nan" => some (0.0 / 0.0)
    | _ => positiveFloat? cs
  match s.toList with
  | '-' :: cs => (size? cs).map fun x => -x
  | '+' :: cs => size? cs
  | cs => size? cs

/-- `n / d` rounded to the nearest whole number, a half to the even neighbour. -/
def roundDiv (n d : Nat) : Nat :=
  let q := n / d
  let r := 2 * (n % d)
  if r < d then q else if d < r then q + 1 else if q % 2 = 0 then q else q + 1

end Tether.Decimal
