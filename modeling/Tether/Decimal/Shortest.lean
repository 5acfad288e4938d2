/-!
# Shortest decimals

A 64-bit float stands for all reals that round to it. Among the decimals of
that interval, this module chooses one with the fewest digits, and among those
the nearest to the float.

* `Binary`: a positive float as `mantissa · 2 ^ exponent`;
* `Binary.shortest`: the decimal `significand · 10 ^ exponent`, found on the
  coarsest decimal grid that has a point in the interval. A hit on a grid is one
  of the two neighbours of the float there, so only these are tried.
-/

namespace Tether.Decimal

/-- Which of two equally near decimals is chosen. -/
inductive Tie
  | even
  | up
  deriving DecidableEq, Repr

/-- The decimal `significand · 10 ^ exponent`. -/
structure Scaled where
  significand : Nat
  exponent : Int
  deriving DecidableEq, Repr

/-- The positive float `mantissa · 2 ^ exponent`. -/
structure Binary where
  mantissa : Nat
  exponent : Int
  /-- The float is a power of two above the smallest ones: the float below it
      is half as far away as the one above. -/
  isEdge : Bool
  deriving DecidableEq, Repr

namespace Binary

/-- What stands in front of a fraction field, unless the exponent field is zero: `2 ^ 52`. -/
def hiddenBit : Nat := 4503599627370496

/-- The float with the exponent field `e` and the fraction field `f`. -/
def ofFields (e f : Nat) : Binary :=
  if e = 0 then ⟨f, -1074, false⟩
  else ⟨hiddenBit + f, (e : Int) - 1075, f = 0 && 1 < e⟩

/-- The float of the bit pattern `bits`, without its sign. -/
def ofBits (bits : UInt64) : Binary :=
  ofFields (bits.toNat / hiddenBit % 2048) (bits.toNat % hiddenBit)

/-- A float on a decimal grid: the float is `(4 · mantissa) · unit` over `grid`
    grid steps, where `unit` is a quarter of the distance to the float above. -/
structure OnGrid where
  unit : Nat
  grid : Nat

/-- The float on the grid of the multiples of `10 ^ k`. -/
def onGrid (b : Binary) (k : Int) : OnGrid where
  unit := Nat.pow 2 (b.exponent - 2).toNat * Nat.pow 10 (-k).toNat
  grid := Nat.pow 2 (2 - b.exponent).toNat * Nat.pow 10 k.toNat

/-- Whether `d` grid steps lie in the interval of the reals that round to `b`.
    The ends belong to it if the mantissa is even. -/
def covers (b : Binary) (g : OnGrid) (d : Nat) : Bool :=
  let low := (4 * b.mantissa - if b.isEdge then 1 else 2) * g.unit
  let high := (4 * b.mantissa + 2) * g.unit
  let x := d * g.grid
  if b.mantissa % 2 = 0 then low ≤ x && x ≤ high else low < x && x < high

/-- The point of the grid chosen for `b`, if one lies in its interval. -/
def hit? (b : Binary) (tie : Tie) (g : OnGrid) : Option Nat :=
  let x := 4 * b.mantissa * g.unit
  let d := x / g.grid
  let below := x - d * g.grid
  let above := (d + 1) * g.grid - x
  match b.covers g d, b.covers g (d + 1) with
  | true, true =>
    -- Both neighbours round to the float: the nearer one is chosen.
    if below < above then some d
    else if above < below then some (d + 1)
    else
      match tie with
      | .even => some (if d % 2 = 0 then d else d + 1)
      | .up => some (d + 1)
  | true, false => some d
  | false, true => some (d + 1)
  | false, false => none

/-- The hit on the first grid from `10 ^ k` downwards that has one. -/
def search (b : Binary) (tie : Tie) : Nat → Int → Scaled
  | 0, k => ⟨4 * b.mantissa * (b.onGrid k).unit / (b.onGrid k).grid, k⟩
  | steps + 1, k =>
    match b.hit? tie (b.onGrid k) with
    | some d => ⟨d, k⟩
    | none => search b tie steps (k - 1)

/-- A power of ten above `b`: `30103 / 100000` is a little more than the
    logarithm of two. -/
def ceiling (b : Binary) : Int :=
  (b.mantissa.log2 + 1 + b.exponent) * 30103 / 100000 + 2

/-- The shortest decimal that rounds to `b`. Seventeen digits always do. -/
def shortest (b : Binary) (tie : Tie) : Scaled :=
  b.search tie 24 b.ceiling

end Binary

end Tether.Decimal
