import Tether.Decimal.Numeral
import Tether.Decimal.Shortest

/-!
# Durations

A duration is a whole number of nanoseconds below `2 ^ 64` seconds.

* `Duration.toSeconds`, `Duration.ofSeconds?`: to and from a float of seconds;
* `Duration.text`, `Duration.ofText?`: seconds with nine decimal places;
* `Duration.brief`: in the largest unit of which there is a whole one.
-/

namespace Tether

/-- A span of time. -/
structure Duration where
  nanos : Nat
  nanos_lt : nanos < 18446744073709551616000000000 := by decide
  deriving DecidableEq, Repr

namespace Duration

@[ext]
theorem ext {a b : Duration} (h : a.nanos = b.nanos) : a = b := by
  cases a; cases b; cases h; rfl

instance : LE Duration := ⟨fun a b => a.nanos ≤ b.nanos⟩
instance : LT Duration := ⟨fun a b => a.nanos < b.nanos⟩
instance (a b : Duration) : Decidable (a ≤ b) := inferInstanceAs (Decidable (a.nanos ≤ b.nanos))
instance (a b : Duration) : Decidable (a < b) := inferInstanceAs (Decidable (a.nanos < b.nanos))
instance : Max Duration := maxOfLe
instance : Min Duration := minOfLe
instance : Inhabited Duration := ⟨⟨0, by decide⟩⟩

/-- No time. -/
def zero : Duration := ⟨0, by decide⟩

/-- The longest duration. -/
def longest : Duration := ⟨18446744073709551615999999999, by decide⟩

/-- The duration of so many nanoseconds, if it is not too long. -/
def ofNanos? (n : Nat) : Option Duration :=
  if h : n < 18446744073709551616000000000 then some ⟨n, h⟩ else none

/-- The duration of so many milliseconds. -/
def ofMillis (ms : UInt64) : Duration where
  nanos := ms.toNat * 1000000
  nanos_lt := by have := ms.toNat_lt; omega

/-- Whole seconds. -/
def seconds (d : Duration) : Nat := d.nanos / 1000000000

/-- Nanoseconds after the last whole second. -/
def subNanos (d : Duration) : Nat := d.nanos % 1000000000

/-- Whole milliseconds. -/
def millis (d : Duration) : Nat := d.nanos / 1000000

/-- Whole milliseconds, as far as a machine word can hold them. -/
def cappedMillis (d : Duration) : Nat := min d.millis 18446744073709551615

/-- The first whole number of milliseconds that is not shorter. -/
def ceilMillis (d : Duration) : Nat := (d.nanos + 999999) / 1000000

/-! ## Floats -/

/-- The duration in seconds: whole seconds and the rest are rounded, then their sum. -/
def toSeconds (d : Duration) : Float :=
  (UInt64.ofNat d.seconds).toFloat + (UInt64.ofNat d.subNanos).toFloat / 1e9

/-- The duration nearest to so many seconds, unless they are negative, too many or
    not a number. The size of the float is exact, and a half goes to the even
    nanosecond. -/
def ofSeconds? (x : Float) : Option Duration :=
  if x < 0.0 || x.isNaN || x.isInf then none
  else
    let b := Decimal.Binary.ofBits x.toBits
    ofNanos? (Decimal.roundDiv (b.mantissa * 1000000000 * Nat.pow 2 b.exponent.toNat)
      (Nat.pow 2 (-b.exponent).toNat))

/-! ## Texts -/

/-- The digits of `n`, with zeros in front up to nine places. -/
def ninePlaces (n : Nat) : List Char :=
  let ds := Nat.toDigits 10 n
  List.replicate (9 - ds.length) '0' ++ ds

/-- Seconds with nine decimal places. -/
def text (d : Duration) : String :=
  String.ofList (Nat.toDigits 10 d.seconds ++ '.' :: ninePlaces d.subNanos)

/-- Reads seconds with nine decimal places. -/
def ofText? (s : String) : Option Duration :=
  let cs := s.toList
  match Decimal.natOfText? (cs.takeWhile (· != '.')),
    Decimal.natOfText? ((cs.dropWhile (· != '.')).drop 1) with
  | some seconds, some nanos => ofNanos? (seconds * 1000000000 + nanos)
  | _, _ => none

/-- So many nanoseconds in a unit of `10 ^ places` nanoseconds: the whole part,
    and a fraction without trailing zeros. -/
def inUnit (nanos places : Nat) (unit : String) : String :=
  let whole := toString (nanos / Nat.pow 10 places)
  let ds := Nat.toDigits 10 (nanos % Nat.pow 10 places)
  let padded := List.replicate (places - ds.length) '0' ++ ds
  let fraction := (padded.reverse.dropWhile (· == '0')).reverse
  let point := if fraction.isEmpty then "" else "."
  whole ++ point ++ String.ofList fraction ++ unit

/-- The duration in the largest unit of which there is a whole one. -/
def brief (d : Duration) : String :=
  if 1000000000 ≤ d.nanos then inUnit d.nanos 9 "s"
  else if 1000000 ≤ d.nanos then inUnit d.nanos 6 "ms"
  else if 1000 ≤ d.nanos then inUnit d.nanos 3 "µs"
  else inUnit d.nanos 0 "ns"

end Duration

end Tether
