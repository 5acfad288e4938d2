/-!
# Punycode

A label of a domain name with other than ASCII characters is written in ASCII: its
ASCII characters, and then the places and code points of the others as differences,
in a mixed base whose digits adapt to the sizes of the differences (RFC 3492).

* `Punycode.encode`, `Punycode.decode?`: to ASCII and back.
-/

namespace Tether.Url.Punycode

/-- The digit with the value `d`: the letters, then the decimal digits. -/
def digit (d : Nat) : Char :=
  if d < 26 then Char.ofNat ('a'.toNat + d) else Char.ofNat ('0'.toNat + (d - 26))

/-- The value of a digit, in either case. -/
def value? (c : Char) : Option Nat :=
  if 'a' ≤ c ∧ c ≤ 'z' then some (c.toNat - 'a'.toNat)
  else if 'A' ≤ c ∧ c ≤ 'Z' then some (c.toNat - 'A'.toNat)
  else if c.isDigit then some (c.toNat - '0'.toNat + 26)
  else none

/-- The threshold of the digit at the place `k`: digits below it are the last. -/
def threshold (k bias : Nat) : Nat :=
  if k ≤ bias then 1 else if bias + 26 ≤ k then 26 else k - bias

/-- Scales a difference down to the range of one bias step. -/
def dampen (delta k : Nat) : Nat × Nat :=
  if 455 < delta then dampen (delta / 35) (k + 36) else (delta, k)
termination_by delta
decreasing_by omega

/-- The bias after a difference, with `count` characters in place. -/
def adapt (delta count : Nat) (isFirst : Bool) : Nat :=
  let delta := if isFirst then delta / 700 else delta / 2
  let r := dampen (delta + delta / count) 0
  r.2 + 36 * r.1 / (r.1 + 38)

/-! ## Encoding -/

/-- The digits of a difference, from the place `k` on: there are at most `steps`. -/
def digits (bias : Nat) : Nat → Nat → Nat → List Char
  | 0, _, _ => []
  | steps + 1, k, q =>
    let t := threshold k bias
    if q < t then [digit q]
    else digit (t + (q - t) % (36 - t)) :: digits bias steps (k + 36) ((q - t) / (36 - t))

/-- The state between two characters. -/
structure State where
  written : List Char
  delta : Nat
  bias : Nat
  /-- The number of characters in place. -/
  count : Nat

/-- Goes past the character `c`, while those with the code point `n` are written. -/
def scan (basics n : Nat) (s : State) (c : Char) : State :=
  if c.toNat < n then { s with delta := s.delta + 1 }
  else if c.toNat = n then
    { written := s.written ++ digits s.bias (s.delta + 1) 36 s.delta
      delta := 0
      bias := adapt s.delta (s.count + 1) (s.count == basics)
      count := s.count + 1 }
  else s

/-- Writes the characters with the code points `ns`, the last one before being `n`. -/
def encodeFrom (cs : List Char) (basics : Nat) : List Nat → Nat → State → State
  | [], _, s => s
  | m :: ms, n, s =>
    -- The code points between the last one and this one are passed in one stride.
    let s := cs.foldl (scan basics m) { s with delta := s.delta + (m - n) * (s.count + 1) }
    encodeFrom cs basics ms (m + 1) { s with delta := s.delta + 1 }

/-- Puts a code point into a list of increasing ones. -/
def insertPoint (n : Nat) : List Nat → List Nat
  | [] => [n]
  | m :: ms => if n < m then n :: m :: ms else if n = m then m :: ms else m :: insertPoint n ms

/-- The label in ASCII. -/
def encode (cs : List Char) : List Char :=
  let basic := cs.filter (·.toNat < 128)
  let others := (cs.filter (128 ≤ ·.toNat)).foldl (fun ns c => insertPoint c.toNat ns) []
  let s := encodeFrom cs basic.length others 128 ⟨[], 0, 72, basic.length⟩
  basic ++ (if basic.isEmpty then [] else ['-']) ++ s.written

/-! ## Decoding -/

/-- Reads a difference, from the place `k` with the weight `w` on; gives it and the
    rest. -/
def readDelta? (bias : Nat) : List Char → Nat → Nat → Nat → Option (Nat × List Char)
  | [], _, _, _ => none
  | c :: cs, k, w, i =>
    match value? c with
    | none => none
    | some d =>
      if d < threshold k bias then some (i + d * w, cs)
      else readDelta? bias cs (k + 36) (w * (36 - threshold k bias)) (i + d * w)

/-- Reads the other characters into the ones in place. Each takes a digit at
    least, so there are at most `steps`. -/
def decodeFrom? : Nat → List Char → Nat → Nat → Nat → List Nat → Option (List Nat)
  | _, [], _, _, _, placed => some placed
  | 0, _, _, _, _, _ => none
  | steps + 1, cs, n, i, bias, placed =>
    match readDelta? bias cs 36 1 i with
    | none => none
    | some (j, cs) =>
      let count := placed.length + 1
      let n := n + j / count
      let at' := j % count
      if 0x10ffff < n ∨ (0xd800 ≤ n ∧ n < 0xe000) then none
      else
        decodeFrom? steps cs n (at' + 1) (adapt (j - i) count (i == 0))
          (placed.take at' ++ n :: placed.drop at')

/-- The ASCII characters of a written label, and what comes after the dash behind
    them. A dash with nothing before it parts nothing. -/
def cut (cs : List Char) : List Char × List Char :=
  match cs.reverse.dropWhile (· ≠ '-') with
  | [] | [_] => ([], cs)
  | _ :: before => (before.reverse, (cs.reverse.takeWhile (· ≠ '-')).reverse)

/-- The label that is written in ASCII. -/
def decode? (cs : List Char) : Option (List Char) :=
  let (basic, rest) := cut cs
  (decodeFrom? (cs.length + 1) rest 128 0 72 (basic.map Char.toNat)).map fun ns =>
    ns.map Char.ofNat

end Tether.Url.Punycode
