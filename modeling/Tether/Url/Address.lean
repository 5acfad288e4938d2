import Tether.Text.Spans

/-!
# Addresses

* `ipv4?`: an address in one to four numbers, which may be octal or hexadecimal;
  the last one fills all remaining bytes;
* `ipv6?`: an address in eight groups, of which zeros may be left out once, and
  the last two may be written as an address of the older kind;
* `showIpv4`, `showIpv6`: the usual forms.
-/

namespace Tether.Url

/-- The value of a digit in any base up to sixteen. -/
def digitValue? (c : Char) : Option Nat :=
  if c.isDigit then some (c.toNat - '0'.toNat)
  else if 'a' ≤ c ∧ c ≤ 'f' then some (c.toNat - 'a'.toNat + 10)
  else if 'A' ≤ c ∧ c ≤ 'F' then some (c.toNat - 'A'.toNat + 10)
  else none

/-- The number of the digits in a base. -/
def numberInBase? (base : Nat) (cs : List Char) : Option Nat :=
  cs.foldlM (fun n c => do
    let d ← digitValue? c
    if d < base then some (base * n + d) else none) 0

/-! ## Four bytes -/

/-- The number of a part: after `0x` hexadecimal, after `0` octal. -/
def ipv4Number? (cs : List Char) : Option Nat :=
  match cs with
  | [] => none
  | '0' :: 'x' :: cs | '0' :: 'X' :: cs => numberInBase? 16 cs
  | '0' :: c :: cs => numberInBase? 8 (c :: cs)
  | cs => numberInBase? 10 cs

/-- The parts of an address or a domain name, less the empty one after a final point. -/
def dottedParts (cs : List Char) : List (List Char) :=
  let parts := Text.splitOn '.' cs
  if 1 < parts.length ∧ parts.getLast? = some [] then parts.dropLast else parts

/-- Whether the last part is a number, so that an address must be meant. -/
def endsInNumber (cs : List Char) : Bool :=
  match (dottedParts cs).getLast? with
  | none | some [] => false
  | some part => part.all Char.isDigit || (ipv4Number? part).isSome

/-- The address with the numbers, the last one in front. -/
def ipv4OfNumbers? : List Nat → Option Nat
  | [] => none
  | last :: firsts =>
    -- The last number stands for all bytes that are left.
    if firsts.length < 4 ∧ last < Nat.pow 256 (4 - firsts.length) ∧ firsts.all (· < 256) then
      some (firsts.reverse.foldl (fun n b => 256 * n + b) 0 *
        Nat.pow 256 (4 - firsts.length) + last)
    else none

/-- Reads an address of four bytes. -/
def ipv4? (cs : List Char) : Option Nat := do
  ipv4OfNumbers? (← (dottedParts cs).mapM ipv4Number?).reverse

/-- The four bytes with points between them. -/
def showIpv4 (n : Nat) : List Char :=
  List.intercalate ['.'] <|
    [n >>> 24, n >>> 16 % 256, n >>> 8 % 256, n % 256].map (Nat.toDigits 10)

/-! ## Eight groups -/

/-- The byte of decimal digits without a leading zero. -/
def byte? (cs : List Char) : Option Nat :=
  match cs with
  | [] => none
  | ['0'] => some 0
  | '0' :: _ => none
  | cs => (numberInBase? 10 cs).bind fun n => if n < 256 then some n else none

/-- The two groups of an address of four bytes. -/
def embedded? (cs : List Char) : Option (List Nat) :=
  match (Text.splitOn '.' cs).mapM byte? with
  | some [a, b, c, d] => some [256 * a + b, 256 * c + d]
  | _ => none

/-- Groups of an address: `gap` is the number of groups before the place where
    zeros are left out, that place counting as one. -/
structure Groups where
  groups : List Nat
  gap : Option Nat

/-- Reads the groups after those in `g`. Each takes a character at least, so there
    are at most `steps`. -/
def readGroups? : Nat → Groups → List Char → Option Groups
  | _, g, [] => some g
  | 0, _, _ => none
  | steps + 1, g, c :: cs =>
    if g.groups.length = 8 then none
    else if c = ':' then
      -- Zeros are left out in one place only.
      match g.gap with
      | some _ => none
      | none => readGroups? steps ⟨g.groups ++ [0], some (g.groups.length + 1)⟩ cs
    else
      let ds := ((c :: cs).take 4).takeWhile fun c => (digitValue? c).isSome
      let rest := (c :: cs).drop ds.length
      let next : Groups := ⟨g.groups ++ [(numberInBase? 16 ds).getD 0], g.gap⟩
      match rest with
      | [] => some next
      | ':' :: [] => none
      | ':' :: rest => readGroups? steps next rest
      | '.' :: _ =>
        -- Four bytes at the end take the place of two groups.
        if ds.isEmpty || 6 < g.groups.length then none
        else (embedded? (c :: cs)).map fun two => ⟨g.groups ++ two, g.gap⟩
      | _ => none

/-- Reads an address of eight groups. -/
def ipv6? (cs : List Char) : Option (List Nat) :=
  let groups? :=
    match cs with
    | ':' :: ':' :: cs => readGroups? cs.length ⟨[0], some 1⟩ cs
    | ':' :: _ => none
    | cs => readGroups? cs.length ⟨[], none⟩ cs
  match groups? with
  | none => none
  | some ⟨groups, none⟩ => if groups.length = 8 then some groups else none
  | some ⟨groups, some gap⟩ =>
    some (groups.take gap ++ List.replicate (8 - groups.length) 0 ++ groups.drop gap)

/-- The first longest run of zeros from the place `i` on: its place and length. -/
def longestZeros (i : Nat) : List Nat → Nat × Nat
  | [] => (i, 0)
  | g :: gs =>
    let here := ((g :: gs).takeWhile (· = 0)).length
    let later := longestZeros (i + 1) gs
    if here = 0 || here < later.2 then later else (i, here)

/-- Groups in hexadecimal with colons between them. -/
def joinGroups (gs : List Nat) : List Char := List.intercalate [':'] (gs.map (Nat.toDigits 16))

/-- Eight groups, of which the first longest run of two or more zeros is left out. -/
def showIpv6 (gs : List Nat) : List Char :=
  let (start, length) := longestZeros 0 gs
  if length < 2 then joinGroups gs
  else joinGroups (gs.take start) ++ [':', ':'] ++ joinGroups (gs.drop (start + length))

end Tether.Url
