/-!
# Spans of characters

Properties of the Unicode standard (version 17.0) are given by spans of code points, in
increasing order. Their modules write the spans as text, in hexadecimal.

* `Spans`: spans with a content each, and `Spans.find?`, the span of a code point;
* `CharSet`: a set of characters, from words such as `9-d`, `20` and `85`.
-/

namespace Tether.Text

/-! ## Words -/

/-- The parts of a text between the separators. -/
def splitOn (sep : Char) : List Char → List (List Char)
  | [] => [[]]
  | c :: cs =>
    match splitOn sep cs with
    | [] => [[c]]
    | w :: ws => if c = sep then [] :: w :: ws else (c :: w) :: ws

/-- The number of hexadecimal digits, lower case. -/
def hexNumber (cs : List Char) : Nat :=
  cs.foldl (fun n c => 16 * n + if c.isDigit then c.toNat - 48 else c.toNat - 87) 0

/-- A span: its ends with a dash between them, or one code point alone. -/
def rangeOfWord (cs : List Char) : Nat × Nat :=
  let lo := hexNumber (cs.takeWhile (· ≠ '-'))
  match cs.dropWhile (· ≠ '-') with
  | [] => (lo, lo)
  | _ :: hi => (lo, hexNumber hi)

/-! ## Spans -/

/-- Spans of code points with a content each, in increasing order. -/
structure Spans (α : Type) where
  /-- The first and the last code point of each span, and its content. -/
  entries : Array (Nat × Nat × α)

variable {α : Type}

/-- Bisection for the span of `n` among those with an index from `lo` to `hi`. -/
def Spans.search (entries : Array (Nat × Nat × α)) (n : Nat) : Nat → Nat → Nat → Option (Nat × α)
  | 0, _, _ => none
  | steps + 1, lo, hi =>
    if hi ≤ lo then none
    else
      let mid := (lo + hi) / 2
      match entries[mid]? with
      | none => none
      | some (first, last, a) =>
        if n < first then search entries n steps lo mid
        else if last < n then search entries n steps (mid + 1) hi
        else some (first, a)

/-- The first code point and the content of the span with the code point `n`. -/
def Spans.find? (s : Spans α) (n : Nat) : Option (Nat × α) :=
  search s.entries n (s.entries.size + 1) 0 s.entries.size

/-! ## Sets -/

/-- A set of characters. -/
abbrev CharSet := Spans Unit

/-- The set with the spans written in the lines. -/
def CharSet.ofLines (lines : List String) : CharSet where
  entries := (lines.flatMap fun line => (splitOn ' ' line.toList).map fun w =>
    let range := rangeOfWord w
    (range.1, range.2, ())).toArray

/-- Whether the character belongs to the set. -/
def Spans.contains (s : Spans α) (c : Char) : Bool := (s.find? c.toNat).isSome

end Tether.Text
