import Tether.Json.Fault

/-!
# Literals

Readers for the parts of a JSON text that hold no other values. A reader takes
the rest of the text and gives what it read and the rest after that.

* `Reader.word`, `Reader.number`, `Reader.quoted`: words, numbers and texts;
* `skipNumber`, `skipQuoted`: the same parts passed over without being kept.
  Less is checked there: a number may be out of range, and an escape need not
  stand for a character.

A number that is not whole is read in two steps: the digits make a number below
`2 ^ 64`, as many of them as fit, and a power of ten then scales it. The result
may differ in the last digit from the float nearest to the number.
-/

namespace Tether

/-- Reads a part of a text: the rest of the text is given and returned. -/
abbrev Reader (α : Type) := List Char → Except Fault (α × List Char)

/-- The characters between the parts of a JSON text. -/
def isGap (c : Char) : Bool := c = ' ' || c = '\t' || c = '\n' || c = '\r'

/-- The text after its leading gap. -/
def skipGap (cs : List Char) : List Char := cs.dropWhile isGap

namespace Reader

/-! ## Words -/

/-- Reads the letters of a word, for which `a` stands. -/
def word {α : Type} (a : α) : List Char → Reader α
  | [], cs => .ok (a, cs)
  | _ :: _, [] => .error (.before .endInValue [])
  | l :: ls, c :: cs => if c = l then word a ls cs else .error (.on .wordExpected (c :: cs))

/-! ## Numbers -/

/-- Appends decimal digits to `n` as long as the number stays below `limit`;
    gives the number and the digits that are left over. -/
def appendDigits (limit : Nat) (n : Nat) : List Char → Nat × List Char
  | [] => (n, [])
  | d :: ds =>
    let m := 10 * n + (d.toNat - '0'.toNat)
    if m < limit then appendDigits limit m ds else (n, d :: ds)

/-- The whole number with the sign and the size `n`. Minus zero and what is too
    far below zero are floats. -/
def whole (negative : Bool) (n : Nat) : Number :=
  if negative then
    match Integer.ofInt? (-n) with
    | some i => if n = 0 then .real (-0.0) else .integer i
    | none => .real (-n.toUInt64.toFloat)
  else
    match Integer.ofInt? n with
    | some i => .integer i
    | none => .real n.toUInt64.toFloat

/-- `x / 10 ^ e`, in steps that keep the powers of ten finite. -/
def shrink (x : Float) (e : Nat) : Float :=
  if e ≤ 308 then x / Float.ofScientific 1 false e
  else if x == 0.0 then x
  else shrink (x / 1e308) (e - 308)
termination_by e
decreasing_by omega

/-- The float `n · 10 ^ e`, unless it is too large. -/
def scale? (n : Nat) (e : Int) : Option Float :=
  let x := n.toUInt64.toFloat
  if e < 0 then some (shrink x (-e).toNat)
  else if 308 < e then if x == 0.0 then some x else none
  else
    let y := x * Float.ofScientific 1 false e.toNat
    if y.isInf then none else some y

/-- The float with the sign and the size `n · 10 ^ e`, before the rest `cs`. -/
def scaled (negative : Bool) (n : Nat) (e : Int) : Reader Number := fun cs =>
  match scale? n e with
  | some x => .ok (.real (if negative then -x else x), cs)
  | none => .error (.before .numberOutOfRange cs)

/-- Reads the digits of an exponent: the number `n · 10 ^ e` is scaled further. -/
def exponentDigits (negative : Bool) (n : Nat) (e : Int) (down : Bool) : Reader Number
  | [] => .error (.before .endInValue [])
  | c :: cs =>
    if !c.isDigit then .error (.on .invalidNumber (c :: cs))
    else
      let ds := (c :: cs).takeWhile Char.isDigit
      let rest := (c :: cs).dropWhile Char.isDigit
      match appendDigits 2147483648 0 ds with
      | (f, []) => scaled negative n (if down then e - f else e + f) rest
      | (_, _ :: more) =>
        -- No exponent of this size is kept: the number is zero or too large.
        if n = 0 || down then .ok (.real (if negative then -0.0 else 0.0), rest)
        else .error (.before .numberOutOfRange (more ++ rest))

/-- Reads an exponent, after its mark. -/
def exponent (negative : Bool) (n : Nat) (e : Int) : Reader Number
  | '+' :: cs => exponentDigits negative n e false cs
  | '-' :: cs => exponentDigits negative n e true cs
  | cs => exponentDigits negative n e false cs

/-- Reads an exponent, if there is one. -/
def exponent? (negative : Bool) (n : Nat) (e : Int) : Reader Number
  | 'e' :: cs | 'E' :: cs => exponent negative n e cs
  | cs => scaled negative n e cs

/-- Reads a fraction, after its point. Digits that no longer fit are dropped. -/
def fraction (negative : Bool) (n : Nat) (e : Int) (cs : List Char) :
    Except Fault (Number × List Char) :=
  match cs.takeWhile Char.isDigit with
  | [] =>
    match cs with
    | [] => .error (.before .endInValue [])
    | cs => .error (.on .invalidNumber cs)
  | ds =>
    let (m, left) := appendDigits 18446744073709551616 n ds
    -- The point moves past the digits that fit, and no others.
    exponent? negative m (e - (ds.length - left.length : Nat)) (cs.dropWhile Char.isDigit)

/-- Reads what follows the whole digits of a number: `n` holds as many of them
    as fit, and `dropped` is the number of the others. -/
def afterWhole (negative : Bool) (n dropped : Nat) : Reader Number
  | '.' :: cs => fraction negative n dropped cs
  | 'e' :: cs | 'E' :: cs => exponent negative n dropped cs
  | cs =>
    if dropped = 0 then .ok (whole negative n, cs) else scaled negative n dropped cs

/-- Reads the digits of a number, after its sign. -/
def unsigned (negative : Bool) : Reader Number
  | [] => .error (.before .endInValue [])
  | c :: cs =>
    if !c.isDigit then .error (.on .invalidNumber (c :: cs))
    else if c = '0' then
      match cs with
      | d :: _ =>
        if d.isDigit then .error (.on .invalidNumber cs) else afterWhole negative 0 0 cs
      | [] => afterWhole negative 0 0 []
    else
      let ds := (c :: cs).takeWhile Char.isDigit
      let (n, left) := appendDigits 18446744073709551616 0 ds
      afterWhole negative n left.length ((c :: cs).dropWhile Char.isDigit)

/-- Reads a number. -/
def number : Reader Number
  | '-' :: cs => unsigned true cs
  | cs => unsigned false cs

/-! ## Texts -/

/-- The value of a hexadecimal digit. -/
def hexDigit? (c : Char) : Option Nat :=
  if c.isDigit then some (c.toNat - '0'.toNat)
  else if 'a' ≤ c ∧ c ≤ 'f' then some (c.toNat - 'a'.toNat + 10)
  else if 'A' ≤ c ∧ c ≤ 'F' then some (c.toNat - 'A'.toNat + 10)
  else none

/-- The number of four hexadecimal digits. -/
def hexUnit? (a b c d : Char) : Option Nat :=
  match hexDigit? a, hexDigit? b, hexDigit? c, hexDigit? d with
  | some a, some b, some c, some d => some (((a * 16 + b) * 16 + c) * 16 + d)
  | _, _, _, _ => none

/-- The fault of an escape whose four bytes are not all hexadecimal digits. -/
def hexFault (cs : List Char) : Fault :=
  if Fault.bytes cs < 4 then .syntactic .endInText 0
  else .syntactic .invalidEscape (Fault.bytes cs - 4)

/-- The character for which a letter after a backslash stands. -/
def escaped? (c : Char) : Option Char :=
  match c with
  | '"' => some '"'
  | '\\' => some '\\'
  | '/' => some '/'
  | 'b' => some '\x08'
  | 'f' => some '\x0c'
  | 'n' => some '\n'
  | 'r' => some '\r'
  | 't' => some '\t'
  | _ => none

/-- A unit that opens a pair of surrogates. -/
def isHighSurrogate (n : Nat) : Bool := 0xD800 ≤ n && n ≤ 0xDBFF

/-- A unit that closes a pair of surrogates. -/
def isLowSurrogate (n : Nat) : Bool := 0xDC00 ≤ n && n ≤ 0xDFFF

/-- The character of a pair of surrogates. -/
def ofSurrogates (high low : Nat) : Char :=
  Char.ofNat (0x10000 + (high - 0xD800) * 0x400 + (low - 0xDC00))

/-- Puts a character in front of what a reader read. -/
def consRead (c : Char) :
    Except Fault (List Char × List Char) → Except Fault (List Char × List Char)
  | .ok (s, rest) => .ok (c :: s, rest)
  | .error e => .error e

/-- Reads the characters of a text, after its opening quote. -/
def characters : Reader (List Char)
  | [] => .error (.before .endInText [])
  | '"' :: cs => .ok ([], cs)
  | '\\' :: cs =>
    match cs with
    | [] => .error (.before .endInText [])
    | 'u' :: cs =>
      match cs with
      | a :: b :: c :: d :: rest =>
        match hexUnit? a b c d with
        | none => .error (hexFault (a :: b :: c :: d :: rest))
        | some n =>
          if isLowSurrogate n then .error (.before .loneSurrogate rest)
          else if isHighSurrogate n then
            -- Only an escape for the other half may follow, at once.
            match rest with
            | [] => .error (.before .endInText [])
            | '\\' :: cs =>
              match cs with
              | [] => .error (.before .endInText [])
              | 'u' :: cs =>
                match cs with
                | a :: b :: c :: d :: rest =>
                  match hexUnit? a b c d with
                  | none => .error (hexFault (a :: b :: c :: d :: rest))
                  | some m =>
                    if isLowSurrogate m then consRead (ofSurrogates n m) (characters rest)
                    else .error (.before .loneSurrogate rest)
                | cs => .error (hexFault cs)
              | cs => .error (.on .surrogateExpected cs)
            | cs => .error (.on .surrogateExpected cs)
          else consRead (Char.ofNat n) (characters rest)
      | cs => .error (hexFault cs)
    | c :: cs =>
      match escaped? c with
      | some e => consRead e (characters cs)
      | none => .error (.on .invalidEscape (c :: cs))
  | c :: cs =>
    if c.toNat < 0x20 then .error (.on .controlCharacter (c :: cs))
    else consRead c (characters cs)

/-- Reads a text, after its opening quote. -/
def quoted : Reader String := fun cs =>
  match characters cs with
  | .ok (s, rest) => .ok (String.ofList s, rest)
  | .error e => .error e

end Reader

/-! ## Passing over -/

/-- Passes over an exponent, after its mark. -/
def skipExponent (cs : List Char) : Except Fault (List Char) :=
  let cs :=
    match cs with
    | '+' :: cs | '-' :: cs => cs
    | cs => cs
  match cs with
  | c :: _ =>
    if c.isDigit then .ok (cs.dropWhile Char.isDigit) else .error (.on .invalidNumber cs)
  | [] => .error (.on .invalidNumber [])

/-- Passes over an exponent, if there is one. -/
def skipExponent? : List Char → Except Fault (List Char)
  | 'e' :: cs | 'E' :: cs => skipExponent cs
  | cs => .ok cs

/-- Passes over a fraction and an exponent, if there are any. -/
def skipFraction? : List Char → Except Fault (List Char)
  | '.' :: cs =>
    match cs with
    | c :: _ =>
      if c.isDigit then skipExponent? (cs.dropWhile Char.isDigit)
      else .error (.on .invalidNumber cs)
    | [] => .error (.on .invalidNumber [])
  | cs => skipExponent? cs

/-- Passes over the digits of a number, after its sign. -/
def skipUnsigned : List Char → Except Fault (List Char)
  | [] => .error (.on .invalidNumber [])
  | c :: cs =>
    if !c.isDigit then .error (.on .invalidNumber (c :: cs))
    else if c = '0' then
      match cs with
      | d :: _ => if d.isDigit then .error (.on .invalidNumber cs) else skipFraction? cs
      | [] => .ok []
    else skipFraction? (cs.dropWhile Char.isDigit)

/-- Passes over a number. -/
def skipNumber : List Char → Except Fault (List Char)
  | '-' :: cs => skipUnsigned cs
  | cs => skipUnsigned cs

/-- Passes over a text, after its opening quote. -/
def skipQuoted : List Char → Except Fault (List Char)
  | [] => .error (.before .endInText [])
  | '"' :: cs => .ok cs
  | '\\' :: cs =>
    match cs with
    | [] => .error (.before .endInText [])
    | 'u' :: cs =>
      match cs with
      | a :: b :: c :: d :: rest =>
        match Reader.hexUnit? a b c d with
        | none => .error (Reader.hexFault (a :: b :: c :: d :: rest))
        | some _ => skipQuoted rest
      | cs => .error (Reader.hexFault cs)
    | c :: cs =>
      match Reader.escaped? c with
      | some _ => skipQuoted cs
      | none => .error (.on .invalidEscape (c :: cs))
  | c :: cs =>
    if c.toNat < 0x20 then .error (.on .controlCharacter (c :: cs)) else skipQuoted cs

end Tether
