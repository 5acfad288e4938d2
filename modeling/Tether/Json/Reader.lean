import Tether.Json.Literal

/-!
# Reading documents

* `Next`, `nextItem`, `nextMember`: the punctuation of arrays and objects;
* `Reader.items`, `Reader.fields`: the loops over an array and an object, for any
  reader of an item or a field;
* `Reader.document`: a document, with at most a given number of arrays and
  objects inside each other;
* `skip`: a document passed over without being kept, nested as deep as it may be;
* `Json.read`: a whole text as a document.

No array or object has more items than the text has characters, which bounds the
loops: `bound` stands for a number of that kind.
-/

namespace Tether

/-! ## Punctuation -/

/-- What follows in an array or an object. -/
inductive Next
  /-- Another item, which starts here. -/
  | item (cs : List Char)
  /-- Nothing: the text after the closing bracket. -/
  | close (cs : List Char)

/-- What follows in an array, after its bracket or after an item. What is passed
    over (`lax`) may say less of a comma before the closing bracket. -/
def nextItem (lax isFirst : Bool) (cs : List Char) : Except Fault Next :=
  match skipGap cs with
  | [] => .error (.before .endInArray [])
  | ']' :: cs => .ok (.close cs)
  | c :: cs =>
    if isFirst then .ok (.item (c :: cs))
    else if c = ',' then
      match skipGap cs with
      | [] => .error (.before .endInValue [])
      | d :: cs =>
        if d = ']' && !lax then .error (.on .trailingComma (d :: cs)) else .ok (.item (d :: cs))
    else .error (.on .commaOrBracketExpected (c :: cs))

/-- What follows in an object, after its brace or after a field: a field starts
    after the quote that opens its key. -/
def nextMember (lax isFirst : Bool) (cs : List Char) : Except Fault Next :=
  match skipGap cs with
  | [] => .error (.before .endInObject [])
  | '\x7d' :: cs => .ok (.close cs)
  | c :: cs =>
    if isFirst then
      if c = '"' then .ok (.item cs) else .error (.on .keyExpected (c :: cs))
    else if c = ',' then
      match skipGap cs with
      | [] => .error (.before (if lax then .endInObject else .endInValue) [])
      | d :: cs =>
        if d = '"' then .ok (.item cs)
        else if d = '\x7d' && !lax then .error (.on .trailingComma (d :: cs))
        else .error (.on .keyExpected (d :: cs))
    else .error (.on .commaOrBraceExpected (c :: cs))

/-- The text after the colon that follows a key. -/
def afterColon (cs : List Char) : Except Fault (List Char) :=
  match skipGap cs with
  | [] => .error (.before .endInObject [])
  | ':' :: cs => .ok cs
  | c :: cs => .error (.on .colonExpected (c :: cs))

/-- The text after the bracket of an array that has no more items. -/
def afterArray (cs : List Char) : Except Fault (List Char) :=
  match skipGap cs with
  | [] => .error (.before .endInArray [])
  | ']' :: cs => .ok cs
  | c :: cs =>
    -- A comma matters only where nothing but the bracket comes after it.
    match if c = ',' then skipGap cs else [] with
    | ']' :: cs => .error (.on .trailingComma (']' :: cs))
    | _ => .error (.on .trailingCharacters (c :: cs))

namespace Reader

variable {α σ : Type}

/-! ## Loops -/

/-- Reads items up to the closing bracket. -/
def items (lax : Bool) (item : Reader α) : Nat → Bool → Reader (List α)
  | 0, _, cs => .error (.before .endInArray cs)
  | bound + 1, isFirst, cs =>
    match nextItem lax isFirst cs with
    | .error e => .error e
    | .ok (.close cs) => .ok ([], cs)
    | .ok (.item cs) =>
      match item cs with
      | .error e => .error e
      | .ok (x, cs) =>
        match items lax item bound false cs with
        | .error e => .error e
        | .ok (xs, cs) => .ok (x :: xs, cs)

/-- Reads fields up to the closing brace: `field` reads one, after the quote that
    opens its key, and adds it to what is there. -/
def fields (lax : Bool) (field : σ → Reader σ) : Nat → Bool → σ → Reader σ
  | 0, _, _, cs => .error (.before .endInObject cs)
  | bound + 1, isFirst, s, cs =>
    match nextMember lax isFirst cs with
    | .error e => .error e
    | .ok (.close cs) => .ok (s, cs)
    | .ok (.item cs) =>
      match field s cs with
      | .error e => .error e
      | .ok (s, cs) => fields lax field bound false s cs

/-- Reads a member with the key `key`, after the key: its value joins the others,
    the last one in front. -/
def member (value : Reader Json) (key : String) (others : List (String × Json)) :
    Reader (List (String × Json)) := fun cs =>
  match afterColon cs with
  | .error e => .error e
  | .ok cs =>
    match value cs with
    | .error e => .error e
    | .ok (j, cs) => .ok ((key, j) :: others, cs)

/-- Reads a key and a member with it. -/
def keyedMember (value : Reader Json) (others : List (String × Json)) :
    Reader (List (String × Json)) := fun cs =>
  match quoted cs with
  | .error e => .error e
  | .ok (key, cs) => member value key others cs

/-! ## Documents -/

/-- What a reader reads, as a function of it. -/
def map {β : Type} (f : α → β) (r : Reader α) : Reader β := fun cs =>
  match r cs with
  | .error e => .error e
  | .ok (a, cs) => .ok (f a, cs)

/-- Reads a document with at most `depth` arrays and objects inside each other. -/
def document (bound : Nat) : Nat → Reader Json
  | depth, cs =>
    match skipGap cs with
    | [] => .error (.before .endInValue [])
    | 'n' :: cs => word .null ['u', 'l', 'l'] cs
    | 't' :: cs => word (.bool true) ['r', 'u', 'e'] cs
    | 'f' :: cs => word (.bool false) ['a', 'l', 's', 'e'] cs
    | '"' :: cs => map .text quoted cs
    | '[' :: cs =>
      match depth with
      | 0 => .error (.on .tooDeep ('[' :: cs))
      | depth + 1 => map .array (items false (document bound depth) bound true) cs
    | '\x7b' :: cs =>
      match depth with
      | 0 => .error (.on .tooDeep ('\x7b' :: cs))
      | depth + 1 =>
        map (fun ms => .object ms.reverse)
          (fields false (keyedMember (document bound depth)) bound true []) cs
    | c :: cs =>
      if c = '-' || c.isDigit then map .number number (c :: cs)
      else .error (.on .valueExpected (c :: cs))

end Reader

/-- Passes over a value with at most `depth` arrays and objects inside each other. -/
def skip (bound : Nat) : Nat → Reader Unit
  | depth, cs =>
    match skipGap cs with
    | [] => .error (.before .endInValue [])
    | 'n' :: cs => Reader.word () ['u', 'l', 'l'] cs
    | 't' :: cs => Reader.word () ['r', 'u', 'e'] cs
    | 'f' :: cs => Reader.word () ['a', 'l', 's', 'e'] cs
    | '"' :: cs => (skipQuoted cs).map ((), ·)
    | '[' :: cs =>
      match depth with
      | 0 => .error (.on .tooDeep ('[' :: cs))
      | depth + 1 => Reader.map (fun _ => ()) (Reader.items true (skip bound depth) bound true) cs
    | '\x7b' :: cs =>
      match depth with
      | 0 => .error (.on .tooDeep ('\x7b' :: cs))
      | depth + 1 =>
        Reader.fields true
          (fun _ cs => do
            let cs ← skipQuoted cs
            let cs ← afterColon cs
            skip bound depth cs)
          bound true () cs
    | c :: cs =>
      if c = '-' || c.isDigit then (skipNumber (c :: cs)).map ((), ·)
      else .error (.on .valueExpected (c :: cs))

/-! ## Whole texts -/

/-- The number of arrays and objects that may be inside each other. -/
def maxDepth : Nat := 127

/-- Reads all of a text, of which `r` reads up to the gap at its end. -/
def Reader.all {α : Type} (r : Nat → Reader α) (text : String) : Except Fault α :=
  match r (text.toList.length + 1) text.toList with
  | .error e => .error e
  | .ok (a, cs) =>
    match skipGap cs with
    | [] => .ok a
    | c :: cs => .error (.on .trailingCharacters (c :: cs))

/-- Reads a text as a document. -/
def Json.read (text : String) : Except Fault Json :=
  Reader.all (fun bound => Reader.document bound maxDepth) text

end Tether
