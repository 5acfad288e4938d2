import Tether.Decimal.Layout
import Tether.Json.Basic
import Tether.Text.Quoted

/-!
# Faults

Why a text or a value cannot be read.

* `Cause`: the text is no JSON text; the place of the fault belongs to it.
* `Mismatch`: a well-formed value does not have the form that is asked for.
* `Fault`: either of them, as a reader of texts finds it. A place is kept as the
  number of bytes left of the text; `Place.ofText` turns it into line and column.
-/

namespace Tether

/-! ## Syntax -/

/-- What is wrong with a text at some place. -/
inductive Cause
  | endInValue
  | endInText
  | endInArray
  | endInObject
  | valueExpected
  | wordExpected
  | invalidNumber
  | numberOutOfRange
  | controlCharacter
  | invalidEscape
  | loneSurrogate
  | surrogateExpected
  | commaOrBracketExpected
  | commaOrBraceExpected
  | trailingComma
  | keyExpected
  | colonExpected
  | tooDeep
  | trailingCharacters
  deriving DecidableEq, Repr

/-- The words of a cause. -/
def Cause.message : Cause → String
  | endInValue => "EOF while parsing a value"
  | endInText => "EOF while parsing a string"
  | endInArray => "EOF while parsing a list"
  | endInObject => "EOF while parsing an object"
  | valueExpected => "expected value"
  | wordExpected => "expected ident"
  | invalidNumber => "invalid number"
  | numberOutOfRange => "number out of range"
  | controlCharacter => "control character (\\u0000-\\u001F) found while parsing a string"
  | invalidEscape => "invalid escape"
  | loneSurrogate => "lone leading surrogate in hex escape"
  | surrogateExpected => "unexpected end of hex escape"
  | commaOrBracketExpected => "expected `,` or `]`"
  | commaOrBraceExpected => "expected `,` or `\x7d`"
  | trailingComma => "trailing comma"
  | keyExpected => "key must be a string"
  | colonExpected => "expected `:`"
  | tooDeep => "recursion limit exceeded"
  | trailingCharacters => "trailing characters"

/-- A place in a text: the line, from one, and the bytes read of it. -/
structure Place where
  line : Nat
  column : Nat
  deriving DecidableEq, Repr

/-- The place after `count` of the bytes. -/
def Place.ofBytes (bytes : List UInt8) (count : Nat) : Place :=
  (bytes.take count).foldl
    (fun p b => if b = 10 then ⟨p.line + 1, 0⟩ else ⟨p.line, p.column + 1⟩) ⟨1, 0⟩

/-- The place in `text` with `left` bytes after it. -/
def Place.ofText (text : String) (left : Nat) : Place :=
  .ofBytes text.toUTF8.toList (text.utf8ByteSize - left)

/-! ## Form -/

/-- The kind of a value, with what a message tells of it. -/
inductive Found
  | null
  | bool (b : Bool)
  | number (n : Number)
  | text (s : String)
  | sequence
  | map
  deriving DecidableEq, Repr

namespace Found

/-- What a message tells of a value. -/
def ofJson : Json → Found
  | .null => null
  | .bool b => bool b
  | .number n => number n
  | .text s => text s
  | .array _ => sequence
  | .object _ => map

/-- The words for a value. -/
def message : Found → String
  | null => "null"
  | bool b => s!"boolean `{b}`"
  | number (.integer n) => s!"integer `{n.text}`"
  | number (.real x) => s!"floating point `{Decimal.Layout.json.render x}`"
  | text s => s!"string {Text.quoted s}"
  | sequence => "sequence"
  | map => "map"

end Found

/-- How a value differs from the form that is asked for. -/
inductive Mismatch
  /-- A value of another kind. -/
  | kind (found : Found) (expected : String)
  /-- A whole number out of range. -/
  | range (n : Integer) (expected : String)
  /-- A field without which a record is none. -/
  | missing (field : String)
  /-- A field that is there twice. -/
  | repeated (field : String)
  /-- A record given as an array with too few items. -/
  | tooShort (count : Nat) (record : String) (fields : Nat)
  /-- A record given as an array with too many items. -/
  | tooLong (count : Nat)
  deriving DecidableEq, Repr

/-- The words of a mismatch. -/
def Mismatch.message : Mismatch → String
  | kind found expected => s!"invalid type: {found.message}, expected {expected}"
  | range n expected => s!"invalid value: integer `{n.text}`, expected {expected}"
  | missing field => s!"missing field `{field}`"
  | repeated field => s!"duplicate field `{field}`"
  | tooShort count record fields =>
    s!"invalid length {count}, expected struct {record} with {fields} elements"
  | tooLong count => s!"invalid length {count}, expected fewer elements in array"

/-! ## Reading -/

/-- Why a text cannot be read. -/
inductive Fault
  /-- The text is no JSON text: the cause, and the bytes left after the place. -/
  | syntactic (cause : Cause) (left : Nat)
  /-- The value does not have the form that is asked for. -/
  | mismatch (m : Mismatch)
  deriving DecidableEq, Repr

namespace Fault

/-- The number of bytes of the characters. -/
def bytes : List Char → Nat
  | [] => 0
  | c :: cs => c.utf8Size + bytes cs

/-- A fault just before the rest `cs` of the text. -/
def before (cause : Cause) (cs : List Char) : Fault := syntactic cause (bytes cs)

/-- A fault at the first byte of the rest `cs` of the text, or at its end. -/
def on (cause : Cause) (cs : List Char) : Fault := syntactic cause (bytes cs - 1)

/-- The words of a fault, without its place. -/
def reason : Fault → String
  | syntactic cause _ => cause.message
  | mismatch m => m.message

/-- The words of a fault in `text`. A mismatch has no place of its own. -/
def message (text : String) : Fault → String
  | syntactic cause left =>
    let place := Place.ofText text left
    s!"{cause.message} at line {place.line} column {place.column}"
  | mismatch m => m.message

end Fault

end Tether
