import Tether.Json.Literal

/-!
# Writing documents

A document is written without gaps, its members in their order. In a text, only
the quote, the backslash and control characters are escaped.

* `Json.characters`, `Json.write`: the written document.
-/

namespace Tether.Json

/-- A hexadecimal digit, lower case. -/
def hexDigit (n : Nat) : Char :=
  if n < 10 then Char.ofNat ('0'.toNat + n) else Char.ofNat ('a'.toNat + (n - 10))

/-- A character of a text as it is written. -/
def escape (c : Char) : List Char :=
  if c = '"' then ['\\', '"']
  else if c = '\\' then ['\\', '\\']
  else if c = '\x08' then ['\\', 'b']
  else if c = '\x0c' then ['\\', 'f']
  else if c = '\n' then ['\\', 'n']
  else if c = '\r' then ['\\', 'r']
  else if c = '\t' then ['\\', 't']
  else if c.toNat < 0x20 then
    ['\\', 'u', '0', '0', hexDigit (c.toNat / 16), hexDigit (c.toNat % 16)]
  else [c]

/-- A text in quotes. -/
def quote (s : String) : List Char :=
  '"' :: (s.toList.flatMap escape ++ ['"'])

/-- A number. -/
def numeral : Number → List Char
  | .integer n => n.text.toList
  | .real x => (Decimal.Layout.json.render x).toList

mutual

/-- The characters of a document. -/
def characters : Json → List Char
  | null => ['n', 'u', 'l', 'l']
  | bool true => ['t', 'r', 'u', 'e']
  | bool false => ['f', 'a', 'l', 's', 'e']
  | number n => numeral n
  | text s => quote s
  | array items => '[' :: itemCharacters items
  | object members => '\x7b' :: memberCharacters members

/-- The characters of the items of an array, up to its bracket. -/
def itemCharacters : List Json → List Char
  | [] => [']']
  | j :: js => characters j ++ moreItemCharacters js

/-- The same after an item. -/
def moreItemCharacters : List Json → List Char
  | [] => [']']
  | j :: js => ',' :: (characters j ++ moreItemCharacters js)

/-- The characters of the members of an object, up to its brace. -/
def memberCharacters : List (String × Json) → List Char
  | [] => ['\x7d']
  | (k, j) :: ms => quote k ++ ':' :: (characters j ++ moreMemberCharacters ms)

/-- The same after a member. -/
def moreMemberCharacters : List (String × Json) → List Char
  | [] => ['\x7d']
  | (k, j) :: ms => ',' :: (quote k ++ ':' :: (characters j ++ moreMemberCharacters ms))

end

/-- The document as a text. -/
def write (j : Json) : String := String.ofList j.characters

end Tether.Json
