import Tether.Text.Composed
import Tether.Text.Direction
import Tether.Text.Marks
import Tether.Url.Mapping
import Tether.Url.Punycode

/-!
# Domain names

A domain name is a sequence of labels. Its ASCII form is what computers use:
characters are mapped and composed, labels with other than ASCII characters are
written in punycode after `xn--` (UTS 46, with checks of joiners and directions).

* `domainToAscii?`: the ASCII form of a domain name, if it is valid.
-/

namespace Tether.Url

/-- The ASCII characters that a domain name may not hold. -/
def isForbidden (c : Char) : Bool :=
  c.toNat ≤ 0x20 || c = '%' || c = '#' || c = '/' || c = ':' || c = '<' || c = '>' || c = '?' ||
    c = '@' || c = '[' || c = '\\' || c = ']' || c = '^' || c = '|' || c = '\x7f'

/-- Whether each joiner stands after a sign that asks for it or between letters
    that join: `before` are the characters so far, in reverse. -/
def joinersFit (before : List Char) : List Char → Bool
  | [] => true
  | c :: cs =>
    let afterVirama := before.head?.any fun b => Text.place b.toNat = 9
    let fits :=
      if c.toNat = 0x200d then afterVirama
      else if c.toNat = 0x200c then afterVirama || Text.joinsAt before cs
      else true
    fits && joinersFit (c :: before) cs

/-- Whether a label with other than ASCII characters is valid. -/
def isValidLabel (cs : List Char) : Bool :=
  !(cs.head?.any Text.marks.contains) && joinersFit [] cs

/-- The most characters of a label that is written in punycode. -/
def maxShownLength : Nat := 1000

/-- The most characters of punycode that are read as a label. -/
def maxCodedLength : Nat := 2000

/-- A label after mapping: its characters for the check of directions, and its
    ASCII form. -/
structure Label where
  shown : List Char
  ascii : List Char

/-- The characters that mapping and composing leave as they are. -/
def isMapped (cs : List Char) : Bool :=
  (cs.all fun c => mapCharacter? c = some [c]) && Text.composed cs = cs

/-- The label of mapped characters. -/
def Label.ofMapped? (cs : List Char) : Option Label :=
  match cs with
  | 'x' :: 'n' :: '-' :: '-' :: coded =>
    if cs.any (128 ≤ ·.toNat) || maxCodedLength < coded.length then none
    else
      match Punycode.decode? coded with
      | none => none
      | some shown =>
        if shown.any (128 ≤ ·.toNat) && isMapped shown && isValidLabel shown then
          some ⟨shown, cs⟩
        else none
  | cs =>
    if cs.any (128 ≤ ·.toNat) then
      if isValidLabel cs && cs.length ≤ maxShownLength then
        some ⟨cs, 'x' :: 'n' :: '-' :: '-' :: Punycode.encode cs⟩
      else none
    else some ⟨cs, cs⟩

/-- The ASCII form of a domain name, if it is valid. -/
def domainToAscii? (cs : List Char) : Option (List Char) := do
  let mapped := Text.composed (← cs.mapM mapCharacter?).flatten
  if mapped.any isForbidden then none
  else
    let labels ← (Text.splitOn '.' mapped).mapM Label.ofMapped?
    let isEither := labels.any fun l => Text.runsRightToLeft l.shown
    if isEither && !(labels.all fun l => Text.isWellDirected l.shown) then none
    else some (List.intercalate ['.'] (labels.map Label.ascii))

end Tether.Url
