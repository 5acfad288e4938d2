import Tether.RequestId
import Tether.Text.Spans
import Tether.Uuid

/-!
# Labels for ids

Ids are drawn at random, so no scenario can name them. In a scenario each id has a
label instead, `rn` for the `n`-th request and `cn` for the handshake on the `n`-th
socket, and the id itself is fixed by the label.

* `Label.fill`: a text with the ids in the places of their labels;
* `Label.mask`: a text with the labels in the places of their ids.

A place is a label in two pairs of braces.
-/

namespace Tether.Scenario

/-- The name of an id. -/
inductive Label
  | request (n : Nat)
  | connect (n : Nat)
  deriving DecidableEq, Repr

namespace Label

/-- The label as a text. -/
def text : Label → String
  | request n => s!"r{n}"
  | connect n => s!"c{n}"

/-- The place of a label in a text. -/
def place (l : Label) : String := "\x7b\x7b" ++ l.text ++ "\x7d\x7d"

/-- The random bits that all ids of a scenario have in common; the other forty-eight
    tell them apart. -/
def commonBits : Nat := 0xb7f3a94c61d05e8f0a <<< 48

/-- The number that tells an id from the others. -/
def number : Label → Nat
  | request n => 2 * n
  | connect n => 2 * n + 1

/-- The label with a number. -/
def ofNumber (n : Nat) : Label := if n % 2 = 0 then request (n / 2) else connect (n / 2)

/-- The id of a label. -/
def id (l : Label) : RequestId := ⟨Uuid.text (commonBits + l.number)⟩

/-- The text with the ids of these labels in their places. -/
def fill (known : List Label) (s : String) : String :=
  known.foldl (fun s l => s.replace l.place l.id.text) s

/-- What all ids of a scenario start with. -/
def stem : String := String.ofList ((Uuid.text commonBits).toList.take 24)

/-- A piece of a text that follows a stem: if it completes an id, the place of the
    label is put there. -/
def maskPiece (piece : String) : String :=
  let ds := piece.toList.take 12
  if ds.length = 12 && ds.all (fun c => c.isDigit || ('a' ≤ c && c ≤ 'f')) then
    (ofNumber (Text.hexNumber ds)).place ++ String.ofList (piece.toList.drop 12)
  else stem ++ piece

/-- The text with the labels in the places of their ids. -/
def mask (s : String) : String :=
  match s.splitOn stem with
  | [] => s
  | first :: pieces => first ++ String.join (pieces.map maskPiece)

end Label

end Tether.Scenario
