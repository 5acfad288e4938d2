import Tether.Schema.Text

/-!
# Wire types

A type is a *wire type* if it has a schema whose values are its own: it can then
be read from texts and from JSON values, and be written.

* `Wire.ofValue`, `Wire.read`: from a JSON value, and from a text in one pass;
* `Wire.toJson`, `Wire.toValue`, `Wire.write`: a document with the fields in the
  order of the schema, the value of that document, and its text.
-/

namespace Tether

/-- A type whose elements are the values of a schema. -/
class Wire (α : Type) where
  schema : Schema
  /-- The element with these parts. -/
  build : schema.Denote → α
  /-- The parts of an element. -/
  parts : α → schema.Denote
  build_parts : ∀ a, build (parts a) = a
  parts_build : ∀ d, parts (build d) = d

namespace Wire

variable {α : Type} [Wire α]

/-- Reads an element from a document. -/
def ofJson (j : Json) : Except Mismatch α := ((schema α).ofJson j).map build

/-- Reads an element from a value. -/
def ofValue (v : Value) : Except Mismatch α := ofJson v.json

/-- Reads an element from a text. -/
def read (text : String) : Except Fault α := ((schema α).read text).map build

/-- The document of an element. -/
def toJson (a : α) : Json := (schema α).toJson (parts a)

/-- The value of an element. -/
def toValue (a : α) : Value := .ofJson (toJson a)

/-- The text of an element. -/
def write (a : α) : String := (toJson a).write

end Wire

instance : Wire UInt32 where
  schema := .natural .bits32
  build n := n
  parts n := n
  build_parts _ := rfl
  parts_build _ := rfl

end Tether
