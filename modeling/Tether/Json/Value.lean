import Tether.Json.Reader
import Tether.Json.Writer

/-!
# JSON values

A `Value` is an ordered document, which stands for nothing but its value: two
values are equal exactly if their documents are. An `Object` is the same for the
members of an object.
-/

namespace Tether

/-- A JSON value: a document in which the keys of every object increase. -/
structure Value where
  json : Json
  ordered : json.Ordered
  deriving DecidableEq

/-- The members of a JSON object, with increasing keys. -/
structure Object where
  members : List (String × Json)
  ordered : (Json.object members).Ordered
  deriving DecidableEq

namespace Value

/-- The value of a document. -/
def ofJson (j : Json) : Value := ⟨j.canonical, j.ordered_canonical⟩

/-- The value null. -/
def null : Value := ⟨.null, trivial⟩

/-- The value of a text. -/
def text (s : String) : Value := ⟨.text s, trivial⟩

/-- The value that a text holds. -/
def read (text : String) : Except Fault Value := (Json.read text).map ofJson

/-- The value as a text. -/
def write (v : Value) : String := v.json.write

/-- The text, if the value is one. -/
def text? (v : Value) : Option String :=
  match v.json with
  | .text s => some s
  | _ => none

/-- The members, if the value is an object. -/
def object? (v : Value) : Option Object :=
  match v with
  | ⟨.object members, h⟩ => some ⟨members, h⟩
  | _ => none

@[simp]
theorem ofJson_json (v : Value) : ofJson v.json = v := by
  cases v with
  | mk j h => simp [ofJson, Json.canonical_eq_self h]

instance : Inhabited Value := ⟨null⟩

end Value

namespace Object

/-- The object of the members: of those with one key, the last counts. -/
def ofMembers (ms : List (String × Json)) : Object where
  members := Json.canonicalMembers [] ms
  ordered := (Json.object ms).ordered_canonical

/-- The object without members. -/
def empty : Object := ⟨[], by simp [Json.Ordered, Json.Increasing, Json.OrderedMembers]⟩

/-- The object as a value. -/
def toValue (o : Object) : Value := ⟨.object o.members, o.ordered⟩

/-- The value of the member with the key. -/
def get? (o : Object) (key : String) : Option Value :=
  (o.members.lookup key).map Value.ofJson

/-- The object without the member with the key. -/
def erase (o : Object) (key : String) : Object where
  members := Json.eraseMember key o.members
  ordered := by
    have h := o.ordered
    rw [Json.Ordered, Json.orderedMembers_iff] at h ⊢
    exact ⟨List.Pairwise.filter _ h.1, fun m hm => h.2 m (List.mem_filter.1 hm).1⟩

instance : Inhabited Object := ⟨empty⟩

end Object

end Tether
