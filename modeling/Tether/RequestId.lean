import Tether.Wire

/-!
# Request ids

A request and its response carry the same id. An id is a text; a whole number on
the wire stands for its decimal text, so a peer that sends numbers back still
answers the right request.
-/

namespace Tether

/-- The id of a request. -/
structure RequestId where
  text : String
  deriving DecidableEq, Repr

namespace RequestId

instance : Wire RequestId where
  schema := .label
  build := mk
  parts := text
  build_parts _ := rfl
  parts_build _ := rfl

/-- The id for which a whole number stands. -/
def ofInteger (n : Integer) : RequestId := ⟨n.text⟩

/-- Ids in increasing order, each once. -/
def sort (ids : List RequestId) : List RequestId :=
  (ids.foldl (fun set id => Json.insertMember id.text () set) []).map fun m => ⟨m.1⟩

end RequestId

end Tether
