import Tether.Handshake
import Tether.Proofs.Frame.Language
import Tether.Proofs.Schema.Repeats
import Tether.Proofs.Schema.Text

/-!
# Two ways to an element

An element of a wire type is read of a text in one pass, or of the value that the text holds. The
two ways part where a record in the text repeats one of its fields: the value keeps the last, and
one pass takes no second. They part nowhere else, so not over a field that is not known, be it
passed over or kept.

* `WireType`: the types that go over the wire;
* `WireType.read_iff_ofValue`: both ways, for every type and every text.
-/

namespace Tether

/-- The wire types. -/
inductive WireType
  | requestId
  | request
  | response
  | errorBody
  | event
  | connectParams
  | clientInfo
  | hello
  | serverInfo
  | features
  | policy
  deriving DecidableEq, Repr

namespace WireType

/-- The elements of a wire type. -/
@[reducible]
def Element : WireType → Type
  | requestId => RequestId
  | request => Request
  | response => Response
  | errorBody => ErrorBody
  | event => Event
  | connectParams => ConnectParams
  | clientInfo => ClientInfo
  | hello => Hello
  | serverInfo => ServerInfo
  | features => Features
  | policy => Policy

instance : (t : WireType) → Wire t.Element
  | requestId => inferInstanceAs (Wire RequestId)
  | request => inferInstanceAs (Wire Request)
  | response => inferInstanceAs (Wire Response)
  | errorBody => inferInstanceAs (Wire ErrorBody)
  | event => inferInstanceAs (Wire Event)
  | connectParams => inferInstanceAs (Wire ConnectParams)
  | clientInfo => inferInstanceAs (Wire ClientInfo)
  | hello => inferInstanceAs (Wire Hello)
  | serverInfo => inferInstanceAs (Wire ServerInfo)
  | features => inferInstanceAs (Wire Features)
  | policy => inferInstanceAs (Wire Policy)

/-- The form of the elements. -/
def schema (t : WireType) : Schema := Wire.schema t.Element

/-- The fields that are known of an element that keeps others, and what it keeps. -/
def kept? : (t : WireType) → t.Element → Option (Fields × Object)
  | event, e => some (Event.fields, e.extra)
  | hello, h => some (Hello.fields, h.extra)
  | _, _ => none

theorem isDistinct_schema (t : WireType) : t.schema.isDistinct = true := by
  cases t <;> decide

end WireType

/-- An open record keeps, of what it does not know, what comes last under each key. -/
theorem Schema.get?_of_ofJson_openRecord {name : String} {fs : Fields} {j : Json}
    {as : fs.Denote} {extra : Object}
    (h : (openRecord name fs).ofJson j = .ok (as, extra)) :
    ∃ ms, j = .object ms ∧ ∀ key, extra.get? key =
      if key ∈ fs.names then none else (ms.reverse.lookup key).map Value.ofJson := by
  cases j with
  | object ms =>
    refine ⟨ms, rfl, fun key => ?_⟩
    have hextra : extra = .ofMembers (ms.filter fun m => m.1 ∉ fs.names) :=
      snd_of_ofJson_openRecord h
    rw [hextra, Object.get?_ofMembers_eq_lookup_reverse, ← List.filter_reverse]
    split_ifs with hkey
    · rw [Json.lookup_filter_mem hkey, Option.map_none]
    · rw [Json.lookup_filter_not_mem hkey]
  | _ => simp [ofJson] at h

namespace WireType

variable {text : String} {j : Json}

theorem read_iff_ofValue_ofJson (t : WireType) (a : t.Element) (h : Json.read text = .ok j) :
    Wire.read text = .ok a ↔ Wire.ofValue (.ofJson j) = .ok a ∧ t.schema.Once j := by
  rw [Wire.read_eq_ok_iff h]
  exact Wire.ofJson_eq_ok_iff_ofValue t.isDistinct_schema

theorem get?_kept (t : WireType) {a : t.Element} {fs : Fields} {extra : Object}
    (h : Wire.ofJson j = .ok a) (hkept : t.kept? a = some (fs, extra)) :
    ∃ ms, j = .object ms ∧ ∀ key, extra.get? key =
      if key ∈ fs.names then none else (ms.reverse.lookup key).map Value.ofJson := by
  cases t with
  | event | hello =>
    cases hkept
    exact Schema.get?_of_ofJson_openRecord (Wire.ofJson_eq_ok_iff.1 h)
  | _ => cases hkept

/-- An element is read of a text in one pass exactly if it is read of the value of the text, and no
    object that is read as a record repeats a field of it. So two texts with one value are read
    alike if both or neither repeat such a field, whatever else they repeat; and of what is kept
    without being known, the last under each key counts. -/
theorem read_iff_ofValue (t : WireType) {text : String} {v : Value}
    (h : Value.read text = .ok v) :
    ∃ j, Json.read text = .ok j ∧ v = .ofJson j ∧
      (∀ a : t.Element,
        Wire.read text = .ok a ↔ Wire.ofValue v = .ok a ∧ t.schema.Once j) ∧
      (∀ text' j', Json.read text' = .ok j' → Value.ofJson j' = v →
        (t.schema.Once j' ↔ t.schema.Once j) →
          ∀ a : t.Element, Wire.read text' = .ok a ↔ Wire.read text = .ok a) ∧
      ∀ (a : t.Element) fs extra, Wire.read text = .ok a → t.kept? a = some (fs, extra) →
        ∃ ms, j = .object ms ∧ ∀ key, extra.get? key =
          if key ∈ fs.names then none else (ms.reverse.lookup key).map Value.ofJson := by
  obtain ⟨j, hj, rfl⟩ := map_eq_ok_iff.1 h
  refine ⟨j, hj, rfl, fun a => t.read_iff_ofValue_ofJson a hj, ?_, ?_⟩
  · intro text' j' hj' hvalue honce a
    rw [t.read_iff_ofValue_ofJson a hj', t.read_iff_ofValue_ofJson a hj, hvalue, honce]
  · intro a fs extra hread hkept
    exact t.get?_kept ((Wire.read_eq_ok_iff hj).1 hread) hkept

/-- A response whose error gives its message twice, and an event that gives twice what is not
    known. -/
theorem read_iff_ofValue_of_repeats :
    let twice :=
      "\x7b\"id\":7,\"ok\":false,\"error\":\x7b\"message\":\"a\",\"message\":\"b\"\x7d\x7d"
    let r : Response := ⟨⟨"7"⟩, false, none, some ⟨"b", none, none, none, none⟩⟩
    let noisy := "\x7b\"x\":1,\"type\":\"tick\",\"x\":\x7b\"y\":true,\"y\":false\x7d\x7d"
    let e : Event := ⟨.text "tick", none, none, none,
      .ofMembers [("x", .object [("y", .bool false)])]⟩
    (∃ v, Value.read twice = .ok v ∧ Wire.ofValue v = .ok r ∧ Wire.read twice ≠ .ok r) ∧
      ∃ v, Value.read noisy = .ok v ∧ Wire.ofValue v = .ok e ∧ Wire.read noisy = .ok e := by
  intro twice r noisy e
  have htwice : (Json.read twice).map
      (fun j => (Wire.ofValue (.ofJson j), decide (response.schema.Once j))) =
        .ok (.ok r, false) := by
    decide +kernel
  have hnoisy : (Json.read noisy).map
      (fun j => (Wire.ofValue (.ofJson j), decide (event.schema.Once j))) = .ok (.ok e, true) := by
    decide +kernel
  obtain ⟨i, hi, hpair⟩ := map_eq_ok_iff.1 htwice
  obtain ⟨hr, honce⟩ := Prod.mk.inj hpair
  obtain ⟨j, hj, hpair⟩ := map_eq_ok_iff.1 hnoisy
  obtain ⟨he, honce'⟩ := Prod.mk.inj hpair
  have hvi : Value.read twice = .ok (.ofJson i) := map_eq_ok_iff.2 ⟨i, hi, rfl⟩
  have hvj : Value.read noisy = .ok (.ofJson j) := map_eq_ok_iff.2 ⟨j, hj, rfl⟩
  obtain ⟨i', hi', -, hiff, -, -⟩ := read_iff_ofValue response hvi
  obtain ⟨j', hj', -, hiff', -, -⟩ := read_iff_ofValue event hvj
  obtain rfl : i = i' := Except.ok.inj (hi.symm.trans hi')
  obtain rfl : j = j' := Except.ok.inj (hj.symm.trans hj')
  exact ⟨⟨_, hvi, hr, fun h => of_decide_eq_false honce ((hiff r).1 h).2⟩,
    ⟨_, hvj, he, (hiff' e).2 ⟨he, of_decide_eq_true honce'⟩⟩⟩

end WireType

end Tether
