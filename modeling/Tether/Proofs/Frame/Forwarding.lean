import Tether.Proofs.Frame.Normal

/-!
# Events that are passed on

What is written for an event that has been read is the object that it was read of, whatever the
type and the further fields. Of the names with a meaning of their own, those that may be absent
are left out where they are null, and that is all that is lost.

* `Object.dropNulls`: an object without what is null under some names;
* `Event.IsOf.ofMembers_members`: the members that are written, as an object;
* `Event.ordered_of_mem_members`: inside them, no key is repeated either;
* `Frame.read_encode_of_decode_event`: messages.
-/

namespace Tether

/-! ## Objects without nulls -/

namespace Object

/-- The object without the members that have one of the names and are null. -/
def dropNulls (names : List String) (o : Object) : Object where
  members := o.members.filter fun m => ¬ (m.1 ∈ names ∧ m.2 = .null)
  ordered := by
    have h := o.ordered
    rw [Json.Ordered, Json.orderedMembers_iff] at h ⊢
    exact ⟨h.1.filter _, fun m hm => h.2 m (List.mem_filter.1 hm).1⟩

/-- Nothing else is lost. -/
theorem get?_dropNulls {o : Object} {names : List String} {key : String} :
    (o.dropNulls names).get? key = if key ∈ names then dropNull (o.get? key) else o.get? key := by
  rw [get?, dropNulls, Json.lookup_filter o.increasing.nodup, lookup_eq_map_get?]
  rcases o.get? key with _ | v
  · simp [dropNull]
  · have hjson : v.json = .null ↔ v = .null := Value.eq_null_iff.symm
    by_cases hkey : key ∈ names
    · simp only [Option.map_some, Option.filter, hkey, hjson, dropNull, true_and, if_true]
      split_ifs <;> simp
    · simp [hkey, Option.filter]

end Object

/-! ## What is written -/

namespace Event

variable {e : Event} {o : Object}

theorem IsOf.get?_members (h : e.IsOf o) {key : String} :
    (Object.ofMembers e.members).get? key =
      (((fields.toMembers (Wire.parts e).1).lookup key).map Value.ofJson).or (e.extra.get? key) :=
  Object.get?_ofMembers_append (nodup_members fun key hkey => (h.extra_eq key).trans (if_pos hkey))

/-- An event is written as what it was read of, but for what is null and may be absent. -/
theorem IsOf.ofMembers_members (h : e.IsOf o) :
    Object.ofMembers e.members = o.dropNulls ["event", "payload", "seq"] := by
  refine Object.eq_of_get?_eq fun key => ?_
  have hnames : fields.names = ["type", "event", "payload", "seq"] := rfl
  rw [h.get?_members, Object.get?_dropNulls, h.extra_eq, ← hnames]
  by_cases hkey : key ∈ fields.names
  · -- The further fields have none of the names, so only the field of the name is there.
    rw [if_pos hkey, Option.or_none]
    simp only [Fields.names, List.mem_cons, List.not_mem_nil, or_false] at hkey
    rcases hkey with rfl | rfl | rfl | rfl
    · have htype : (fields.toMembers (Wire.parts e).1).lookup "type" = some e.type.json := rfl
      rw [htype, h.type_eq, Option.map_some, Value.ofJson_json]
      rfl
    · simp [Fields.names, Function.comp_def, Schema.toJson, Wire.parts, h.event_eq]
    · simp [Fields.names, Function.comp_def, Schema.toJson, Wire.parts, h.payload_eq]
    · simp [Fields.names, Function.comp_def, Schema.toJson, Width.toInteger, Wire.parts, h.seq_eq]
      rfl
  · have hother : key ∉ ["event", "payload", "seq"] := fun h => hkey (List.mem_cons_of_mem _ h)
    rw [Fields.lookup_toMembers_eq_none _ hkey, if_neg hkey, if_neg hother]
    rfl

/-- The keys of all objects inside an event increase. -/
theorem ordered_of_mem_members : ∀ m ∈ e.members, m.2.Ordered := by
  rw [members, List.forall_mem_append]
  constructor
  · refine List.forall_mem_cons.2 ⟨e.type.ordered, ?_⟩
    simp only [Fields.forall_mem_toMembers_optional]
    exact ⟨fun _ _ => trivial, fun v _ => v.ordered, fun _ _ => trivial, by simp [Fields.toMembers]⟩
  · have h := e.extra.ordered
    rw [Json.Ordered, Json.orderedMembers_iff] at h
    exact h.2

end Event

/-! ## Messages -/

namespace Frame

/-- The text that is written for an event that has been read, of a text without floats, holds the
    object of that text, without its event, payload and seq where they are null; no key stands in
    it twice, nor in any object inside it. -/
theorem read_encode_of_decode_event (text : String) (e : Event)
    (hwhole : ∀ j, Json.read text = .ok j → j.isWhole = true)
    (h : decode text = .ok (event e)) :
    ∃ (o : Object) (ms : List (String × Json)),
      Value.read text = .ok o.toValue ∧
      Value.read (event e).encode = .ok (o.dropNulls ["event", "payload", "seq"]).toValue ∧
      Json.read (event e).encode = .ok (.object ms) ∧ (ms.map Prod.fst).Nodup ∧
      ∀ m ∈ ms, m.2.Ordered := by
  rcases hread : Json.read text with fault | j
  · rw [decode, Value.read, hread] at h
    cases h
  · have hof : (event e).IsOf (.ofJson j) := by
      rw [decode, Value.read, hread] at h
      exact ofValue_eq_ok_iff.1 h
    -- The event nests no deeper than the text did, so what is written can be read.
    have hj : j.Within 127 := ⟨hwhole j hread, Json.depth_le_of_read hread⟩
    have hf : (event e).toJson.Within 127 := within_of_isOf hof hj.canonical
    obtain ⟨o, ho, -, he⟩ := hof
    have hwritten : Json.read (event e).encode = .ok (.object e.members) := by
      rw [encode, Json.read_write hf.1 hf.2, toJson, e.toJson_eq_object]
    refine ⟨o, e.members, ?_, ?_, hwritten, ?_, e.ordered_of_mem_members⟩
    · rw [Value.read, hread, Except.map, ho]
    · rw [Value.read, hwritten, Except.map, Value.ofJson_object, he.ofMembers_members]
    · exact Event.nodup_members fun key hkey => (he.extra_eq key).trans (if_pos hkey)

/-- An event whose type is an object, with a sequence number that is given twice, and null at last,
    and a further field that is null. -/
def gauge : String :=
  "\x7b\"x\":null, \"seq\":1, \"type\":\x7b\"of\":[]\x7d, \"payload\":[1,null], \"seq\":null\x7d"

/-- It is passed on with all but the sequence number. -/
theorem read_encode_gauge :
    let e : Event := ⟨.ofJson (.object [("of", .array [])]), none,
      some (.ofJson (.array [.number (.integer ⟨1, by decide, by decide⟩), .null])), none,
      .ofMembers [("x", .null)]⟩
    decode gauge = .ok (event e) ∧
      ∃ o : Object, Value.read gauge = .ok o.toValue ∧ o.get? "seq" = some .null ∧
        Value.read (event e).encode = .ok (o.dropNulls ["event", "payload", "seq"]).toValue ∧
        (o.dropNulls ["event", "payload", "seq"]).get? "seq" = none ∧
        (o.dropNulls ["event", "payload", "seq"]).get? "x" = some .null := by
  intro e
  have hread : decode gauge = .ok (event e) := by decide +kernel
  have hwhole : (Json.read gauge).map Json.isWhole = .ok true := by decide +kernel
  have hvalue :
      (Value.read gauge).map (fun v => v.object?.map fun o => (o.get? "seq", o.get? "x")) =
        .ok (some (some .null, some .null)) := by decide +kernel
  obtain ⟨o, -, ho, hforward, -⟩ := read_encode_of_decode_event gauge e
    (fun j hj => by rw [hj] at hwhole; exact Except.ok.inj hwhole) hread
  rw [ho] at hvalue
  obtain ⟨hseq, hx⟩ := Prod.mk.inj (Option.some.inj (Except.ok.inj hvalue))
  refine ⟨hread, o, ho, hseq, hforward, ?_, ?_⟩
  · rw [Object.get?_dropNulls, if_pos (by decide), hseq]
    rfl
  · rw [Object.get?_dropNulls, if_neg (by decide), hx]

end Frame

end Tether
