import Tether.Proofs.Handshake.Metadata
import Tether.Proofs.Schema.Faithful

/-!
# An accepted handshake, read again

What was made of an accepted handshake is made again of the value that is written for it. A field
is written as a value that it is read of, whatever the spelling was in the payload. What was kept
is written as it was, and fails to be read once more.

* `Hello.Placed.again`: one member;
* `Hello.IsOf.get?_members`, `Hello.IsOf.again`: the object that is written;
* `Hello.ofResponse_toValue`: responses.
-/

namespace Tether.Hello

/-- A member that is in one place comes there again, once it is written: a field as a value of it,
    and what was kept as it is. -/
theorem Placed.again {α : Type} [Wire α] {IsOf : α → Value → Prop} {member kept : Option Value}
    {field : Option α} (h : Placed IsOf member field kept)
    (hof : ∀ {v} {a : α}, Wire.ofValue v = .ok a ↔ IsOf a v)
    (hregular : (Wire.schema α).isRegular = true)
    (hfaithful : (Wire.schema α).isFaithful = true) :
    Placed IsOf ((field.map Wire.toValue).or kept) field kept := by
  rcases hfield : field with _ | a
  · -- The value that was kept is the one that could not be read.
    have hkept : kept = member := by simpa [hfield] using h.kept_eq
    rw [Option.map_none, Option.none_or]
    exact (hfield ▸ h).congr hkept rfl
  · have hkept : kept = none := h.kept_eq_none (by simp [hfield])
    have hread : Wire.ofValue (Wire.toValue a) = .ok a := Wire.ofValue_toValue hregular hfaithful a
    rw [hkept]
    refine ⟨fun b => ?_, rfl⟩
    simp [← hof, hread]

variable {h : Hello} {o : Object} {r : Response}

/-- Under a name is what is written of the field, or else what is kept. -/
theorem IsOf.get?_members (hof : h.IsOf o) {key : String} :
    (Object.ofMembers h.members).get? key =
      (((fields.toMembers (Wire.parts h).1).lookup key).map Value.ofJson).or (h.extra.get? key) :=
  Object.get?_ofMembers_append hof.nodup_members

/-- What is written has its members in the same places. -/
theorem IsOf.again (hof : h.IsOf o) : h.IsOf (Object.ofMembers h.members) where
  type_eq := hof.type_eq
  protocol := by
    refine hof.protocol.again protocol_ofValue_iff rfl rfl |>.congr ?_ rfl
    simp [hof.get?_members, Fields.names, Wire.parts]
    rfl
  server := by
    refine hof.server.again ServerInfo.ofValue_iff rfl rfl |>.congr ?_ rfl
    simp [hof.get?_members, Fields.names, Wire.parts]
    rfl
  features := by
    refine hof.features.again Features.ofValue_iff rfl rfl |>.congr ?_ rfl
    simp [hof.get?_members, Fields.names, Wire.parts]
    rfl
  policy := by
    refine hof.policy.again Policy.ofValue_iff rfl rfl |>.congr ?_ rfl
    simp [hof.get?_members, Fields.names, Wire.parts]
    rfl
  snapshot_eq := by
    have hkept : h.extra.get? "snapshot" = none := hof.extra_eq "snapshot" (by decide)
    simp [hof.get?_members, Fields.names, Wire.parts, Function.comp_def, Schema.toJson, hkept]
  extra_eq key hkey := by
    rw [hof.get?_members]
    split_ifs with hother
    · rw [hof.extra_eq key hkey, if_pos hother]
    · have hnames : key ∉ fields.names := by
        simp only [Fields.names, List.mem_cons] at hkey hother ⊢
        tauto
      rw [Fields.lookup_toMembers_eq_none _ hnames]
      rfl

/-! ## Responses -/

/-- A successful response whose payload is what is written for an accepted handshake is accepted,
    and all that was made of the handshake is made of it again. -/
theorem ofResponse_toValue (r : Response) (h : Hello) (hr : ofResponse r = .ok h) (id : RequestId)
    (error : Option ErrorBody) :
    ofResponse ⟨id, true, some (Wire.toValue h), error⟩ = .ok h := by
  obtain ⟨o, haccepts, hof⟩ := ofResponse_eq_ok_iff.1 hr
  have hvalue : Wire.toValue h = (Object.ofMembers h.members).toValue := by
    rw [Wire.toValue, h.toJson_eq_object, Value.ofJson_object]
  have htype : (Object.ofMembers h.members).get? "type" = some (.text "hello-ok") := by
    have hlookup : (fields.toMembers (Wire.parts h).1).lookup "type" = some (.text h.type) := rfl
    rw [hof.get?_members, hlookup, hof.type_eq, Option.map_some, Value.ofJson_text]
    rfl
  rw [hvalue]
  exact ofResponse_eq_ok_iff.2 ⟨_, ⟨rfl, rfl, htype⟩, hof.again⟩

/-- A payload with a server by place, limits of which one is missing and one is not known, features
    that are no record, and a protocol and a snapshot that are null. -/
def mixture : Object :=
  .ofMembers [("type", .text "hello-ok"), ("protocol", .null), ("server", .array [.text "1.4"]),
    ("features", .text "all"), ("snapshot", .null),
    ("policy", .object [("maxPayload", .number (.integer (.ofUInt32 512))),
      ("burst", .bool true)])]

/-- The server and the limits are written as whole records, and all else as it was. -/
theorem ofResponse_mixture :
    let h : Hello := ⟨"hello-ok", none, some ⟨"1.4", none, none, none⟩, none, some ⟨512, 0, 0⟩,
      some .null, .ofMembers [("features", .text "all"), ("protocol", .null)]⟩
    ofResponse ⟨⟨"a"⟩, true, some mixture.toValue, none⟩ = .ok h ∧
      ofResponse ⟨⟨"b"⟩, true, some (Wire.toValue h), none⟩ = .ok h := by
  intro h
  have hread : ofResponse ⟨⟨"a"⟩, true, some mixture.toValue, none⟩ = .ok h := by decide +kernel
  exact ⟨hread, ofResponse_toValue _ h hread ⟨"b"⟩ none⟩

end Tether.Hello
