import Tether.Proofs.Frame.Parts
import Tether.Proofs.Json.Nesting

/-!
# Frames that have been read

However a message is spelled, the frame that is read of it is read again from the text that
is written for it. Nothing in it is present and null, nothing in an event has the name of a
field, and no part of it is deeper than it was in the message.

* `Frame.isTidy_of_isOf`, `Frame.isApart_of_isOf`: the form of a frame that is of a value;
* `Fields.Within.toMembers`: how deep the members are that are written for a record;
* `Frame.within_of_isOf`: a frame is not written deeper than the value that it is of;
* `Frame.decode_encode_of_decode`: messages.
-/

namespace Tether

/-! ## Form -/

/-- The details of an error body are not null, in either form of it. -/
theorem ErrorBody.IsOf.details_ne_null {e : ErrorBody} {v : Value} (h : e.IsOf v) :
    e.details ≠ some .null := by
  rcases h with ⟨_, -, h⟩ | ⟨_, -, -, h⟩
  · exact h.details_eq ▸ dropNull_ne_some_null
  · exact h.details_eq ▸ dropNull_ne_some_null

/-- The error of a response is under its name. -/
theorem Response.IsOf.exists_of_error {r : Response} {o : Object} (h : r.IsOf o) {e : ErrorBody}
    (he : r.error = some e) : ∃ v, o.get? "error" = some v ∧ e.IsOf v := by
  have hrel := h.error_eq
  rw [he] at hrel
  generalize hdrop : dropNull (o.get? "error") = m at hrel
  rcases hrel with ⟨hof⟩
  exact ⟨_, (dropNull_eq_some_iff.1 hdrop).1, hof⟩

namespace Frame

variable {f : Frame} {v : Value}

theorem isTidy_of_isOf (h : f.IsOf v) : f.IsTidy := by
  obtain ⟨o, -, h⟩ := h
  rcases f with r | r | e
  · rw [IsTidy, ← h.2.params_eq]
    exact dropNull_ne_some_null
  · refine ⟨h.2.payload_eq ▸ dropNull_ne_some_null, fun e he => ?_⟩
    obtain ⟨w, -, hof⟩ := h.2.exists_of_error he
    exact hof.details_ne_null
  · rw [IsTidy, ← h.2.payload_eq]
    exact dropNull_ne_some_null

theorem isApart_of_isOf (h : f.IsOf v) : f.IsApart := by
  obtain ⟨o, -, h⟩ := h
  rcases f with r | r | e
  · trivial
  · trivial
  · exact ⟨h.1.1, h.1.2, fun key hkey => by rw [h.2.extra_eq, if_pos hkey]⟩

end Frame

/-! ## Depth -/

open Json (Within)

/-- Whether the documents of all fields are within `d`. -/
def Fields.Within (d : Nat) : (fs : Fields) → fs.Denote → Prop
  | .nil, _ => True
  | .cons _ _ s fs, (a, as) => (s.toJson a).Within d ∧ fs.Within d as

theorem Fields.Within.toMembers {d : Nat} : ∀ {fs : Fields} {as : fs.Denote}, fs.Within d as →
    ∀ m ∈ fs.toMembers as, m.2.Within d
  | .nil, _, _ => by simp [Fields.toMembers]
  | .cons name isRequired s fs, (a, as), ⟨h, hs⟩ => by
    rw [Fields.toMembers]
    split
    · exact List.forall_mem_cons.2 ⟨h, hs.toMembers⟩
    · exact hs.toMembers

section

variable {d : Nat}

theorem within_null : Json.null.Within d := ⟨rfl, Nat.zero_le _⟩

theorem within_text (s : String) : (Json.text s).Within d := ⟨rfl, Nat.zero_le _⟩

theorem within_bool (b : Bool) : (Json.bool b).Within d := ⟨rfl, Nat.zero_le _⟩

theorem within_integer (n : Integer) : (Json.number (.integer n)).Within d := ⟨rfl, Nat.zero_le _⟩

/-- What is optional is written within what any value of it is written within. -/
theorem within_optional {s : Schema} {a : Option s.Denote}
    (h : ∀ b, a = some b → (s.toJson b).Within d) : ((Schema.optional s).toJson a).Within d := by
  rcases a with _ | b
  · exact within_null
  · exact h b rfl

end

namespace Object

variable {o : Object} {d : Nat}

theorem within_of_get? (h : o.toValue.json.Within (d + 1)) {key : String} {v : Value}
    (hv : o.get? key = some v) : v.json.Within d := by
  have hlookup : o.members.lookup key = some v.json := by
    rw [lookup_eq_map_get?, hv, Option.map_some]
  exact Json.within_object_iff.1 h _ ((Json.mem_iff_lookup o.increasing.nodup).2 hlookup)

/-- The members of an object are what it has under their keys. -/
theorem exists_get?_of_mem {m : String × Json} (hm : m ∈ o.members) :
    ∃ v, o.get? m.1 = some v ∧ v.json = m.2 := by
  have hlookup := (Json.mem_iff_lookup o.increasing.nodup).1 hm
  rw [lookup_eq_map_get?] at hlookup
  exact Option.map_eq_some_iff.1 hlookup

end Object

/-- What is left of a member without null is within what the member is within. -/
theorem within_of_dropNull {d : Nat} {m a : Option Value} (hm : ∀ v, m = some v → v.json.Within d)
    (ha : dropNull m = a) : ((Schema.optional .any).toJson a).Within d :=
  within_optional fun v hv => hm v (dropNull_eq_some_iff.1 (ha.trans hv)).1

theorem ErrorBody.IsMadeOf.within {e : ErrorBody} {d : Nat}
    {message code details retryable retryAfter : Option Value}
    (h : e.IsMadeOf message code details retryable retryAfter)
    (hdetails : ∀ v, details = some v → v.json.Within d) :
    (Wire.toJson e).Within (d + 1) := by
  have hfields : ErrorBody.fields.Within d (Wire.parts e) :=
    ⟨within_text _, within_optional fun _ _ => within_text _,
      within_of_dropNull hdetails h.details_eq, within_optional fun _ _ => within_bool _,
      within_optional fun _ _ => within_integer _, trivial⟩
  exact Json.within_object_iff.2 hfields.toMembers

/-- An error body is not written deeper than it was, in either form of it. -/
theorem ErrorBody.IsOf.within {e : ErrorBody} {v : Value} {d : Nat} (h : e.IsOf v)
    (hv : v.json.Within (d + 1)) : (Wire.toJson e).Within (d + 1) := by
  rcases h with ⟨o, rfl, h⟩ | ⟨items, rfl, -, h⟩
  · exact h.within fun v => Object.within_of_get? hv
  · refine h.within fun v hitem => ?_
    exact Json.within_array_iff.1 hv _ (List.mem_map_of_mem (List.mem_of_getElem? hitem))

namespace Frame

variable {f : Frame} {v : Value} {d : Nat}

/-- A frame is not written deeper than the value that it is of. -/
theorem within_of_isOf (h : f.IsOf v) (hv : v.json.Within (d + 2)) : f.toJson.Within (d + 2) := by
  obtain ⟨o, rfl, h⟩ := h
  have hget {key : String} {w : Value} (hw : o.get? key = some w) : w.json.Within (d + 1) :=
    Object.within_of_get? hv hw
  rcases f with r | r | e
  · have hfields : Request.fields.Within (d + 1) (Wire.parts r) :=
      ⟨within_text _, within_text _, within_of_dropNull (fun _ => hget) h.2.params_eq, trivial⟩
    rw [toJson, Json.within_object_iff, List.forall_mem_cons]
    exact ⟨within_text _, hfields.toMembers⟩
  · have hfields : Response.fields.Within (d + 1) (Wire.parts r) := by
      refine ⟨within_text _, within_bool _, within_of_dropNull (fun _ => hget) h.2.payload_eq,
        within_optional fun b hb => ?_, trivial⟩
      obtain ⟨e, he, rfl⟩ := Option.map_eq_some_iff.1 hb
      obtain ⟨w, hw, hof⟩ := h.2.exists_of_error he
      exact hof.within (hget hw)
    rw [toJson, Json.within_object_iff, List.forall_mem_cons]
    exact ⟨within_text _, hfields.toMembers⟩
  · have hfields : Event.fields.Within (d + 1) (Wire.parts e).1 :=
      ⟨hget h.2.type_eq, within_optional fun _ _ => within_text _,
        within_of_dropNull (fun _ => hget) h.2.payload_eq,
        within_optional fun _ _ => within_integer _, trivial⟩
    rw [toJson, e.toJson_eq_object, Event.members, Json.within_object_iff, List.forall_mem_append]
    refine ⟨hfields.toMembers, fun m hm => ?_⟩
    obtain ⟨w, hw, hjson⟩ := Object.exists_get?_of_mem hm
    rw [h.2.extra_eq] at hw
    split_ifs at hw
    exact hjson ▸ hget hw

/-! ## Messages -/

/-- A frame that has been read, of a text without floats, is read again from what is written
    for it. -/
theorem decode_encode_of_decode (text : String) (f : Frame)
    (hwhole : ∀ j, Json.read text = .ok j → j.isWhole = true) (h : decode text = .ok f) :
    decode f.encode = .ok f := by
  rcases hread : Json.read text with fault | j
  · rw [decode, Value.read, hread] at h
    cases h
  · have hof : f.IsOf (.ofJson j) := by
      rw [decode, Value.read, hread] at h
      exact ofValue_eq_ok_iff.1 h
    have hj : j.Within 127 := ⟨hwhole j hread, Json.depth_le_of_read hread⟩
    have hf : f.toJson.Within 127 := within_of_isOf hof hj.canonical
    rw [decode_encode_eq hf.1 hf.2, ofValue_toJson (isApart_of_isOf hof),
      tidy_eq_self_iff.2 (isTidy_of_isOf hof)]

/-- A response whose id is a number and is given twice, whose payload is null and whose error
    is an array. -/
theorem decode_encode_response :
    decode ("\x7b \"ok\":true,\"id\":7,\"type\":\"res\",\"id\":8,\"payload\":null," ++
        "\"error\":[\"\\u006eo\"]\x7d") =
        .ok (response ⟨⟨"8"⟩, true, none, some ⟨"no", none, none, none, none⟩⟩) ∧
      decode (response ⟨⟨"8"⟩, true, none, some ⟨"no", none, none, none, none⟩⟩).encode =
        .ok (response ⟨⟨"8"⟩, true, none, some ⟨"no", none, none, none, none⟩⟩) := by
  have hread : decode ("\x7b \"ok\":true,\"id\":7,\"type\":\"res\",\"id\":8,\"payload\":null," ++
      "\"error\":[\"\\u006eo\"]\x7d") =
      .ok (response ⟨⟨"8"⟩, true, none, some ⟨"no", none, none, none, none⟩⟩) := by
    decide +kernel
  have hwhole : (Json.read
      ("\x7b \"ok\":true,\"id\":7,\"type\":\"res\",\"id\":8,\"payload\":null," ++
        "\"error\":[\"\\u006eo\"]\x7d")).map Json.isWhole = .ok true := by
    decide +kernel
  refine ⟨hread, decode_encode_of_decode _ _ (fun j hj => ?_) hread⟩
  rw [hj] at hwhole
  exact Except.ok.inj hwhole

end Frame

end Tether
