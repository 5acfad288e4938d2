import Tether.Frame
import Tether.Proofs.Json.RoundTrip
import Tether.Proofs.Schema.RoundTrip

/-!
# Frames, read as they are written

A frame is read back from its text, but for two things that the text does not show. An
optional value that is present and null is read as absent: the frame is *tidied*. And an
event whose type is the tag of another kind, or whose other fields have a name with a
meaning of its own, is read as something else: it is not *apart*.

* `Schema.tidy_any`, `Event.ofJson_members`: each kind of frame, read from its members;
* `Frame.isApart_of_ofValue`: why no other event is read back;
* `Frame.decode_encode_iff`: messages.
-/

namespace Tether

/-! ## Values -/

/-- Values are equal if their documents are. -/
theorem Value.eq_of_json_eq {v w : Value} (h : v.json = w.json) : v = w := by
  cases v
  cases w
  cases h
  rfl

theorem Value.eq_null_iff {v : Value} : v = .null ↔ v.json = .null :=
  ⟨fun h => congrArg json h, fun h => eq_of_json_eq h⟩

theorem Value.text?_eq_some_iff {v : Value} {s : String} : v.text? = some s ↔ v = .text s := by
  have hjson : v = .text s ↔ v.json = .text s :=
    ⟨fun h => congrArg json h, fun h => eq_of_json_eq h⟩
  rw [hjson, text?]
  cases v.json <;> simp

theorem Value.text?_text (s : String) : (Value.text s).text? = some s := rfl

theorem Value.ofJson_object (ms : List (String × Json)) :
    Value.ofJson (.object ms) = (Object.ofMembers ms).toValue := by
  simp only [ofJson, Object.toValue, Object.ofMembers, Json.canonical]

namespace Object

theorem increasing (o : Object) : Json.Increasing o.members := by
  have h := o.ordered
  rw [Json.Ordered, Json.orderedMembers_iff] at h
  exact h.1

theorem map_canonical_lookup (o : Object) (key : String) :
    (o.members.lookup key).map Json.canonical = o.members.lookup key := by
  have h := o.ordered
  rw [Json.Ordered, Json.orderedMembers_iff] at h
  cases hj : o.members.lookup key with
  | none => rfl
  | some j =>
    have := h.2 _ ((Json.mem_iff_lookup o.increasing.nodup).2 hj)
    rw [Option.map_some, Json.canonical_eq_self this]

theorem eq_of_lookup_eq {o p : Object} (h : ∀ k, o.members.lookup k = p.members.lookup k) :
    o = p := by
  have hmembers := Json.eq_of_lookup_eq o.increasing p.increasing h
  cases o
  cases p
  cases hmembers
  rfl

theorem lookup_ofMembers {ms : List (String × Json)} (hms : (ms.map Prod.fst).Nodup)
    (key : String) : (ofMembers ms).members.lookup key = (ms.lookup key).map Json.canonical := by
  show (Json.canonicalMembers [] ms).lookup key = _
  rw [Json.lookup_canonicalMembers hms, List.lookup_nil, Option.or_none]

theorem get?_eq_none_iff {o : Object} {key : String} :
    o.get? key = none ↔ key ∉ o.members.map Prod.fst := by
  rw [get?, Option.map_eq_none_iff, Json.lookup_eq_none_iff_not_mem]

theorem get?_ofMembers {ms : List (String × Json)} (hms : (ms.map Prod.fst).Nodup)
    (key : String) : (ofMembers ms).get? key = (ms.lookup key).map Value.ofJson := by
  have hjson (j : Json) : Value.ofJson j.canonical = Value.ofJson j :=
    Value.eq_of_json_eq (Json.canonical_eq_self j.ordered_canonical)
  rw [get?, lookup_ofMembers hms, Option.map_map]
  exact Option.map_congr fun j _ => hjson j

/-- The members of an object are put after others with other keys. -/
theorem nodup_append_members {ms : List (String × Json)} {o : Object}
    (hms : (ms.map Prod.fst).Nodup) (h : ∀ key ∈ ms.map Prod.fst, o.get? key = none) :
    ((ms ++ o.members).map Prod.fst).Nodup := by
  rw [List.map_append]
  exact List.nodup_append'.2
    ⟨hms, o.increasing.nodup, fun key hkey => get?_eq_none_iff.1 (h key hkey)⟩

/-- What is under a key is that of the first members, or else that of the object. -/
theorem get?_ofMembers_append {ms : List (String × Json)} {o : Object} {key : String}
    (hms : ((ms ++ o.members).map Prod.fst).Nodup) :
    (ofMembers (ms ++ o.members)).get? key =
      ((ms.lookup key).map Value.ofJson).or (o.get? key) := by
  rw [get?_ofMembers hms, List.lookup_append, Option.map_or, get?]

end Object

/-! ## What is read of a frame -/

/-- A value that is null is made absent. -/
def dropNull (v : Option Value) : Option Value := v.filter fun v => v ≠ .null

/-- The request without parameters that are null. -/
def Request.tidy (r : Request) : Request := { r with params := dropNull r.params }

/-- The error without details that are null. -/
def ErrorBody.tidy (e : ErrorBody) : ErrorBody := { e with details := dropNull e.details }

/-- The response without a payload or details that are null. -/
def Response.tidy (r : Response) : Response :=
  { r with payload := dropNull r.payload, error := r.error.map ErrorBody.tidy }

/-- The event without a payload that is null. -/
def Event.tidy (e : Event) : Event := { e with payload := dropNull e.payload }

theorem dropNull_eq_self_iff {v : Option Value} : dropNull v = v ↔ v ≠ some .null := by
  cases v with
  | none => simp [dropNull]
  | some v => by_cases h : v = .null <;> simp [dropNull, h]

theorem dropNull_eq_some_iff {m : Option Value} {v : Value} :
    dropNull m = some v ↔ m = some v ∧ v ≠ .null := by
  rw [dropNull, Option.filter_eq_some_iff, decide_eq_true_eq]

theorem dropNull_ne_some_null {m : Option Value} : dropNull m ≠ some .null :=
  fun h => (dropNull_eq_some_iff.1 h).2 rfl

theorem Schema.tidy_any (v : Option Value) : (Schema.optional .any).tidy v = dropNull v := by
  cases v with
  | none => rfl
  | some v =>
    simp only [tidy, toJson, ← Value.eq_null_iff]
    by_cases h : v = .null <;> simp [dropNull, Option.filter, h]

theorem Request.build_tidy (r : Request) :
    Wire.build (Request.fields.tidy (Wire.parts r)) = r.tidy := by
  rw [Request.tidy, ← Schema.tidy_any]
  rfl

theorem ErrorBody.build_tidy (e : ErrorBody) :
    Wire.build (ErrorBody.fields.tidy (Wire.parts e)) = e.tidy := by
  rw [ErrorBody.tidy, ← Schema.tidy_any]
  obtain ⟨message, code, details, retryable, retryAfter⟩ := e
  cases code <;> cases retryable <;> cases retryAfter <;> rfl

theorem Response.build_tidy (r : Response) :
    Wire.build (Response.fields.tidy (Wire.parts r)) = r.tidy := by
  rw [Response.tidy, ← Schema.tidy_any]
  obtain ⟨id, ok, payload, error⟩ := r
  cases error with
  | none => rfl
  | some e =>
    rw [Option.map_some, ← ErrorBody.build_tidy]
    rfl

theorem Event.build_tidy (e : Event) :
    Wire.build (Event.fields.tidy (Wire.parts e).1, e.extra) = e.tidy := by
  rw [Event.tidy, ← Schema.tidy_any]
  obtain ⟨type, event, payload, seq, extra⟩ := e
  cases event <;> cases seq <;> rfl

namespace Frame

/-- The frame in which all optional values that are null are absent. -/
def tidy : Frame → Frame
  | request r => request r.tidy
  | response r => response r.tidy
  | event e => event e.tidy

/-- No optional value is present and null. -/
def IsTidy : Frame → Prop
  | request r => r.params ≠ some .null
  | response r => r.payload ≠ some .null ∧ ∀ e, r.error = some e → e.details ≠ some .null
  | event e => e.payload ≠ some .null

/-- An event that cannot be taken for anything else. -/
def IsApart : Frame → Prop
  | event e =>
    e.type ≠ .text "req" ∧ e.type ≠ .text "res" ∧
      ∀ key ∈ ["type", "event", "payload", "seq"], e.extra.get? key = none
  | _ => True

theorem tidy_eq_self_iff {f : Frame} : f.tidy = f ↔ f.IsTidy := by
  cases f with
  | request r =>
    obtain ⟨id, method, params⟩ := r
    simp [tidy, Request.tidy, IsTidy, dropNull_eq_self_iff]
  | response r =>
    obtain ⟨id, ok, payload, error⟩ := r
    cases error with
    | none => simp [tidy, Response.tidy, IsTidy, dropNull_eq_self_iff]
    | some e =>
      obtain ⟨message, code, details, retryable, retryAfter⟩ := e
      simp [tidy, Response.tidy, ErrorBody.tidy, IsTidy, dropNull_eq_self_iff]
  | event e =>
    obtain ⟨type, event, payload, seq, extra⟩ := e
    simp [tidy, Event.tidy, IsTidy, dropNull_eq_self_iff]

/-! ## Kinds -/

/-- A frame is read by its type. -/
theorem ofValue_toValue {o : Object} {type : Value} (htype : o.get? "type" = some type) :
    ofValue o.toValue =
      (if type.text? = some Request.tag then (Wire.ofJson (.object o.members)).map request
      else if type.text? = some Response.tag then (Wire.ofJson (.object o.members)).map response
      else (Wire.ofJson (.object o.members)).map event).mapError .mismatch := by
  have hobject : o.toValue.object?.bind (·.get? "type") = some type := htype
  rw [ofValue, hobject]
  rfl

/-- Only what has a type that is no tag of another kind is read as an event. -/
theorem ofValue_eq_event {o : Object} {e : Event} (h : ofValue o.toValue = .ok (.event e)) :
    ∃ type, o.get? "type" = some type ∧ type ≠ .text "req" ∧ type ≠ .text "res" ∧
      Wire.ofJson (.object o.members) = .ok e := by
  cases htype : o.get? "type" with
  | none =>
    have hobject : o.toValue.object?.bind (·.get? "type") = none := htype
    rw [ofValue, hobject] at h
    cases h
  | some type =>
    rw [ofValue_toValue htype, mapError_eq_ok_iff] at h
    refine ⟨type, rfl, ?_⟩
    -- By the first two tags, a frame of another kind would have been read.
    split_ifs at h with hreq hres
    · obtain ⟨r, -, hr⟩ := map_eq_ok_iff.1 h
      cases hr
    · obtain ⟨r, -, hr⟩ := map_eq_ok_iff.1 h
      cases hr
    · obtain ⟨e', hread, he⟩ := map_eq_ok_iff.1 h
      cases he
      exact ⟨mt Value.text?_eq_some_iff.2 hreq, mt Value.text?_eq_some_iff.2 hres, hread⟩

/-! ## Requests and responses -/

/-- The fields of a record are read back from among the members of a frame. -/
theorem ofJson_tagged {name : String} {fs : Fields} {tag : Json} (as : fs.Denote)
    (hregular : fs.isRegular = true) (htype : "type" ∉ fs.names) :
    (Schema.record name fs).ofJson (Json.object (("type", tag) :: fs.toMembers as)).canonical =
      .ok (fs.tidy as) := by
  have hnames := Fields.nodup_names hregular
  have hkeys := Fields.keys_toMembers_sublist fs as
  refine Schema.ofJson_record hnames ?_ (fs.awaits_toMembers as _ hregular fun k hk => ?_)
  · exact List.nodup_cons.2 ⟨fun h => htype (hkeys.subset h), hnames.sublist hkeys⟩
  · have hne : k ≠ "type" := fun h => htype (h ▸ hk)
    rw [Json.lookup_cons_eq_ite, if_neg hne]

theorem get?_type_tagged {fs : Fields} (as : fs.Denote) (hregular : fs.isRegular = true)
    (htype : "type" ∉ fs.names) (tag : String) :
    (Object.ofMembers (("type", .text tag) :: fs.toMembers as)).get? "type" =
      some (.text tag) := by
  have hkeys := Fields.keys_toMembers_sublist fs as
  have htag : Value.ofJson (.text tag) = .text tag := Value.ofJson_json (.text tag)
  rw [Object.get?_ofMembers, Json.lookup_cons_eq_ite, if_pos rfl, Option.map_some, htag]
  exact List.nodup_cons.2
    ⟨fun h => htype (hkeys.subset h), (Fields.nodup_names hregular).sublist hkeys⟩

theorem object_members_ofMembers (ms : List (String × Json)) :
    Json.object (Object.ofMembers ms).members = (Json.object ms).canonical := by
  rw [Json.canonical]
  rfl

/-- Requests are read back, but for parameters that are null. -/
theorem ofValue_request (r : Request) :
    ofValue (.ofJson (request r).toJson) = .ok (request r).tidy := by
  have hread : Wire.ofJson (Json.object (("type", .text Request.tag) ::
      Request.fields.toMembers (Wire.parts r))).canonical =
        .ok (Wire.build (α := Request) (Request.fields.tidy (Wire.parts r))) := by
    show ((Schema.record "RequestFrame" Request.fields).ofJson _).map _ = _
    rw [ofJson_tagged _ rfl (by decide)]
    rfl
  rw [toJson, Value.ofJson_object, ofValue_toValue (get?_type_tagged _ rfl (by decide) _),
    object_members_ofMembers, Value.text?_text, if_pos rfl, hread, r.build_tidy]
  rfl

/-- Responses are read back, but for a payload or details that are null. -/
theorem ofValue_response (r : Response) :
    ofValue (.ofJson (response r).toJson) = .ok (response r).tidy := by
  have hread : Wire.ofJson (Json.object (("type", .text Response.tag) ::
      Response.fields.toMembers (Wire.parts r))).canonical =
        .ok (Wire.build (α := Response) (Response.fields.tidy (Wire.parts r))) := by
    show ((Schema.record "ResponseFrame" Response.fields).ofJson _).map _ = _
    rw [ofJson_tagged _ rfl (by decide)]
    rfl
  rw [toJson, Value.ofJson_object, ofValue_toValue (get?_type_tagged _ rfl (by decide) _),
    object_members_ofMembers, Value.text?_text, if_neg (by decide), if_pos rfl, hread,
    r.build_tidy]
  rfl

end Frame

/-! ## Events -/

namespace Event

variable {e : Event}

/-- The members of the document of an event. -/
def members (e : Event) : List (String × Json) :=
  Event.fields.toMembers (Wire.parts e).1 ++ e.extra.members

theorem toJson_eq_object (e : Event) : Wire.toJson e = .object e.members := by
  show (Schema.openRecord "EventFrame" Event.fields).toJson (Wire.parts e) = _
  rw [Schema.toJson]
  rfl

theorem nodup_members (hextra : ∀ key ∈ Event.fields.names, e.extra.get? key = none) :
    (e.members.map Prod.fst).Nodup := by
  have hkeys := Fields.keys_toMembers_sublist Event.fields (Wire.parts e).1
  exact Object.nodup_append_members ((Fields.nodup_names rfl).sublist hkeys) fun key hkey =>
    hextra key (hkeys.subset hkey)

theorem get?_type (hextra : ∀ key ∈ Event.fields.names, e.extra.get? key = none) :
    (Object.ofMembers e.members).get? "type" = some e.type := by
  have htype : e.members.lookup "type" = some e.type.json := rfl
  rw [Object.get?_ofMembers (nodup_members hextra), htype, Option.map_some, Value.ofJson_json]

/-- The fields that are not known are read back. -/
theorem ofMembers_filter_members (hextra : ∀ key ∈ Event.fields.names, e.extra.get? key = none) :
    Object.ofMembers
      ((Json.canonicalMembers [] e.members).filter fun m => m.1 ∉ Event.fields.names) =
        e.extra := by
  -- Objects are known by what they have under each key.
  refine Object.eq_of_lookup_eq fun key => ?_
  rw [Object.lookup_ofMembers (Json.nodup_filter (Json.increasing_canonicalMembers _).nodup)]
  by_cases hkey : key ∈ Event.fields.names
  · rw [Json.lookup_filter_mem hkey, Option.map_eq_none_iff.1 (hextra key hkey), Option.map_none]
  · rw [Json.lookup_filter_not_mem hkey, Json.lookup_canonicalMembers (nodup_members hextra),
      members, List.lookup_append, Fields.lookup_toMembers_eq_none _ hkey, Option.none_or,
      List.lookup_nil, Option.or_none, e.extra.map_canonical_lookup,
      e.extra.map_canonical_lookup]

/-- An event is read back, but for a payload that is null. -/
theorem ofJson_members (hextra : ∀ key ∈ Event.fields.names, e.extra.get? key = none) :
    Wire.ofJson (Json.object e.members).canonical = .ok e.tidy := by
  have hawaits := Fields.awaits_toMembers Event.fields (Wire.parts e).1
    (fun k => (e.members.lookup k).map Json.canonical) rfl fun k hk => by
      rw [members, List.lookup_append, Option.map_eq_none_iff.1 (hextra k hk), Option.or_none]
  show ((Schema.openRecord "EventFrame" Event.fields).ofJson _).map _ = _
  rw [Schema.ofJson_openRecord (Fields.nodup_names rfl) (nodup_members hextra) hawaits,
    ofMembers_filter_members hextra, Except.map, build_tidy]

/-- The other fields of an event that has been read are none of its own. -/
theorem get?_extra_of_ofJson {ms : List (String × Json)} (hms : (ms.map Prod.fst).Nodup)
    (h : Wire.ofJson (.object ms) = .ok e) {key : String} (hkey : key ∈ Event.fields.names) :
    e.extra.get? key = none := by
  rw [Wire.ofJson] at h
  obtain ⟨a, hread, rfl⟩ := map_eq_ok_iff.1 h
  have hextra : (Wire.build (α := Event) a).extra = a.2 := rfl
  rw [hextra, Schema.snd_of_ofJson_openRecord hread, Object.get?_ofMembers (Json.nodup_filter hms),
    Json.lookup_filter_mem hkey]
  rfl

end Event

namespace Frame

/-- An event that can be taken for nothing else is read back, but for a payload that is
    null. -/
theorem ofValue_event {e : Event} (h : (event e).IsApart) :
    ofValue (.ofJson (event e).toJson) = .ok (event e).tidy := by
  obtain ⟨hreq, hres, hextra⟩ := h
  have hrequest : e.type.text? ≠ some Request.tag := mt Value.text?_eq_some_iff.1 hreq
  have hresponse : e.type.text? ≠ some Response.tag := mt Value.text?_eq_some_iff.1 hres
  rw [toJson, e.toJson_eq_object, Value.ofJson_object, ofValue_toValue (Event.get?_type hextra),
    object_members_ofMembers, if_neg hrequest, if_neg hresponse, Event.ofJson_members hextra]
  rfl

/-! ## Messages -/

variable {f : Frame}

theorem ofValue_toJson (h : f.IsApart) : ofValue (.ofJson f.toJson) = .ok f.tidy := by
  cases f with
  | request r => exact ofValue_request r
  | response r => exact ofValue_response r
  | event e => exact ofValue_event h

/-- Only events that can be taken for nothing else are read back. -/
theorem isApart_of_ofValue (h : ofValue (.ofJson f.toJson) = .ok f) : f.IsApart := by
  cases f with
  | request r => trivial
  | response r => trivial
  | event e =>
    rw [toJson, e.toJson_eq_object, Value.ofJson_object] at h
    obtain ⟨type, htype, hreq, hres, hread⟩ := ofValue_eq_event h
    have hextra : ∀ key ∈ Event.fields.names, e.extra.get? key = none := fun key =>
      Event.get?_extra_of_ofJson (Object.increasing _).nodup hread
    -- Now the type that was read is known to be that of the event.
    rw [Event.get?_type hextra] at htype
    cases htype
    exact ⟨hreq, hres, hextra⟩

/-- What is read of a message is the value that was written. -/
theorem decode_encode_eq (hwhole : f.toJson.isWhole = true) (hdepth : f.toJson.depth ≤ 127) :
    decode f.encode = ofValue (.ofJson f.toJson) := by
  rw [decode, encode, Value.read_write hwhole hdepth]

/-- A frame without floats, with at most 127 arrays and objects inside each other, is read
    back exactly if it is tidy and can be taken for nothing else; and if it can be taken for
    nothing else, it is read back tidy. -/
theorem decode_encode_iff (f : Frame) (hwhole : f.toJson.isWhole = true)
    (hdepth : f.toJson.depth ≤ 127) :
    (decode f.encode = .ok f ↔ f.IsTidy ∧ f.IsApart) ∧
      (f.IsApart → decode f.encode = .ok f.tidy) := by
  rw [decode_encode_eq hwhole hdepth]
  refine ⟨⟨fun h => ?_, fun h => ?_⟩, ofValue_toJson⟩
  · have hapart := isApart_of_ofValue h
    rw [ofValue_toJson hapart, Except.ok.injEq] at h
    exact ⟨tidy_eq_self_iff.1 h, hapart⟩
  · obtain ⟨htidy, hapart⟩ := h
    rw [ofValue_toJson hapart, tidy_eq_self_iff.2 htidy]

/-- A tick with a payload that is null is read back without it. -/
theorem decode_encode_tick :
    decode (event ⟨.text "event", some "tick", some .null, some 1, .empty⟩).encode =
        .ok (event ⟨.text "event", some "tick", none, some 1, .empty⟩) ∧
      decode (event ⟨.text "event", some "tick", some .null, some 1, .empty⟩).encode ≠
        .ok (event ⟨.text "event", some "tick", some .null, some 1, .empty⟩) := by
  obtain ⟨hiff, htidy⟩ := decode_encode_iff
    (event ⟨.text "event", some "tick", some .null, some 1, .empty⟩) (by decide) (by decide)
  refine ⟨htidy ⟨by decide, by decide, fun _ _ => rfl⟩, fun h => ?_⟩
  exact (hiff.1 h).1 rfl

end Frame

end Tether
