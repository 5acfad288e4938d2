import Tether.Proofs.Handshake.Parts

/-!
# The metadata of an accepted handshake

Each member of the payload of an accepted handshake is in one place. The type is always the
same. The snapshot is taken as it is, also if it is null. What has a form of its own is read if
it has that form, and kept among the further members otherwise, where all others are as well.

* `Response.Accepts`, `Hello.Placed`, `Hello.IsOf`: acceptance, and where the members are;
* `Hello.take_placed`, `Hello.get?_rest_of_ne`: what is taken out of an object, and what is left;
* `Hello.ofPayload_eq_iff`: the members are where they belong, and this settles all;
* `Hello.mem_keys_iff`: nothing is lost, and nothing added;
* `Hello.ofResponse_conserves`: every response.
-/

namespace Tether

/-- Whether the response accepts the handshake with the payload `o`. -/
structure Response.Accepts (r : Response) (o : Object) : Prop where
  ok_eq : r.ok = true
  payload_eq : r.payload = some o.toValue
  type_eq : o.get? "type" = some (.text "hello-ok")

namespace Hello

/-- Whether a member is in one place: it is read as the field if it is the value of something, and
    otherwise it is kept as it is. -/
structure Placed {α : Type} (IsOf : α → Value → Prop) (member : Option Value) (field : Option α)
    (kept : Option Value) : Prop where
  field_iff : ∀ a, field = some a ↔ ∃ v, member = some v ∧ IsOf a v
  kept_eq : kept = if field.isSome then none else member

/-- Whether the members of the payload `o` are where they belong. -/
structure IsOf (h : Hello) (o : Object) : Prop where
  type_eq : h.type = "hello-ok"
  protocol : Placed (fun n v => v = .integer (.ofUInt32 n)) (o.get? "protocol") h.protocol
    (h.extra.get? "protocol")
  server : Placed ServerInfo.IsOf (o.get? "server") h.server (h.extra.get? "server")
  features : Placed Features.IsOf (o.get? "features") h.features (h.extra.get? "features")
  policy : Placed Policy.IsOf (o.get? "policy") h.policy (h.extra.get? "policy")
  snapshot_eq : h.snapshot = o.get? "snapshot"
  extra_eq : ∀ key ∉ ["protocol", "server", "features", "policy"],
    h.extra.get? key = if key ∈ ["type", "snapshot"] then none else o.get? key

end Hello

/-! ## Objects and fields -/

@[simp]
theorem Object.get?_erase {o : Object} {key k : String} :
    (o.erase key).get? k = if k = key then none else o.get? k := by
  rw [get?, erase, Json.lookup_eraseMember]
  split_ifs <;> rfl

theorem Object.mem_keys_iff {o : Object} {key : String} :
    key ∈ o.members.map Prod.fst ↔ (o.get? key).isSome := by
  rw [← not_iff_not, ← get?_eq_none_iff, Option.not_isSome_iff_eq_none]

/-- Whether a field of the name is written. -/
def Fields.Writes (key : String) : (fs : Fields) → fs.Denote → Prop
  | .nil, _ => False
  | .cons name _ s fs, (a, as) => key = name ∧ s.isPresent a ∨ fs.Writes key as

theorem Fields.mem_keys_toMembers_iff {key : String} : ∀ {fs : Fields} {as : fs.Denote},
    key ∈ (fs.toMembers as).map Prod.fst ↔ fs.Writes key as
  | .nil, _ => by simp [toMembers, Writes]
  | .cons name isRequired s fs, (a, as) => by
    rw [Writes, ← mem_keys_toMembers_iff, toMembers]
    split <;> simp [*]

namespace Hello

/-! ## Places -/

section Places

variable {α : Type} {IsOf : α → Value → Prop} {member : Option Value} {field field' : Option α}
  {kept kept' : Option Value}

theorem Placed.field_eq (h : Placed IsOf member field kept) (h' : Placed IsOf member field' kept') :
    field = field' := by
  ext a
  rw [h.field_iff, h'.field_iff]

theorem Placed.kept_unique (h : Placed IsOf member field kept)
    (h' : Placed IsOf member field' kept') : kept = kept' := by
  rw [h.kept_eq, h'.kept_eq, h.field_eq h']

theorem Placed.congr {member' : Option Value} (h : Placed IsOf member field kept)
    (hmember : member' = member) (hkept : kept' = kept) : Placed IsOf member' field kept' :=
  hmember ▸ hkept ▸ h

/-- What is there is in one of the two places. -/
theorem Placed.isSome_iff (h : Placed IsOf member field kept) :
    member.isSome ↔ field.isSome ∨ kept.isSome := by
  rcases hfield : field with _ | a
  · simp [h.kept_eq, hfield]
  · obtain ⟨v, hmember, -⟩ := (h.field_iff a).1 hfield
    simp [hmember]

/-- What is in the one place is not in the other. -/
theorem Placed.kept_eq_none (h : Placed IsOf member field kept) (hfield : field.isSome) :
    kept = none := by
  rw [h.kept_eq, if_pos hfield]

variable [Wire α] {key k : String} {o : Object} {a : α} {v : Value} {e : Mismatch}

theorem take_of_eq_none (hmember : o.get? key = none) :
    (take key o : Taken α) = ⟨none, o, []⟩ := by
  simp only [take, hmember]

theorem take_of_ok (hmember : o.get? key = some v) (hread : Wire.ofValue v = .ok a) :
    take key o = ⟨some a, o.erase key, []⟩ := by
  simp only [take, hmember, hread]

theorem take_of_error (hmember : o.get? key = some v)
    (hread : (Wire.ofValue v : Except Mismatch α) = .error e) :
    (take key o : Taken α) = ⟨none, o, [(key, e)]⟩ := by
  simp only [take, hmember, hread]

/-- What is taken out of an object is read if it can be, and left in it otherwise. -/
theorem take_placed (hof : ∀ {v} {a : α}, Wire.ofValue v = .ok a ↔ IsOf a v) :
    Placed IsOf (o.get? key) (take key o : Taken α).field
      ((take key o : Taken α).rest.get? key) := by
  rcases hmember : o.get? key with _ | v
  · rw [take_of_eq_none hmember]
    exact ⟨by simp, hmember⟩
  · rcases hread : (Wire.ofValue v : Except Mismatch α) with e | b
    · have hnone (a : α) : ¬ IsOf a v := by
        rw [← hof, hread]
        exact nofun
      rw [take_of_error hmember hread]
      exact ⟨by simp [hnone], hmember⟩
    · rw [take_of_ok hmember hread]
      refine ⟨fun a => ?_, ?_⟩
      · simp [← hof, hread]
      · rw [Object.get?_erase, if_pos rfl]
        rfl

/-- Nothing else is taken out. -/
@[simp]
theorem get?_rest_of_ne (hk : k ≠ key) : (take key o : Taken α).rest.get? k = o.get? k := by
  rcases hmember : o.get? key with _ | v
  · rw [take_of_eq_none hmember]
  · rcases hread : (Wire.ofValue v : Except Mismatch α) with e | b
    · rw [take_of_error hmember hread]
    · rw [take_of_ok hmember hread, Object.get?_erase, if_neg hk]

end Places

/-! ## Payloads -/

variable {h h' : Hello} {o : Object}

theorem protocol_ofValue_iff {v : Value} {n : UInt32} :
    Wire.ofValue v = .ok n ↔ v = .integer (.ofUInt32 n) :=
  Wire.ofJson_eq_ok_iff.trans Schema.ofJson_natural_iff

/-- Each step finds what the payload has under its key, for those before it have taken other keys,
    and those after it leave what it has left there. -/
theorem isOf_ofPayload (o : Object) : (ofPayload o).1.IsOf o where
  type_eq := rfl
  protocol := take_placed protocol_ofValue_iff |>.congr (by simp) (by simp [ofPayload])
  server := take_placed ServerInfo.ofValue_iff |>.congr (by simp) (by simp [ofPayload])
  features := take_placed Features.ofValue_iff |>.congr (by simp) (by simp [ofPayload])
  policy := take_placed Policy.ofValue_iff |>.congr (by simp) (by simp [ofPayload])
  snapshot_eq := by simp [ofPayload]
  extra_eq key hkey := by
    simp only [List.mem_cons, List.not_mem_nil, or_false, not_or] at hkey
    obtain ⟨hprotocol, hserver, hfeatures, hpolicy⟩ := hkey
    by_cases htype : key = "type" <;> by_cases hsnapshot : key = "snapshot" <;>
      simp [ofPayload, hprotocol, hserver, hfeatures, hpolicy, htype, hsnapshot]

/-- Where the members are settles all. -/
theorem IsOf.eq (h₁ : h.IsOf o) (h₂ : h'.IsOf o) : h = h' := by
  have hextra : h.extra = h'.extra := by
    refine Object.eq_of_get?_eq fun key => ?_
    by_cases hkey : key ∈ ["protocol", "server", "features", "policy"]
    · simp only [List.mem_cons, List.not_mem_nil, or_false] at hkey
      rcases hkey with rfl | rfl | rfl | rfl
      · exact h₁.protocol.kept_unique h₂.protocol
      · exact h₁.server.kept_unique h₂.server
      · exact h₁.features.kept_unique h₂.features
      · exact h₁.policy.kept_unique h₂.policy
    · rw [h₁.extra_eq key hkey, h₂.extra_eq key hkey]
  have htype : h.type = h'.type := h₁.type_eq.trans h₂.type_eq.symm
  have hsnapshot : h.snapshot = h'.snapshot := h₁.snapshot_eq.trans h₂.snapshot_eq.symm
  have hprotocol := h₁.protocol.field_eq h₂.protocol
  have hserver := h₁.server.field_eq h₂.server
  have hfeatures := h₁.features.field_eq h₂.features
  have hpolicy := h₁.policy.field_eq h₂.policy
  cases h
  cases h'
  simp only at *
  subst htype hprotocol hserver hfeatures hpolicy hsnapshot hextra
  rfl

theorem ofPayload_eq_iff : (ofPayload o).1 = h ↔ h.IsOf o := by
  constructor
  · rintro rfl
    exact isOf_ofPayload o
  · exact fun hof => (isOf_ofPayload o).eq hof

/-! ## What is written -/

/-- The members of the document. -/
def members (h : Hello) : List (String × Json) :=
  Hello.fields.toMembers (Wire.parts h).1 ++ h.extra.members

theorem toJson_eq_object (h : Hello) : Wire.toJson h = .object h.members := by
  show (Schema.openRecord "HelloOk" Hello.fields).toJson (Wire.parts h) = _
  rw [Schema.toJson]
  rfl

/-- Of the fields, those are written that are there. -/
theorem writes_iff {key : String} :
    Hello.fields.Writes key (Wire.parts h).1 ↔
      key = "type" ∨ key = "protocol" ∧ h.protocol.isSome ∨ key = "server" ∧ h.server.isSome ∨
        key = "features" ∧ h.features.isSome ∨ key = "policy" ∧ h.policy.isSome ∨
          key = "snapshot" ∧ h.snapshot.isSome := by
  simp [Fields.Writes, Schema.isPresent, Wire.parts]

theorem IsOf.get?_extra_eq_none (hof : h.IsOf o) {key : String}
    (hkey : Hello.fields.Writes key (Wire.parts h).1) : h.extra.get? key = none := by
  rcases writes_iff.1 hkey with
    rfl | ⟨rfl, hsome⟩ | ⟨rfl, hsome⟩ | ⟨rfl, hsome⟩ | ⟨rfl, hsome⟩ | ⟨rfl, hsome⟩
  · exact hof.extra_eq "type" (by decide)
  · exact hof.protocol.kept_eq_none hsome
  · exact hof.server.kept_eq_none hsome
  · exact hof.features.kept_eq_none hsome
  · exact hof.policy.kept_eq_none hsome
  · exact hof.extra_eq "snapshot" (by decide)

/-- No key is written twice. -/
theorem IsOf.nodup_members (hof : h.IsOf o) : (h.members.map Prod.fst).Nodup :=
  Object.nodup_append_members
    ((Fields.nodup_names rfl).sublist (Fields.keys_toMembers_sublist _ _)) fun _ hkey =>
      hof.get?_extra_eq_none (Fields.mem_keys_toMembers_iff.1 hkey)

/-- The keys that are written are those of the payload. -/
theorem IsOf.mem_keys_iff (hof : h.IsOf o) (htype : (o.get? "type").isSome) {key : String} :
    key ∈ h.members.map Prod.fst ↔ (o.get? key).isSome := by
  rw [members, List.map_append, List.mem_append, Fields.mem_keys_toMembers_iff, writes_iff,
    Object.mem_keys_iff]
  by_cases hkey : key ∈ Hello.fields.names
  · simp only [Fields.names, List.mem_cons, List.not_mem_nil, or_false] at hkey
    rcases hkey with rfl | rfl | rfl | rfl | rfl | rfl
    · simp [htype]
    · simp [hof.protocol.isSome_iff]
    · simp [hof.server.isSome_iff]
    · simp [hof.features.isSome_iff]
    · simp [hof.policy.isSome_iff]
    · simp [hof.snapshot_eq, hof.extra_eq "snapshot"]
  · simp only [Fields.names, List.mem_cons, List.not_mem_nil, or_false, not_or] at hkey
    obtain ⟨htype, hprotocol, hserver, hfeatures, hpolicy, hsnapshot⟩ := hkey
    simp [htype, hprotocol, hserver, hfeatures, hpolicy, hsnapshot, hof.extra_eq key]

/-! ## Responses -/

variable {r : Response}

theorem payloadType?_eq_some_iff {type : String} :
    r.payloadType? = some type ↔
      ∃ o, r.payload = some (Object.toValue o) ∧ o.get? "type" = some (.text type) := by
  simp only [Response.payloadType?, Option.bind_eq_some_iff, Value.text?_eq_some_iff,
    Value.object?_eq_some_iff]
  constructor
  · rintro ⟨o, ⟨v, hpayload, rfl⟩, t, ht, rfl⟩
    exact ⟨o, hpayload, ht⟩
  · rintro ⟨o, hpayload, htype⟩
    exact ⟨o, ⟨_, hpayload, rfl⟩, _, htype, rfl⟩

theorem exists_accepts_iff :
    (∃ o, r.Accepts o) ↔ r.ok = true ∧ r.payloadType? = some "hello-ok" := by
  rw [payloadType?_eq_some_iff]
  constructor
  · rintro ⟨o, h⟩
    exact ⟨h.ok_eq, o, h.payload_eq, h.type_eq⟩
  · rintro ⟨hok, o, hpayload, htype⟩
    exact ⟨o, hok, hpayload, htype⟩

theorem ofResponse_of_accepts (h : r.Accepts o) : ofResponse r = .ok (ofPayload o).1 := by
  have hobject : r.payload.bind Value.object? = some o := by
    rw [h.payload_eq]
    rfl
  have htype : (o.get? "type").bind Value.text? = some tag := by
    rw [h.type_eq]
    rfl
  simp [ofResponse, interpret, h.ok_eq, hobject, htype, Except.map]

/-- Nothing but the ok and the type of a response makes it an acceptance. -/
theorem exists_accepts_of_ofResponse (hr : ofResponse r = .ok h) : ∃ o, r.Accepts o := by
  obtain ⟨p, hp, -⟩ := map_eq_ok_iff.1 hr
  rw [interpret] at hp
  rw [exists_accepts_iff, Response.payloadType?]
  rcases hok : r.ok with _ | _
  · simp [hok] at hp
  · rcases hobject : r.payload.bind Value.object? with _ | o
    · simp [hok, hobject] at hp
    · rcases htype : (o.get? "type").bind Value.text? with _ | type
      · simp [hok, hobject, htype] at hp
      · by_cases htag : type = tag
        · rw [Option.bind_some, htype, htag]
          exact ⟨rfl, rfl⟩
        · simp [hok, hobject, htype, htag] at hp

theorem ofResponse_eq_ok_iff : ofResponse r = .ok h ↔ ∃ o, r.Accepts o ∧ h.IsOf o := by
  constructor
  · intro hr
    obtain ⟨o, haccepts⟩ := exists_accepts_of_ofResponse hr
    rw [ofResponse_of_accepts haccepts, Except.ok.injEq] at hr
    exact ⟨o, haccepts, ofPayload_eq_iff.1 hr⟩
  · rintro ⟨o, haccepts, hof⟩
    rw [ofResponse_of_accepts haccepts, ofPayload_eq_iff.2 hof]

/-- A response is an acceptance by its ok and the type of its payload alone. Each member of the
    payload then is in one place, and that settles what comes of it: protocol, server, features
    and policy are read if they can be, and are kept as they are otherwise; the snapshot is what
    it is in the payload, and all others are kept. What is written of it has the keys of the
    payload, each once. -/
theorem ofResponse_conserves (r : Response) :
    ((∃ h, ofResponse r = .ok h) ↔ ∃ o, r.Accepts o) ∧
    ((∃ e, ofResponse r = .error e) ↔ ¬ ∃ o, r.Accepts o) ∧
    ((∃ o, r.Accepts o) ↔ r.ok = true ∧ r.payloadType? = some "hello-ok") ∧
    (∀ h, ofResponse r = .ok h ↔ ∃ o, r.Accepts o ∧ h.IsOf o) ∧
    (∀ (h : Hello) o, r.Accepts o → h.IsOf o → ∃ ms, Wire.toJson h = .object ms ∧
      (ms.map Prod.fst).Nodup ∧ ∀ key, key ∈ ms.map Prod.fst ↔ (o.get? key).isSome) ∧
    ∀ v, (∀ n : UInt32, Wire.ofValue v = .ok n ↔ v = .integer (.ofUInt32 n)) ∧
      (∀ s : ServerInfo, Wire.ofValue v = .ok s ↔ s.IsOf v) ∧
      (∀ f : Features, Wire.ofValue v = .ok f ↔ f.IsOf v) ∧
      ∀ p : Policy, Wire.ofValue v = .ok p ↔ p.IsOf v := by
  have hok : (∃ h, ofResponse r = .ok h) ↔ ∃ o, r.Accepts o := by
    constructor
    · exact fun ⟨h, hr⟩ => exists_accepts_of_ofResponse hr
    · exact fun ⟨o, haccepts⟩ => ⟨_, ofResponse_of_accepts haccepts⟩
  refine ⟨hok, ?_, exists_accepts_iff, fun h => ofResponse_eq_ok_iff, fun h o haccepts hof => ?_,
    fun v => ⟨fun n => protocol_ofValue_iff, fun s => ServerInfo.ofValue_iff,
      fun f => Features.ofValue_iff, fun p => Policy.ofValue_iff⟩⟩
  · rw [← hok]
    rcases ofResponse r with e | h <;> simp
  · have htype : (o.get? "type").isSome := by
      rw [haccepts.type_eq]
      rfl
    exact ⟨h.members, h.toJson_eq_object, hof.nodup_members, fun key => hof.mem_keys_iff htype⟩

/-- A protocol that is null is kept as it is, limits may be an array, and a snapshot may be null. -/
example :
    let o := Object.ofMembers [("type", .text "hello-ok"), ("protocol", .null),
      ("policy", .array []), ("snapshot", .null)]
    (ofPayload o).1.protocol = none ∧ (ofPayload o).1.extra.get? "protocol" = some .null ∧
      (ofPayload o).1.policy = some ⟨0, 0, 0⟩ ∧ (ofPayload o).1.snapshot = some .null := by
  decide

end Hello

end Tether
