import Tether.Proofs.Handshake.Metadata
import Tether.Proofs.Schema.Faithful

/-!
# Two readers of the payload

The payload of an accepted handshake can be read in two ways. The *strict* reader (`Wire.ofValue`)
reads it as a record: a field that does not have its form fails all of it, and null is the same as
absent. The *lenient* one (`Hello.ofResponse`) takes field by field: what does not have its form is
kept, null included, and so is a snapshot that is null. They agree where there is no null, and
nothing is kept.

* `Hello.IsReadOf`, `Hello.ofValue_iff`: what the strict reader reads;
* `Hello.placed_none_iff`: where both treat a field in the same way;
* `Hello.isOf_iff_isReadOf`, `Hello.ofValue_ofResponse_agree`: where they agree.
-/

namespace Tether

namespace Hello

/-- Whether the record `h` is read of the object `o`: absent and null are the same for what is
    optional, and what has none of the names of the fields is kept. -/
structure IsReadOf (h : Hello) (o : Object) : Prop where
  type_eq : o.get? "type" = some (.text h.type)
  protocol_eq : Option.Rel (fun v n => v = .integer (.ofUInt32 n)) (dropNull (o.get? "protocol"))
    h.protocol
  server_eq : Option.Rel (fun v s => s.IsOf v) (dropNull (o.get? "server")) h.server
  features_eq : Option.Rel (fun v f => f.IsOf v) (dropNull (o.get? "features")) h.features
  policy_eq : Option.Rel (fun v p => p.IsOf v) (dropNull (o.get? "policy")) h.policy
  snapshot_eq : dropNull (o.get? "snapshot") = h.snapshot
  extra_eq : ∀ key, h.extra.get? key =
    if key ∈ ["type", "protocol", "server", "features", "policy", "snapshot"] then none
    else o.get? key

variable {h : Hello} {o : Object}

/-! ## The strict reader -/

open Schema in
theorem ofValue_iff : Wire.ofValue o.toValue = .ok h ↔ h.IsReadOf o := by
  refine Wire.ofJson_eq_ok_iff.trans
    ((ofJson_openRecord_toValue_iff (Fields.nodup_names rfl)).trans ?_)
  have hprotocol : (optional (.natural .bits32)).Gives false none
      ((o.get? "protocol").map Value.json) h.protocol ↔
        Option.Rel (fun v n => v = .integer (.ofUInt32 n)) (dropNull (o.get? "protocol"))
          h.protocol := by
    rw [rel_eq_iff_eq_map]
    exact gives_optional_iff_eq_map fun _ _ => ofJson_natural_iff
  constructor
  · rintro ⟨⟨htype, hproto, hserver, hfeatures, hpolicy, hsnapshot, -⟩, hextra⟩
    exact ⟨gives_text_iff.1 htype, hprotocol.1 hproto,
      (gives_optional_element_iff ServerInfo.ofValue_iff).1 hserver,
      (gives_optional_element_iff Features.ofValue_iff).1 hfeatures,
      (gives_optional_element_iff Policy.ofValue_iff).1 hpolicy,
      gives_optional_any_iff.1 hsnapshot, hextra⟩
  · intro h
    exact ⟨⟨gives_text_iff.2 h.type_eq, hprotocol.2 h.protocol_eq,
      (gives_optional_element_iff ServerInfo.ofValue_iff).2 h.server_eq,
      (gives_optional_element_iff Features.ofValue_iff).2 h.features_eq,
      (gives_optional_element_iff Policy.ofValue_iff).2 h.policy_eq,
      gives_optional_any_iff.2 h.snapshot_eq, trivial⟩, h.extra_eq⟩

/-- What has the name of a field is not kept, and what is null is absent. -/
theorem IsReadOf.not_kept (hread : h.IsReadOf o) :
    (∀ key ∈ ["protocol", "server", "features", "policy", "snapshot"], h.extra.get? key = none) ∧
      h.snapshot ≠ some .null :=
  ⟨fun key hkey => (hread.extra_eq key).trans (if_pos (List.mem_cons_of_mem _ hkey)),
    hread.snapshot_eq ▸ dropNull_ne_some_null⟩

/-! ## Where both agree -/

/-- A member is read or absent, and not kept, exactly if it is not null and the strict reader gives
    the same for it. -/
theorem placed_none_iff {α : Type} [Wire α] {IsOf : α → Value → Prop} {member : Option Value}
    {field : Option α} (hof : ∀ {v} {a : α}, Wire.ofValue v = .ok a ↔ IsOf a v)
    (hnull : (Wire.schema α).mayBeNull = false) :
    Placed IsOf member field none ↔
      member ≠ some .null ∧ Option.Rel (fun v a => IsOf a v) (dropNull member) field := by
  have hnot (a : α) : ¬ IsOf a .null := by
    rw [← hof]
    exact fun h => Schema.ofJson_null_ne_ok hnull _ (Wire.ofJson_eq_ok_iff.1 h)
  have hunique {a b : α} {v : Value} (ha : IsOf a v) (hb : IsOf b v) : a = b :=
    Except.ok.inj ((hof.2 ha).symm.trans (hof.2 hb))
  constructor
  · intro h
    rcases hfield : field with _ | a
    · obtain rfl : none = member := by simpa [hfield] using h.kept_eq
      exact ⟨nofun, .none⟩
    · obtain ⟨v, rfl, ha⟩ := (h.field_iff a).1 hfield
      have hv : v ≠ .null := by
        rintro rfl
        exact hnot a ha
      have hsome : some v ≠ some Value.null := mt Option.some.inj hv
      rw [dropNull_eq_self_iff.2 hsome]
      exact ⟨hsome, .some ha⟩
  · rintro ⟨hmember, hrel⟩
    rw [dropNull_eq_self_iff.2 hmember] at hrel
    rcases hrel with ⟨ha⟩ | _
    · refine ⟨fun b => ⟨?_, ?_⟩, rfl⟩
      · rintro ⟨⟩
        exact ⟨_, rfl, ha⟩
      · rintro ⟨_, ⟨⟩, hb⟩
        rw [hunique ha hb]
    · exact ⟨by simp, rfl⟩

/-- Where the lenient reader keeps none of the fields, and nothing that is null, the strict one
    reads the same; and where the strict one passes over no null, the lenient one does. -/
theorem isOf_iff_isReadOf :
    h.IsOf o ∧ o.get? "type" = some (.text "hello-ok") ∧
      (∀ key ∈ ["protocol", "server", "features", "policy", "snapshot"],
        h.extra.get? key = none) ∧ h.snapshot ≠ some .null ↔
    h.IsReadOf o ∧ h.type = "hello-ok" ∧
      ∀ key ∈ ["protocol", "server", "features", "policy", "snapshot"],
        o.get? key ≠ some .null := by
  constructor
  · rintro ⟨hof, htype, hkept, hsnapshot⟩
    rw [hof.snapshot_eq] at hsnapshot
    -- Nothing is kept, so each of the four fields is read strictly, and the fifth is not null.
    simp only [List.forall_mem_cons] at hkept ⊢
    obtain ⟨hkprotocol, hkserver, hkfeatures, hkpolicy, hksnapshot, -⟩ := hkept
    obtain ⟨hnprotocol, hprotocol⟩ :=
      (placed_none_iff protocol_ofValue_iff rfl).1 (hof.protocol.congr rfl hkprotocol.symm)
    obtain ⟨hnserver, hserver⟩ :=
      (placed_none_iff ServerInfo.ofValue_iff rfl).1 (hof.server.congr rfl hkserver.symm)
    obtain ⟨hnfeatures, hfeatures⟩ :=
      (placed_none_iff Features.ofValue_iff rfl).1 (hof.features.congr rfl hkfeatures.symm)
    obtain ⟨hnpolicy, hpolicy⟩ :=
      (placed_none_iff Policy.ofValue_iff rfl).1 (hof.policy.congr rfl hkpolicy.symm)
    refine ⟨⟨?_, hprotocol, hserver, hfeatures, hpolicy, ?_, ?_⟩, hof.type_eq, hnprotocol, hnserver,
      hnfeatures, hnpolicy, hsnapshot, nofun⟩
    · rw [htype, hof.type_eq]
    · rw [dropNull_eq_self_iff.2 hsnapshot, hof.snapshot_eq]
    · -- The lenient reader keeps under four of the names what it cannot read, and there is none.
      intro key
      by_cases hkey : key ∈ ["protocol", "server", "features", "policy"]
      · simp only [List.mem_cons, List.not_mem_nil, or_false] at hkey
        rcases hkey with rfl | rfl | rfl | rfl
        · exact hkprotocol
        · exact hkserver
        · exact hkfeatures
        · exact hkpolicy
      · rw [hof.extra_eq key hkey]
        simp only [List.mem_cons, List.not_mem_nil, or_false, not_or] at hkey
        simp [hkey]
  · rintro ⟨hread, htype, hnull⟩
    obtain ⟨hkept, hsnapshot⟩ := hread.not_kept
    refine ⟨⟨htype, ?_, ?_, ?_, ?_, ?_, ?_⟩, ?_, hkept, hsnapshot⟩
    · exact (placed_none_iff protocol_ofValue_iff rfl).2
        ⟨hnull "protocol" (by decide), hread.protocol_eq⟩ |>.congr rfl (hkept _ (by decide))
    · exact (placed_none_iff ServerInfo.ofValue_iff rfl).2
        ⟨hnull "server" (by decide), hread.server_eq⟩ |>.congr rfl (hkept _ (by decide))
    · exact (placed_none_iff Features.ofValue_iff rfl).2
        ⟨hnull "features" (by decide), hread.features_eq⟩ |>.congr rfl (hkept _ (by decide))
    · exact (placed_none_iff Policy.ofValue_iff rfl).2
        ⟨hnull "policy" (by decide), hread.policy_eq⟩ |>.congr rfl (hkept _ (by decide))
    · rw [← hread.snapshot_eq, dropNull_eq_self_iff.2 (hnull "snapshot" (by decide))]
    · intro key hkey
      rw [hread.extra_eq]
      simp only [List.mem_cons, List.not_mem_nil, or_false, not_or] at hkey
      simp [hkey]
    · rw [hread.type_eq, htype]

/-! ## Responses -/

/-- The two readers of a payload, that of records and that of responses. Of what the first one
    reads, the second one makes the same exactly if the type is that of an acceptance and none of the
    five fields that may be absent is null; and of what the second one reads, the first one makes the
    same exactly if none of these fields is kept among the further ones and the snapshot is not
    null. -/
theorem ofValue_ofResponse_agree (o : Object) (h : Hello) (id : RequestId)
    (error : Option ErrorBody) :
    (Wire.ofValue o.toValue = .ok h →
      (ofResponse ⟨id, true, some o.toValue, error⟩ = .ok h ↔
        h.type = "hello-ok" ∧ ∀ key ∈ ["protocol", "server", "features", "policy", "snapshot"],
          o.get? key ≠ some .null)) ∧
    (ofResponse ⟨id, true, some o.toValue, error⟩ = .ok h →
      (Wire.ofValue o.toValue = .ok h ↔
        (∀ key ∈ ["protocol", "server", "features", "policy", "snapshot"],
          h.extra.get? key = none) ∧ h.snapshot ≠ some .null)) := by
  have hresponse : ofResponse ⟨id, true, some o.toValue, error⟩ = .ok h ↔
      h.IsOf o ∧ o.get? "type" = some (.text "hello-ok") := by
    rw [ofResponse_eq_ok_iff]
    constructor
    · rintro ⟨p, haccepts, hof⟩
      obtain rfl := Object.toValue_inj.1 (Option.some.inj haccepts.payload_eq)
      exact ⟨hof, haccepts.type_eq⟩
    · rintro ⟨hof, htype⟩
      exact ⟨o, ⟨rfl, rfl, htype⟩, hof⟩
  rw [hresponse, ofValue_iff]
  refine ⟨fun hread => ⟨fun ⟨hof, htype⟩ => ?_, fun hnull => ?_⟩,
    fun ⟨hof, htype⟩ => ⟨fun hread => hread.not_kept, fun hkept => ?_⟩⟩
  · exact (isOf_iff_isReadOf.1 ⟨hof, htype, hread.not_kept⟩).2
  · obtain ⟨hof, htype, -⟩ := isOf_iff_isReadOf.2 ⟨hread, hnull⟩
    exact ⟨hof, htype⟩
  · exact (isOf_iff_isReadOf.1 ⟨hof, htype, hkept⟩).1

/-- A payload with limits by place, of which two are missing, and a further field that is null. -/
def terse : Object :=
  .ofMembers [("type", .text "hello-ok"), ("motd", .null),
    ("policy", .array [.number (.integer (.ofUInt32 512))])]

/-- Both readers make the same of it. -/
theorem ofValue_ofResponse_terse :
    let h : Hello := ⟨"hello-ok", none, none, none, some ⟨512, 0, 0⟩, none,
      .ofMembers [("motd", .null)]⟩
    Wire.ofValue terse.toValue = .ok h ∧
      ofResponse ⟨⟨"a"⟩, true, some terse.toValue, none⟩ = .ok h := by
  intro h
  have hread : Wire.ofValue terse.toValue = .ok h := by decide +kernel
  exact ⟨hread, ((ofValue_ofResponse_agree terse h ⟨"a"⟩ none).1 hread).2 ⟨rfl, by decide⟩⟩

end Hello

end Tether
