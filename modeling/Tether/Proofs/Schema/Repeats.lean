import Tether.Proofs.Schema.Reading

/-!
# Documents and their values

A document has all members of an object, in any order; its value has the last one under each key,
by key. A record takes none of its fields twice, and passes over or keeps what it does not know. So
a document is read by a schema exactly if its value is, and is read as the same, unless a field of
some record in it is repeated.

* `Schema.records`: the objects in a document that are read as records;
* `Schema.Once`: none of them repeats a field of its record;
* `Schema.FollowsValue`, `Fields.FollowValue`: reading a document against reading its value;
* `Schema.followsValue`: by every schema, by recursion over it;
* `Wire.ofJson_eq_ok_iff_ofValue`: the same for elements;
* `Schema.once_toJson`: no record is written with a field twice.
-/

namespace Tether

/-- An object that is read as a record: the fields of the record and the members of the object. -/
structure Occurrence where
  fields : Fields
  members : List (String × Json)

mutual

/-- The objects in a document that are read as records. -/
def Schema.records : Schema → Json → List Occurrence
  | .optional s, j =>
    match j with
    | .null => []
    | j => s.records j
  | .list s, .array js => js.flatMap s.records
  | .record _ fs, .array js => fs.recordsAt js
  | .record _ fs, .object ms => ⟨fs, ms⟩ :: fs.recordsIn ms
  | .openRecord _ fs, .object ms => ⟨fs, ms⟩ :: fs.recordsIn ms
  | _, _ => []

/-- Those in the members that are fields. -/
def Fields.recordsIn : Fields → List (String × Json) → List Occurrence
  | .nil, _ => []
  | .cons name _ s fs, ms =>
    (ms.filter (·.1 = name)).flatMap (fun m => s.records m.2) ++ fs.recordsIn ms

/-- Those in the items that are in the places of fields. -/
def Fields.recordsAt : Fields → List Json → List Occurrence
  | .cons _ _ s fs, j :: js => s.records j ++ fs.recordsAt js
  | _, _ => []

end

instance (fs : Fields) (ms : List (String × Json)) : Decidable (fs.Once ms) :=
  inferInstanceAs (Decidable (∀ name ∈ fs.names, (ms.map Prod.fst).count name ≤ 1))

/-- No object that is read as a record has a field of that record more than once. -/
def Schema.Once (s : Schema) (j : Json) : Prop := ∀ r ∈ s.records j, r.fields.Once r.members

instance (s : Schema) (j : Json) : Decidable (s.Once j) :=
  inferInstanceAs (Decidable (∀ r ∈ s.records j, r.fields.Once r.members))

mutual

/-- Whether no record of a schema has two fields of one name. -/
def Schema.isDistinct : Schema → Bool
  | .optional s => s.isDistinct
  | .list s => s.isDistinct
  | .record _ fs => fs.isDistinct
  | .openRecord _ fs => fs.isDistinct
  | _ => true

/-- The same for fields. -/
def Fields.isDistinct : Fields → Bool
  | .nil => true
  | .cons name _ s fs => name ∉ fs.names && s.isDistinct && fs.isDistinct

end

theorem Fields.nodup_of_isDistinct : ∀ {fs : Fields}, fs.isDistinct = true → fs.names.Nodup
  | .nil, _ => .nil
  | .cons name isRequired s fs, h => by
    simp only [isDistinct, Bool.and_eq_true, decide_eq_true_eq] at h
    exact List.nodup_cons.2 ⟨h.1.1, nodup_of_isDistinct h.2⟩

/-! ## Values without parts -/

namespace Schema

/-- Whether the schema reads every document just as its value, but for repeats. -/
def FollowsValue (s : Schema) : Prop :=
  ∀ (j : Json) (a : s.Denote), s.ofJson j = .ok a ↔ s.ofJson j.canonical = .ok a ∧ s.Once j

theorem followsValue_text : text.FollowsValue := fun j _ => by
  cases j <;> simp [ofJson, Json.canonical, Once, records]

theorem followsValue_flag : flag.FollowsValue := fun j _ => by
  cases j <;> simp [ofJson, Json.canonical, Once, records]

theorem followsValue_natural {w : Width} : (natural w).FollowsValue := fun j _ => by
  cases j <;> simp [ofJson, Json.canonical, Once, records]

theorem followsValue_any : any.FollowsValue := fun j _ => by
  have hvalue : Value.ofJson j.canonical = Value.ofJson j := Value.ofJson_json (.ofJson j)
  simp [ofJson, hvalue, Once, records]

theorem followsValue_label : label.FollowsValue := fun j _ => by
  cases j <;> simp [ofJson, Json.canonical, Once, records]

/-! ## Optional values and lists -/

variable {s : Schema}

theorem followsValue_optional (hs : s.FollowsValue) : (optional s).FollowsValue := by
  intro j a
  by_cases hj : j = .null
  · subst hj
    simp [Json.canonical, Once, records]
  · have hrecords : (optional s).Once j ↔ s.Once j := by
      rw [Once, Once, records]
      exact hj
    rw [ofJson_optional_of_ne_null hj,
      ofJson_optional_of_ne_null (mt Json.canonical_eq_null_iff.1 hj), hrecords, map_eq_ok_iff,
      map_eq_ok_iff, ← exists_and_right]
    refine exists_congr fun b => ?_
    rw [hs, and_right_comm]

theorem followsValue_list (hs : s.FollowsValue) : (list s).FollowsValue := by
  intro j as
  cases j with
  | array js =>
    have hrecords : (list s).Once (.array js) ↔ ∀ j ∈ js, s.Once j := by
      simp only [Once, records, List.mem_flatMap]
      exact ⟨fun h j hj r hr => h r ⟨j, hj, hr⟩, fun h r ⟨j, hj, hr⟩ => h j hj r hr⟩
    rw [hrecords, Json.canonical, Json.canonicalItems_eq_map, ofJson, ofJson, mapM_eq_ok_iff,
      mapM_eq_ok_iff, List.forall₂_map_left_iff, and_comm, ← List.forall₂_and_left]
    exact ⟨fun h => h.imp fun j a h => ((hs j a).1 h).symm,
      fun h => h.imp fun j a h => (hs j a).2 h.symm⟩
  | _ => simp [ofJson, Json.canonical]

/-- A field that is there at most once. -/
theorem gives_none_iff (hs : s.FollowsValue) {isRequired : Bool} {a : s.Denote}
    {o : Option Json} :
    s.Gives isRequired none o a ↔
      s.Gives isRequired none (o.map Json.canonical) a ∧ ∀ j ∈ o, s.Once j := by
  rcases o with _ | j
  · simp
  · simp only [Option.map_some, Option.mem_def, Option.some.injEq, forall_eq']
    exact hs j a

end Schema

/-! ## Fields -/

namespace Fields

variable {name : String} {isRequired : Bool} {s : Schema} {fs : Fields}

/-- The same for the fields of a record: by their names, and by their places. -/
structure FollowValue (fs : Fields) : Prop where
  byName : ∀ ⦃ms : List (String × Json)⦄ ⦃as : fs.Denote⦄, fs.Once ms →
    (fs.Awaits (ms.lookup ·) fs.unread as ↔
      fs.Awaits (fun k => (ms.lookup k).map Json.canonical) fs.unread as ∧
        ∀ r ∈ fs.recordsIn ms, r.fields.Once r.members)
  byPlace : ∀ ⦃js : List Json⦄ ⦃as : fs.Denote⦄,
    fs.Fills js as ↔
      fs.Fills (js.map Json.canonical) as ∧ ∀ r ∈ fs.recordsAt js, r.fields.Once r.members

theorem followValue_nil : nil.FollowValue where
  byName _ _ _ := by simp [Awaits, recordsIn]
  byPlace _ _ := by simp [Fills, recordsAt]

theorem once_recordsIn_cons_iff {ms : List (String × Json)}
    (hms : (cons name isRequired s fs).Once ms) :
    (∀ r ∈ (cons name isRequired s fs).recordsIn ms, r.fields.Once r.members) ↔
      (∀ j ∈ ms.lookup name, s.Once j) ∧ ∀ r ∈ fs.recordsIn ms, r.fields.Once r.members := by
  have hname := hms name List.mem_cons_self
  rw [recordsIn, List.forall_mem_append]
  refine and_congr_left fun _ => ?_
  simp only [List.mem_flatMap, List.mem_filter, decide_eq_true_eq, Option.mem_def,
    ← Json.mem_iff_lookup_of_count_le_one hname, Schema.Once]
  constructor
  · exact fun h j hj r hr => h r ⟨(name, j), ⟨hj, rfl⟩, hr⟩
  · rintro h r ⟨⟨_, j⟩, ⟨hj, rfl⟩, hr⟩
    exact h j hj r hr

theorem followValue_cons (hs : s.FollowsValue) (hfs : fs.FollowValue) :
    (cons name isRequired s fs).FollowValue where
  byName ms as hms := by
    have hrest : fs.Once ms := fun k hk => hms k (List.mem_cons_of_mem _ hk)
    rw [once_recordsIn_cons_iff hms]
    simp only [Awaits, unread]
    rw [Schema.gives_none_iff hs, hfs.byName hrest]
    exact and_and_and_comm
  byPlace js as := by
    rcases js with _ | ⟨j, js⟩
    · simp [recordsAt]
    · rw [recordsAt, List.forall_mem_append]
      simp only [Fills, List.head?_cons, List.tail_cons, List.map_cons]
      rw [Schema.gives_none_iff hs, hfs.byPlace]
      simp only [Option.map_some, Option.mem_def, Option.some.injEq, forall_eq']
      exact and_and_and_comm

/-- The value of an object has under the name of a field what the object has. -/
theorem awaits_canonicalMembers_iff {ms : List (String × Json)} {as : fs.Denote}
    (hms : fs.Once ms) :
    fs.Awaits ((Json.canonicalMembers [] ms).lookup ·) fs.unread as ↔
      fs.Awaits (fun k => (ms.lookup k).map Json.canonical) fs.unread as := by
  have hlookup (k : String) (hk : k ∈ fs.names) :
      (Json.canonicalMembers [] ms).lookup k = (ms.lookup k).map Json.canonical := by
    rw [Json.lookup_canonicalMembers_reverse, Json.lookup_reverse_of_count_le_one (hms k hk),
      List.lookup_nil, Option.or_none]
  exact ⟨fun h => h.congr fun k hk => (hlookup k hk).symm, fun h => h.congr hlookup⟩

end Fields

/-! ## Records -/

namespace Schema

variable {name : String} {fs : Fields}

theorem followsValue_record (hnames : fs.names.Nodup) (hfs : fs.FollowValue) :
    (record name fs).FollowsValue := by
  intro j as
  cases j with
  | array js =>
    rw [Json.canonical, Json.canonicalItems_eq_map, ofJson_record_array_iff,
      ofJson_record_array_iff, hfs.byPlace, Once, records]
  | object ms =>
    rw [Json.canonical, ofJson_record_iff hnames (Json.increasing_canonicalMembers ms).nodup,
      ofJson_record_object_iff hnames, Once, records, List.forall_mem_cons, and_left_comm]
    -- The value repeats no key, so a repeat is to be excluded of the document alone.
    refine and_congr_right fun hms => ?_
    rw [hfs.byName hms, Fields.awaits_canonicalMembers_iff hms]
  | _ => simp [ofJson, Json.canonical]

theorem followsValue_openRecord (hnames : fs.names.Nodup) (hfs : fs.FollowValue) :
    (openRecord name fs).FollowsValue := by
  rintro j ⟨as, extra⟩
  cases j with
  | object ms =>
    rw [Json.canonical, ofJson_openRecord_iff hnames (Json.increasing_canonicalMembers ms).nodup,
      ofJson_openRecord_object_iff hnames, Once, records, List.forall_mem_cons,
      @and_left_comm _ (fs.Once ms)]
    refine and_congr_right fun hms => ?_
    -- What is not known may be repeated: the last counts, before the value is made or after.
    have hextra : Object.ofMembers ((Json.canonicalMembers [] ms).filter fun m => m.1 ∉ fs.names) =
        Object.ofMembers (ms.filter fun m => m.1 ∉ fs.names) := by
      simp only [Object.ofMembers, Json.canonicalMembers_filter_canonicalMembers]
    rw [hfs.byName hms, Fields.awaits_canonicalMembers_iff hms, hextra, and_right_comm]
  | _ => simp [ofJson, Json.canonical]

end Schema

/-! ## All schemas -/

mutual

theorem Schema.followsValue : ∀ {s : Schema}, s.isDistinct = true → s.FollowsValue
  | .text, _ => Schema.followsValue_text
  | .flag, _ => Schema.followsValue_flag
  | .natural _, _ => Schema.followsValue_natural
  | .any, _ => Schema.followsValue_any
  | .label, _ => Schema.followsValue_label
  | .optional _, h => Schema.followsValue_optional (Schema.followsValue h)
  | .list _, h => Schema.followsValue_list (Schema.followsValue h)
  | .record _ _, h =>
    Schema.followsValue_record (Fields.nodup_of_isDistinct h) (Fields.followValue h)
  | .openRecord _ _, h =>
    Schema.followsValue_openRecord (Fields.nodup_of_isDistinct h) (Fields.followValue h)

theorem Fields.followValue : ∀ {fs : Fields}, fs.isDistinct = true → fs.FollowValue
  | .nil, _ => Fields.followValue_nil
  | .cons _ _ _ _, h => by
    simp only [Fields.isDistinct, Bool.and_eq_true, decide_eq_true_eq] at h
    exact Fields.followValue_cons (Schema.followsValue h.1.2) (Fields.followValue h.2)

end

/-- An element is read of a document as of its value, if no record in the document repeats a
    field, and cannot be read of it otherwise. -/
theorem Wire.ofJson_eq_ok_iff_ofValue {α : Type} [Wire α] {j : Json} {a : α}
    (h : (Wire.schema α).isDistinct = true) :
    Wire.ofJson j = .ok a ↔ Wire.ofValue (.ofJson j) = .ok a ∧ (Wire.schema α).Once j := by
  rw [Wire.ofValue, Wire.ofJson_eq_ok_iff, Wire.ofJson_eq_ok_iff]
  exact Schema.followsValue h j _

/-! ## What is written -/

mutual

theorem Schema.isDistinct_of_isRegular : ∀ {s : Schema}, s.isRegular = true → s.isDistinct = true
  | .text, _ | .flag, _ | .natural _, _ | .any, _ | .label, _ => rfl
  | .optional s, h => Schema.isDistinct_of_isRegular (s := s) h
  | .list s, h => Schema.isDistinct_of_isRegular (s := s) h
  | .record _ _, h => Fields.isDistinct_of_isRegular h
  | .openRecord _ _, h => by simp [Schema.isRegular] at h

theorem Fields.isDistinct_of_isRegular : ∀ {fs : Fields}, fs.isRegular = true →
    fs.isDistinct = true
  | .nil, _ => rfl
  | .cons _ _ _ _, h => by
    simp only [Fields.isRegular, Bool.and_eq_true] at h
    simp only [Fields.isDistinct, Bool.and_eq_true]
    exact ⟨⟨h.1.1.1, Schema.isDistinct_of_isRegular h.1.2⟩, Fields.isDistinct_of_isRegular h.2⟩

end

mutual

/-- No record is written with a field twice. -/
theorem Schema.once_toJson : ∀ {s : Schema} (a : s.Denote), s.isRegular = true →
    s.Once (s.toJson a)
  | .text, _, _ | .flag, _, _ | .natural _, _, _ | .any, _, _ | .label, _, _ => by
    simp [Schema.Once, Schema.records]
  | .optional _, none, _ => by simp [Schema.Once, Schema.toJson, Schema.records]
  | .optional s, some a, h => by
    have hs := Schema.once_toJson a h
    rw [Schema.toJson]
    -- In null there is no record.
    generalize s.toJson a = j at hs
    cases j with
    | null => simp [Schema.Once, Schema.records]
    | _ => exact hs
  | .list s, as, h => by
    intro r hr
    rw [Schema.toJson, Schema.records, List.mem_flatMap] at hr
    obtain ⟨j, hj, hr⟩ := hr
    obtain ⟨a, -, rfl⟩ := List.mem_map.1 hj
    exact Schema.once_toJson a h r hr
  | .record _ fs, as, h => by
    have hms : fs.Once (fs.toMembers as) := Fields.once_of_nodup
      ((Fields.nodup_names h).sublist (Fields.keys_toMembers_sublist fs as))
    rw [Schema.toJson, Schema.Once, Schema.records, List.forall_mem_cons]
    exact ⟨hms, Fields.once_recordsIn as h hms fun _ _ => rfl⟩
  | .openRecord _ _, _, h => by simp [Schema.isRegular] at h

/-- The same for records in the fields, in any members with what is written for the fields. -/
theorem Fields.once_recordsIn : ∀ {fs : Fields} {ms : List (String × Json)} (as : fs.Denote),
    fs.isRegular = true → fs.Once ms → (∀ k ∈ fs.names, ms.lookup k = (fs.toMembers as).lookup k) →
      ∀ r ∈ fs.recordsIn ms, r.fields.Once r.members
  | .nil, _, _, _, _, _ => by simp [Fields.recordsIn]
  | .cons name isRequired s fs, ms, (a, as), h, hms, hlookup => by
    simp only [Fields.isRegular, Bool.and_eq_true, decide_eq_true_eq] at h
    obtain ⟨⟨⟨hname, -⟩, hs⟩, hfs⟩ := h
    refine (Fields.once_recordsIn_cons_iff hms).2 ⟨fun j hj => ?_, ?_⟩
    · rw [hlookup name List.mem_cons_self, Fields.toMembers] at hj
      split at hj
      · rw [Json.lookup_cons_eq_ite, if_pos rfl] at hj
        exact Option.some.inj hj ▸ Schema.once_toJson a hs
      · rw [Fields.lookup_toMembers_eq_none as hname] at hj
        cases hj
    · refine Fields.once_recordsIn as hfs (fun k hk => hms k (List.mem_cons_of_mem _ hk))
        fun k hk => ?_
      have hne : k ≠ name := fun h => hname (h ▸ hk)
      rw [hlookup k (List.mem_cons_of_mem _ hk), Fields.lookup_toMembers_of_ne hne]

end

end Tether
