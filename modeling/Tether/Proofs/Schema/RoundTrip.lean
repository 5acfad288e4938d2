import Mathlib.Data.List.Forall2
import Tether.Proofs.Json.Members
import Tether.Schema.Basic

/-!
# Values, read as they are written

The fields of a record are read by name: their order in the document does not matter,
nor do other members. So a value is read back from the canonical document of what is
written for it, but for what may be null: what is present and writes null is read as
absent.

* `Fields.Awaits`: what the members that are left, by name, make of the fields that have
  been read so far;
* `Fields.Once`: no field is repeated;
* `Fields.foldlM_enter`: reading them all makes just that;
* `Schema.isRegular`: the schemas for which this works;
* `Schema.tidy`: the value with such nulls absent;
* `Schema.ofJson_toJson`: a value is read back tidy.
-/

namespace Tether

/-! ## Outcomes -/

theorem map_eq_ok_iff {ε α β : Type} {f : α → β} {r : Except ε α} {b : β} :
    r.map f = .ok b ↔ ∃ a, r = .ok a ∧ f a = b := by
  cases r <;> simp [Except.map]

theorem mapError_eq_ok_iff {ε ε' α : Type} {f : ε → ε'} {r : Except ε α} {a : α} :
    r.mapError f = .ok a ↔ r = .ok a := by
  cases r <;> simp [Except.mapError]

theorem bind_eq_ok_iff {ε α β : Type} {r : Except ε α} {f : α → Except ε β} {b : β} :
    r >>= f = .ok b ↔ ∃ a, r = .ok a ∧ f a = .ok b := by
  rcases r with e | a
  · simp [bind, Except.bind]
  · simp [bind, Except.bind]

/-- What is read of a list is read of its items in turn. -/
theorem mapM_eq_ok_iff {ε α β : Type} {f : α → Except ε β} {xs : List α} {ys : List β} :
    xs.mapM f = .ok ys ↔ List.Forall₂ (fun x y => f x = .ok y) xs ys := by
  induction xs generalizing ys with
  | nil =>
    rw [List.mapM_nil, List.forall₂_nil_left_iff, eq_comm]
    exact Except.ok.injEq ys [] ▸ Iff.rfl
  | cons x xs ih =>
    rw [List.mapM_cons, List.forall₂_cons_left_iff]
    simp only [bind_eq_ok_iff, ih]
    constructor
    · rintro ⟨y, hy, ys, hys, ⟨⟩⟩
      exact ⟨y, ys, hy, hys, rfl⟩
    · rintro ⟨y, ys, hy, hys, rfl⟩
      exact ⟨y, hy, ys, hys, rfl⟩

/-! ## Reading by name -/

/-- Whether a field has the value, after what is left for it has been read. -/
def Schema.Gives (s : Schema) (isRequired : Bool) :
    Option s.Denote → Option Json → s.Denote → Prop
  | some b, none, a => b = a
  | none, some j, a => s.ofJson j = .ok a
  | none, none, a => isRequired = false ∧ a = s.blank
  | some _, some _, _ => False

namespace Fields

/-- Whether the fields have the values, after what is left under their names has been
    read. -/
def Awaits (look : String → Option Json) : (fs : Fields) → fs.Slots → fs.Denote → Prop
  | .nil, _, _ => True
  | .cons name isRequired s fs, (slot, slots), (a, as) =>
    s.Gives isRequired slot (look name) a ∧ fs.Awaits look slots as

theorem Awaits.congr {look look' : String → Option Json} : ∀ {fs : Fields} {slots : fs.Slots}
    {as : fs.Denote}, fs.Awaits look slots as → (∀ k ∈ fs.names, look' k = look k) →
      fs.Awaits look' slots as
  | .nil, _, _, _, _ => trivial
  | .cons name isRequired s fs, (slot, slots), (a, as), ⟨h, hs⟩, hlook => by
    refine ⟨?_, hs.congr fun k hk => hlook k (List.mem_cons_of_mem _ hk)⟩
    rwa [hlook name List.mem_cons_self]

/-- Once nothing is left, the record is complete. -/
theorem Awaits.close : ∀ {fs : Fields} {slots : fs.Slots} {as : fs.Denote},
    fs.Awaits (fun _ => none) slots as → fs.close slots = .ok as
  | .nil, _, _, _ => rfl
  | .cons name isRequired s fs, (some b, slots), (a, as), ⟨h, hs⟩ => by
    obtain rfl : b = a := h
    simp only [Fields.close, hs.close]
  | .cons name isRequired s fs, (none, slots), (a, as), ⟨h, hs⟩ => by
    obtain ⟨rfl, rfl⟩ := h
    simp only [Fields.close, hs.close, Bool.false_eq_true, if_false]

/-- Reading what is under a key leaves the rest. -/
theorem Awaits.enter {look : String → Option Json} {key : String} {j : Json}
    (hkey : look key = some j) : ∀ {fs : Fields} {slots : fs.Slots} {as : fs.Denote},
      fs.names.Nodup → fs.Awaits look slots as →
      ∃ slots', (fs.enter key j slots).getD (.ok slots) = .ok slots' ∧
        fs.Awaits (fun k => if k = key then none else look k) slots' as
  | .nil, slots, _, _, _ => ⟨slots, rfl, trivial⟩
  | .cons name isRequired s fs, (slot, slots), (a, as), hnames, ⟨h, hs⟩ => by
    obtain ⟨hname, hnames⟩ := List.nodup_cons.1 hnames
    by_cases hk : key = name
    · subst hk
      rw [hkey] at h
      cases slot with
      | some b => exact h.elim
      | none =>
        have hread : s.ofJson j = .ok a := h
        refine ⟨(some a, slots), ?_, ?_, hs.congr fun k hk => if_neg ?_⟩
        · simp only [Fields.enter, if_true, hread]
          rfl
        · show s.Gives isRequired (some a) (if key = key then none else look key) a
          rw [if_pos rfl]
          exact rfl
        · exact fun hkk => hname (hkk ▸ hk)
    · obtain ⟨slots', henter, hs'⟩ := hs.enter hkey hnames
      refine ⟨(slot, slots'), ?_, ?_, hs'⟩
      · simp only [Fields.enter, if_neg hk]
        cases hr : fs.enter key j slots with
        | none =>
          rw [hr] at henter
          cases henter
          rfl
        | some r =>
          rw [hr] at henter
          cases henter
          rfl
      · show s.Gives isRequired slot (if name = key then none else look name) a
        rw [if_neg (Ne.symm hk)]
        exact h

/-- No field is there more than once. -/
def Once (fs : Fields) (ms : List (String × Json)) : Prop :=
  ∀ name ∈ fs.names, (ms.map Prod.fst).count name ≤ 1

theorem once_of_nodup {fs : Fields} {ms : List (String × Json)} (hms : (ms.map Prod.fst).Nodup) :
    fs.Once ms :=
  fun name _ => List.nodup_iff_count_le_one.1 hms name

theorem once_cons_iff {fs : Fields} {ms : List (String × Json)} {key : String} {j : Json} :
    fs.Once ((key, j) :: ms) ↔ (key ∈ fs.names → ms.lookup key = none) ∧ fs.Once ms := by
  simp only [Once, Json.lookup_eq_none_iff_not_mem, ← List.count_eq_zero, List.map_cons]
  constructor
  · intro h
    refine ⟨fun hkey => ?_, fun name hname => ?_⟩
    · have := h key hkey
      rw [List.count_cons_self] at this
      exact Nat.le_zero.1 (Nat.le_of_succ_le_succ this)
    · exact Nat.le_trans List.count_le_count_cons (h name hname)
  · rintro ⟨hkey, hms⟩ name hname
    by_cases hname' : key = name
    · subst hname'
      simp [hkey hname]
    · rw [List.count_cons_of_ne hname']
      exact hms name hname

/-- Reading all members completes the record. -/
theorem foldlM_enter {fs : Fields} {slots : fs.Slots} {as : fs.Denote}
    {ms : List (String × Json)} (hnames : fs.names.Nodup) (hms : fs.Once ms)
    (h : fs.Awaits (ms.lookup ·) slots as) :
    ∃ slots', ms.foldlM (fun slots m => (fs.enter m.1 m.2 slots).getD (.ok slots)) slots =
      .ok slots' ∧ fs.close slots' = .ok as := by
  induction ms generalizing slots with
  | nil => exact ⟨slots, rfl, h.close⟩
  | cons m ms ih =>
    obtain ⟨key, j⟩ := m
    obtain ⟨hkey, hms⟩ := once_cons_iff.1 hms
    have hlookup : ((key, j) :: ms).lookup key = some j := by
      rw [Json.lookup_cons_eq_ite, if_pos rfl]
    obtain ⟨slots', henter, hs⟩ := h.enter hlookup hnames
    -- Without the first key, the members have what the rest of them has.
    have hrest : fs.Awaits (ms.lookup ·) slots' as := by
      refine hs.congr fun k hk' => ?_
      by_cases hk : k = key
      · rw [if_pos hk, hk]
        exact hkey (hk ▸ hk')
      · rw [if_neg hk, Json.lookup_cons_eq_ite, if_neg hk]
    obtain ⟨slots'', hfold, hclose⟩ := ih hms hrest
    refine ⟨slots'', ?_, hclose⟩
    rw [List.foldlM_cons, henter]
    exact hfold

/-- The same for members that may have any order. -/
theorem foldlM_canonicalMembers {fs : Fields} {as : fs.Denote} {ms : List (String × Json)}
    (hnames : fs.names.Nodup) (hms : (ms.map Prod.fst).Nodup)
    (h : fs.Awaits (fun k => (ms.lookup k).map Json.canonical) fs.unread as) :
    ∃ slots, (Json.canonicalMembers [] ms).foldlM
      (fun slots m => (fs.enter m.1 m.2 slots).getD (.ok slots)) fs.unread = .ok slots ∧
        fs.close slots = .ok as := by
  refine foldlM_enter hnames (once_of_nodup (Json.increasing_canonicalMembers ms).nodup)
    (h.congr fun k _ => ?_)
  rw [Json.lookup_canonicalMembers hms, List.lookup_nil, Option.or_none]

end Fields

theorem Schema.ofJson_record {name : String} {fs : Fields} {as : fs.Denote}
    {ms : List (String × Json)} (hnames : fs.names.Nodup) (hms : (ms.map Prod.fst).Nodup)
    (h : fs.Awaits (fun k => (ms.lookup k).map Json.canonical) fs.unread as) :
    (Schema.record name fs).ofJson (Json.object ms).canonical = .ok as := by
  obtain ⟨slots, hfold, hclose⟩ := Fields.foldlM_canonicalMembers hnames hms h
  rw [Json.canonical, Schema.ofJson]
  simp only [hfold, hclose]

theorem Schema.ofJson_openRecord {name : String} {fs : Fields} {as : fs.Denote}
    {ms : List (String × Json)} (hnames : fs.names.Nodup) (hms : (ms.map Prod.fst).Nodup)
    (h : fs.Awaits (fun k => (ms.lookup k).map Json.canonical) fs.unread as) :
    (Schema.openRecord name fs).ofJson (Json.object ms).canonical =
      .ok (as, .ofMembers ((Json.canonicalMembers [] ms).filter fun m => m.1 ∉ fs.names)) := by
  obtain ⟨slots, hfold, hclose⟩ := Fields.foldlM_canonicalMembers hnames hms h
  rw [Json.canonical, Schema.ofJson]
  simp only [hfold, hclose]
  rfl

/-- What an open record keeps is what it does not know. -/
theorem Schema.snd_of_ofJson_openRecord {name : String} {fs : Fields} {ms : List (String × Json)}
    {a : (Schema.openRecord name fs).Denote}
    (h : (Schema.openRecord name fs).ofJson (.object ms) = .ok a) :
    a.2 = .ofMembers (ms.filter fun m => m.1 ∉ fs.names) := by
  rw [Schema.ofJson] at h
  split at h
  · obtain ⟨as, -, rfl⟩ := map_eq_ok_iff.1 h
    rfl
  · cases h

/-! ## Reading what is written -/

/-- Whether every value of the schema is written. -/
def Schema.isWritten : Schema → Bool
  | .optional _ => false
  | _ => true

mutual

/-- Whether a schema has no open records, and no record with two fields of one name or with
    a field that must be there and yet may be absent. -/
def Schema.isRegular : Schema → Bool
  | .optional s => s.isRegular
  | .list s => s.isRegular
  | .record _ fs => fs.isRegular
  | .openRecord _ _ => false
  | _ => true

/-- The same for fields. -/
def Fields.isRegular : Fields → Bool
  | .nil => true
  | .cons name isRequired s fs =>
    name ∉ fs.names && (!isRequired || s.isWritten) && s.isRegular && fs.isRegular

end

mutual

/-- The value in which all is absent that is present and writes null. -/
def Schema.tidy : (s : Schema) → s.Denote → s.Denote
  | .text, a => a
  | .flag, a => a
  | .natural _, a => a
  | .any, a => a
  | .label, a => a
  | .optional s, a =>
    match a with
    | some a => if s.toJson a = .null then none else some (s.tidy a)
    | none => none
  | .list s, a => a.map s.tidy
  | .record _ fs, a => fs.tidy a
  | .openRecord _ fs, a => (fs.tidy a.1, a.2)

/-- The values of all fields in turn. -/
def Fields.tidy : (fs : Fields) → fs.Denote → fs.Denote
  | .nil, _ => ()
  | .cons _ _ s fs, a => (s.tidy a.1, fs.tidy a.2)

end

theorem Width.ofInteger?_toInteger (w : Width) (a : w.Word) :
    w.ofInteger? (w.toInteger a) = some a := by
  cases w with
  | bits32 =>
    have := UInt32.toNat_lt a
    simp [ofInteger?, toInteger, Integer.toUInt32?, Integer.ofUInt32]
    omega
  | bits64 => simp [ofInteger?, toInteger, Integer.toUInt64?, Integer.ofUInt64]
  | size => simp [ofInteger?, toInteger, Integer.toUInt64?, Integer.ofUInt64]

theorem Json.canonicalItems_eq_map (js : List Json) :
    Json.canonicalItems js = js.map Json.canonical := by
  induction js with
  | nil => rw [Json.canonicalItems, List.map_nil]
  | cons j js ih => rw [Json.canonicalItems, ih, List.map_cons]

theorem Json.canonical_eq_null_iff {j : Json} : j.canonical = .null ↔ j = .null := by
  cases j <;> simp [Json.canonical]

theorem Schema.ofJson_optional_of_ne_null {s : Schema} {j : Json} (hj : j ≠ .null) :
    (Schema.optional s).ofJson j = (s.ofJson j).map some := by
  rw [Schema.ofJson]
  exact hj

namespace Fields

theorem nodup_names : ∀ {fs : Fields}, fs.isRegular = true → fs.names.Nodup
  | .nil, _ => .nil
  | .cons name isRequired s fs, h => by
    simp only [isRegular, Bool.and_eq_true, decide_eq_true_eq] at h
    exact List.nodup_cons.2 ⟨h.1.1.1, nodup_names h.2⟩

/-- What is written has the names of fields, in their order. -/
theorem keys_toMembers_sublist : ∀ (fs : Fields) (as : fs.Denote),
    ((fs.toMembers as).map Prod.fst).Sublist fs.names
  | .nil, _ => .refl _
  | .cons name isRequired s fs, (a, as) => by
    rw [toMembers]
    split
    · exact (keys_toMembers_sublist fs as).cons_cons name
    · exact (keys_toMembers_sublist fs as).cons name

theorem lookup_toMembers_eq_none {fs : Fields} (as : fs.Denote) {k : String} (hk : k ∉ fs.names) :
    (fs.toMembers as).lookup k = none :=
  Json.lookup_eq_none_iff_not_mem.2 fun h => hk ((keys_toMembers_sublist fs as).subset h)

section

variable {name key : String} {isRequired : Bool} {s : Schema} {fs : Fields}

/-- What is written under another name than that of the first field is written of the others. -/
@[simp]
theorem lookup_toMembers_of_ne {as : (cons name isRequired s fs).Denote} (hkey : key ≠ name) :
    ((cons name isRequired s fs).toMembers as).lookup key = (fs.toMembers as.2).lookup key := by
  rw [toMembers]
  split
  · rw [Json.lookup_cons_eq_ite, if_neg hkey]
  · rfl

/-- What is written under the name of an optional field is written of what is there. -/
@[simp]
theorem lookup_toMembers_optional {as : (optional name s fs).Denote} (hname : name ∉ fs.names) :
    ((optional name s fs).toMembers as).lookup name = as.1.map s.toJson := by
  obtain ⟨_ | a, as⟩ := as
  · exact lookup_toMembers_eq_none as hname
  · exact List.lookup_cons_self

/-- What is written of an optional field and others is written of what is there and of those. -/
theorem forall_mem_toMembers_optional {p : Json → Prop} {as : (optional name s fs).Denote} :
    (∀ m ∈ (optional name s fs).toMembers as, p m.2) ↔
      (∀ a, as.1 = some a → p (s.toJson a)) ∧ ∀ m ∈ fs.toMembers as.2, p m.2 := by
  obtain ⟨_ | a, as⟩ := as
  · simp [toMembers, Schema.isPresent]
  · simp [toMembers, Schema.isPresent, Schema.toJson]

end

end Fields

mutual

/-- A value is read back tidy. -/
theorem Schema.ofJson_toJson : ∀ (s : Schema) (a : s.Denote), s.isRegular = true →
    s.ofJson (s.toJson a).canonical = .ok (s.tidy a)
  | .text, a, _ => by simp [Schema.toJson, Json.canonical, Schema.ofJson, Schema.tidy]
  | .flag, a, _ => by simp [Schema.toJson, Json.canonical, Schema.ofJson, Schema.tidy]
  | .natural w, a, _ => by
    simp [Schema.toJson, Json.canonical, Schema.ofJson, Schema.tidy, w.ofInteger?_toInteger a]
  | .any, a, _ => by
    simp [Schema.toJson, Schema.ofJson, Schema.tidy, Json.canonical_eq_self a.ordered]
  | .label, a, _ => by simp [Schema.toJson, Json.canonical, Schema.ofJson, Schema.tidy]
  | .optional s, none, _ => by simp [Schema.toJson, Json.canonical, Schema.ofJson, Schema.tidy]
  | .optional s, some a, h => by
    rw [Schema.isRegular] at h
    rw [Schema.toJson, Schema.tidy]
    by_cases hnull : s.toJson a = .null
    · simp [hnull, Json.canonical, Schema.ofJson]
    · rw [Schema.ofJson_optional_of_ne_null (mt Json.canonical_eq_null_iff.1 hnull),
        Schema.ofJson_toJson s a h, if_neg hnull]
      rfl
  | .list s, as, h => by
    rw [Schema.isRegular] at h
    rw [Schema.toJson, Schema.tidy, Json.canonical, Json.canonicalItems_eq_map, Schema.ofJson,
      mapM_eq_ok_iff, List.forall₂_map_left_iff, List.forall₂_map_left_iff,
      List.forall₂_map_right_iff]
    exact List.forall₂_same.2 fun a _ => Schema.ofJson_toJson s a h
  | .record name fs, as, h => by
    rw [Schema.isRegular] at h
    rw [Schema.toJson, Schema.tidy]
    exact Schema.ofJson_record (Fields.nodup_names h)
      ((Fields.nodup_names h).sublist (Fields.keys_toMembers_sublist fs as))
      (Fields.awaits_toMembers fs as _ h fun _ _ => rfl)
  | .openRecord _ _, _, h => by simp [Schema.isRegular] at h

/-- The fields of a record are read back tidy, from anything with the same under their
    names. -/
theorem Fields.awaits_toMembers : ∀ (fs : Fields) (as : fs.Denote) (look : String → Option Json),
    fs.isRegular = true →
      (∀ k ∈ fs.names, look k = ((fs.toMembers as).lookup k).map Json.canonical) →
      fs.Awaits look fs.unread (fs.tidy as)
  | .nil, _, _, _, _ => trivial
  | .cons name isRequired s fs, (a, as), look, h, hlook => by
    simp only [Fields.isRegular, Bool.and_eq_true, decide_eq_true_eq] at h
    obtain ⟨⟨⟨hname, hrequired⟩, hs⟩, hfs⟩ := h
    refine ⟨?_, Fields.awaits_toMembers fs as look hfs fun k hk => ?_⟩
    · rw [hlook name List.mem_cons_self, Fields.toMembers]
      split
      · rw [Json.lookup_cons_eq_ite, if_pos rfl]
        exact Schema.ofJson_toJson s a hs
      · rename_i hpresent
        rw [Fields.lookup_toMembers_eq_none as hname]
        -- Only optional values may be absent, and their field need not be there.
        cases s with
        | optional s =>
          cases a with
          | none =>
            refine ⟨by simpa [Schema.isWritten] using hrequired, ?_⟩
            rw [Schema.tidy, Schema.blank]
          | some a => simp [Schema.isPresent] at hpresent
        | _ => simp [Schema.isPresent] at hpresent
    · have hne : k ≠ name := fun h => hname (h ▸ hk)
      rw [hlook k (List.mem_cons_of_mem _ hk), Fields.toMembers]
      split
      · rw [Json.lookup_cons_eq_ite, if_neg hne]
      · rfl

end

end Tether
