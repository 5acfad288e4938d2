import Tether.Proofs.Schema.RoundTrip
import Tether.Wire

/-!
# What is read of a record

A record that is read from the members of an object has, in each field, what is under its
name, and a record that is read from the items of an array what is in its place. So what
makes a record of such members is settled by `Fields.Once` and `Fields.Awaits`, in both
directions, and what makes one of such items by `Fields.Fills`.

* `Fields.foldlM_enter_iff`, `Schema.ofJson_record_object_iff`,
  `Schema.ofJson_openRecord_object_iff`: by name;
* `Fields.ofItems_eq_ok_iff`: by place;
* `Wire.ofJson_eq_ok_iff`: the parts of an element are what is read of it.
-/

namespace Tether

namespace Fields

/-! ## By name -/

/-- A record that is complete was completed by what has been read. -/
theorem awaits_of_close : ∀ {fs : Fields} {slots : fs.Slots} {as : fs.Denote},
    fs.close slots = .ok as → fs.Awaits (fun _ => none) slots as
  | .nil, _, _, _ => trivial
  | .cons name isRequired s fs, (slot, slots), (a, as), h => by
    rcases slot with _ | b
    · simp only [close] at h
      split_ifs at h with hrequired
      rcases hclose : fs.close slots with e | bs
      · rw [hclose] at h
        cases h
      · rw [hclose] at h
        cases h
        exact ⟨⟨by simpa using hrequired, rfl⟩, awaits_of_close hclose⟩
    · simp only [close] at h
      rcases hclose : fs.close slots with e | bs
      · rw [hclose] at h
        cases h
      · rw [hclose] at h
        cases h
        exact ⟨rfl, awaits_of_close hclose⟩

/-- Before a member was read, the record waited for what is under its key, and no more of that
    field was left. -/
theorem awaits_of_enter {look : String → Option Json} {key : String} {j : Json} :
    ∀ {fs : Fields} {slots slots' : fs.Slots} {as : fs.Denote},
      fs.names.Nodup → (fs.enter key j slots).getD (.ok slots) = .ok slots' →
        fs.Awaits look slots' as →
          (key ∈ fs.names → look key = none) ∧
            fs.Awaits (fun k => if k = key then some j else look k) slots as
  | .nil, _, _, _, _, _, _ => ⟨fun h => absurd h List.not_mem_nil, trivial⟩
  | .cons name isRequired s fs, (slot, slots), (slot', slots'), (a, as), hnames, henter, hs => by
    obtain ⟨hname, hnames⟩ := List.nodup_cons.1 hnames
    simp only [enter] at henter
    split_ifs at henter with hk
    · -- The member is that of the first field, which has not been read before.
      subst hk
      rcases slot with _ | b
      · obtain ⟨b, hread, hslots⟩ := map_eq_ok_iff.1 henter
        cases hslots
        obtain ⟨hgives, hs⟩ := hs
        rcases hkey : look key with _ | i
        · rw [hkey] at hgives
          obtain rfl : b = a := hgives
          refine ⟨fun _ => rfl, ?_, hs.congr fun k hk => if_neg ?_⟩
          · show s.Gives isRequired none (if key = key then some j else look key) b
            rw [if_pos rfl]
            exact hread
          · exact fun h => hname (h ▸ hk)
        · rw [hkey] at hgives
          exact hgives.elim
      · cases henter
    · obtain ⟨hrest, rfl⟩ : (fs.enter key j slots).getD (.ok slots) = .ok slots' ∧
          slot' = slot := by
        rcases hr : fs.enter key j slots with _ | r
        · rw [hr] at henter
          cases henter
          exact ⟨rfl, rfl⟩
        · rw [hr] at henter
          obtain ⟨slots'', hslots'', heq⟩ := map_eq_ok_iff.1 henter
          cases heq
          exact ⟨hslots'', rfl⟩
      obtain ⟨hgives, hs⟩ := hs
      obtain ⟨hkey, hs⟩ := awaits_of_enter hnames hrest hs
      refine ⟨fun h => hkey ((List.mem_cons.1 h).resolve_left hk), ?_, hs⟩
      show s.Gives isRequired slot' (if name = key then some j else look name) a
      rw [if_neg (Ne.symm hk)]
      exact hgives

/-- Reading all members makes just the record that waits for them, if no field is repeated, and
    fails otherwise. -/
theorem foldlM_enter_iff {fs : Fields} {slots : fs.Slots} {as : fs.Denote}
    {ms : List (String × Json)} (hnames : fs.names.Nodup) :
    (∃ slots', ms.foldlM (fun slots m => (fs.enter m.1 m.2 slots).getD (.ok slots)) slots =
      .ok slots' ∧ fs.close slots' = .ok as) ↔
        fs.Once ms ∧ fs.Awaits (ms.lookup ·) slots as := by
  refine ⟨?_, fun ⟨hms, h⟩ => foldlM_enter hnames hms h⟩
  rintro ⟨slots', hfold, hclose⟩
  induction ms generalizing slots with
  | nil =>
    cases hfold
    exact ⟨once_of_nodup List.nodup_nil, awaits_of_close hclose⟩
  | cons m ms ih =>
    obtain ⟨key, j⟩ := m
    rw [List.foldlM_cons] at hfold
    rcases henter : (fs.enter key j slots).getD (.ok slots) with e | slots₁
    · rw [henter] at hfold
      cases hfold
    · rw [henter] at hfold
      obtain ⟨hms, hrest⟩ := ih hfold
      obtain ⟨hkey, hs⟩ := awaits_of_enter hnames henter hrest
      refine ⟨once_cons_iff.2 ⟨hkey, hms⟩, hs.congr fun k _ => ?_⟩
      rw [Json.lookup_cons_eq_ite]

/-! ## By place -/

/-- Whether the fields have the values, after what is in their places has been read. -/
def Fills : (fs : Fields) → List Json → fs.Denote → Prop
  | .nil, js, _ => js = []
  | .cons _ isRequired s fs, js, (a, as) =>
    s.Gives isRequired none js.head? a ∧ fs.Fills js.tail as

variable {record : String} {count size : Nat}

theorem cut_eq_ok_iff : ∀ {fs : Fields} {index : Nat} {as : fs.Denote},
    fs.cut record size index = .ok as ↔ fs.Fills [] as
  | .nil, _, _ => ⟨fun _ => rfl, fun _ => rfl⟩
  | .cons name isRequired s fs, index, (a, as) => by
    rw [cut]
    rcases isRequired with _ | _
    · have ih : fs.cut record size (index + 1) = .ok as ↔ fs.Fills [] as := cut_eq_ok_iff
      rcases hcut : fs.cut record size (index + 1) with e | as'
      · rw [hcut] at ih
        simp [Fills, Schema.Gives, ← ih]
      · rw [hcut] at ih
        simp [Fills, Schema.Gives, ← ih, eq_comm]
    · simp [Fills, Schema.Gives]

/-- Reading all items makes just the record that they fill. -/
theorem ofItems_eq_ok_iff : ∀ {fs : Fields} {index : Nat} {js : List Json} {as : fs.Denote},
    fs.ofItems record count size index js = .ok as ↔ fs.Fills js as
  | .nil, _, [], _ => by simp [ofItems, Fills]
  | .nil, _, _ :: _, _ => by simp [ofItems, Fills]
  | .cons name isRequired s fs, index, [], _ => by
    rw [ofItems]
    exact cut_eq_ok_iff
  | .cons name isRequired s fs, index, j :: js, (a, as) => by
    have ih : fs.ofItems record count size (index + 1) js = .ok as ↔ fs.Fills js as :=
      ofItems_eq_ok_iff
    rw [ofItems]
    rcases hread : s.ofJson j with e | b
    · simp [Fills, Schema.Gives, hread]
    · rcases hrest : fs.ofItems record count size (index + 1) js with e | bs
      · rw [hrest] at ih
        simp [Fills, Schema.Gives, ← ih]
      · rw [hrest] at ih
        simp [Fills, Schema.Gives, hread, ← ih]

end Fields

/-! ## Records -/

namespace Schema

variable {name : String} {fs : Fields} {as : fs.Denote} {ms : List (String × Json)}

theorem ofJson_record_object_iff (hnames : fs.names.Nodup) :
    (record name fs).ofJson (.object ms) = .ok as ↔
      fs.Once ms ∧ fs.Awaits (ms.lookup ·) fs.unread as := by
  rw [← Fields.foldlM_enter_iff hnames, ofJson]
  split
  · rename_i slots hfold
    simp [hfold]
  · rename_i e hfold
    simp [hfold]

theorem ofJson_record_iff (hnames : fs.names.Nodup) (hms : (ms.map Prod.fst).Nodup) :
    (record name fs).ofJson (.object ms) = .ok as ↔
      fs.Awaits (ms.lookup ·) fs.unread as := by
  rw [ofJson_record_object_iff hnames, and_iff_right (Fields.once_of_nodup hms)]

theorem ofJson_record_array_iff {js : List Json} :
    (record name fs).ofJson (.array js) = .ok as ↔ fs.Fills js as := by
  rw [ofJson]
  exact Fields.ofItems_eq_ok_iff

theorem ofJson_openRecord_object_iff (hnames : fs.names.Nodup) {extra : Object} :
    (openRecord name fs).ofJson (.object ms) = .ok (as, extra) ↔
      fs.Once ms ∧ fs.Awaits (ms.lookup ·) fs.unread as ∧
        extra = .ofMembers (ms.filter fun m => m.1 ∉ fs.names) := by
  rw [← and_assoc, ← Fields.foldlM_enter_iff hnames, ofJson]
  split
  · rename_i slots hfold
    rw [map_eq_ok_iff]
    simp [hfold, eq_comm]
  · rename_i e hfold
    simp [hfold]

theorem ofJson_openRecord_iff (hnames : fs.names.Nodup) (hms : (ms.map Prod.fst).Nodup)
    {extra : Object} :
    (openRecord name fs).ofJson (.object ms) = .ok (as, extra) ↔
      fs.Awaits (ms.lookup ·) fs.unread as ∧
        extra = .ofMembers (ms.filter fun m => m.1 ∉ fs.names) := by
  rw [ofJson_openRecord_object_iff hnames, and_iff_right (Fields.once_of_nodup hms)]

end Schema

theorem Wire.ofJson_eq_ok_iff {α : Type} [Wire α] {j : Json} {a : α} :
    Wire.ofJson j = .ok a ↔ (Wire.schema α).ofJson j = .ok (Wire.parts a) := by
  rw [Wire.ofJson, map_eq_ok_iff]
  constructor
  · rintro ⟨d, hread, rfl⟩
    rw [Wire.parts_build, hread]
  · exact fun hread => ⟨_, hread, Wire.build_parts a⟩

end Tether
