import Mathlib.Data.List.Nodup
import Tether.Pending

/-!
# The entries of a table

A table of pending requests is known by its entries. As no two of them have one id, those
under an id are the one that is looked up, or none.

* `get?_eq_some_iff`, `contains_eq_true_iff`: what is looked up, by the entries;
* `entries_of_register`, `register_eq_error_iff`: when a request becomes pending;
* `filter_entries_eq_toList`: the entries under an id.
-/

namespace Tether.Pending.Table

variable {κ : Type} {t t' : Table κ} {id : RequestId} {k : κ}

theorem eq_empty (h : t.entries = []) : t = .empty := by
  cases t
  cases h
  rfl

theorem contains_eq_true_iff : t.contains id = true ↔ id ∈ t.entries.map Prod.fst := by
  simp [contains, List.any_eq_true]

/-! ## Registering -/

/-- A request is registered if its id is not pending; its entry is then the last one. -/
theorem entries_of_register (h : t.register id k = .ok t') :
    t.contains id = false ∧ t'.entries = t.entries ++ [(id, k)] := by
  rw [register] at h
  split at h
  · cases h
  · rename_i hc
    cases h
    exact ⟨by simpa using hc, rfl⟩

theorem register_eq_error_iff {e : Failure} :
    t.register id k = .error e ↔
      t.contains id = true ∧ e = .protocol s!"duplicate request id: {id.text}" := by
  rw [register]
  split
  · rename_i hc
    simp [hc, eq_comm]
  · rename_i hc
    simp [hc]

theorem contains_of_register_error {e : Failure} (h : t.register id k = .error e) :
    t.contains id = true :=
  (register_eq_error_iff.1 h).1

/-! ## Looking up -/

theorem mem_of_get?_eq_some (h : t.get? id = some k) : (id, k) ∈ t.entries := by
  obtain ⟨before, after, hentries, -⟩ := List.lookup_eq_some_iff.1 h
  rw [hentries]
  exact List.mem_append_right _ List.mem_cons_self

theorem ne_of_get?_eq_none (h : t.get? id = none) {e : RequestId × κ} (he : e ∈ t.entries) :
    e.1 ≠ id := by
  rintro rfl
  simpa using List.lookup_eq_none_iff.1 h e he

theorem contains_of_get?_eq_none (h : t.get? id = none) : t.contains id = false := by
  rw [← Bool.not_eq_true, contains_eq_true_iff, List.mem_map]
  rintro ⟨e, he, hid⟩
  exact ne_of_get?_eq_none h he hid

theorem contains_of_get?_eq_some (h : t.get? id = some k) : t.contains id = true :=
  contains_eq_true_iff.2 (List.mem_map_of_mem (mem_of_get?_eq_some h))

theorem contains_eq_isSome : t.contains id = (t.get? id).isSome := by
  cases h : t.get? id with
  | none => exact contains_of_get?_eq_none h
  | some k => exact contains_of_get?_eq_some h

/-- What is looked up is the entry under the id. -/
theorem get?_eq_some_iff : t.get? id = some k ↔ (id, k) ∈ t.entries := by
  refine ⟨mem_of_get?_eq_some, fun h => ?_⟩
  cases hget : t.get? id with
  | none => exact absurd rfl (ne_of_get?_eq_none hget h)
  | some k' =>
    have heq := List.inj_on_of_nodup_map t.nodup_ids (mem_of_get?_eq_some hget) h rfl
    rw [(Prod.mk.inj heq).2]

/-- The entries under an id. -/
theorem filter_entries_eq_toList :
    t.entries.filter (fun e => e.1 = id) = ((t.get? id).map fun k => (id, k)).toList := by
  cases hget : t.get? id with
  | none => exact List.filter_eq_nil_iff.2 fun e he => by simpa using ne_of_get?_eq_none hget he
  | some k =>
    have hnodup := t.nodup_ids.of_map.filter fun e => e.1 = id
    refine (List.perm_singleton.1 ((List.perm_ext_iff_of_nodup hnodup (by simp)).2 fun e => ?_))
    rw [List.mem_filter, List.mem_singleton]
    constructor
    · rintro ⟨he, hid⟩
      obtain rfl : e.1 = id := of_decide_eq_true hid
      exact List.inj_on_of_nodup_map t.nodup_ids he (mem_of_get?_eq_some hget) rfl
    · rintro rfl
      exact ⟨mem_of_get?_eq_some hget, by simp⟩

/-- With its id, one request goes. -/
theorem size_erase (h : (id, k) ∈ t.entries) : (t.erase id).size + 1 = t.size := by
  have hone : t.entries.countP (fun e => e.1 = id) = 1 := by
    rw [← List.count_eq_one_of_mem t.nodup_ids (List.mem_map_of_mem h), List.count, List.countP_map]
    rfl
  have hall := List.length_eq_countP_add_countP (fun e => e.1 = id) (l := t.entries)
  rw [size, size, erase, ← List.countP_eq_length_filter, hall, hone, Nat.add_comm]
  simp

end Tether.Pending.Table
