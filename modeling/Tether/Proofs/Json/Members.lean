import Mathlib.Data.List.Nodup
import Tether.Json.Value

/-!
# Members by key

Lists of members with different keys are known by what they have under each key.

* `lookup_canonicalMembers`: the ordered members have the same under each key;
* `eq_of_lookup_eq`: with increasing keys, the list is determined by that.
-/

namespace Tether.Json

variable {α : Type} {ms ns : List (String × α)} {key k : String} {value : α}

theorem lookup_cons_eq_ite :
    ((key, value) :: ms).lookup k = if k = key then some value else ms.lookup k := by
  rw [List.lookup_cons]
  by_cases h : k = key
  · simp [h]
  · rw [beq_eq_false_iff_ne.2 h, if_neg h]

theorem lookup_insertMember :
    (insertMember key value ms).lookup k = if k = key then some value else ms.lookup k := by
  induction ms with
  | nil => exact lookup_cons_eq_ite
  | cons m ms ih =>
    obtain ⟨l, v⟩ := m
    rw [insertMember]
    split_ifs with hlt heq hk hk <;> simp_all [lookup_cons_eq_ite]

theorem lookup_eq_none_iff_not_mem : ms.lookup k = none ↔ k ∉ ms.map Prod.fst := by
  rw [List.lookup_eq_none_iff]
  constructor
  · intro h hmem
    obtain ⟨m, hm, rfl⟩ := List.mem_map.1 hmem
    simpa using h m hm
  · intro h m hm
    refine bne_iff_ne.2 ?_
    rintro rfl
    exact h (List.mem_map_of_mem hm)

/-- A key that is there at most once has one value at most. -/
theorem mem_iff_lookup_of_count_le_one (hk : (ms.map Prod.fst).count k ≤ 1) :
    (k, value) ∈ ms ↔ ms.lookup k = some value := by
  induction ms with
  | nil => simp
  | cons m ms ih =>
    obtain ⟨l, v⟩ := m
    rw [List.map_cons] at hk
    rw [lookup_cons_eq_ite, List.mem_cons]
    by_cases hl : l = k
    · subst hl
      rw [List.count_cons_self] at hk
      have hkeys : l ∉ ms.map Prod.fst := List.count_eq_zero.1 (by omega)
      have hmem : (l, value) ∉ ms := fun h => hkeys (List.mem_map_of_mem h)
      simp [hmem, eq_comm]
    · rw [List.count_cons_of_ne hl] at hk
      simp [ih hk, Ne.symm hl]

theorem mem_iff_lookup (hms : (ms.map Prod.fst).Nodup) :
    (k, value) ∈ ms ↔ ms.lookup k = some value :=
  mem_iff_lookup_of_count_le_one (List.nodup_iff_count_le_one.1 hms k)

theorem lookup_reverse_of_count_le_one (hk : (ms.map Prod.fst).count k ≤ 1) :
    ms.reverse.lookup k = ms.lookup k := by
  have hreverse : (ms.reverse.map Prod.fst).count k ≤ 1 := by
    rwa [List.map_reverse, List.count_reverse]
  exact Option.ext fun v => by
    rw [← mem_iff_lookup_of_count_le_one hreverse, List.mem_reverse,
      mem_iff_lookup_of_count_le_one hk]

theorem Increasing.nodup (hms : Increasing ms) : (ms.map Prod.fst).Nodup := by
  rw [Increasing] at hms
  rw [List.Nodup, List.pairwise_map]
  refine hms.imp fun {a b} h e => ?_
  rw [e] at h
  exact String.lt_irrefl _ h

theorem increasing_canonicalMembers (ms : List (String × Json)) :
    Increasing (canonicalMembers [] ms) :=
  (canonicalMembers_ordered ms [] (by simp [Increasing]) (by simp [OrderedMembers])).1

/-- Members with increasing keys are determined by what is under each key. -/
theorem eq_of_lookup_eq (hms : Increasing ms) (hns : Increasing ns)
    (h : ∀ k, ms.lookup k = ns.lookup k) : ms = ns := by
  -- Both have the same members, and no two orders of them increase.
  have hperm : ms.Perm ns := by
    refine (List.perm_ext_iff_of_nodup hms.nodup.of_map hns.nodup.of_map).2 fun m => ?_
    rw [mem_iff_lookup hms.nodup, mem_iff_lookup hns.nodup, h]
  exact hperm.eq_of_pairwise (fun _ _ _ _ hlt hgt => absurd hgt (String.lt_asymm hlt)) hms hns

theorem lookup_filter_not_mem {names : List String} (hk : k ∉ names) :
    (ms.filter fun m => m.1 ∉ names).lookup k = ms.lookup k := by
  induction ms with
  | nil => rfl
  | cons m ms ih =>
    obtain ⟨l, v⟩ := m
    by_cases hl : l ∈ names
    · have hne : k ≠ l := fun h => hk (h ▸ hl)
      simp [hl, lookup_cons_eq_ite, hne, ← ih]
    · simp [hl, lookup_cons_eq_ite, ← ih]

theorem lookup_filter_mem {names : List String} (hk : k ∈ names) :
    (ms.filter fun m => m.1 ∉ names).lookup k = none := by
  refine lookup_eq_none_iff_not_mem.2 fun hmem => ?_
  obtain ⟨m, hm, rfl⟩ := List.mem_map.1 hmem
  exact of_decide_eq_true (List.mem_filter.1 hm).2 hk

/-- What is under a key stays there if it is not filtered out. -/
theorem lookup_filter {p : String × α → Bool} (hms : (ms.map Prod.fst).Nodup) :
    (ms.filter p).lookup k = (ms.lookup k).filter fun v => p (k, v) := by
  induction ms with
  | nil => rfl
  | cons m ms ih =>
    obtain ⟨l, v⟩ := m
    obtain ⟨hl, hms⟩ := List.nodup_cons.1 hms
    have ih := ih hms
    rw [List.filter_cons, lookup_cons_eq_ite]
    by_cases hk : k = l
    · subst hk
      rw [lookup_eq_none_iff_not_mem.2 hl] at ih
      rcases hp : p (k, v) with _ | _
      · simpa [hp, Option.filter] using ih
      · simp [hp, Option.filter]
    · rw [if_neg hk, ← ih]
      split
      · rw [lookup_cons_eq_ite, if_neg hk]
      · rfl

theorem lookup_eraseMember :
    (eraseMember key ms).lookup k = if k = key then none else ms.lookup k := by
  have herase : eraseMember key ms = ms.filter fun m => m.1 ∉ [key] := by simp [eraseMember]
  rw [herase]
  split_ifs with hk
  · exact lookup_filter_mem (List.mem_singleton.2 hk)
  · exact lookup_filter_not_mem (mt List.mem_singleton.1 hk)

theorem nodup_filter {p : String × α → Bool} (hms : (ms.map Prod.fst).Nodup) :
    ((ms.filter p).map Prod.fst).Nodup :=
  hms.sublist (List.filter_sublist.map Prod.fst)

/-- The ordered members have under each key what comes last under it. -/
theorem lookup_canonicalMembers_reverse {ms entered : List (String × Json)} :
    (canonicalMembers entered ms).lookup k =
      ((ms.reverse.lookup k).map canonical).or (entered.lookup k) := by
  induction ms generalizing entered with
  | nil => simp [canonicalMembers]
  | cons m ms ih =>
    obtain ⟨l, j⟩ := m
    rw [canonicalMembers, ih, lookup_insertMember, List.reverse_cons, List.lookup_append,
      lookup_cons_eq_ite, List.lookup_nil]
    rcases ms.reverse.lookup k with _ | i
    · by_cases hk : k = l <;> simp [hk]
    · simp

/-- The ordered members have the same under each key. -/
theorem lookup_canonicalMembers {ms entered : List (String × Json)}
    (hms : (ms.map Prod.fst).Nodup) :
    (canonicalMembers entered ms).lookup k =
      ((ms.lookup k).map canonical).or (entered.lookup k) := by
  rw [lookup_canonicalMembers_reverse,
    lookup_reverse_of_count_le_one (List.nodup_iff_count_le_one.1 hms k)]

/-- Members that are kept may be ordered before or after. -/
theorem canonicalMembers_filter_canonicalMembers {ms : List (String × Json)}
    {names : List String} :
    canonicalMembers [] ((canonicalMembers [] ms).filter fun m => m.1 ∉ names) =
      canonicalMembers [] (ms.filter fun m => m.1 ∉ names) := by
  have hordered := canonicalMembers_ordered ms [] (by simp [Increasing]) (by simp [OrderedMembers])
  have hincreasing : Increasing ((canonicalMembers [] ms).filter fun m => m.1 ∉ names) :=
    List.Pairwise.filter _ hordered.1
  rw [canonicalMembers_eq_append hincreasing
    (orderedMembers_iff.2 fun m hm =>
      orderedMembers_iff.1 hordered.2 m (List.mem_filter.1 hm).1) (by simp), List.nil_append]
  refine eq_of_lookup_eq hincreasing (increasing_canonicalMembers _) fun k => ?_
  rw [lookup_canonicalMembers_reverse, ← List.filter_reverse, List.lookup_nil, Option.or_none]
  by_cases hk : k ∈ names
  · rw [lookup_filter_mem hk, lookup_filter_mem hk, Option.map_none]
  · rw [lookup_filter_not_mem hk, lookup_filter_not_mem hk, lookup_canonicalMembers_reverse,
      List.lookup_nil, Option.or_none]

end Tether.Json
