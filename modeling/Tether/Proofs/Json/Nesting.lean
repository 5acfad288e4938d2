import Tether.Proofs.Json.RoundTrip
import Tether.Proofs.Json.Steps

/-!
# How deep documents are

A reader takes no more arrays and objects inside each other than it is told to, so what it
has read can be written and read again. Neither the order of members nor the loss of those
whose key is repeated makes a document deeper.

* `Json.Within`: no floats, and no more than so many arrays and objects inside each other;
* `Json.Within.canonical`: the ordered document is within the same;
* `Reader.items_forall`, `Reader.fields_induction`: what the loops keep of what one step of
  them keeps;
* `Reader.depth_le_of_document`, `Json.depth_le_of_read`: what is read.
-/

namespace Tether

namespace Json

/-- No number is a float, and at most `d` arrays and objects are inside each other. -/
def Within (d : Nat) (j : Json) : Prop := j.isWhole = true ∧ j.depth ≤ d

variable {d : Nat} {items js : List Json} {members ms entered : List (String × Json)} {j : Json}

theorem isWholeItems_iff : isWholeItems js = true ↔ ∀ j ∈ js, j.isWhole = true := by
  induction js with
  | nil => simp [isWholeItems]
  | cons j js ih => simp [isWholeItems, ih]

theorem isWholeMembers_iff : isWholeMembers ms = true ↔ ∀ m ∈ ms, m.2.isWhole = true := by
  induction ms with
  | nil => simp [isWholeMembers]
  | cons m ms ih => simp [isWholeMembers, ih]

theorem depthItems_le_iff : depthItems js ≤ d ↔ ∀ j ∈ js, j.depth ≤ d := by
  induction js with
  | nil => simp [depthItems]
  | cons j js ih => rw [depthItems, Nat.max_le, ih, List.forall_mem_cons]

theorem depthMembers_le_iff : depthMembers ms ≤ d ↔ ∀ m ∈ ms, m.2.depth ≤ d := by
  induction ms with
  | nil => simp [depthMembers]
  | cons m ms ih => rw [depthMembers, Nat.max_le, ih, List.forall_mem_cons]

theorem within_array_iff : (array items).Within (d + 1) ↔ ∀ j ∈ items, j.Within d := by
  rw [Within, isWhole, depth, isWholeItems_iff, Nat.add_le_add_iff_right, depthItems_le_iff]
  exact ⟨fun h j hj => ⟨h.1 j hj, h.2 j hj⟩,
    fun h => ⟨fun j hj => (h j hj).1, fun j hj => (h j hj).2⟩⟩

theorem within_object_iff : (object members).Within (d + 1) ↔ ∀ m ∈ members, m.2.Within d := by
  rw [Within, isWhole, depth, isWholeMembers_iff, Nat.add_le_add_iff_right, depthMembers_le_iff]
  exact ⟨fun h m hm => ⟨h.1 m hm, h.2 m hm⟩,
    fun h => ⟨fun m hm => (h m hm).1, fun m hm => (h m hm).2⟩⟩

theorem not_within_array : ¬ (array items).Within 0 := by simp [Within, depth]

theorem not_within_object : ¬ (object members).Within 0 := by simp [Within, depth]

mutual

/-- A document is not made deeper by the order of its members. -/
theorem Within.canonical : ∀ {j : Json} {d : Nat}, j.Within d → j.canonical.Within d
  | null, _, h | bool _, _, h | number _, _, h | text _, _, h => by simpa [Json.canonical] using h
  | array _, 0, h => absurd h not_within_array
  | array _, _ + 1, h => by
    rw [Json.canonical, within_array_iff]
    exact within_canonicalItems (within_array_iff.1 h)
  | object _, 0, h => absurd h not_within_object
  | object _, _ + 1, h => by
    rw [Json.canonical, within_object_iff]
    exact within_canonicalMembers (by simp) (within_object_iff.1 h)

theorem within_canonicalItems : ∀ {js : List Json} {d : Nat}, (∀ j ∈ js, j.Within d) →
    ∀ j ∈ canonicalItems js, j.Within d
  | [], _, _ => by simp [canonicalItems]
  | j :: js, d, h => by
    rw [List.forall_mem_cons] at h
    rw [canonicalItems, List.forall_mem_cons]
    exact ⟨h.1.canonical, within_canonicalItems h.2⟩

theorem within_canonicalMembers : ∀ {ms entered : List (String × Json)} {d : Nat},
    (∀ m ∈ entered, m.2.Within d) → (∀ m ∈ ms, m.2.Within d) →
      ∀ m ∈ canonicalMembers entered ms, m.2.Within d
  | [], _, _, hentered, _ => by rwa [canonicalMembers]
  | (k, j) :: ms, entered, d, hentered, h => by
    rw [List.forall_mem_cons] at h
    rw [canonicalMembers]
    refine within_canonicalMembers (fun m hm => ?_) h.2
    rcases mem_insertMember hm with rfl | hm
    · exact h.1.canonical
    · exact hentered m hm

end

end Json

/-! ## What is read -/

namespace Reader

variable {α σ : Type}

/-- All items that are read have what each item has that is read. -/
theorem items_forall {lax : Bool} {item : Reader α} {p : α → Prop}
    (hitem : ∀ cs x rest, item cs = .ok (x, rest) → p x) :
    ∀ {n : Nat} {isFirst : Bool} {cs : List Char} {xs : List α} {rest : List Char},
      items lax item n isFirst cs = .ok (xs, rest) → ∀ x ∈ xs, p x
  | 0, _, _, _, _, h => by cases h
  | n + 1, isFirst, cs, xs, rest, h => by
    rcases items_cases h with ⟨-, rfl⟩ | ⟨ds, x, es, ys, -, hread, hrest, rfl⟩
    · exact List.forall_mem_nil p
    · exact List.forall_mem_cons.2 ⟨hitem _ _ _ hread, items_forall hitem hrest⟩

/-- What each field keeps that is read is kept by all of them. -/
theorem fields_induction {lax : Bool} {field : σ → Reader σ} {p : σ → Prop}
    (hfield : ∀ s cs s' rest, p s → field s cs = .ok (s', rest) → p s') :
    ∀ {n : Nat} {isFirst : Bool} {s : σ} {cs : List Char} {s' : σ} {rest : List Char},
      p s → fields lax field n isFirst s cs = .ok (s', rest) → p s'
  | 0, _, _, _, _, _, _, h => by cases h
  | n + 1, isFirst, s, cs, s', rest, hs, h => by
    rcases fields_cases h with ⟨-, rfl⟩ | ⟨ds, t, es, -, hread, hrest⟩
    · exact hs
    · exact fields_induction hfield (hfield _ _ _ _ hs hread) hrest

open Json in
/-- No document that is read is deeper than the reader takes. -/
theorem depth_le_of_document {bound d : Nat} {cs : List Char} {j : Json} {rest : List Char}
    (h : document bound d cs = .ok (j, rest)) : j.depth ≤ d := by
  -- What is inside a bracket is read with one level less, so the induction is on the levels.
  induction d using Nat.strongRecOn generalizing cs j rest with
  | _ d ih =>
    have h := isRead_of_document h
    generalize skipGap cs = ds at h
    cases h with
    | null | true | false | text | number => exact Nat.zero_le _
    | @array d _ _ js h =>
      rw [depth, Nat.add_le_add_iff_right, depthItems_le_iff]
      exact items_forall (fun _ _ _ => ih d (Nat.lt_succ_self d)) h
    | @object d _ _ ms h =>
      have hms : ∀ m ∈ ms.reverse, m.2.depth ≤ d := by
        refine fields_induction (p := fun ms => ∀ m ∈ ms, m.2.depth ≤ d) ?_ (by simp) h
        intro others cs ms rest hothers hfield
        obtain ⟨key, _, es, j, -, -, hvalue, rfl⟩ := keyedMember_cases hfield
        exact List.forall_mem_cons.2 ⟨ih d (Nat.lt_succ_self d) hvalue, hothers⟩
      rw [depth, Nat.add_le_add_iff_right, depthMembers_le_iff]
      exact fun m hm => hms m (List.mem_reverse.2 hm)

end Reader

theorem Json.depth_le_of_read {text : String} {j : Json} (h : Json.read text = .ok j) :
    j.depth ≤ maxDepth := by
  rw [Json.read, Reader.all] at h
  split at h
  · cases h
  · rename_i i cs hread
    split at h
    · cases h
      exact Reader.depth_le_of_document hread
    · cases h

end Tether
