import Mathlib.Tactic.SplitIfs
import Tether.Json.Writer

/-!
# Literals, read as they are written

A number or a text that has been written is read back, whatever comes after it, as
long as that does not go on with the number.

* `Stops`: what does not go on with a number;
* `number_numeral`: a whole number is read back;
* `quoted_flatMap_escape`: a text is read back.
-/

namespace Tether

namespace Reader

/-! ## Numbers -/

/-- What does not go on with a number. -/
def Stops (cs : List Char) : Prop :=
  ∀ c ∈ cs.head?, c.isDigit = false ∧ c ≠ '.' ∧ c ≠ 'e' ∧ c ≠ 'E'

theorem stops_cons {c : Char} (cs : List Char) (hdigit : c.isDigit = false) (hpoint : c ≠ '.')
    (he : c ≠ 'e') (hE : c ≠ 'E') : Stops (c :: cs) := by
  rintro _ ⟨⟩
  exact ⟨hdigit, hpoint, he, hE⟩

theorem stops_nil : Stops [] := by
  rintro _ ⟨⟩

variable {limit m n : Nat} {ds es cs : List Char} {negative : Bool}

/-- Digits are appended in turn. -/
theorem appendDigits_append (h : appendDigits limit n ds = (m, [])) :
    appendDigits limit n (ds ++ es) = appendDigits limit m es := by
  induction ds generalizing n with
  | nil =>
    cases h
    rfl
  | cons d ds ih =>
    rw [appendDigits] at h
    split at h
    · rename_i hd
      rw [List.cons_append, appendDigits, if_pos hd]
      exact ih h
    · cases h

/-- The digits of a number below the limit make up the number. -/
theorem appendDigits_toDigits (h : m < limit) :
    appendDigits limit 0 (Nat.toDigits 10 m) = (m, []) := by
  induction m using Nat.base_induction 10 (by decide) with
  | single m hm =>
    rw [Nat.toDigits_of_lt_base hm, appendDigits]
    simp [Nat.toNat_digitChar_of_lt_ten hm, h, appendDigits]
  | digit m d hd hm ih =>
    -- The last digit is appended to the number of the others.
    rw [← Nat.toDigits_append_toDigits (by decide) hm hd, appendDigits_append (ih (by omega)),
      Nat.toDigits_of_lt_base hd, appendDigits]
    simp [Nat.toNat_digitChar_of_lt_ten hd, h, appendDigits]

/-- A number is written with digits, and with a leading zero only if it is zero. -/
theorem toDigits_eq_cons (m : Nat) :
    ∃ d ds, Nat.toDigits 10 m = d :: ds ∧ d.isDigit = true ∧ (d = '0' → m = 0) := by
  induction m using Nat.base_induction 10 (by decide) with
  | single m hm =>
    exact ⟨m.digitChar, [], Nat.toDigits_of_lt_base hm, by simpa using hm, by simp⟩
  | digit m d hd hpos ih =>
    obtain ⟨c, cs, hcs, hdigit, hc⟩ := ih
    refine ⟨c, cs ++ Nat.toDigits 10 d, ?_, hdigit, fun h => absurd (hc h) (Nat.ne_of_gt hpos)⟩
    rw [← Nat.toDigits_append_toDigits (by decide) hpos hd, hcs]
    rfl

theorem takeWhile_toDigits_append (hcs : Stops cs) :
    (Nat.toDigits 10 m ++ cs).takeWhile Char.isDigit = Nat.toDigits 10 m ∧
      (Nat.toDigits 10 m ++ cs).dropWhile Char.isDigit = cs := by
  have hdigits : ∀ d ∈ Nat.toDigits 10 m, d.isDigit = true :=
    fun d hd => Nat.isDigit_of_mem_toDigits (by decide) (by decide) hd
  rw [List.takeWhile_append_of_pos hdigits, List.dropWhile_append_of_pos hdigits]
  cases cs with
  | nil => simp
  | cons c cs => simp [(hcs c rfl).1]

theorem afterWhole_of_stops (hcs : Stops cs) :
    afterWhole negative n 0 cs = .ok (whole negative n, cs) := by
  rw [afterWhole, if_pos rfl]
  · rintro ds rfl
    exact (hcs '.' rfl).2.1 rfl
  · rintro ds rfl
    exact (hcs 'e' rfl).2.2.1 rfl
  · rintro ds rfl
    exact (hcs 'E' rfl).2.2.2 rfl

theorem unsigned_toDigits (hm : m < 18446744073709551616) (hcs : Stops cs) :
    unsigned negative (Nat.toDigits 10 m ++ cs) = .ok (whole negative m, cs) := by
  rcases Nat.eq_zero_or_pos m with rfl | hpos
  · -- A leading zero is the whole number, whatever follows.
    rw [Nat.toDigits_zero]
    cases cs with
    | nil => rfl
    | cons c cs =>
      have hc := (hcs c rfl).1
      simp only [List.cons_append, List.nil_append, unsigned, hc]
      exact afterWhole_of_stops hcs
  · obtain ⟨d, ds, hds, hdigit, hzero⟩ := toDigits_eq_cons m
    have hd : d ≠ '0' := fun h => absurd (hzero h) (Nat.ne_of_gt hpos)
    obtain ⟨htake, hdrop⟩ := takeWhile_toDigits_append (m := m) hcs
    have happend := appendDigits_toDigits hm
    rw [hds, List.cons_append] at htake hdrop ⊢
    rw [hds] at happend
    simp only [unsigned, hdigit, Bool.not_true, Bool.false_eq_true, if_false, if_neg hd, htake,
      happend, hdrop]
    exact afterWhole_of_stops hcs

theorem ofInt?_val (n : Integer) : Integer.ofInt? n.val = some n :=
  dif_pos ⟨n.lower, n.upper⟩

theorem numeral_integer (n : Integer) : Json.numeral (.integer n) =
    if 0 ≤ n.val then Nat.toDigits 10 n.val.toNat
    else '-' :: Nat.toDigits 10 (-n.val).toNat := by
  simp only [Json.numeral, Integer.text, Int.toString_eq_repr, Int.repr_eq_if]
  split <;> simp

/-- A whole number starts with a digit or a minus sign. -/
theorem numeral_eq_cons (n : Integer) : ∃ c cs, Json.numeral (.integer n) = c :: cs ∧
    (c = '-' ∨ c.isDigit = true) := by
  rw [numeral_integer]
  split
  · obtain ⟨d, ds, hds, hdigit, -⟩ := toDigits_eq_cons n.val.toNat
    exact ⟨d, ds, hds, .inr hdigit⟩
  · exact ⟨'-', _, rfl, .inl rfl⟩

/-- A whole number is read back. -/
theorem number_numeral (n : Integer) (hcs : Stops cs) :
    number (Json.numeral (.integer n) ++ cs) = .ok (.integer n, cs) := by
  have hlower := n.lower
  have hupper := n.upper
  have hofInt := ofInt?_val n
  rw [numeral_integer]
  split
  · rename_i hpos
    have hnumber : number (Nat.toDigits 10 n.val.toNat ++ cs) =
        unsigned false (Nat.toDigits 10 n.val.toNat ++ cs) := by
      obtain ⟨d, ds, hds, hdigit, -⟩ := toDigits_eq_cons n.val.toNat
      -- A digit is no minus sign.
      rw [hds, number]
      rintro es heq
      cases heq
      cases hdigit
    rw [hnumber, unsigned_toDigits (by omega) hcs, whole, Int.toNat_of_nonneg ‹_›, hofInt]
    rfl
  · rename_i hneg
    have hsize : -((-n.val).toNat : Int) = n.val := by omega
    show unsigned true (Nat.toDigits 10 (-n.val).toNat ++ cs) = _
    rw [unsigned_toDigits (by omega) hcs, whole, hsize, hofInt]
    simp [show ¬0 ≤ n.val by omega]

/-! ## Texts -/

/-- A character is read back as it is escaped. -/
theorem characters_escape (c : Char) (cs : List Char) :
    characters (Json.escape c ++ cs) = consRead c (characters cs) := by
  rw [Json.escape]
  split_ifs with h₁ h₂ h₃ h₄ h₅ h₆ h₇ h₈
  · rw [h₁]; rfl
  · rw [h₂]; rfl
  · rw [h₃]; rfl
  · rw [h₄]; rfl
  · rw [h₅]; rfl
  · rw [h₆]; rfl
  · rw [h₇]; rfl
  · have hunit : ∀ n < 0x20, hexUnit? '0' '0' (Json.hexDigit (n / 16)) (Json.hexDigit (n % 16)) =
        some n ∧ isLowSurrogate n = false ∧ isHighSurrogate n = false := by decide
    obtain ⟨hhex, hlow, hhigh⟩ := hunit c.toNat h₈
    simp only [List.cons_append, List.nil_append, characters, hhex, hlow, hhigh]
    simp
  · simp only [List.cons_append, List.nil_append]
    rw [characters, if_neg h₈]
    · exact h₁
    · exact h₂

/-- A text is read back. -/
theorem quoted_flatMap_escape (s : String) (cs : List Char) :
    quoted (s.toList.flatMap Json.escape ++ '"' :: cs) = .ok (s, cs) := by
  have hread (ds : List Char) :
      characters (ds.flatMap Json.escape ++ '"' :: cs) = .ok (ds, cs) := by
    induction ds with
    | nil => rfl
    | cons d ds ih =>
      rw [List.flatMap_cons, List.append_assoc, characters_escape, ih]
      rfl
  rw [quoted, hread]
  simp

end Reader

end Tether
