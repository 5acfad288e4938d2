import Mathlib.Data.List.Infix
import Mathlib.Tactic.SplitIfs
import Tether.Json.Literal

/-!
# Literals, passed over

Where a number or a text is passed over, less is checked than where it is read. So whatever is
read is also passed over, up to the same place, and what follows is the end of the text.

* `skipQuoted_of_quoted`, `skipNumber_of_number`: what is read is passed over;
* `suffix_of_quoted`, `suffix_of_number`: what is left of the text.
-/

namespace Tether

open Reader

variable {cs rest : List Char}

/-! ## Texts -/

theorem Reader.exists_of_consRead {c : Char} {r : Except Fault (List Char × List Char)}
    {s : List Char} (h : consRead c r = .ok (s, rest)) : ∃ s', r = .ok (s', rest) := by
  rcases r with e | ⟨s', rest'⟩
  · cases h
  · cases h
    exact ⟨s', rfl⟩

/-- Both take the same escapes, and the second half of a pair of surrogates is an escape too. -/
theorem skipQuoted_of_characters {s : List Char} (h : characters cs = .ok (s, rest)) :
    skipQuoted cs = .ok rest := by
  -- The cases are those of reading; each of them passes over one escape or two.
  fun_induction characters cs generalizing s rest
  all_goals grind [skipQuoted, exists_of_consRead]

theorem skipQuoted_of_quoted {s : String} (h : quoted cs = .ok (s, rest)) :
    skipQuoted cs = .ok rest := by
  rw [quoted] at h
  split at h
  · rename_i hread
    cases h
    exact skipQuoted_of_characters hread
  · cases h

theorem suffix_of_skipQuoted (h : skipQuoted cs = .ok rest) : rest <:+ cs := by
  fun_induction skipQuoted cs with
  | case2 cs =>
    cases h
    exact List.suffix_cons _ _
  | case5 a b c d cs _ _ ih => exact (ih h).trans (List.suffix_append ['\\', 'u', a, b, c, d] cs)
  | case7 c cs _ _ _ ih => exact (ih h).trans (List.suffix_append ['\\', c] cs)
  | case10 c cs _ _ _ ih => exact (ih h).trans (List.suffix_cons c cs)
  | _ => cases h

theorem suffix_of_quoted {s : String} (h : quoted cs = .ok (s, rest)) : rest <:+ cs :=
  suffix_of_skipQuoted (skipQuoted_of_quoted h)

/-! ## Numbers -/

variable {negative down : Bool} {n dropped : Nat} {e : Int} {x : Number}

theorem Reader.eq_of_scaled (h : scaled negative n e cs = .ok (x, rest)) : rest = cs := by
  rw [scaled] at h
  split at h
  · cases h
    rfl
  · cases h

/-- The digits of an exponent are one at least, and no other digit follows. -/
theorem Reader.exists_of_exponentDigits (h : exponentDigits negative n e down cs = .ok (x, rest)) :
    ∃ c ds, cs = c :: ds ∧ c.isDigit = true ∧ rest = cs.dropWhile Char.isDigit := by
  rcases cs with _ | ⟨c, cs⟩
  · cases h
  · rw [exponentDigits] at h
    split at h
    · cases h
    · rename_i hdigit
      refine ⟨c, cs, rfl, by simpa using hdigit, ?_⟩
      dsimp only at h
      split at h
      · exact eq_of_scaled h
      · split at h
        · cases h
          rfl
        · cases h

theorem skipExponent_of_exponent (h : exponent negative n e cs = .ok (x, rest)) :
    skipExponent cs = .ok rest := by
  rw [exponent.eq_def] at h
  split at h
  all_goals obtain ⟨c, ds, rfl, hc, rfl⟩ := exists_of_exponentDigits h
  · simp [skipExponent, hc]
  · simp [skipExponent, hc]
  · rename_i hplus hminus
    rw [skipExponent]
    · simp [hc]
    · exact hplus
    · exact hminus

theorem skipExponent?_of_exponent? (h : exponent? negative n e cs = .ok (x, rest)) :
    skipExponent? cs = .ok rest := by
  rw [exponent?.eq_def] at h
  split at h
  · rw [skipExponent?]
    exact skipExponent_of_exponent h
  · rw [skipExponent?]
    exact skipExponent_of_exponent h
  · obtain rfl := eq_of_scaled h
    rw [skipExponent?] <;> assumption

theorem skipFraction?_of_fraction (h : fraction negative n e cs = .ok (x, rest)) :
    skipFraction? ('.' :: cs) = .ok rest := by
  rw [fraction.eq_def] at h
  split at h
  · split at h <;> cases h
  · rename_i hdigits
    dsimp only at h
    rcases cs with _ | ⟨c, cs⟩
    · simp at hdigits
    · have hc : c.isDigit = true := by
        rcases hc : c.isDigit with _ | _
        · simp [hc] at hdigits
        · rfl
      simp only [skipFraction?, hc, if_true]
      exact skipExponent?_of_exponent? h

theorem skipFraction?_of_afterWhole (h : afterWhole negative n dropped cs = .ok (x, rest)) :
    skipFraction? cs = .ok rest := by
  rw [afterWhole.eq_def] at h
  split at h
  · exact skipFraction?_of_fraction h
  · rw [skipFraction?, skipExponent?]
    · exact skipExponent_of_exponent h
    · simp
  · rw [skipFraction?, skipExponent?]
    · exact skipExponent_of_exponent h
    · simp
  · -- Neither a fraction nor an exponent follows, so nothing is passed over.
    have hrest : rest = cs := by
      split at h
      · cases h
        rfl
      · exact eq_of_scaled h
    rw [skipFraction?, skipExponent?, hrest] <;> assumption

theorem skipUnsigned_of_unsigned (h : unsigned negative cs = .ok (x, rest)) :
    skipUnsigned cs = .ok rest := by
  rcases cs with _ | ⟨c, cs⟩
  · cases h
  · rw [unsigned.eq_def] at h
    dsimp only at h
    rw [skipUnsigned.eq_def]
    dsimp only
    split_ifs at h ⊢ with hdigit hzero
    · rcases cs with _ | ⟨d, cs⟩
      · exact skipFraction?_of_afterWhole h
      · dsimp only at h ⊢
        split_ifs at h ⊢
        exact skipFraction?_of_afterWhole h
    · have hc : c.isDigit = true := by simpa using hdigit
      rw [List.dropWhile_cons_of_pos hc] at h
      exact skipFraction?_of_afterWhole h

theorem skipNumber_of_number (h : number cs = .ok (x, rest)) : skipNumber cs = .ok rest := by
  rw [number.eq_def] at h
  split at h
  · exact skipUnsigned_of_unsigned h
  · rw [skipNumber]
    · exact skipUnsigned_of_unsigned h
    · assumption

theorem suffix_of_skipExponent (h : skipExponent cs = .ok rest) : rest <:+ cs := by
  rw [skipExponent.eq_def] at h
  dsimp only at h
  -- The text after the sign.
  obtain ⟨ds, hds, rfl⟩ : ∃ ds, ds <:+ cs ∧ rest = ds.dropWhile Char.isDigit := by
    split at h
    · split_ifs at h
      cases h
      refine ⟨_, ?_, rfl⟩
      split
      · exact List.suffix_cons _ _
      · exact List.suffix_cons _ _
      · exact List.suffix_refl _
    · cases h
  exact (List.dropWhile_suffix _).trans hds

theorem suffix_of_skipExponent? (h : skipExponent? cs = .ok rest) : rest <:+ cs := by
  rw [skipExponent?.eq_def] at h
  split at h
  · exact (suffix_of_skipExponent h).trans (List.suffix_cons _ _)
  · exact (suffix_of_skipExponent h).trans (List.suffix_cons _ _)
  · cases h
    exact List.suffix_refl _

theorem suffix_of_skipFraction? (h : skipFraction? cs = .ok rest) : rest <:+ cs := by
  rw [skipFraction?.eq_def] at h
  split at h
  · split at h
    · split_ifs at h
      have hdigits := (suffix_of_skipExponent? h).trans (List.dropWhile_suffix _)
      exact hdigits.trans (List.suffix_cons _ _)
    · cases h
  · exact suffix_of_skipExponent? h

theorem suffix_of_skipUnsigned (h : skipUnsigned cs = .ok rest) : rest <:+ cs := by
  rw [skipUnsigned.eq_def] at h
  split at h
  · cases h
  · split_ifs at h
    · split at h
      · split_ifs at h
        exact (suffix_of_skipFraction? h).trans (List.suffix_cons _ _)
      · cases h
        exact List.nil_suffix
    · have hdigits := (suffix_of_skipFraction? h).trans (List.dropWhile_suffix _)
      exact hdigits.trans (List.suffix_cons _ _)

theorem suffix_of_number (h : number cs = .ok (x, rest)) : rest <:+ cs := by
  have hskip := skipNumber_of_number h
  rw [skipNumber.eq_def] at hskip
  split at hskip
  · exact (suffix_of_skipUnsigned hskip).trans (List.suffix_cons _ _)
  · exact suffix_of_skipUnsigned hskip

end Tether
