import Tether.Proofs.Json.RoundTrip
import Tether.Proofs.Json.Steps

/-!
# The texts of whole numbers

A whole number has one text: its digits, without a zero in front of others, after a minus sign if
it is below zero. A literal stands for a whole number if it is that text; with a fraction or an
exponent, or if it is minus zero or out of range, it stands for a float.

* `IsDigits`, `IsDecimal`: the texts in decimal and what they are worth;
* `isDecimal_iff`: a whole number is written as just that text;
* `Reader.number_eq_integer_iff`: and it is read of no other;
* `Json.read_eq_integer_iff`: whole texts.
-/

namespace Tether

/-! ## Decimal -/

/-- Decimal digits, of which the first is zero only if it is the last. -/
structure IsDigits (ds : List Char) : Prop where
  ne_nil : ds ≠ []
  isDigit : ∀ d ∈ ds, d.isDigit = true
  eq_nil : ∀ es, ds = '0' :: es → es = []

/-- Whether the characters are the whole number in decimal. -/
inductive IsDecimal : List Char → Int → Prop
  | nonneg {ds : List Char} (h : IsDigits ds) : IsDecimal ds (Nat.ofDigitChars 10 ds 0)
  | neg {ds : List Char} (h : IsDigits ds) (hne : Nat.ofDigitChars 10 ds 0 ≠ 0) :
    IsDecimal ('-' :: ds) (-Nat.ofDigitChars 10 ds 0)

theorem digitChar_of_isDigit {d : Char} (h : d.isDigit = true) :
    d.toNat - '0'.toNat < 10 ∧ (d.toNat - '0'.toNat).digitChar = d := by
  rw [Char.isDigit_iff_toNat] at h
  have hzero : '0'.toNat = 48 := rfl
  have hnine : '9'.toNat = 57 := rfl
  have hlt : d.toNat - '0'.toNat < 10 := by omega
  refine ⟨hlt, Char.toNat_inj.1 ?_⟩
  rw [Nat.toNat_digitChar_of_lt_ten hlt]
  omega

theorem isDigits_toDigits (m : Nat) : IsDigits (Nat.toDigits 10 m) where
  ne_nil := Nat.toDigits_ne_nil
  isDigit _ hd := Nat.isDigit_of_mem_toDigits (by decide) (by decide) hd
  eq_nil es hes := by
    obtain ⟨d, ds, hds, -, hzero⟩ := Reader.toDigits_eq_cons m
    rw [hds] at hes
    cases hes
    rw [hzero rfl, Nat.toDigits_zero] at hds
    cases hds
    rfl

/-- Digits are those of the number that they are worth. -/
theorem IsDigits.eq_toDigits {ds : List Char} (h : IsDigits ds) :
    ds = Nat.toDigits 10 (Nat.ofDigitChars 10 ds 0) := by
  induction ds using List.reverseRecOn with
  | nil => exact absurd rfl h.ne_nil
  | append_singleton ds d ih =>
    obtain ⟨hlt, hd⟩ := digitChar_of_isDigit (h.isDigit d (by simp))
    rw [Nat.ofDigitChars_append, Nat.ofDigitChars_cons, Nat.ofDigitChars_nil]
    by_cases hds : ds = []
    · rw [hds, Nat.ofDigitChars_nil, Nat.mul_zero, Nat.zero_add, Nat.toDigits_of_lt_base hlt, hd]
      rfl
    · -- The last digit is appended to the number of the others, which do not start with zero.
      have hzero (es : List Char) : ds ≠ '0' :: es := by
        rintro rfl
        exact absurd (h.eq_nil (es ++ [d]) rfl) (by simp)
      have hinit := ih
        { ne_nil := hds
          isDigit := fun c hc => h.isDigit c (List.mem_append_left _ hc)
          eq_nil := fun es hes => absurd hes (hzero es) }
      have hpos : 0 < Nat.ofDigitChars 10 ds 0 := by
        refine Nat.pos_of_ne_zero fun hnil => hzero [] ?_
        rw [hinit, hnil, Nat.toDigits_zero]
      rw [← Nat.toDigits_append_toDigits (by decide) hpos hlt, ← hinit,
        Nat.toDigits_of_lt_base hlt, hd]

/-- A whole number is written in decimal, and in no other way. -/
theorem isDecimal_iff {cs : List Char} {n : Integer} :
    IsDecimal cs n.val ↔ cs = Json.numeral (.integer n) := by
  rw [Reader.numeral_integer]
  constructor
  · generalize n.val = k
    rintro (⟨h⟩ | ⟨h, hne⟩)
    · rw [if_pos (by omega)]
      exact h.eq_toDigits
    · rw [if_neg (by omega), Int.neg_neg, Int.toNat_natCast, ← h.eq_toDigits]
  · rintro rfl
    split_ifs with hval
    · have h := IsDecimal.nonneg (isDigits_toDigits n.val.toNat)
      rwa [Nat.ofDigitChars_ten_toDigits, Int.toNat_of_nonneg hval] at h
    · have h := IsDecimal.neg (isDigits_toDigits (-n.val).toNat)
      rw [Nat.ofDigitChars_ten_toDigits, Int.toNat_of_nonneg (by omega), Int.neg_neg] at h
      exact h (by omega)

/-- No characters are two numbers in decimal. -/
theorem IsDecimal.unique {cs : List Char} {k l : Int} (hk : IsDecimal cs k)
    (hl : IsDecimal cs l) : k = l := by
  have hminus {ds : List Char} : ¬ IsDigits ('-' :: ds) := fun h =>
    absurd (h.isDigit '-' List.mem_cons_self) (by decide)
  rcases hk with ⟨hk⟩ | ⟨hk, -⟩
  · rcases hl with ⟨-⟩ | ⟨-, -⟩
    · rfl
    · exact absurd hk hminus
  · generalize hcs : '-' :: _ = cs at hl
    rcases hl with ⟨hl⟩ | ⟨-, -⟩
    · exact absurd (hcs ▸ hl) hminus
    · cases hcs
      rfl

namespace Integer

variable {m n : Integer}

theorem isDecimal_toList_iff {s : String} : IsDecimal s.toList n.val ↔ s = n.text := by
  rw [isDecimal_iff, Json.numeral, String.toList_inj]

theorem text_inj : m.text = n.text ↔ m = n := by
  refine ⟨fun h => ?_, congrArg text⟩
  have hval : n.val = m.val :=
    (isDecimal_toList_iff.2 h).unique (isDecimal_toList_iff.2 rfl)
  obtain ⟨k, _, _⟩ := m
  obtain ⟨l, _, _⟩ := n
  obtain rfl : l = k := hval
  rfl

end Integer

/-! ## Literals -/

namespace Reader

variable {negative down : Bool} {limit m dropped : Nat} {e : Int} {n : Integer}
  {cs ds left rest : List Char}

/-- Nothing that is scaled is a whole number. -/
theorem scaled_ne_integer : scaled negative m e cs ≠ .ok (.integer n, rest) := by
  rw [scaled]
  split <;> simp

theorem exponentDigits_ne_integer :
    exponentDigits negative m e down cs ≠ .ok (.integer n, rest) := by
  rcases cs with _ | ⟨c, cs⟩
  · simp [exponentDigits]
  · rw [exponentDigits]
    split
    · simp
    · dsimp only
      split
      · exact scaled_ne_integer
      · split <;> simp

theorem exponent_ne_integer : exponent negative m e cs ≠ .ok (.integer n, rest) := by
  rw [exponent.eq_def]
  split <;> exact exponentDigits_ne_integer

theorem fraction_ne_integer : fraction negative m e cs ≠ .ok (.integer n, rest) := by
  rw [fraction.eq_def]
  split
  · split <;> simp
  · dsimp only
    rw [exponent?.eq_def]
    split
    · exact exponent_ne_integer
    · exact exponent_ne_integer
    · exact scaled_ne_integer

/-- After the whole digits of a whole number, nothing goes on with it. -/
theorem afterWhole_eq_integer_iff :
    afterWhole negative m dropped cs = .ok (.integer n, rest) ↔
      dropped = 0 ∧ whole negative m = .integer n ∧ rest = cs ∧
        ∀ c ∈ cs.head?, c ≠ '.' ∧ c ≠ 'e' ∧ c ≠ 'E' := by
  rw [afterWhole.eq_def]
  split
  · simp [fraction_ne_integer]
  · simp [exponent_ne_integer]
  · simp [exponent_ne_integer]
  · rename_i hpoint he hE
    have hstops : ∀ c ∈ cs.head?, c ≠ '.' ∧ c ≠ 'e' ∧ c ≠ 'E' := by
      rcases cs with _ | ⟨c, cs⟩
      · simp
      · rintro c' ⟨⟩
        exact ⟨fun h => hpoint cs (h ▸ rfl), fun h => he cs (h ▸ rfl), fun h => hE cs (h ▸ rfl)⟩
    split_ifs with hdropped
    · simp only [Except.ok.injEq, Prod.mk.injEq]
      exact ⟨fun h => ⟨hdropped, h.1, h.2.symm, hstops⟩, fun h => ⟨h.2.1, h.2.2.1.symm⟩⟩
    · simp [hdropped, scaled_ne_integer]

theorem ofInt?_eq_some_iff {k : Int} : Integer.ofInt? k = some n ↔ n.val = k := by
  constructor
  · intro h
    rw [Integer.ofInt?] at h
    split_ifs at h
    cases h
    rfl
  · rintro rfl
    exact ofInt?_val n

theorem whole_eq_integer_iff :
    whole negative m = .integer n ↔ if negative then m ≠ 0 ∧ n.val = -m else n.val = m := by
  rcases negative with _ | _
  · simp only [whole, Bool.false_eq_true, if_false, ← ofInt?_eq_some_iff]
    rcases Integer.ofInt? m with _ | i <;> simp
  · simp only [whole, if_true, ← ofInt?_eq_some_iff]
    rcases Integer.ofInt? (-m) with _ | i
    · simp
    · by_cases hm : m = 0 <;> simp [hm]

theorem appendDigits_eq_ofDigitChars (h : appendDigits limit m ds = (dropped, [])) :
    dropped = Nat.ofDigitChars 10 ds m := by
  induction ds generalizing m with
  | nil =>
    cases h
    rfl
  | cons d ds ih =>
    rw [appendDigits] at h
    split_ifs at h
    · rw [Nat.ofDigitChars_cons]
      exact ih h
    · cases h

/-- No digit follows a leading zero. -/
theorem afterWhole_of_zero {x : Number} (h : unsigned negative ('0' :: cs) = .ok (x, rest)) :
    afterWhole negative 0 0 cs = .ok (x, rest) ∧ ∀ d ∈ cs.head?, d.isDigit = false := by
  rw [unsigned.eq_def] at h
  dsimp only at h
  rw [if_neg (by decide), if_pos rfl] at h
  rcases cs with _ | ⟨d, cs⟩
  · exact ⟨h, by simp⟩
  · dsimp only at h
    split_ifs at h with hd
    exact ⟨h, by simpa using hd⟩

/-- A whole number is read of digits. -/
theorem exists_of_unsigned (h : unsigned negative cs = .ok (.integer n, rest)) :
    ∃ ds, IsDigits ds ∧ cs = ds ++ rest ∧ Stops rest ∧
      whole negative (Nat.ofDigitChars 10 ds 0) = .integer n := by
  rcases cs with _ | ⟨c, cs⟩
  · cases h
  · by_cases hzero : c = '0'
    · -- A leading zero is all there is of the digits.
      subst hzero
      obtain ⟨hafter, hdigit⟩ := afterWhole_of_zero h
      obtain ⟨-, hwhole, rfl, hstops⟩ := afterWhole_eq_integer_iff.1 hafter
      refine ⟨['0'], isDigits_toDigits 0, rfl, fun d hd => ⟨hdigit d hd, hstops d hd⟩, ?_⟩
      exact hwhole
    · rw [unsigned.eq_def] at h
      dsimp only at h
      split_ifs at h with hdigit
      rcases happend : appendDigits 18446744073709551616 0 ((c :: cs).takeWhile Char.isDigit) with
        ⟨m, left⟩
      rw [happend] at h
      -- A whole number drops no digits, so they are all in what has been appended.
      obtain ⟨hleft, hwhole, rfl, hstops⟩ := afterWhole_eq_integer_iff.1 h
      obtain rfl : left = [] := List.length_eq_zero_iff.1 hleft
      have hc : c.isDigit = true := by simpa using hdigit
      have hdigits : IsDigits ((c :: cs).takeWhile Char.isDigit) := by
        refine ⟨?_, fun d hd => List.mem_takeWhile_imp hd, fun es hes => ?_⟩
        · simp [hc]
        · rw [List.takeWhile_cons_of_pos hc] at hes
          exact absurd (List.cons.inj hes).1 hzero
      refine ⟨_, hdigits, List.takeWhile_append_dropWhile.symm, fun d hd => ⟨?_, hstops d hd⟩, ?_⟩
      · have hnot := List.head?_dropWhile_not Char.isDigit (c :: cs)
        rw [Option.mem_def.1 hd] at hnot
        simpa using hnot
      · rwa [← appendDigits_eq_ofDigitChars happend]

/-- A literal is a whole number if it is that number in decimal. -/
theorem number_eq_integer_iff :
    number cs = .ok (.integer n, rest) ↔
      ∃ ds, IsDecimal ds n.val ∧ cs = ds ++ rest ∧ Stops rest := by
  constructor
  · intro h
    rw [number.eq_def] at h
    split at h
    · obtain ⟨ds, hds, rfl, hstops, hwhole⟩ := exists_of_unsigned h
      obtain ⟨hne, hval⟩ := whole_eq_integer_iff.1 hwhole
      exact ⟨'-' :: ds, hval ▸ .neg hds hne, rfl, hstops⟩
    · obtain ⟨ds, hds, rfl, hstops, hwhole⟩ := exists_of_unsigned h
      exact ⟨ds, (whole_eq_integer_iff.1 hwhole) ▸ .nonneg hds, rfl, hstops⟩
  · rintro ⟨ds, hds, rfl, hstops⟩
    rw [isDecimal_iff.1 hds]
    exact number_numeral n hstops

theorem stops_of_isGap (h : ∀ c ∈ cs, isGap c = true) : Stops cs := by
  intro c hc
  have hgap := h c (List.mem_of_mem_head? hc)
  simp only [isGap, Bool.or_eq_true, decide_eq_true_eq] at hgap
  rcases hgap with ((rfl | rfl) | rfl) | rfl <;> decide

end Reader

/-! ## Whole texts -/

/-- Whether a text is the characters, between gaps. -/
def IsSpaced (text : String) (cs : List Char) : Prop :=
  ∃ before after, text.toList = before ++ (cs ++ after) ∧ (∀ c ∈ before, isGap c = true) ∧
    ∀ c ∈ after, isGap c = true

open Reader in
/-- A text is a whole number if it is that number in decimal, between gaps. -/
theorem Json.read_eq_integer_iff {text : String} {n : Integer} :
    Json.read text = .ok (.number (.integer n)) ↔ ∃ cs, IsDecimal cs n.val ∧ IsSpaced text cs := by
  rw [Json.read, all_eq_ok_iff]
  constructor
  · rintro ⟨rest, hread, hrest⟩
    have h := isRead_of_document hread
    have htext : text.toList = text.toList.takeWhile isGap ++ skipGap text.toList :=
      List.takeWhile_append_dropWhile.symm
    generalize skipGap text.toList = ds at h htext
    cases h with
    | number hc h =>
      obtain ⟨cs, hcs, hds, -⟩ := number_eq_integer_iff.1 h
      rw [hds] at htext
      exact ⟨cs, hcs, _, rest, htext, fun c hc => List.mem_takeWhile_imp hc,
        List.dropWhile_eq_nil_iff.1 hrest⟩
  · rintro ⟨cs, hcs, before, after, htext, hbefore, hafter⟩
    obtain ⟨c, ds, hds, hc⟩ := numeral_eq_cons n
    have hnumber := number_numeral n (stops_of_isGap hafter)
    rw [isDecimal_iff.1 hcs, hds] at htext
    rw [hds] at hnumber
    have hskip : skipGap text.toList = c :: (ds ++ after) := by
      rw [htext, skipGap, List.dropWhile_append_of_pos hbefore]
      exact skipGap_cons (isGap_of_isDigit hc) _
    refine ⟨after, ?_, List.dropWhile_eq_nil_iff.2 hafter⟩
    rw [← document_skipGap, hskip, document_of_isDigit hc, map]
    rw [List.cons_append] at hnumber
    rw [hnumber]

end Tether
