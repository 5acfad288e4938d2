import Mathlib.Data.List.DropRight
import Tether.Json.Reader
import Tether.Proofs.Json.Skipping

/-!
# How documents are read

What a reader does where it succeeds, in the order of the text: which punctuation it finds, and
what the first character of a value makes of the rest.

* `nextItem_cases`, `nextMember_cases`: all that may follow in an array and in an object;
* `Reader.keyedMember_cases`: how a member is read;
* `Reader.items_cases`, `Reader.fields_cases`: what one step of a loop does;
* `Reader.IsRead`, `Reader.isRead_of_document`: how a document is read;
* `Reader.Consumes`: what is left is the end of the text.
-/

namespace Tether

variable {isFirst : Bool} {next : Next} {cs rest : List Char}

/-! ## Gaps -/

theorem skipGap_suffix (cs : List Char) : skipGap cs <:+ cs := List.dropWhile_suffix _

@[simp]
theorem skipGap_skipGap (cs : List Char) : skipGap (skipGap cs) = skipGap cs :=
  List.dropWhile_idempotent isGap cs

theorem suffix_of_skipGap {c : Char} {ds : List Char} (h : skipGap cs = c :: ds) : ds <:+ cs :=
  (List.suffix_cons c ds).trans (h ▸ skipGap_suffix cs)

/-! ## Punctuation -/

/-- The text where a next part starts, or after the bracket. -/
def Next.text : Next → List Char
  | item cs => cs
  | close cs => cs

/-- All that may follow in an array. -/
theorem nextItem_cases (h : nextItem false isFirst cs = .ok next) :
    (∃ ds, skipGap cs = ']' :: ds ∧ next = .close ds) ∨
    (∃ c ds, skipGap cs = c :: ds ∧ c ≠ ']' ∧ isFirst = true ∧ next = .item (c :: ds)) ∨
    ∃ ds c es, skipGap cs = ',' :: ds ∧ skipGap ds = c :: es ∧ c ≠ ']' ∧ isFirst = false ∧
      next = .item (c :: es) := by
  rw [nextItem] at h
  split at h
  · cases h
  · cases h
    exact .inl ⟨_, ‹_›, rfl⟩
  · rename_i c ds hclose hskip
    split_ifs at h with hfirst hcomma
    · cases h
      exact .inr (.inl ⟨c, ds, hskip, hclose, hfirst, rfl⟩)
    · subst hcomma
      split at h
      · cases h
      · rename_i d es hskip'
        split_ifs at h with hbracket
        cases h
        exact .inr (.inr ⟨ds, d, es, hskip, hskip', by simpa using hbracket, by simpa using hfirst,
          rfl⟩)

/-- All that may follow in an object. -/
theorem nextMember_cases (h : nextMember false isFirst cs = .ok next) :
    (∃ ds, skipGap cs = '\x7d' :: ds ∧ next = .close ds) ∨
    (∃ ds, skipGap cs = '"' :: ds ∧ isFirst = true ∧ next = .item ds) ∨
    ∃ ds es, skipGap cs = ',' :: ds ∧ skipGap ds = '"' :: es ∧ isFirst = false ∧
      next = .item es := by
  simp only [nextMember, Bool.false_eq_true, if_false, Bool.not_false, Bool.and_true,
    decide_eq_true_eq] at h
  split at h
  · cases h
  · cases h
    exact .inl ⟨_, ‹_›, rfl⟩
  · rename_i c ds hclose hskip
    split_ifs at h with hfirst hquote hcomma
    · cases h
      exact .inr (.inl ⟨ds, hquote ▸ hskip, hfirst, rfl⟩)
    · subst hcomma
      split at h
      · cases h
      · rename_i d es hskip'
        split_ifs at h with hquote hbrace
        cases h
        exact .inr (.inr ⟨ds, es, hskip, hquote ▸ hskip', by simpa using hfirst, rfl⟩)

/-- What may follow may also follow where less is checked. -/
theorem nextItem_lax (lax : Bool) (h : nextItem false isFirst cs = .ok next) :
    nextItem lax isFirst cs = .ok next := by
  rcases nextItem_cases h with ⟨ds, hds, rfl⟩ | ⟨c, ds, hds, hc, rfl, rfl⟩ |
    ⟨ds, c, es, hds, hes, hc, rfl, rfl⟩
  · simp [nextItem, hds]
  · simp [nextItem, hds]
  · simp [nextItem, hds, hes, hc]

theorem nextMember_lax (lax : Bool) (h : nextMember false isFirst cs = .ok next) :
    nextMember lax isFirst cs = .ok next := by
  rcases nextMember_cases h with ⟨ds, hds, rfl⟩ | ⟨ds, hds, rfl, rfl⟩ |
    ⟨ds, es, hds, hes, rfl, rfl⟩
  · simp [nextMember, hds]
  · simp [nextMember, hds]
  · simp [nextMember, hds, hes]

theorem afterArray_eq_ok_iff : afterArray cs = .ok rest ↔ skipGap cs = ']' :: rest := by
  rw [afterArray]
  split
  · simp [*]
  · simp [*]
  · rename_i c ds hbracket hskip
    have hne : c ≠ ']' := hbracket
    split <;> simp [hskip, hne]

theorem suffix_of_nextItem (h : nextItem false isFirst cs = .ok next) : next.text <:+ cs := by
  rcases nextItem_cases h with ⟨ds, hds, rfl⟩ | ⟨c, ds, hds, -, -, rfl⟩ |
    ⟨ds, c, es, hds, hes, -, -, rfl⟩
  · exact suffix_of_skipGap hds
  · exact hds ▸ skipGap_suffix cs
  · exact (hes ▸ skipGap_suffix ds : c :: es <:+ ds).trans (suffix_of_skipGap hds)

theorem suffix_of_nextMember (h : nextMember false isFirst cs = .ok next) : next.text <:+ cs := by
  rcases nextMember_cases h with ⟨ds, hds, rfl⟩ | ⟨ds, hds, -, rfl⟩ | ⟨ds, es, hds, hes, -, rfl⟩
  · exact suffix_of_skipGap hds
  · exact suffix_of_skipGap hds
  · exact (suffix_of_skipGap hes).trans (suffix_of_skipGap hds)

theorem suffix_of_afterColon (h : afterColon cs = .ok rest) : rest <:+ cs := by
  rw [afterColon] at h
  refine List.IsSuffix.trans ?_ (skipGap_suffix cs)
  generalize skipGap cs = ds at h
  split at h
  · cases h
  · cases h
    exact List.suffix_cons _ _
  · cases h

namespace Reader

variable {α β σ : Type}

theorem exists_of_map {f : α → β} {r : Reader α} {b : β} (h : map f r cs = .ok (b, rest)) :
    ∃ a, r cs = .ok (a, rest) ∧ f a = b := by
  rw [map] at h
  split at h
  · cases h
  · rename_i a cs' hread
    cases h
    exact ⟨a, hread, rfl⟩

/-- What stands for a word makes no difference to reading it. -/
theorem word_eq_ok_iff {a b : α} : ∀ {letters cs : List Char},
    word a letters cs = .ok (b, rest) ↔ b = a ∧ word () letters cs = .ok ((), rest)
  | [], cs => by simp [word, eq_comm]
  | _ :: _, [] => by simp [word]
  | l :: letters, c :: cs => by
    rw [word, word]
    split_ifs
    · exact word_eq_ok_iff
    · simp

/-- How a member is read. -/
theorem keyedMember_cases {value : Reader Json} {others ms : List (String × Json)}
    (h : keyedMember value others cs = .ok (ms, rest)) :
    ∃ key ds es j, quoted cs = .ok (key, ds) ∧ afterColon ds = .ok es ∧ value es = .ok (j, rest) ∧
      ms = (key, j) :: others := by
  rw [keyedMember] at h
  split at h
  · cases h
  · rename_i key ds hkey
    rw [member] at h
    split at h
    · cases h
    · rename_i es hcolon
      split at h
      · cases h
      · rename_i j cs hvalue
        cases h
        exact ⟨key, ds, es, j, hkey, hcolon, hvalue, rfl⟩

/-! ## Loops -/

section

variable {lax : Bool} {n : Nat}

/-- All items are read when the bracket comes, and otherwise one is read and then the others. -/
theorem items_cases {item : Reader α} {xs : List α}
    (h : items lax item (n + 1) isFirst cs = .ok (xs, rest)) :
    (nextItem lax isFirst cs = .ok (.close rest) ∧ xs = []) ∨
    ∃ ds x es ys, nextItem lax isFirst cs = .ok (.item ds) ∧ item ds = .ok (x, es) ∧
      items lax item n false es = .ok (ys, rest) ∧ xs = x :: ys := by
  rw [items] at h
  split at h
  · cases h
  · rename_i hnext
    cases h
    exact .inl ⟨hnext, rfl⟩
  · rename_i ds hnext
    split at h
    · cases h
    · rename_i x es hread
      split at h
      · cases h
      · rename_i ys es' hrest
        cases h
        exact .inr ⟨ds, x, es, ys, hnext, hread, hrest, rfl⟩

/-- All fields are read when the brace comes, and otherwise one is read and then the others. -/
theorem fields_cases {field : σ → Reader σ} {s s' : σ}
    (h : fields lax field (n + 1) isFirst s cs = .ok (s', rest)) :
    (nextMember lax isFirst cs = .ok (.close rest) ∧ s' = s) ∨
    ∃ ds t es, nextMember lax isFirst cs = .ok (.item ds) ∧ field s ds = .ok (t, es) ∧
      fields lax field n false t es = .ok (s', rest) := by
  rw [fields] at h
  split at h
  · cases h
  · rename_i hnext
    cases h
    exact .inl ⟨hnext, rfl⟩
  · rename_i ds hnext
    split at h
    · cases h
    · rename_i t es hread
      exact .inr ⟨ds, t, es, hnext, hread, h⟩

end

/-! ## Documents -/

/-- How a document is read of a text without a gap in front. -/
inductive IsRead (bound : Nat) : Nat → List Char → Json → List Char → Prop
  | null {depth : Nat} {cs rest : List Char} (h : word () ['u', 'l', 'l'] cs = .ok ((), rest)) :
    IsRead bound depth ('n' :: cs) .null rest
  | true {depth : Nat} {cs rest : List Char} (h : word () ['r', 'u', 'e'] cs = .ok ((), rest)) :
    IsRead bound depth ('t' :: cs) (.bool true) rest
  | false {depth : Nat} {cs rest : List Char}
      (h : word () ['a', 'l', 's', 'e'] cs = .ok ((), rest)) :
    IsRead bound depth ('f' :: cs) (.bool false) rest
  | text {depth : Nat} {cs rest : List Char} {s : String} (h : quoted cs = .ok (s, rest)) :
    IsRead bound depth ('"' :: cs) (.text s) rest
  | number {depth : Nat} {c : Char} {cs rest : List Char} {n : Number}
      (hc : c = '-' ∨ c.isDigit = true) (h : number (c :: cs) = .ok (n, rest)) :
    IsRead bound depth (c :: cs) (.number n) rest
  | array {depth : Nat} {cs rest : List Char} {js : List Json}
      (h : items false (document bound depth) bound true cs = .ok (js, rest)) :
    IsRead bound (depth + 1) ('[' :: cs) (.array js) rest
  | object {depth : Nat} {cs rest : List Char} {ms : List (String × Json)}
      (h : fields false (keyedMember (document bound depth)) bound true [] cs =
        .ok (ms.reverse, rest)) :
    IsRead bound (depth + 1) ('\x7b' :: cs) (.object ms) rest

variable {bound depth : Nat} {j : Json}

theorem isRead_of_document (h : document bound depth cs = .ok (j, rest)) :
    IsRead bound depth (skipGap cs) j rest := by
  rw [document] at h
  generalize skipGap cs = ds at h
  split at h
  · cases h
  · obtain ⟨rfl, hword⟩ := word_eq_ok_iff.1 h
    exact .null hword
  · obtain ⟨rfl, hword⟩ := word_eq_ok_iff.1 h
    exact .true hword
  · obtain ⟨rfl, hword⟩ := word_eq_ok_iff.1 h
    exact .false hword
  · obtain ⟨s, hread, rfl⟩ := exists_of_map h
    exact .text hread
  · rcases depth with _ | depth
    · cases h
    · obtain ⟨js, hread, rfl⟩ := exists_of_map h
      exact .array hread
  · rcases depth with _ | depth
    · cases h
    · obtain ⟨ms, hread, rfl⟩ := exists_of_map h
      exact .object (by rwa [List.reverse_reverse])
  · split_ifs at h with hc
    obtain ⟨n, hread, rfl⟩ := exists_of_map h
    exact .number (by simpa using hc) hread

theorem document_skipGap : document bound depth (skipGap cs) = document bound depth cs := by
  rw [document, document, skipGap_skipGap]

/-! ## What is left -/

/-- What a reader leaves is the end of the text. -/
def Consumes (r : Reader α) : Prop :=
  ∀ ⦃cs rest : List Char⦄ ⦃a : α⦄, r cs = .ok (a, rest) → rest <:+ cs

theorem consumes_word {a : α} {letters : List Char} : (word a letters).Consumes := by
  intro cs rest b h
  induction letters generalizing cs with
  | nil =>
    cases h
    exact List.suffix_refl _
  | cons l letters ih =>
    rcases cs with _ | ⟨c, cs⟩
    · cases h
    · rw [word] at h
      split_ifs at h
      exact (ih h).trans (List.suffix_cons c cs)

theorem Consumes.items {item : Reader α} (hitem : item.Consumes) {n : Nat} :
    (items false item n isFirst).Consumes := by
  intro cs rest xs h
  induction n generalizing isFirst cs xs with
  | zero => cases h
  | succ n ih =>
    rcases items_cases h with ⟨hnext, rfl⟩ | ⟨ds, x, es, ys, hnext, hread, hrest, rfl⟩
    · exact suffix_of_nextItem hnext
    · exact ((ih hrest).trans (hitem hread)).trans (suffix_of_nextItem hnext)

theorem Consumes.fields {field : σ → Reader σ} (hfield : ∀ s, (field s).Consumes) {n : Nat}
    {s : σ} : (fields false field n isFirst s).Consumes := by
  intro cs rest s' h
  induction n generalizing isFirst cs s with
  | zero => cases h
  | succ n ih =>
    rcases fields_cases h with ⟨hnext, rfl⟩ | ⟨ds, t, es, hnext, hread, hrest⟩
    · exact suffix_of_nextMember hnext
    · exact ((ih hrest).trans (hfield s hread)).trans (suffix_of_nextMember hnext)

theorem Consumes.keyedMember {value : Reader Json} (hvalue : value.Consumes)
    (others : List (String × Json)) : (keyedMember value others).Consumes := by
  intro cs rest ms h
  obtain ⟨key, ds, es, j, hkey, hcolon, hread, -⟩ := keyedMember_cases h
  exact ((hvalue hread).trans (suffix_of_afterColon hcolon)).trans (suffix_of_quoted hkey)

theorem consumes_document : (document bound depth).Consumes := by
  -- What is inside a bracket is read with one level less, so the induction is on the levels.
  induction depth using Nat.strongRecOn with
  | _ depth ih =>
    intro cs rest j h
    refine List.IsSuffix.trans ?_ (skipGap_suffix cs)
    have h := isRead_of_document h
    generalize skipGap cs = ds at h
    cases h with
    | null h | true h | false h => exact (consumes_word h).trans (List.suffix_cons _ _)
    | text h => exact (suffix_of_quoted h).trans (List.suffix_cons _ _)
    | number _ h => exact suffix_of_number h
    | array h =>
      exact ((ih _ (Nat.lt_succ_self _)).items h).trans (List.suffix_cons _ _)
    | object h =>
      exact (Consumes.fields (ih _ (Nat.lt_succ_self _)).keyedMember h).trans
        (List.suffix_cons _ _)

/-! ## Whole texts -/

/-- A whole text is read if only a gap is left. -/
theorem all_eq_ok_iff {r : Nat → Reader α} {text : String} {a : α} :
    all r text = .ok a ↔
      ∃ rest, r (text.toList.length + 1) text.toList = .ok (a, rest) ∧ skipGap rest = [] := by
  rw [all]
  split
  · simp [*]
  · split <;> simp [*]

end Reader

end Tether
