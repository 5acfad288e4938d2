import Tether.Proofs.Json.Steps

/-!
# Readers alongside each other

A text that is read as a document may also be read by something else, which makes more or less of
the same parts. If both go the same way through every item and every member, they go the same way
through whole arrays and objects.

* `Reader.Agrees`: a reader comes to an outcome, and to the place in the text where the document
  ends;
* `Reader.agrees_items`, `Reader.agrees_fields`: the loops;
* `Reader.skip_of_document`: what is read as a document is passed over.
-/

namespace Tether

namespace Reader

variable {ε α β σ : Type} {cs rest : List Char}

/-! ## Outcomes -/

/-- Whether what came of a reader is the outcome: both have failed, or what was read is the outcome
    and `rest` is left of the text. -/
inductive Agrees (rest : List Char) : Except Fault (α × List Char) → Except ε α → Prop
  | ok (a : α) : Agrees rest (.ok (a, rest)) (.ok a)
  | error (fault : Fault) (e : ε) : Agrees rest (.error fault) (.error e)

theorem Agrees.map {r : Reader α} {o : Except ε α} (f : α → β) (h : Agrees rest (r cs) o) :
    Agrees rest (Reader.map f r cs) (o.map f) := by
  rw [Reader.map]
  generalize r cs = x at h
  cases h with
  | ok a => exact .ok _
  | error fault e => exact .error _ _

theorem agrees_ok_iff {a : α} {r : Except Fault (α × List Char)} :
    Agrees rest r (.ok a : Except ε α) ↔ r = .ok (a, rest) := by
  constructor
  · rintro ⟨⟩
    rfl
  · rintro rfl
    exact .ok a

/-! ## Loops -/

theorem agrees_items {item : Reader α} {item' : Reader β} {f : α → Except ε β} {text : List Char}
    {n : Nat} {isFirst : Bool} {xs : List α} (lax : Bool) (hconsumes : item.Consumes)
    (hitem : ∀ cs x rest, cs <:+ text → item cs = .ok (x, rest) → Agrees rest (item' cs) (f x))
    (hcs : cs <:+ text) (h : items false item n isFirst cs = .ok (xs, rest)) :
    Agrees rest (items lax item' n isFirst cs) (xs.mapM f) := by
  induction n generalizing isFirst cs xs with
  | zero => cases h
  | succ n ih =>
    rw [items]
    rcases items_cases h with ⟨hnext, rfl⟩ | ⟨ds, x, es, ys, hnext, hread, hrest, rfl⟩
    · rw [nextItem_lax lax hnext]
      exact .ok []
    · have hds : ds <:+ text := (suffix_of_nextItem hnext).trans hcs
      have hfirst := hitem ds x es hds hread
      have hothers := ih ((hconsumes hread).trans hds) hrest
      -- Where the first item fails, so does the whole; otherwise the others decide.
      rw [nextItem_lax lax hnext, List.mapM_cons]
      dsimp only
      generalize item' ds = r, f x = o at hfirst
      cases hfirst with
      | error fault e => exact .error fault e
      | ok y =>
        dsimp only
        generalize items lax item' n false es = r, ys.mapM f = o at hothers
        cases hothers with
        | error fault e => exact .error fault e
        | ok ys => exact .ok (y :: ys)

section

variable {value : Reader Json} {text : List Char} {n : Nat} {isFirst : Bool} {s : σ}
  {others ms : List (String × Json)} {field : σ → Reader σ}

/-- The members that are read come in front of others, the last one first. -/
theorem exists_agrees_fields (lax : Bool) (step : σ → String × Json → Except ε σ)
    (hconsumes : value.Consumes)
    (hfield : ∀ s key j cs ds es rest, quoted cs = .ok (key, ds) → afterColon ds = .ok es →
      es <:+ text → value es = .ok (j, rest) → Agrees rest (field s cs) (step s (key, j)))
    (hcs : cs <:+ text)
    (h : fields false (keyedMember value) n isFirst others cs = .ok (ms, rest)) :
    ∃ new : List (String × Json), ms = new.reverse ++ others ∧
      Agrees rest (fields lax field n isFirst s cs) (new.foldlM step s) := by
  induction n generalizing isFirst cs s others with
  | zero => cases h
  | succ n ih =>
    rw [fields]
    rcases fields_cases h with ⟨hnext, rfl⟩ | ⟨ds, t, es, hnext, hread, hrest⟩
    · rw [nextMember_lax lax hnext]
      exact ⟨[], rfl, .ok s⟩
    · have hds : ds <:+ text := (suffix_of_nextMember hnext).trans hcs
      have hes : es <:+ text := (hconsumes.keyedMember others hread).trans hds
      obtain ⟨key, fs, gs, j, hkey, hcolon, hvalue, rfl⟩ := keyedMember_cases hread
      have hgs : gs <:+ text :=
        ((suffix_of_afterColon hcolon).trans (suffix_of_quoted hkey)).trans hds
      have hfirst := hfield s key j ds fs gs es hkey hcolon hgs hvalue
      rw [nextMember_lax lax hnext]
      dsimp only
      -- Where the first member fails, the others are read as documents all the same.
      generalize field s ds = r, ho : step s (key, j) = o at hfirst
      cases hfirst with
      | error fault e =>
        obtain ⟨new, rfl, -⟩ := ih (s := s) hes hrest
        refine ⟨(key, j) :: new, by simp, ?_⟩
        rw [List.foldlM_cons, ho]
        exact .error fault e
      | ok s' =>
        obtain ⟨new, rfl, hothers⟩ := ih (s := s') hes hrest
        refine ⟨(key, j) :: new, by simp, ?_⟩
        rw [List.foldlM_cons, ho]
        exact hothers

theorem agrees_fields (lax : Bool) (step : σ → String × Json → Except ε σ)
    (hconsumes : value.Consumes)
    (hfield : ∀ s key j es ds fs rest, quoted es = .ok (key, ds) → afterColon ds = .ok fs →
      fs <:+ cs → value fs = .ok (j, rest) → Agrees rest (field s es) (step s (key, j)))
    (h : fields false (keyedMember value) n isFirst [] cs = .ok (ms.reverse, rest)) :
    Agrees rest (fields lax field n isFirst s cs) (ms.foldlM step s) := by
  obtain ⟨new, hnew, hagrees⟩ :=
    exists_agrees_fields lax step hconsumes hfield (List.suffix_refl cs) h
  rw [List.append_nil, List.reverse_inj] at hnew
  exact hnew ▸ hagrees

end

/-! ## Passing over -/

variable {bound depth limit n : Nat} {j : Json}

/-- Items are passed over if each of them is. -/
theorem skip_items {js : List Json}
    (hskip : ∀ ds j rest, ds <:+ cs → document bound depth ds = .ok (j, rest) →
      skip bound limit ds = .ok ((), rest))
    (h : items false (document bound depth) n true cs = .ok (js, rest)) :
    Reader.map (fun _ => ()) (items true (skip bound limit) n true) cs = .ok ((), rest) := by
  have hitems := agrees_items (f := fun _ => (pure () : Except Fault Unit)) true consumes_document
    (fun ds j rest hds h => agrees_ok_iff.2 (hskip ds j rest hds h)) (List.suffix_refl cs) h
  rw [List.mapM_pure] at hitems
  rw [Reader.map, agrees_ok_iff.1 hitems]

/-- Members are passed over if the value of each of them is. -/
theorem skip_members {ms : List (String × Json)}
    (hskip : ∀ ds j rest, ds <:+ cs → document bound depth ds = .ok (j, rest) →
      skip bound limit ds = .ok ((), rest))
    (h : fields false (keyedMember (document bound depth)) n true [] cs =
      .ok (ms.reverse, rest)) :
    fields true
      (fun _ cs => do
        let cs ← skipQuoted cs
        let cs ← afterColon cs
        skip bound limit cs)
      n true () cs = .ok ((), rest) := by
  have hfield (_ : Unit) (key : String) (j : Json) (es ds fs rest : List Char)
      (hkey : quoted es = .ok (key, ds)) (hcolon : afterColon ds = .ok fs) (hfs : fs <:+ cs)
      (h : document bound depth fs = .ok (j, rest)) :
      Agrees rest (skipQuoted es >>= fun es => afterColon es >>= fun es => skip bound limit es)
        (pure () : Except Fault Unit) := by
    rw [skipQuoted_of_quoted hkey]
    show Agrees rest (afterColon ds >>= skip bound limit) _
    rw [hcolon]
    exact agrees_ok_iff.2 (hskip fs j rest hfs h)
  have hfields := agrees_fields (s := ()) true (fun _ _ => pure ()) consumes_document hfield h
  rw [List.foldlM_pure] at hfields
  exact agrees_ok_iff.1 hfields

/-- What is read as a document is passed over up to the same place, if that may go as deep as the
    text is long. -/
theorem skip_of_document (h : document bound depth cs = .ok (j, rest))
    (hlimit : cs.length ≤ limit) : skip bound limit cs = .ok ((), rest) := by
  -- The induction is on the levels of the document; the limit falls with the length of the text.
  induction depth using Nat.strongRecOn generalizing cs j rest limit with
  | _ depth ih =>
    have hlength : (skipGap cs).length ≤ limit := Nat.le_trans (skipGap_suffix cs).length_le hlimit
    have h := isRead_of_document h
    rw [skip]
    generalize skipGap cs = ds at h hlength
    cases h with
    | null h | true h | false h => exact h
    | text h => exact congrArg (Except.map ((), ·)) (skipQuoted_of_quoted h)
    | number hc h =>
      split
      case h_8 heq =>
        cases heq
        rw [if_pos (by simpa using hc), skipNumber_of_number h]
        rfl
      all_goals simp_all
    | array h =>
      rcases limit with _ | limit
      · simp at hlength
      exact skip_items (fun ds j rest hds h => ih _ (Nat.lt_succ_self _) h
        (Nat.le_trans hds.length_le (Nat.le_of_succ_le_succ hlength))) h
    | object h =>
      rcases limit with _ | limit
      · simp at hlength
      exact skip_members (fun ds j rest hds h => ih _ (Nat.lt_succ_self _) h
        (Nat.le_trans hds.length_le (Nat.le_of_succ_le_succ hlength))) h

end Reader

end Tether
