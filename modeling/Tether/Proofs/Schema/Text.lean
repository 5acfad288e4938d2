import Tether.Proofs.Json.Alongside
import Tether.Proofs.Schema.Reading

/-!
# Texts, read by a schema

A text that can be read as a document is read by a schema just as that document is: both succeed
with the same value, or both fail. The document is that of the text, so with all members of an
object in their order, and a field that is repeated is found in both.

* `Schema.Follows`, `Fields.Follow`: reading the text comes to what reading its document does;
* `Schema.follows`: by every schema it does, by recursion over the schema;
* `Schema.read_eq_ok_iff`, `Wire.read_eq_ok_iff`: whole texts.
-/

namespace Tether

open Reader

variable {bound depth : Nat} {cs ds rest : List Char} {j : Json}

/-- The value of a field that is not known is passed over. -/
theorem Reader.ignored_of_document {α : Type} {a : α} (hcolon : afterColon cs = .ok ds)
    (hds : ds.length ≤ bound) (h : document bound depth ds = .ok (j, rest)) :
    ignored bound a cs = .ok (a, rest) := by
  rw [ignored, hcolon]
  dsimp only
  rw [Reader.map, skip_of_document h hds]

namespace Schema

/-- Whether reading a text by the schema comes to what reading its document does. -/
def Follows (bound : Nat) (s : Schema) : Prop :=
  ∀ ⦃depth : Nat⦄ ⦃cs : List Char⦄ ⦃j : Json⦄ ⦃rest : List Char⦄, cs.length ≤ bound →
    document bound depth cs = .ok (j, rest) → Agrees rest (s.reader bound depth cs) (s.ofJson j)

/-! ## Literals -/

theorem follows_text : text.Follows bound := by
  intro depth cs j rest _ h
  have h := isRead_of_document h
  rw [reader]
  generalize skipGap cs = ds at h
  cases h with
  | text h =>
    show Agrees rest (quoted _) _
    rw [h]
    exact .ok _
  | number hc h =>
    -- No number starts with a quote; the cases of the other schemas are left out alike.
    split
    case h_1 heq =>
      cases heq
      simp at hc
    case h_2 => exact .error _ _
  | _ => exact .error _ _

theorem follows_flag : flag.Follows bound := by
  intro depth cs j rest _ h
  have h := isRead_of_document h
  rw [reader]
  generalize skipGap cs = ds at h
  cases h with
  | true h | false h =>
    show Agrees rest (word _ _ _) _
    rw [word_eq_ok_iff.2 ⟨rfl, h⟩]
    exact .ok _
  | number hc h =>
    split
    case h_1 heq | h_2 heq =>
      cases heq
      simp at hc
    case h_3 => exact .error _ _
  | _ => exact .error _ _

theorem follows_natural {w : Width} : (natural w).Follows bound := by
  intro depth cs j rest _ h
  have h := isRead_of_document h
  rw [reader, Reader.natural]
  generalize skipGap cs = ds at h
  cases h with
  | @number _ _ _ _ n hc h =>
    dsimp only
    rw [if_pos (by simpa using hc), h]
    rcases n with n | x
    · rw [ofJson]
      dsimp only
      rcases w.ofInteger? n with _ | a
      · exact .error _ _
      · exact .ok _
    · exact .error _ _
  | _ => exact .error _ _

theorem follows_any : any.Follows bound := by
  intro depth cs j rest _ h
  rw [reader, Reader.map, h]
  exact .ok _

theorem follows_label : label.Follows bound := by
  intro depth cs j rest _ h
  have h := isRead_of_document h
  rw [reader, Reader.label]
  generalize skipGap cs = ds at h
  cases h with
  | text h =>
    dsimp only
    rw [if_pos rfl, h]
    exact .ok _
  | @number _ c _ _ n hc h =>
    have hquote : c ≠ '"' := by
      rintro rfl
      simp at hc
    dsimp only
    rw [if_neg hquote, if_pos (by simpa using hc), h]
    rcases n with n | x
    · exact .ok _
    · exact .error _ _
  | _ => exact .error _ _

/-! ## Optional values and lists -/

theorem follows_optional {s : Schema} (hs : s.Follows bound) : (optional s).Follows bound := by
  intro depth cs j rest hcs h
  have hread := hs (Nat.le_trans (skipGap_suffix cs).length_le hcs) (document_skipGap.trans h)
  have h := isRead_of_document h
  rw [reader, nullable]
  generalize skipGap cs = ds at h hread
  cases h with
  | null h =>
    show Agrees rest (word none _ _) _
    rw [word_eq_ok_iff.2 ⟨rfl, h⟩]
    exact .ok _
  | number hc h =>
    split
    case h_1 heq =>
      cases heq
      simp at hc
    case h_2 => exact hread.map some
  | _ => exact hread.map some

theorem follows_list {s : Schema} (hs : s.Follows bound) : (list s).Follows bound := by
  intro depth cs j rest hcs h
  have hlength : (skipGap cs).length ≤ bound := Nat.le_trans (skipGap_suffix cs).length_le hcs
  have h := isRead_of_document h
  rw [reader]
  generalize skipGap cs = ds at h hlength
  cases h with
  | @array depth ds _ js h =>
    refine agrees_items false consumes_document (fun es j rest hes h => ?_) (List.suffix_refl ds) h
    exact hs (Nat.le_trans hes.length_le (Nat.le_of_succ_le hlength)) h
  | number hc h =>
    split
    case h_1 heq =>
      cases heq
      simp at hc
    case h_2 => exact .error _ _
  | _ => exact .error _ _

end Schema

/-! ## Fields -/

namespace Fields

variable {fs : Fields}

/-- The same for the fields of a record: each by its name, and all of them by their places. -/
structure Follow (bound : Nat) (fs : Fields) : Prop where
  byName : ∀ ⦃depth : Nat⦄ ⦃cs ds : List Char⦄ ⦃j : Json⦄ ⦃rest : List Char⦄ (key : String)
    (slots : fs.Slots), afterColon cs = .ok ds → ds.length ≤ bound →
      document bound depth ds = .ok (j, rest) →
        Option.Rel (fun r o => Agrees rest (r cs) o) (fs.fieldReader bound depth key slots)
          (fs.enter key j slots)
  byPlace : ∀ ⦃depth n : Nat⦄ ⦃cs : List Char⦄ ⦃js : List Json⦄ ⦃rest : List Char⦄
    (record : String) (size count index : Nat), cs.length ≤ bound →
      items false (document bound depth) n (index == 0) cs = .ok (js, rest) →
        Agrees rest (fs.itemReader bound record size depth index cs)
          (fs.ofItems record count size index js)

/-- After the last field, no item may follow. -/
theorem follow_nil : nil.Follow bound where
  byName _ _ _ _ _ _ _ _ _ _ := by
    rw [fieldReader.eq_def, enter.eq_def]
    exact .none
  byPlace := by
    intro depth n cs js rest record size count index hcs h
    rw [itemReader]
    rcases n with _ | n
    · cases h
    rcases items_cases h with ⟨hnext, rfl⟩ | ⟨ds, x, es, ys, hnext, -, -, rfl⟩
    · rcases nextItem_cases hnext with ⟨ds, hds, heq⟩ | ⟨_, _, -, -, -, heq⟩ |
        ⟨_, _, _, -, -, -, -, heq⟩
      · cases heq
        rw [afterArray_eq_ok_iff.2 hds]
        exact .ok ()
      · cases heq
      · cases heq
    · -- An item follows, so the bracket does not.
      rcases hafter : afterArray cs with e | es
      · exact .error _ _
      · rw [nextItem, afterArray_eq_ok_iff.1 hafter] at hnext
        cases hnext

theorem follow_cons {name : String} {isRequired : Bool} {s : Schema}
    (hs : s.Follows bound) (hfs : fs.Follow bound) : (cons name isRequired s fs).Follow bound where
  byName := by
    intro depth cs ds j rest key slots hcolon hds h
    obtain ⟨slot, slots⟩ := slots
    rw [fieldReader.eq_def, enter.eq_def]
    dsimp only
    split_ifs with hkey
    · rcases slot with _ | a
      · refine .some ?_
        dsimp only
        rw [hcolon]
        exact (hs hds h).map _
      · -- The field is repeated, which is found before its value is read.
        exact .some (.error _ _)
    · have hfield := hfs.byName key slots hcolon hds h
      generalize fs.fieldReader bound depth key slots = r, fs.enter key j slots = o at hfield
      cases hfield with
      | none => exact .none
      | some h => exact .some (h.map _)
  byPlace := by
    intro depth n cs js rest record size count index hcs h
    rcases n with _ | n
    · cases h
    rw [itemReader]
    rcases items_cases h with ⟨hnext, rfl⟩ | ⟨ds, x, es, ys, hnext, hread, hrest, rfl⟩
    · -- No item is left for this field and those after it.
      rw [hnext, ofItems]
      dsimp only
      rcases (cons name isRequired s fs).cut record size index with m | as
      · exact .error _ _
      · exact .ok _
    · have hds : ds.length ≤ bound := Nat.le_trans (suffix_of_nextItem hnext).length_le hcs
      have hes : es.length ≤ bound := Nat.le_trans (consumes_document hread).length_le hds
      have hfirst := hs hds hread
      have hothers := hfs.byPlace record size count (index + 1) hes hrest
      rw [hnext, ofItems]
      dsimp only
      generalize s.reader bound depth ds = r, s.ofJson x = o at hfirst
      cases hfirst with
      | error fault m => exact .error _ _
      | ok a =>
        dsimp only
        generalize fs.itemReader bound record size depth (index + 1) es = r,
          fs.ofItems record count size (index + 1) ys = o at hothers
        cases hothers with
        | error fault m => exact .error _ _
        | ok as => exact .ok _

theorem enter_eq_none_iff : ∀ {fs : Fields} {key : String} {j : Json} {slots : fs.Slots},
    fs.enter key j slots = none ↔ key ∉ fs.names
  | .nil, _, _, _ => by simp [enter, names]
  | .cons name _ s fs, key, j, (slot, slots) => by
    have ih : fs.enter key j slots = none ↔ key ∉ fs.names := enter_eq_none_iff
    simp only [enter, names, List.mem_cons]
    split_ifs with hkey
    · cases slot <;> simp [hkey]
    · simp [hkey, ih]

/-- Takes a member into an open record: one that is not known comes to the others. -/
def keep (fs : Fields) (s : fs.Slots × List (String × Json)) (m : String × Json) :
    Except Mismatch (fs.Slots × List (String × Json)) :=
  match fs.enter m.1 m.2 s.1 with
  | some r => r.map (·, s.2)
  | none => .ok (s.1, m :: s.2)

/-- The fields and the others come to what they do apart from each other. -/
theorem foldlM_keep {slots : fs.Slots} {others ms : List (String × Json)} :
    ms.foldlM fs.keep (slots, others) =
      (ms.foldlM (fun slots m => (fs.enter m.1 m.2 slots).getD (.ok slots)) slots).map
        (·, (ms.filter fun m => m.1 ∉ fs.names).reverse ++ others) := by
  induction ms generalizing slots others with
  | nil => rfl
  | cons m ms ih =>
    obtain ⟨key, j⟩ := m
    rw [List.foldlM_cons, List.foldlM_cons, keep]
    rcases henter : fs.enter key j slots with _ | (m | slots')
    · have hkey : key ∉ fs.names := enter_eq_none_iff.1 henter
      rw [List.filter_cons_of_pos (by simpa using hkey), List.reverse_cons, List.append_assoc]
      exact ih
    · rfl
    · have hkey : key ∈ fs.names := by
        by_contra hkey
        rw [enter_eq_none_iff.2 hkey] at henter
        cases henter
      rw [List.filter_cons_of_neg (by simpa using hkey)]
      exact ih

/-! ## Members -/

section

variable {key : String} {slots : fs.Slots} {others : List (String × Json)} {es : List Char}

/-- A member of a record. -/
theorem Follow.agrees_enter (hfs : fs.Follow bound) (hkey : quoted cs = .ok (key, ds))
    (hcolon : afterColon ds = .ok es) (hes : es.length ≤ bound)
    (h : document bound depth es = .ok (j, rest)) :
    Agrees rest
      (match quoted cs with
      | .error e => .error e
      | .ok (key, cs) =>
        match fs.fieldReader bound depth key slots with
        | some r => r cs
        | none => ignored bound slots cs)
      ((fs.enter key j slots).getD (.ok slots)) := by
  have hfield := hfs.byName key slots hcolon hes h
  rw [hkey]
  dsimp only
  generalize fs.fieldReader bound depth key slots = r, fs.enter key j slots = o at hfield
  cases hfield with
  | none =>
    dsimp only
    rw [ignored_of_document hcolon hes h]
    exact .ok _
  | some h => exact h

/-- A member of an open record. -/
theorem Follow.agrees_keep (hfs : fs.Follow bound) (hkey : quoted cs = .ok (key, ds))
    (hcolon : afterColon ds = .ok es) (hes : es.length ≤ bound)
    (h : document bound depth es = .ok (j, rest)) :
    Agrees rest
      (match quoted cs with
      | .error e => .error e
      | .ok (key, cs) =>
        match fs.fieldReader bound depth key slots with
        | some r => map (·, others) r cs
        | none => map (slots, ·) (member (document bound depth) key others) cs)
      (fs.keep (slots, others) (key, j)) := by
  have hfield := hfs.byName key slots hcolon hes h
  rw [hkey, keep]
  dsimp only
  generalize fs.fieldReader bound depth key slots = r, fs.enter key j slots = o at hfield
  cases hfield with
  | none =>
    dsimp only
    rw [Reader.map, member, hcolon]
    dsimp only
    rw [h]
    exact .ok _
  | some h => exact h.map _

end

/-! ## The end of a record -/

theorem agrees_close {r : Except Fault (fs.Slots × List Char)} {o : Except Mismatch fs.Slots}
    (h : Agrees rest r o) :
    Agrees rest
      (match r with
      | .error e => .error e
      | .ok (slots, cs) =>
        match fs.close slots with
        | .ok as => .ok (as, cs)
        | .error m => .error (.mismatch m))
      (match o with
      | .ok slots => fs.close slots
      | .error e => .error e) := by
  cases h with
  | error fault m => exact .error _ _
  | ok slots =>
    dsimp only
    rcases fs.close slots with m | as
    · exact .error _ _
    · exact .ok as

theorem agrees_close_others {r : Except Fault ((fs.Slots × List (String × Json)) × List Char)}
    {o : Except Mismatch fs.Slots} {ms : List (String × Json)}
    (h : Agrees rest r (o.map (·, ms.reverse))) :
    Agrees rest
      (match r with
      | .error e => .error e
      | .ok ((slots, others), cs) =>
        match fs.close slots with
        | .ok as => .ok ((as, Object.ofMembers others.reverse), cs)
        | .error m => .error (.mismatch m))
      (match o with
      | .ok slots => (fs.close slots).map fun as => (as, .ofMembers ms)
      | .error e => .error e) := by
  rcases o with m | slots
  · cases h
    exact .error _ _
  · cases h
    dsimp only
    rw [List.reverse_reverse]
    rcases fs.close slots with m | as
    · exact .error _ _
    · exact .ok _

end Fields

/-! ## Records -/

namespace Schema

variable {name : String} {fs : Fields}

theorem follows_record (hfs : fs.Follow bound) : (record name fs).Follows bound := by
  intro depth cs j rest hcs h
  have hlength : (skipGap cs).length ≤ bound := Nat.le_trans (skipGap_suffix cs).length_le hcs
  have h := isRead_of_document h
  rw [reader]
  generalize skipGap cs = ds at h hlength
  cases h with
  | array h => exact hfs.byPlace name fs.size _ 0 (Nat.le_of_succ_le hlength) h
  | @object depth ds _ ms h =>
    have hfields := agrees_fields (s := fs.unread) false
      (fun slots m => (fs.enter m.1 m.2 slots).getD (.ok slots)) consumes_document
      (fun _ _ _ _ _ _ _ hkey hcolon hsuffix h =>
        hfs.agrees_enter hkey hcolon
          (Nat.le_trans hsuffix.length_le (Nat.le_of_succ_le hlength)) h) h
    rw [ofJson]
    exact Fields.agrees_close hfields
  | number hc h =>
    split
    case h_1 heq | h_2 heq =>
      cases heq
      simp at hc
    case h_3 => exact .error _ _
  | _ => exact .error _ _

theorem follows_openRecord (hfs : fs.Follow bound) : (openRecord name fs).Follows bound := by
  intro depth cs j rest hcs h
  have hlength : (skipGap cs).length ≤ bound := Nat.le_trans (skipGap_suffix cs).length_le hcs
  have h := isRead_of_document h
  rw [reader]
  generalize skipGap cs = ds at h hlength
  cases h with
  | @object depth ds _ ms h =>
    have hfields := agrees_fields (s := (fs.unread, [])) false fs.keep consumes_document
      (fun _ _ _ _ _ _ _ hkey hcolon hsuffix h =>
        hfs.agrees_keep hkey hcolon
          (Nat.le_trans hsuffix.length_le (Nat.le_of_succ_le hlength)) h) h
    rw [Fields.foldlM_keep, List.append_nil] at hfields
    rw [ofJson]
    exact Fields.agrees_close_others hfields
  | number hc h =>
    split
    case h_1 heq =>
      cases heq
      simp at hc
    case h_2 => exact .error _ _
  | _ => exact .error _ _

end Schema

/-! ## All schemas -/

mutual

/-- A text is read by a schema as its document is. -/
theorem Schema.follows : ∀ s : Schema, s.Follows bound
  | .text => Schema.follows_text
  | .flag => Schema.follows_flag
  | .natural _ => Schema.follows_natural
  | .any => Schema.follows_any
  | .label => Schema.follows_label
  | .optional s => Schema.follows_optional s.follows
  | .list s => Schema.follows_list s.follows
  | .record _ fs => Schema.follows_record fs.follow
  | .openRecord _ fs => Schema.follows_openRecord fs.follow

theorem Fields.follow : ∀ fs : Fields, fs.Follow bound
  | .nil => Fields.follow_nil
  | .cons _ _ s fs => Fields.follow_cons s.follows fs.follow

end

variable {text : String}

theorem Schema.read_eq_ok_iff {s : Schema} {a : s.Denote} (h : Json.read text = .ok j) :
    s.read text = .ok a ↔ s.ofJson j = .ok a := by
  obtain ⟨rest, hread, hrest⟩ := all_eq_ok_iff.1 h
  have hs := s.follows (Nat.le_succ text.toList.length) hread
  rw [Schema.read, all_eq_ok_iff]
  generalize s.reader (text.toList.length + 1) maxDepth text.toList = r, s.ofJson j = o at hs
  cases hs with
  | error fault m => simp
  | ok b => simp [hrest]

theorem Wire.read_eq_ok_iff {α : Type} [Wire α] {a : α} (h : Json.read text = .ok j) :
    Wire.read text = .ok a ↔ Wire.ofJson j = .ok a := by
  rw [Wire.read, Wire.ofJson, map_eq_ok_iff, map_eq_ok_iff]
  simp only [Schema.read_eq_ok_iff h]

end Tether
