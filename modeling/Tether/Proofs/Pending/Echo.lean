import Tether.Proofs.Frame.Normal
import Tether.Proofs.Json.Numeral
import Tether.Proofs.Pending.Table
import Tether.Proofs.Schema.Faithful

/-!
# Numbers for ids

A peer may give a request id back as a whole number, which then stands for the number in decimal.
No two whole numbers stand for one id, and a text is the id of a whole number just if it is that
number in decimal. So a response whose id is a number answers the request that was made under that
number in decimal, and no other.

* `RequestId.exists_ofJson_iff`, `RequestId.exists_read_iff`: what an id is read of;
* `RequestId.ofValue_integer_eq_iff`: when two ids are one;
* `Pending.Table.resolve_echo`: what a response with a number does to a table.
-/

namespace Tether

namespace RequestId

variable {j : Json} {v : Value} {id : RequestId} {m n : Integer} {s text : String}

/-! ## Reading -/

theorem exists_ofJson_iff :
    (∃ id : RequestId, Wire.ofJson j = .ok id) ↔
      (∃ s, j = .text s) ∨ ∃ n, j = .number (.integer n) := by
  simp only [Wire.ofJson_eq_ok_iff]
  rcases j with _ | _ | (n | x) | s | _ | _
  case text => exact ⟨fun _ => .inl ⟨s, rfl⟩, fun _ => ⟨⟨s⟩, rfl⟩⟩
  case number.integer => exact ⟨fun _ => .inr ⟨n, rfl⟩, fun _ => ⟨ofInteger n, rfl⟩⟩
  all_goals simp [Wire.schema, Schema.ofJson]

theorem ofValue_eq_ok_iff : Wire.ofValue v = .ok id ↔ v.Labels id.text := by
  rw [Wire.ofValue, Wire.ofJson_eq_ok_iff]
  exact Schema.ofJson_label_iff

theorem exists_ofValue_iff :
    (∃ id : RequestId, Wire.ofValue v = .ok id) ↔ (∃ s, v = .text s) ∨ ∃ n, v = .integer n := by
  simp only [Value.eq_iff_json_eq]
  exact exists_ofJson_iff

/-- An id is read of a text, and of a whole number that is given in decimal and in range. -/
theorem exists_read_iff (h : Json.read text = .ok j) :
    (∃ id : RequestId, Wire.read text = .ok id) ↔
      (∃ s, j = .text s) ∨
        ∃ cs k, IsSpaced text cs ∧ IsDecimal cs k ∧ -9223372036854775808 ≤ k ∧
          k < 18446744073709551616 := by
  simp only [Wire.read_eq_ok_iff h]
  rw [exists_ofJson_iff]
  refine or_congr_right ⟨?_, ?_⟩
  · rintro ⟨n, rfl⟩
    obtain ⟨cs, hdecimal, hspaced⟩ := Json.read_eq_integer_iff.1 h
    exact ⟨cs, n.val, hspaced, hdecimal, n.lower, n.upper⟩
  · rintro ⟨cs, k, hspaced, hdecimal, hlower, hupper⟩
    have hread := (Json.read_eq_integer_iff (n := ⟨k, hlower, hupper⟩)).2 ⟨cs, hdecimal, hspaced⟩
    exact ⟨_, Except.ok.inj (h.symm.trans hread)⟩

/-! ## Equal ids -/

theorem ofValue_text (s : String) : Wire.ofValue (.text s) = .ok (⟨s⟩ : RequestId) := rfl

theorem ofValue_integer (n : Integer) : Wire.ofValue (.integer n) = .ok (ofInteger n) := rfl

theorem ofInteger_inj : ofInteger m = ofInteger n ↔ m = n := by
  rw [ofInteger, ofInteger, mk.injEq, Integer.text_inj]

theorem eq_ofInteger_iff : id = ofInteger n ↔ IsDecimal id.text.toList n.val := by
  rw [Integer.isDecimal_toList_iff]
  obtain ⟨s⟩ := id
  rw [ofInteger, mk.injEq]

end RequestId

/-! ## Tables -/

namespace Pending.Table

variable {κ : Type} {t : Table κ} {r : Response}

/-- What is delivered goes to the entry with the id of the response. -/
theorem resolve_eq_some_iff {d : Delivery κ} :
    (t.resolve r).2 = some d ↔ ∃ e ∈ t.entries, e.1 = r.id ∧ d = ⟨e.2, .ok r⟩ := by
  rw [resolve, Option.map_eq_some_iff]
  simp only [get?_eq_some_iff]
  constructor
  · rintro ⟨k, hk, rfl⟩
    exact ⟨(r.id, k), hk, rfl, rfl⟩
  · rintro ⟨⟨id, k⟩, hk, rfl, rfl⟩
    exact ⟨k, hk, rfl⟩

theorem mem_entries_resolve_iff {e : RequestId × κ} :
    e ∈ (t.resolve r).1.entries ↔ e ∈ t.entries ∧ e.1 ≠ r.id := by
  rw [resolve, erase, List.mem_filter, decide_eq_true_eq]

/-- The id of a response whose id is a number is that number in decimal. -/
theorem id_eq_ofInteger {o : Object} {n : Integer}
    (hr : Frame.ofValue o.toValue = .ok (.response r)) (hid : o.get? "id" = some (.integer n)) :
    r.id = .ofInteger n := by
  obtain ⟨p, hp, -, h⟩ := Frame.ofValue_eq_ok_iff.1 hr
  obtain rfl := Object.toValue_inj.1 hp
  obtain ⟨v, hv, hlabels⟩ := h.id_eq
  rw [hid, Option.some.injEq] at hv
  subst hv
  have hread := RequestId.ofValue_eq_ok_iff.2 hlabels
  exact Except.ok.inj hread.symm

/-- An id is read of a text or of a whole number in range, and of nothing else: not of a number
    with a fraction or an exponent, and not of minus zero. The id of a number is that number in
    decimal, so that different numbers have different ids, and a text has the id of a number just
    if it is that number in decimal. What is written for an id is read back. So a response with a
    number for its id is delivered to the entry under that number in decimal, and takes it away,
    and no other. -/
theorem resolve_echo (t : Table κ) :
    (∀ v : Value, (∃ id : RequestId, Wire.ofValue v = .ok id) ↔
      (∃ s, v = .text s) ∨ ∃ n, v = .integer n) ∧
    (∀ text j, Json.read text = .ok j →
      ((∃ id : RequestId, Wire.read text = .ok id) ↔
        (∃ s, j = .text s) ∨
          ∃ cs k, IsSpaced text cs ∧ IsDecimal cs k ∧ -9223372036854775808 ≤ k ∧
            k < 18446744073709551616)) ∧
    (∀ (n : Integer) (id : RequestId),
      Wire.ofValue (.integer n) = .ok id ↔ IsDecimal id.text.toList n.val) ∧
    (∀ m n : Integer,
      (Wire.ofValue (.integer m) : Except Mismatch RequestId) = Wire.ofValue (.integer n) ↔
        m = n) ∧
    (∀ (s : String) (n : Integer),
      (Wire.ofValue (.text s) : Except Mismatch RequestId) = Wire.ofValue (.integer n) ↔
        IsDecimal s.toList n.val) ∧
    (∀ id : RequestId, Wire.toJson id = .text id.text ∧ Wire.ofValue (Wire.toValue id) = .ok id ∧
      Wire.read (Wire.write id) = .ok id) ∧
    ∀ (o : Object) (r : Response) (n : Integer),
      Frame.ofValue o.toValue = .ok (.response r) → o.get? "id" = some (.integer n) →
        (∀ d, (t.resolve r).2 = some d ↔
          ∃ e ∈ t.entries, IsDecimal e.1.text.toList n.val ∧ d = ⟨e.2, .ok r⟩) ∧
        (t.resolve r).1.entries.Sublist t.entries ∧
        ∀ e, e ∈ (t.resolve r).1.entries ↔
          e ∈ t.entries ∧ ¬ IsDecimal e.1.text.toList n.val := by
  refine ⟨fun v => RequestId.exists_ofValue_iff, fun text j => RequestId.exists_read_iff,
    fun n id => ?_, fun m n => ?_, fun s n => ?_, fun id => ⟨rfl, ?_, ?_⟩, fun o r n hr hid => ?_⟩
  · rw [RequestId.ofValue_integer, Except.ok.injEq, eq_comm, RequestId.eq_ofInteger_iff]
  · rw [RequestId.ofValue_integer, RequestId.ofValue_integer, Except.ok.injEq,
      RequestId.ofInteger_inj]
  · rw [RequestId.ofValue_text, RequestId.ofValue_integer, Except.ok.injEq,
      RequestId.eq_ofInteger_iff]
  · exact Wire.ofValue_toValue rfl rfl id
  · exact Wire.read_write rfl rfl id (within_text id.text)
  · have hnumber := id_eq_ofInteger hr hid
    refine ⟨fun d => ?_, List.filter_sublist, fun e => ?_⟩
    · simp only [resolve_eq_some_iff, hnumber, RequestId.eq_ofInteger_iff]
    · rw [mem_entries_resolve_iff, hnumber, Ne, RequestId.eq_ofInteger_iff]

/-- The least number is the answer to the request under its digits, and not to the one under digits
    that are out of range. -/
theorem resolve_echo_least :
    let n : Integer := ⟨-9223372036854775808, by decide, by decide⟩
    let t : Table Nat :=
      ⟨[(⟨"-9223372036854775809"⟩, 0), (⟨"-9223372036854775808"⟩, 1)], by decide⟩
    let o : Object := .ofMembers
      [("type", .text "res"), ("id", .number (.integer n)), ("ok", .bool true)]
    let r : Response := ⟨⟨"-9223372036854775808"⟩, true, none, none⟩
    Frame.ofValue o.toValue = .ok (.response r) ∧ o.get? "id" = some (.integer n) ∧
      (t.resolve r).2 = some ⟨1, .ok r⟩ ∧
        ∀ e, e ∈ (t.resolve r).1.entries ↔ e = (⟨"-9223372036854775809"⟩, 0) := by
  intro n t o r
  have hr : Frame.ofValue o.toValue = .ok (.response r) := by decide +kernel
  have hid : o.get? "id" = some (.integer n) := by decide +kernel
  have htext : n.text = "-9223372036854775808" := by decide +kernel
  obtain ⟨-, -, -, -, -, -, htable⟩ := resolve_echo t
  obtain ⟨hdelivered, -, hleft⟩ := htable o r n hr hid
  refine ⟨hr, hid, (hdelivered _).2 ?_, fun e => ?_⟩
  · exact ⟨_, List.mem_cons_of_mem _ List.mem_cons_self,
      Integer.isDecimal_toList_iff.2 htext.symm, rfl⟩
  · rw [hleft, Integer.isDecimal_toList_iff, htext]
    simp only [t, List.mem_cons, List.not_mem_nil, or_false]
    constructor
    · rintro ⟨rfl | rfl, hne⟩
      · rfl
      · exact absurd rfl hne
    · rintro rfl
      exact ⟨.inl rfl, by decide⟩

end Pending.Table

end Tether
