import Tether.Proofs.Frame.Parts

/-!
# The messages that are read

Which values are frames, said of values alone. An object is a frame by its type and by what
it has under the few names that matter for that type; all else in it is free.

* `Value.IsFrame`: the values that are frames;
* `Frame.HasType`: what is told by the type;
* `Object.isRequest_iff`, `Object.isResponse_iff`, `Object.isEvent_iff`, `Frame.isFrame_iff`:
  each of them is the value of a frame, and no other value is;
* `Frame.decode_language`: messages.
-/

namespace Tether

/-! ## The language -/

/-- Whether what is under a name is of the form, if there is something and it is not null. -/
def IfGiven (form : Value → Prop) (member : Option Value) : Prop :=
  ∀ v, member = some v → v = .null ∨ form v

namespace Value

/-- A text. -/
def IsText (v : Value) : Prop := ∃ s, v = .text s

/-- A truth value. -/
def IsFlag (v : Value) : Prop := ∃ b, v = .flag b

/-- A whole number that is not negative. -/
def IsNatural (v : Value) : Prop := ∃ n : Integer, v = .integer n ∧ 0 ≤ n.val

/-- A text or a whole number. -/
def IsLabel (v : Value) : Prop := v.IsText ∨ ∃ n, v = .integer n

/-- Parts of an error body, each absent or given: a message is not null. -/
def AreErrorParts (message code retryable retryAfter : Option Value) : Prop :=
  (∀ v, message = some v → v.IsText) ∧ IfGiven IsText code ∧ IfGiven IsFlag retryable ∧
    IfGiven IsNatural retryAfter

/-- An object of the parts of an error body, or an array of at most five in order. -/
def IsErrorBody (v : Value) : Prop :=
  (∃ o : Object, v = o.toValue ∧
    AreErrorParts (o.get? "message") (o.get? "code") (o.get? "retryable")
      (o.get? "retryAfterMs")) ∨
  ∃ items, v = .array items ∧ items.length ≤ 5 ∧
    AreErrorParts items[0]? items[1]? items[3]? items[4]?

end Value

namespace Object

/-- The object has what a request must have. -/
def IsRequest (o : Object) : Prop :=
  (∃ id, o.get? "id" = some id ∧ id.IsLabel) ∧
    ∃ method, o.get? "method" = some method ∧ method.IsText

/-- The object has what a response must have, and no error that is none. -/
def IsResponse (o : Object) : Prop :=
  (∃ id, o.get? "id" = some id ∧ id.IsLabel) ∧ (∃ ok, o.get? "ok" = some ok ∧ ok.IsFlag) ∧
    IfGiven Value.IsErrorBody (o.get? "error")

/-- The object has no name or place of an event that is none. -/
def IsEvent (o : Object) : Prop :=
  IfGiven Value.IsText (o.get? "event") ∧ IfGiven Value.IsNatural (o.get? "seq")

end Object

/-- An object with a type, and with what is asked for by that type. -/
def Value.IsFrame (v : Value) : Prop :=
  ∃ (o : Object) (type : Value), v = o.toValue ∧ o.get? "type" = some type ∧
    if type = .text "req" then o.IsRequest
    else if type = .text "res" then o.IsResponse
    else o.IsEvent

/-- The kind and the tag of a frame are those of the type. -/
structure Frame.HasType (f : Frame) (type : Value) : Prop where
  request_iff : (∃ r, f = request r) ↔ type = .text "req"
  response_iff : (∃ r, f = response r) ↔ type = .text "res"
  kind_eq : ∀ s, type = .text s → f.kind = s
  kind_eq_event : ¬ type.IsText → f.kind = "event"

/-! ## Members -/

/-- Of the members with one key, the last one counts. -/
theorem Object.get?_ofMembers_eq_lookup_reverse {ms : List (String × Json)} (key : String) :
    (ofMembers ms).get? key = (ms.reverse.lookup key).map Value.ofJson := by
  have hjson (j : Json) : Value.ofJson j.canonical = Value.ofJson j :=
    Value.eq_of_json_eq (Json.canonical_eq_self j.ordered_canonical)
  rw [get?, ofMembers, Json.lookup_canonicalMembers_reverse, List.lookup_nil, Option.or_none,
    Option.map_map]
  exact Option.map_congr fun j _ => hjson j

/-! ## What makes a frame -/

/-- What may be null is of the form exactly if it stands for something. -/
theorem ifGiven_iff {α : Type} {form : Value → Prop} {p : Value → α → Prop}
    (hform : ∀ v, form v ↔ ∃ a, p v a) {m : Option Value} :
    IfGiven form m ↔ ∃ a, Option.Rel p (dropNull m) a := by
  rcases m with _ | v
  · simp only [IfGiven, dropNull, reduceCtorEq, false_implies, implies_true, true_iff]
    exact ⟨none, .none⟩
  · by_cases hv : v = .null
    · have hdrop : dropNull (some v) = none := by simp [dropNull, hv]
      rw [hdrop]
      refine ⟨fun _ => ⟨none, .none⟩, fun _ w hw => .inl ?_⟩
      rw [← Option.some.inj hw, hv]
    · have hdrop : dropNull (some v) = some v := by simp [dropNull, hv]
      simp only [IfGiven, hdrop, Option.some.injEq, forall_eq', hv, false_or, hform]
      constructor
      · rintro ⟨a, ha⟩
        exact ⟨some a, .some ha⟩
      · rintro ⟨_, ⟨ha⟩⟩
        exact ⟨_, ha⟩

theorem ifGiven_iff_eq_map {α : Type} {form : Value → Prop} {f : α → Value}
    (hform : ∀ v, form v ↔ ∃ a, v = f a) {m : Option Value} :
    IfGiven form m ↔ ∃ a : Option α, dropNull m = a.map f := by
  simp only [ifGiven_iff hform, rel_eq_iff_eq_map]

namespace Value

theorem isNatural_iff {v : Value} : v.IsNatural ↔ ∃ n, v = .natural n := by
  constructor
  · rintro ⟨n, rfl, hn⟩
    have hword : n.toUInt64? = some (UInt64.ofNat n.val.toNat) := if_pos hn
    exact ⟨_, congrArg integer (Integer.toUInt64?_eq_some_iff.1 hword)⟩
  · rintro ⟨n, rfl⟩
    exact ⟨.ofUInt64 n, rfl, Int.natCast_nonneg _⟩

theorem ifGiven_isText_iff {m : Option Value} :
    IfGiven IsText m ↔ ∃ a : Option String, dropNull m = a.map .text :=
  ifGiven_iff_eq_map fun _ => .rfl

theorem ifGiven_isFlag_iff {m : Option Value} :
    IfGiven IsFlag m ↔ ∃ a : Option Bool, dropNull m = a.map .flag :=
  ifGiven_iff_eq_map fun _ => .rfl

theorem ifGiven_isNatural_iff {m : Option Value} :
    IfGiven IsNatural m ↔ ∃ a : Option UInt64, dropNull m = a.map .natural :=
  ifGiven_iff_eq_map fun _ => isNatural_iff

theorem isLabel_iff {v : Value} : v.IsLabel ↔ ∃ s, v.Labels s := by
  simp only [IsLabel, IsText, Labels, exists_or]
  simp only [exists_comm (α := String), exists_and_left, exists_eq, and_true]

/-- An error body can be made of just such parts, whatever the details. -/
theorem areErrorParts_iff {message code retryable retryAfter : Option Value}
    (details : Option Value) :
    AreErrorParts message code retryable retryAfter ↔
      ∃ e : ErrorBody, e.IsMadeOf message code details retryable retryAfter := by
  have hmessage : (∀ v, message = some v → v.IsText) ↔
      ∃ s, message.getD (.text "") = .text s := by
    rcases message with _ | v
    · simp
    · simp [IsText]
  rw [AreErrorParts, hmessage, ifGiven_isText_iff, ifGiven_isFlag_iff, ifGiven_isNatural_iff]
  constructor
  · rintro ⟨⟨message, hmessage⟩, ⟨code, hcode⟩, ⟨retryable, hretryable⟩, ⟨retryAfter, hretryAfter⟩⟩
    exact ⟨⟨message, code, _, retryable, retryAfter⟩, hmessage, hcode, rfl, hretryable, hretryAfter⟩
  · rintro ⟨e, h⟩
    exact ⟨⟨_, h.message_eq⟩, ⟨_, h.code_eq⟩, ⟨_, h.retryable_eq⟩, ⟨_, h.retryAfter_eq⟩⟩

theorem isErrorBody_iff {v : Value} : v.IsErrorBody ↔ ∃ e : ErrorBody, e.IsOf v := by
  constructor
  · rintro (⟨o, rfl, hparts⟩ | ⟨items, rfl, hlength, hparts⟩)
    · obtain ⟨e, he⟩ := (areErrorParts_iff (o.get? "details")).1 hparts
      exact ⟨e, .inl ⟨o, rfl, he⟩⟩
    · obtain ⟨e, he⟩ := (areErrorParts_iff items[2]?).1 hparts
      exact ⟨e, .inr ⟨items, rfl, hlength, he⟩⟩
  · rintro ⟨e, ⟨o, rfl, he⟩ | ⟨items, rfl, hlength, he⟩⟩
    · exact .inl ⟨o, rfl, (areErrorParts_iff _).2 ⟨e, he⟩⟩
    · exact .inr ⟨items, rfl, hlength, (areErrorParts_iff _).2 ⟨e, he⟩⟩

end Value

namespace Object

variable {o : Object}

theorem isRequest_iff : o.IsRequest ↔ ∃ r : Request, r.IsOf o := by
  constructor
  · rintro ⟨⟨id, hid, hlabel⟩, _, hmethod, method, rfl⟩
    obtain ⟨text, htext⟩ := Value.isLabel_iff.1 hlabel
    exact ⟨⟨⟨text⟩, method, _⟩, ⟨id, hid, htext⟩, hmethod, rfl⟩
  · rintro ⟨r, h⟩
    obtain ⟨id, hid, htext⟩ := h.id_eq
    exact ⟨⟨id, hid, Value.isLabel_iff.2 ⟨_, htext⟩⟩, _, h.method_eq, _, rfl⟩

theorem isResponse_iff : o.IsResponse ↔ ∃ r : Response, r.IsOf o := by
  rw [IsResponse, ifGiven_iff fun _ => Value.isErrorBody_iff]
  constructor
  · rintro ⟨⟨id, hid, hlabel⟩, ⟨_, hok, ok, rfl⟩, error, herror⟩
    obtain ⟨text, htext⟩ := Value.isLabel_iff.1 hlabel
    exact ⟨⟨⟨text⟩, ok, _, error⟩, ⟨id, hid, htext⟩, hok, rfl, herror⟩
  · rintro ⟨r, h⟩
    obtain ⟨id, hid, htext⟩ := h.id_eq
    exact ⟨⟨id, hid, Value.isLabel_iff.2 ⟨_, htext⟩⟩, ⟨_, h.ok_eq, _, rfl⟩, _, h.error_eq⟩

theorem isEvent_iff {type : Value} (htype : o.get? "type" = some type) :
    o.IsEvent ↔ ∃ e : Event, e.type = type ∧ e.IsOf o := by
  rw [IsEvent, Value.ifGiven_isText_iff, Value.ifGiven_isNatural_iff]
  constructor
  · rintro ⟨⟨event, hevent⟩, seq, hseq⟩
    exact ⟨⟨type, event, _, seq, _⟩, rfl, htype, hevent, rfl, hseq, eq_ofMembers_filter_iff.1 rfl⟩
  · rintro ⟨e, -, h⟩
    exact ⟨⟨_, h.event_eq⟩, _, h.seq_eq⟩

end Object

/-! ## Messages -/

namespace Frame

variable {f : Frame} {v : Value}

theorem isFrame_iff : v.IsFrame ↔ ∃ f : Frame, f.IsOf v := by
  constructor
  · rintro ⟨o, type, rfl, htype, h⟩
    split_ifs at h with hreq hres
    · obtain ⟨r, hr⟩ := Object.isRequest_iff.1 h
      exact ⟨.request r, o, rfl, hreq ▸ htype, hr⟩
    · obtain ⟨r, hr⟩ := Object.isResponse_iff.1 h
      exact ⟨.response r, o, rfl, hres ▸ htype, hr⟩
    · obtain ⟨e, rfl, he⟩ := (Object.isEvent_iff htype).1 h
      exact ⟨.event e, o, rfl, ⟨hreq, hres⟩, he⟩
  · rintro ⟨r | r | e, o, rfl, h⟩
    · refine ⟨o, _, rfl, h.1, ?_⟩
      rw [if_pos rfl]
      exact Object.isRequest_iff.2 ⟨r, h.2⟩
    · refine ⟨o, _, rfl, h.1, ?_⟩
      rw [if_neg (by decide), if_pos rfl]
      exact Object.isResponse_iff.2 ⟨r, h.2⟩
    · refine ⟨o, _, rfl, h.2.type_eq, ?_⟩
      rw [if_neg h.1.1, if_neg h.1.2]
      exact (Object.isEvent_iff h.2.type_eq).2 ⟨e, rfl, h.2⟩

/-- The kind of a frame is told by the type alone. -/
theorem hasType_of_isOf {o : Object} {type : Value} (htype : o.get? "type" = some type)
    (h : f.IsOf o.toValue) : f.HasType type := by
  obtain ⟨p, hp, h⟩ := h
  obtain rfl := Object.toValue_inj.1 hp
  rcases f with r | r | e
  · obtain rfl := Option.some.inj (htype.symm.trans h.1)
    exact ⟨by simp, by simp [Value.text_inj], fun _ hs => Value.text_inj.1 hs,
      fun hne => absurd ⟨_, rfl⟩ hne⟩
  · obtain rfl := Option.some.inj (htype.symm.trans h.1)
    exact ⟨by simp [Value.text_inj], by simp, fun _ hs => Value.text_inj.1 hs,
      fun hne => absurd ⟨_, rfl⟩ hne⟩
  · obtain ⟨⟨hreq, hres⟩, he⟩ := h
    obtain rfl := Option.some.inj (htype.symm.trans he.type_eq)
    refine ⟨by simp [hreq], by simp [hres], fun s hs => ?_, fun hne => ?_⟩
    · rw [kind, hs, Value.text?_text, Option.getD_some]
    · have htext : e.type.text? = none :=
        Option.eq_none_iff_forall_ne_some.2 fun s hs => hne ⟨s, Value.text?_eq_some_iff.1 hs⟩
      rw [kind, htext, Option.getD_none]
      rfl

/-- What is read of a text: nothing, unless it is a document and the value of that document
    is a frame, and then just the frame that the value is. Of the members of an object with
    one name, the last one counts. -/
theorem decode_language (text : String) :
    (∀ fault, Json.read text = .error fault → decode text = .error (.unreadable text fault)) ∧
      ∀ j, Json.read text = .ok j →
        ((∃ f, decode text = .ok f) ↔ (Value.ofJson j).IsFrame) ∧
        (∀ f, decode text = .ok f ↔ f.IsOf (.ofJson j)) ∧
        ∀ ms, j = .object ms → ∃ o : Object, Value.ofJson j = o.toValue ∧
          (∀ key, o.get? key = (ms.reverse.lookup key).map Value.ofJson) ∧
          ∀ f type, decode text = .ok f → o.get? "type" = some type → f.HasType type := by
  have hdecode (f : Frame) (j : Json) (hread : Json.read text = .ok j) :
      decode text = .ok f ↔ f.IsOf (.ofJson j) := by
    rw [decode, Value.read, hread, ← ofValue_eq_ok_iff]
    rfl
  refine ⟨fun fault hread => ?_, fun j hread => ⟨?_, fun f => hdecode f j hread, ?_⟩⟩
  · rw [decode, Value.read, hread]
    rfl
  · simp only [hdecode _ j hread, isFrame_iff]
  · rintro ms rfl
    refine ⟨.ofMembers ms, Value.ofJson_object ms, Object.get?_ofMembers_eq_lookup_reverse,
      fun f type hf htype => hasType_of_isOf htype ?_⟩
    rw [← Value.ofJson_object]
    exact (hdecode f _ hread).1 hf

end Frame

end Tether
