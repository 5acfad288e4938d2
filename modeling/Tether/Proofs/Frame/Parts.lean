import Tether.Proofs.Frame.RoundTrip
import Tether.Proofs.Schema.Reading

/-!
# The frame of a value

What of a value each part of its frame is. This is said of values alone: of the members that
an object has by name and, for an error body that is given as an array, of its items by
place. Absent and null are the same for what is optional (`dropNull`), and differ for what
is not.

* `Request.IsOf`, `ErrorBody.IsOf`, `Response.IsOf`, `Event.IsOf`, `Frame.IsOf`: the parts;
* `Schema.gives_text_iff` and the like: what each schema reads of a member;
* `Request.ofJson_iff` and the like: what is read of an object;
* `Frame.ofValue_eq_ok_iff`: a frame is read of just the values that it is of.
-/

namespace Tether

/-! ## Values -/

namespace Value

/-- The value of a truth value. -/
def flag (b : Bool) : Value := ⟨.bool b, trivial⟩

/-- The value of a whole number. -/
def integer (n : Integer) : Value := ⟨.number (.integer n), trivial⟩

/-- The value of a natural number. -/
def natural (n : UInt64) : Value := integer (.ofUInt64 n)

/-- The array of the values. -/
def array (items : List Value) : Value where
  json := .array (items.map json)
  ordered := by
    rw [Json.Ordered, Json.orderedItems_iff]
    intro j hj
    obtain ⟨v, -, rfl⟩ := List.mem_map.1 hj
    exact v.ordered

/-- Whether the value is an id with this text: the text, or a whole number in decimal. -/
def Labels (v : Value) (s : String) : Prop := v = .text s ∨ ∃ n, v = .integer n ∧ s = n.text

theorem eq_iff_json_eq {v w : Value} : v = w ↔ v.json = w.json :=
  ⟨fun h => congrArg json h, eq_of_json_eq⟩

@[simp]
theorem ofJson_text (s : String) : ofJson (.text s) = .text s := ofJson_json (.text s)

@[simp]
theorem ofJson_integer (n : Integer) : ofJson (.number (.integer n)) = .integer n :=
  ofJson_json (.integer n)

theorem text_inj {s t : String} : Value.text s = .text t ↔ s = t := by
  simp [eq_iff_json_eq, text]

theorem object?_eq_some_iff {v : Value} {o : Object} : v.object? = some o ↔ v = o.toValue := by
  obtain ⟨j, hj⟩ := v
  obtain ⟨ms, hms⟩ := o
  cases j <;> simp [object?, Object.toValue]

end Value

namespace Object

theorem toValue_inj {o p : Object} : o.toValue = p.toValue ↔ o = p := by
  obtain ⟨ms, hms⟩ := o
  obtain ⟨ns, hns⟩ := p
  simp [toValue]

end Object

/-! ## Frames of values -/

/-- Whether the parts of an error body, each absent or given, are those of `e`. -/
structure ErrorBody.IsMadeOf (e : ErrorBody)
    (message code details retryable retryAfter : Option Value) : Prop where
  message_eq : message.getD (.text "") = .text e.message
  code_eq : dropNull code = e.code.map .text
  details_eq : dropNull details = e.details
  retryable_eq : dropNull retryable = e.retryable.map .flag
  retryAfter_eq : dropNull retryAfter = e.retryAfter.map .natural

/-- Whether the value is the error body `e`: an object of its parts, or an array of at most
    five of them in order. -/
def ErrorBody.IsOf (e : ErrorBody) (v : Value) : Prop :=
  (∃ o : Object, v = o.toValue ∧
    e.IsMadeOf (o.get? "message") (o.get? "code") (o.get? "details") (o.get? "retryable")
      (o.get? "retryAfterMs")) ∨
  ∃ items, v = .array items ∧ items.length ≤ 5 ∧
    e.IsMadeOf items[0]? items[1]? items[2]? items[3]? items[4]?

/-- Whether the object has the fields of the request `r`. -/
structure Request.IsOf (r : Request) (o : Object) : Prop where
  id_eq : ∃ v, o.get? "id" = some v ∧ v.Labels r.id.text
  method_eq : o.get? "method" = some (.text r.method)
  params_eq : dropNull (o.get? "params") = r.params

/-- Whether the object has the fields of the response `r`. -/
structure Response.IsOf (r : Response) (o : Object) : Prop where
  id_eq : ∃ v, o.get? "id" = some v ∧ v.Labels r.id.text
  ok_eq : o.get? "ok" = some (.flag r.ok)
  payload_eq : dropNull (o.get? "payload") = r.payload
  error_eq : Option.Rel (fun v e => e.IsOf v) (dropNull (o.get? "error")) r.error

/-- Whether the object has the fields of the event `e`, and no others than it keeps. -/
structure Event.IsOf (e : Event) (o : Object) : Prop where
  type_eq : o.get? "type" = some e.type
  event_eq : dropNull (o.get? "event") = e.event.map .text
  payload_eq : dropNull (o.get? "payload") = e.payload
  seq_eq : dropNull (o.get? "seq") = e.seq.map .natural
  extra_eq : ∀ key, e.extra.get? key =
    if key ∈ ["type", "event", "payload", "seq"] then none else o.get? key

/-- Whether the value is the frame `f`: its kind by the type, and all fields of it. -/
def Frame.IsOf (f : Frame) (v : Value) : Prop :=
  ∃ o : Object, v = o.toValue ∧
    match f with
    | request r => o.get? "type" = some (.text "req") ∧ r.IsOf o
    | response r => o.get? "type" = some (.text "res") ∧ r.IsOf o
    | event e => (e.type ≠ .text "req" ∧ e.type ≠ .text "res") ∧ e.IsOf o

/-! ## What each schema reads -/

theorem Integer.toUInt64?_eq_some_iff {n : Integer} {k : UInt64} :
    n.toUInt64? = some k ↔ n = .ofUInt64 k := by
  obtain ⟨n, hlower, hupper⟩ := n
  simp only [Integer.toUInt64?, Integer.ofUInt64, Integer.mk.injEq]
  split_ifs with h
  · rw [Option.some.injEq, ← UInt64.toNat_inj]
    simp
    omega
  · simp
    omega

theorem Integer.toUInt32?_eq_some_iff {n : Integer} {k : UInt32} :
    n.toUInt32? = some k ↔ n = .ofUInt32 k := by
  obtain ⟨n, hlower, hupper⟩ := n
  simp only [Integer.toUInt32?, Integer.ofUInt32, Integer.mk.injEq]
  split_ifs with h
  · rw [Option.some.injEq, ← UInt32.toNat_inj]
    simp
    omega
  · have := k.toNat_lt
    simp
    omega

theorem Width.ofInteger?_eq_some_iff {w : Width} {n : Integer} {a : w.Word} :
    w.ofInteger? n = some a ↔ n = w.toInteger a := by
  cases w with
  | bits32 => exact Integer.toUInt32?_eq_some_iff
  | bits64 | size => exact Integer.toUInt64?_eq_some_iff

theorem rel_eq_iff_eq_map {α β : Type} {f : β → α} {x : Option α} {y : Option β} :
    Option.Rel (fun a b => a = f b) x y ↔ x = y.map f := by
  rcases x with _ | a <;> rcases y with _ | b <;> simp

namespace Schema

variable {v : Value}

theorem ofJson_text_iff {s : String} : text.ofJson v.json = .ok s ↔ v = .text s := by
  rw [Value.eq_iff_json_eq]
  cases v.json <;> simp [ofJson, Value.text]

theorem ofJson_flag_iff {b : Bool} : flag.ofJson v.json = .ok b ↔ v = .flag b := by
  rw [Value.eq_iff_json_eq]
  cases v.json <;> simp [ofJson, Value.flag]

theorem ofJson_any_iff {w : Value} : any.ofJson v.json = .ok w ↔ v = w := by
  rw [ofJson, Value.ofJson_json, Except.ok.injEq]

theorem ofJson_label_iff {s : String} : label.ofJson v.json = .ok s ↔ v.Labels s := by
  simp only [Value.Labels, Value.eq_iff_json_eq]
  rcases v.json with _ | _ | (n | _) | _ | _ | _ <;>
    simp [ofJson, Value.text, Value.integer, eq_comm]

theorem ofJson_natural_iff {w : Width} {n : w.Word} :
    (natural w).ofJson v.json = .ok n ↔ v = .integer (w.toInteger n) := by
  rw [Value.eq_iff_json_eq]
  rcases v.json with _ | _ | (k | _) | _ | _ | _ <;>
    simp [ofJson, Value.integer]
  rw [← Width.ofInteger?_eq_some_iff]
  cases w.ofInteger? k <;> simp

/-- What is optional is read if it is neither absent nor null. -/
theorem gives_optional_iff {s : Schema} {m : Option Value} {a : Option s.Denote} :
    (optional s).Gives false none (m.map Value.json) a ↔
      Option.Rel (fun v b => s.ofJson v.json = .ok b) (dropNull m) a := by
  rcases m with _ | v
  · rcases a with _ | a <;> simp [Gives, blank, dropNull]
  · by_cases hv : v = .null
    · subst hv
      have hdrop : dropNull (some Value.null) = none := by simp [dropNull]
      rw [hdrop]
      rcases a with _ | a <;> simp [Gives, Value.null, ofJson]
    · have hjson : v.json ≠ .null := mt Value.eq_null_iff.2 hv
      have hdrop : dropNull (some v) = some v := by simp [dropNull, hv]
      rw [hdrop, Option.map_some, Gives, ofJson_optional_of_ne_null hjson, map_eq_ok_iff]
      rcases a with _ | a <;> simp

/-- What is optional and stands for one value is read off that value. -/
theorem gives_optional_iff_eq_map {s : Schema} {m : Option Value} {a : Option s.Denote}
    {f : s.Denote → Value} (hs : ∀ v b, s.ofJson v.json = .ok b ↔ v = f b) :
    (optional s).Gives false none (m.map Value.json) a ↔ dropNull m = a.map f := by
  rw [gives_optional_iff, ← rel_eq_iff_eq_map]
  simp only [hs]

variable {m : Option Value}

/-- An element that is optional is read if it is neither absent nor null. -/
theorem gives_optional_element_iff {α : Type} [Wire α] {p : α → Value → Prop} {a : Option α}
    (hof : ∀ {v} {a : α}, Wire.ofValue v = .ok a ↔ p a v) :
    (optional (Wire.schema α)).Gives false none (m.map Value.json) (a.map Wire.parts) ↔
      Option.Rel (fun v a => p a v) (dropNull m) a := by
  rw [gives_optional_iff]
  rcases dropNull m with _ | v <;> rcases a with _ | a
  · simp
  · simp
  · simp
  · -- Both are there, so the element has to be read.
    simp only [Option.map_some, Option.rel_some_some]
    exact Wire.ofJson_eq_ok_iff.symm.trans hof

theorem gives_optional_any_iff {a : Option Value} :
    (optional any).Gives false none (m.map Value.json) a ↔ dropNull m = a := by
  rw [gives_optional_iff_eq_map fun _ _ => ofJson_any_iff, Option.map_id']

theorem gives_optional_text_iff {a : Option String} :
    (optional text).Gives false none (m.map Value.json) a ↔ dropNull m = a.map .text :=
  gives_optional_iff_eq_map fun _ _ => ofJson_text_iff

theorem gives_optional_flag_iff {a : Option Bool} :
    (optional flag).Gives false none (m.map Value.json) a ↔ dropNull m = a.map .flag :=
  gives_optional_iff_eq_map fun _ _ => ofJson_flag_iff

theorem gives_optional_natural_iff {a : Option UInt64} :
    (optional (natural .bits64)).Gives false none (m.map Value.json) a ↔
      dropNull m = a.map .natural :=
  gives_optional_iff_eq_map fun _ _ => ofJson_natural_iff

theorem gives_required_iff {s : Schema} {a : s.Denote} {p : Value → s.Denote → Prop}
    (hs : ∀ v b, s.ofJson v.json = .ok b ↔ p v b) :
    s.Gives true none (m.map Value.json) a ↔ ∃ v, m = some v ∧ p v a := by
  rcases m with _ | v <;> simp [Gives, hs]

theorem gives_label_iff {s : String} :
    label.Gives true none (m.map Value.json) s ↔ ∃ v, m = some v ∧ v.Labels s :=
  gives_required_iff fun _ _ => ofJson_label_iff

theorem gives_text_iff {s : String} :
    text.Gives true none (m.map Value.json) s ↔ m = some (.text s) :=
  (gives_required_iff fun _ _ => ofJson_text_iff).trans exists_eq_right

theorem gives_flag_iff {b : Bool} :
    flag.Gives true none (m.map Value.json) b ↔ m = some (.flag b) :=
  (gives_required_iff fun _ _ => ofJson_flag_iff).trans exists_eq_right

theorem gives_any_iff {v : Value} : any.Gives true none (m.map Value.json) v ↔ m = some v :=
  (gives_required_iff fun _ _ => ofJson_any_iff).trans exists_eq_right

/-- What may be missing, and stands for one value, is read off that value or the blank one. -/
theorem gives_defaulted_iff {s : Schema} {a : s.Denote} {f : s.Denote → Value}
    (hs : ∀ v b, s.ofJson v.json = .ok b ↔ v = f b) :
    s.Gives false none (m.map Value.json) a ↔ m.getD (f s.blank) = f a := by
  rcases m with _ | v
  · have hinjective : f s.blank = f a ↔ s.blank = a := by
      rw [← hs, (hs _ _).2 rfl, Except.ok.injEq]
    rw [Option.getD_none, hinjective]
    simp [Gives, eq_comm]
  · exact hs v a

theorem gives_defaulted_text_iff {s : String} :
    text.Gives false none (m.map Value.json) s ↔ m.getD (.text "") = .text s :=
  gives_defaulted_iff fun _ _ => ofJson_text_iff

end Schema

/-! ## Kinds of frames -/

theorem Object.lookup_eq_map_get? (o : Object) (key : String) :
    o.members.lookup key = (o.get? key).map Value.json := by
  rw [get?, Option.map_map]
  exact (o.map_canonical_lookup key).symm

/-- Objects are known by what is under each key. -/
theorem Object.eq_of_get?_eq {o p : Object} (h : ∀ k, o.get? k = p.get? k) : o = p := by
  refine eq_of_lookup_eq fun k => ?_
  rw [lookup_eq_map_get?, lookup_eq_map_get?, h]

/-- A record is read of an object by what is under the names of its fields. -/
theorem Schema.ofJson_record_toValue_iff {name : String} {fs : Fields} {as : fs.Denote}
    {o : Object} (hnames : fs.names.Nodup) :
    (record name fs).ofJson o.toValue.json = .ok as ↔
      fs.Awaits (fun k => (o.get? k).map Value.json) fs.unread as := by
  simp only [← Object.lookup_eq_map_get?]
  exact ofJson_record_iff hnames o.increasing.nodup

open Schema

theorem Request.ofJson_iff {r : Request} {o : Object} :
    Wire.ofJson o.toValue.json = .ok r ↔ r.IsOf o := by
  rw [Wire.ofJson_eq_ok_iff]
  refine (ofJson_record_toValue_iff (Fields.nodup_names rfl)).trans ⟨?_, fun h => ?_⟩
  · rintro ⟨hid, hmethod, hparams, -⟩
    exact ⟨gives_label_iff.1 hid, gives_text_iff.1 hmethod, gives_optional_any_iff.1 hparams⟩
  · exact ⟨gives_label_iff.2 h.id_eq, gives_text_iff.2 h.method_eq,
      gives_optional_any_iff.2 h.params_eq, trivial⟩

/-- What the fields of an error body are read of, wherever it stands. -/
theorem ErrorBody.gives_iff {e : ErrorBody}
    {message code details retryable retryAfter : Option Value} :
    (text.Gives false none (message.map Value.json) e.message ∧
      (optional text).Gives false none (code.map Value.json) e.code ∧
      (optional any).Gives false none (details.map Value.json) e.details ∧
      (optional flag).Gives false none (retryable.map Value.json) e.retryable ∧
      (optional (natural .bits64)).Gives false none (retryAfter.map Value.json) e.retryAfter) ↔
        e.IsMadeOf message code details retryable retryAfter := by
  rw [gives_defaulted_text_iff, gives_optional_text_iff, gives_optional_any_iff,
    gives_optional_flag_iff, gives_optional_natural_iff]
  constructor
  · rintro ⟨hmessage, hcode, hdetails, hretryable, hretryAfter⟩
    exact ⟨hmessage, hcode, hdetails, hretryable, hretryAfter⟩
  · intro h
    exact ⟨h.message_eq, h.code_eq, h.details_eq, h.retryable_eq, h.retryAfter_eq⟩

theorem ErrorBody.ofJson_toValue_iff {e : ErrorBody} {o : Object} :
    Wire.ofJson o.toValue.json = .ok e ↔
      e.IsMadeOf (o.get? "message") (o.get? "code") (o.get? "details") (o.get? "retryable")
        (o.get? "retryAfterMs") := by
  rw [Wire.ofJson_eq_ok_iff, ← gives_iff]
  refine (ofJson_record_toValue_iff (Fields.nodup_names rfl)).trans ⟨?_, ?_⟩
  · rintro ⟨hmessage, hcode, hdetails, hretryable, hretryAfter, -⟩
    exact ⟨hmessage, hcode, hdetails, hretryable, hretryAfter⟩
  · rintro ⟨hmessage, hcode, hdetails, hretryable, hretryAfter⟩
    exact ⟨hmessage, hcode, hdetails, hretryable, hretryAfter, trivial⟩

/-- The fields from some place on have what is in the places from there on. -/
theorem Fields.fills_drop_iff {name : String} {isRequired : Bool} {s : Schema} {fs : Fields}
    {items : List Value} {i : Nat} {as : (cons name isRequired s fs).Denote} :
    (cons name isRequired s fs).Fills ((items.drop i).map Value.json) as ↔
      s.Gives isRequired none (items[i]?.map Value.json) as.1 ∧
        fs.Fills ((items.drop (i + 1)).map Value.json) as.2 := by
  rw [Fills, List.head?_map, List.head?_drop, ← List.map_tail, List.tail_drop]

theorem Fields.nil_fills_drop_iff {items : List Value} {i : Nat} :
    nil.Fills ((items.drop i).map Value.json) () ↔ items.length ≤ i := by
  simp [Fills]

theorem ErrorBody.ofJson_array_iff {e : ErrorBody} {items : List Value} :
    Wire.ofJson (Value.array items).json = .ok e ↔
      items.length ≤ 5 ∧ e.IsMadeOf items[0]? items[1]? items[2]? items[3]? items[4]? := by
  have hread : Wire.ofJson (Value.array items).json = .ok e ↔
      ErrorBody.fields.Fills ((items.drop 0).map Value.json) (Wire.parts e) :=
    Wire.ofJson_eq_ok_iff.trans ofJson_record_array_iff
  -- Each field takes the next place, and after the last one there must be none left.
  rw [hread, ← gives_iff]
  simp only [Fields.fills_drop_iff]
  constructor
  · rintro ⟨hmessage, hcode, hdetails, hretryable, hretryAfter, hlength⟩
    exact ⟨Fields.nil_fills_drop_iff.1 hlength, hmessage, hcode, hdetails, hretryable, hretryAfter⟩
  · rintro ⟨hlength, hmessage, hcode, hdetails, hretryable, hretryAfter⟩
    exact ⟨hmessage, hcode, hdetails, hretryable, hretryAfter, Fields.nil_fills_drop_iff.2 hlength⟩

theorem Value.array_map_ofJson {js : List Json} (h : (Json.array js).Ordered) :
    array (js.map ofJson) = ⟨.array js, h⟩ := by
  rw [Json.Ordered, Json.orderedItems_iff] at h
  refine eq_of_json_eq (congrArg Json.array ?_)
  rw [List.map_map]
  exact (List.map_congr_left fun j hj => Json.canonical_eq_self (h j hj)).trans (List.map_id js)

/-- Only objects and arrays are read as error bodies. -/
theorem ErrorBody.ofJson_iff {e : ErrorBody} {v : Value} :
    Wire.ofJson v.json = .ok e ↔ e.IsOf v := by
  constructor
  · intro h
    obtain ⟨j, hj⟩ := v
    rcases j with _ | _ | _ | _ | js | ms
    case array =>
      rw [← Value.array_map_ofJson hj] at h ⊢
      exact .inr ⟨_, rfl, ofJson_array_iff.1 h⟩
    case object => exact .inl ⟨⟨ms, hj⟩, rfl, ofJson_toValue_iff.1 h⟩
    all_goals cases h
  · rintro (⟨o, rfl, h⟩ | ⟨items, rfl, h⟩)
    · exact ofJson_toValue_iff.2 h
    · exact ofJson_array_iff.2 h

theorem Response.ofJson_iff {r : Response} {o : Object} :
    Wire.ofJson o.toValue.json = .ok r ↔ r.IsOf o := by
  have herror : (optional (.record "ErrorShape" ErrorBody.fields)).Gives false none
      ((o.get? "error").map Value.json) (r.error.map Wire.parts) ↔
        Option.Rel (fun v e => e.IsOf v) (dropNull (o.get? "error")) r.error :=
    gives_optional_element_iff ErrorBody.ofJson_iff
  rw [Wire.ofJson_eq_ok_iff]
  refine (ofJson_record_toValue_iff (Fields.nodup_names rfl)).trans ⟨?_, fun h => ?_⟩
  · rintro ⟨hid, hok, hpayload, hgives, -⟩
    exact ⟨gives_label_iff.1 hid, gives_flag_iff.1 hok, gives_optional_any_iff.1 hpayload,
      herror.1 hgives⟩
  · exact ⟨gives_label_iff.2 h.id_eq, gives_flag_iff.2 h.ok_eq,
      gives_optional_any_iff.2 h.payload_eq, herror.2 h.error_eq, trivial⟩

/-- An event keeps what has none of the names of its own fields. -/
theorem Object.eq_ofMembers_filter_iff {extra o : Object} {names : List String} :
    extra = .ofMembers (o.members.filter fun m => m.1 ∉ names) ↔
      ∀ key, extra.get? key = if key ∈ names then none else o.get? key := by
  have hget (key : String) : (ofMembers (o.members.filter fun m => m.1 ∉ names)).get? key =
      if key ∈ names then none else o.get? key := by
    rw [get?_ofMembers (Json.nodup_filter o.increasing.nodup)]
    split_ifs with hkey
    · rw [Json.lookup_filter_mem hkey, Option.map_none]
    · rw [Json.lookup_filter_not_mem hkey, get?]
  constructor
  · rintro rfl
    exact hget
  · intro h
    refine eq_of_get?_eq fun key => ?_
    rw [h, hget]

/-- An open record is read of an object by what is under the names of its fields, and keeps what is
    under others. -/
theorem Schema.ofJson_openRecord_toValue_iff {name : String} {fs : Fields} {as : fs.Denote}
    {o extra : Object} (hnames : fs.names.Nodup) :
    (openRecord name fs).ofJson o.toValue.json = .ok (as, extra) ↔
      fs.Awaits (fun k => (o.get? k).map Value.json) fs.unread as ∧
        ∀ key, extra.get? key = if key ∈ fs.names then none else o.get? key := by
  simp only [← Object.lookup_eq_map_get?]
  exact (ofJson_openRecord_iff hnames o.increasing.nodup).trans
    (and_congr_right fun _ => Object.eq_ofMembers_filter_iff)

theorem Event.ofJson_iff {e : Event} {o : Object} :
    Wire.ofJson o.toValue.json = .ok e ↔ e.IsOf o := by
  rw [Wire.ofJson_eq_ok_iff]
  refine (ofJson_openRecord_toValue_iff (Fields.nodup_names rfl)).trans ?_
  constructor
  · rintro ⟨⟨htype, hevent, hpayload, hseq, -⟩, hextra⟩
    exact ⟨gives_any_iff.1 htype, gives_optional_text_iff.1 hevent,
      gives_optional_any_iff.1 hpayload, gives_optional_natural_iff.1 hseq, hextra⟩
  · intro h
    exact ⟨⟨gives_any_iff.2 h.type_eq, gives_optional_text_iff.2 h.event_eq,
      gives_optional_any_iff.2 h.payload_eq, gives_optional_natural_iff.2 h.seq_eq, trivial⟩,
      h.extra_eq⟩

/-! ## Frames -/

namespace Frame

variable {f : Frame} {v : Value}

/-- A frame is read of just the values that it is of. -/
theorem ofValue_eq_ok_iff : ofValue v = .ok f ↔ f.IsOf v := by
  constructor
  · intro h
    rcases hobject : v.object? with _ | o
    · rw [ofValue, hobject] at h
      cases h
    obtain rfl := Value.object?_eq_some_iff.1 hobject
    rcases htype : o.get? "type" with _ | type
    · rw [ofValue, hobject, Option.bind_some, htype] at h
      cases h
    · rw [ofValue_toValue htype, mapError_eq_ok_iff] at h
      refine ⟨o, rfl, ?_⟩
      split_ifs at h with hreq hres
      · obtain ⟨r, hread, rfl⟩ := map_eq_ok_iff.1 h
        obtain rfl := Value.text?_eq_some_iff.1 hreq
        exact ⟨htype, Request.ofJson_iff.1 hread⟩
      · obtain ⟨r, hread, rfl⟩ := map_eq_ok_iff.1 h
        obtain rfl := Value.text?_eq_some_iff.1 hres
        exact ⟨htype, Response.ofJson_iff.1 hread⟩
      · obtain ⟨e, hread, rfl⟩ := map_eq_ok_iff.1 h
        have he := Event.ofJson_iff.1 hread
        obtain rfl := Option.some.inj (he.type_eq.symm.trans htype)
        exact ⟨⟨mt Value.text?_eq_some_iff.2 hreq, mt Value.text?_eq_some_iff.2 hres⟩, he⟩
  · rintro ⟨o, rfl, h⟩
    rcases f with r | r | e
    · have htype : o.get? "type" = some (.text Request.tag) := h.1
      have hread : Wire.ofJson (.object o.members) = .ok r := Request.ofJson_iff.2 h.2
      rw [ofValue_toValue htype, Value.text?_text, if_pos rfl, hread]
      rfl
    · have htype : o.get? "type" = some (.text Response.tag) := h.1
      have hread : Wire.ofJson (.object o.members) = .ok r := Response.ofJson_iff.2 h.2
      rw [ofValue_toValue htype, Value.text?_text, if_neg (by decide), if_pos rfl, hread]
      rfl
    · obtain ⟨⟨hreq, hres⟩, he⟩ := h
      have hread : Wire.ofJson (.object o.members) = .ok e := Event.ofJson_iff.2 he
      have hrequest : e.type.text? ≠ some Request.tag := mt Value.text?_eq_some_iff.1 hreq
      have hresponse : e.type.text? ≠ some Response.tag := mt Value.text?_eq_some_iff.1 hres
      rw [ofValue_toValue he.type_eq, if_neg hrequest, if_neg hresponse, hread]
      rfl

end Frame

end Tether
