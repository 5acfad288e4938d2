import Tether.Handshake
import Tether.Proofs.Frame.Parts

/-!
# What the peer announces, of values

What of a value each part of an accepted handshake is. A record can be given by name, as an
object, or by place, as an array of its fields in order. Both give the same: what is under the
name of each field, or nothing (`Value.Gives`).

* `ServerInfo.IsOf`, `Features.IsOf`, `Policy.IsOf`: the parts;
* `Fields.fills_iff_awaits`, `Schema.ofJson_record_value_iff`: reading by place is reading by
  name;
* `Schema.ofJson_list_iff`: arrays;
* `ServerInfo.ofValue_iff`, `Features.ofValue_iff`, `Policy.ofValue_iff`: what is read.
-/

namespace Tether

/-! ## Parts of values -/

/-- Whether `look` finds what the value gives under the names: an object by name, and an array of
    no more items than there are names by place. -/
def Value.Gives (v : Value) (names : List String) (look : String → Option Value) : Prop :=
  (∃ o : Object, v = o.toValue ∧ look = o.get?) ∨
  ∃ items, v = .array items ∧ items.length ≤ names.length ∧
    look = fun name => (names.zip items).lookup name

/-- Whether the peer `s` is made of what is found. -/
structure ServerInfo.IsMadeOf (s : ServerInfo) (look : String → Option Value) : Prop where
  version_eq : (look "version").getD (.text "") = .text s.version
  commit_eq : dropNull (look "commit") = s.commit.map .text
  host_eq : dropNull (look "host") = s.host.map .text
  connId_eq : dropNull (look "connId") = s.connId.map .text

/-- Whether the value is that of the peer `s`. -/
def ServerInfo.IsOf (s : ServerInfo) (v : Value) : Prop :=
  ∃ look, v.Gives ["version", "commit", "host", "connId"] look ∧ s.IsMadeOf look

/-- Whether the features `f` are made of what is found. -/
structure Features.IsMadeOf (f : Features) (look : String → Option Value) : Prop where
  methods_eq : (look "methods").getD (.array []) = .array (f.methods.map .text)
  events_eq : (look "events").getD (.array []) = .array (f.events.map .text)

/-- Whether the value is that of the features `f`. -/
def Features.IsOf (f : Features) (v : Value) : Prop :=
  ∃ look, v.Gives ["methods", "events"] look ∧ f.IsMadeOf look

/-- Whether the limits `p` are made of what is found. -/
structure Policy.IsMadeOf (p : Policy) (look : String → Option Value) : Prop where
  maxPayload_eq : (look "maxPayload").getD (.natural 0) = .natural p.maxPayload
  maxBufferedBytes_eq : (look "maxBufferedBytes").getD (.natural 0) = .natural p.maxBufferedBytes
  tickInterval_eq : (look "tickIntervalMs").getD (.natural 0) = .natural p.tickInterval

/-- Whether the value is that of the limits `p`. -/
def Policy.IsOf (p : Policy) (v : Value) : Prop :=
  ∃ look, v.Gives ["maxPayload", "maxBufferedBytes", "tickIntervalMs"] look ∧ p.IsMadeOf look

/-! ## By place and by name -/

section Places

variable {α β : Type} {name k : String} {names : List String} {as : List α}

theorem Json.lookup_zip_cons :
    ((name :: names).zip as).lookup k =
      if k = name then as.head? else (names.zip as.tail).lookup k := by
  rcases as with _ | ⟨a, as⟩
  · simp
  · exact lookup_cons_eq_ite

theorem Json.lookup_zip_map (f : α → β) :
    (names.zip (as.map f)).lookup k = ((names.zip as).lookup k).map f := by
  induction names generalizing as with
  | nil => rfl
  | cons name names ih =>
    rw [lookup_zip_cons, lookup_zip_cons, List.head?_map, ← List.map_tail, ih]
    split_ifs <;> rfl

end Places

/-- What is filled in by place is what is awaited by name. -/
theorem Fields.fills_iff_awaits : ∀ {fs : Fields} {js : List Json} {as : fs.Denote},
    fs.names.Nodup → (fs.Fills js as ↔
      js.length ≤ fs.names.length ∧ fs.Awaits (fun k => (fs.names.zip js).lookup k) fs.unread as)
  | .nil, js, _, _ => by simp [Fills, Awaits, names]
  | .cons name isRequired s fs, js, (a, as), hnames => by
    obtain ⟨hname, hnames⟩ := List.nodup_cons.1 hnames
    have hlength : js.length ≤ (name :: fs.names).length ↔ js.tail.length ≤ fs.names.length := by
      rw [List.length_tail, List.length_cons]
      omega
    -- No later field has the name of the first one, so these find what is in the later places.
    have hlater : ∀ k ∈ fs.names,
        ((name :: fs.names).zip js).lookup k = (fs.names.zip js.tail).lookup k := by
      intro k hk
      rw [Json.lookup_zip_cons, if_neg]
      rintro rfl
      exact hname hk
    have hfirst : s.Gives isRequired none (((name :: fs.names).zip js).lookup name) a ↔
        s.Gives isRequired none js.head? a := by
      rw [Json.lookup_zip_cons, if_pos rfl]
    rw [Fills, fills_iff_awaits hnames, Fields.names, hlength]
    constructor
    · rintro ⟨hgives, hle, hs⟩
      exact ⟨hle, hfirst.2 hgives, hs.congr hlater⟩
    · rintro ⟨hle, hgives, hs⟩
      exact ⟨hfirst.1 hgives, hle, hs.congr fun k hk => (hlater k hk).symm⟩

namespace Schema

variable {v : Value}

/-- A record is read of what a value gives under the names of its fields. -/
theorem ofJson_record_value_iff {name : String} {fs : Fields} {as : fs.Denote}
    (hnames : fs.names.Nodup) :
    (record name fs).ofJson v.json = .ok as ↔
      ∃ look, v.Gives fs.names look ∧
        fs.Awaits (fun k => (look k).map Value.json) fs.unread as := by
  have harray (items : List Value) : (record name fs).ofJson (Value.array items).json = .ok as ↔
      items.length ≤ fs.names.length ∧
        fs.Awaits (fun k => ((fs.names.zip items).lookup k).map Value.json) fs.unread as := by
    simp only [← Json.lookup_zip_map]
    refine ofJson_record_array_iff.trans ((Fields.fills_iff_awaits hnames).trans ?_)
    rw [List.length_map]
  constructor
  · intro h
    obtain ⟨j, hj⟩ := v
    rcases j with _ | _ | _ | _ | js | ms
    case array =>
      rw [← Value.array_map_ofJson hj] at h ⊢
      obtain ⟨hlength, has⟩ := (harray _).1 h
      exact ⟨_, .inr ⟨_, rfl, hlength, rfl⟩, has⟩
    case object =>
      exact ⟨_, .inl ⟨⟨ms, hj⟩, rfl, rfl⟩, (ofJson_record_toValue_iff hnames).1 h⟩
    all_goals cases h
  · rintro ⟨_, ⟨o, rfl, rfl⟩ | ⟨items, rfl, hlength, rfl⟩, has⟩
    · exact (ofJson_record_toValue_iff hnames).2 has
    · exact (harray items).2 ⟨hlength, has⟩

/-! ## Numbers and arrays that may be missing -/

/-- An array is read item by item. -/
theorem ofJson_list_iff {s : Schema} {as : List s.Denote} {f : s.Denote → Value}
    (hs : ∀ v b, s.ofJson v.json = .ok b ↔ v = f b) :
    (list s).ofJson v.json = .ok as ↔ v = .array (as.map f) := by
  have hitems (items : List Value) :
      (items.map Value.json).mapM s.ofJson = .ok as ↔ items = as.map f := by
    simp only [mapM_eq_ok_iff, List.forall₂_map_left_iff, hs]
    rw [← List.forall₂_map_right_iff, List.forall₂_eq_eq_eq]
  constructor
  · intro h
    obtain ⟨j, hj⟩ := v
    rcases j with _ | _ | _ | _ | js | _
    case array =>
      rw [← Value.array_map_ofJson hj] at h ⊢
      exact congrArg Value.array ((hitems _).1 h)
    all_goals cases h
  · rintro rfl
    exact (hitems _).2 rfl

theorem gives_defaulted_natural_iff {w : Width} {m : Option Value} {n : w.Word} :
    (natural w).Gives false none (m.map Value.json) n ↔
      m.getD (.integer (w.toInteger w.zero)) = .integer (w.toInteger n) :=
  gives_defaulted_iff fun _ _ => ofJson_natural_iff

theorem gives_defaulted_texts_iff {m : Option Value} {texts : List String} :
    (list text).Gives false none (m.map Value.json) texts ↔
      m.getD (.array []) = .array (texts.map .text) :=
  gives_defaulted_iff fun _ _ => ofJson_list_iff fun _ _ => ofJson_text_iff

end Schema

/-! ## What is read -/

open Schema

theorem ServerInfo.ofValue_iff {s : ServerInfo} {v : Value} :
    Wire.ofValue v = .ok s ↔ s.IsOf v := by
  refine Wire.ofJson_eq_ok_iff.trans ((ofJson_record_value_iff (Fields.nodup_names rfl)).trans ?_)
  refine exists_congr fun look => and_congr_right fun _ => ⟨?_, fun h => ?_⟩
  · rintro ⟨hversion, hcommit, hhost, hconnId, -⟩
    exact ⟨gives_defaulted_text_iff.1 hversion, gives_optional_text_iff.1 hcommit,
      gives_optional_text_iff.1 hhost, gives_optional_text_iff.1 hconnId⟩
  · exact ⟨gives_defaulted_text_iff.2 h.version_eq, gives_optional_text_iff.2 h.commit_eq,
      gives_optional_text_iff.2 h.host_eq, gives_optional_text_iff.2 h.connId_eq, trivial⟩

theorem Features.ofValue_iff {f : Features} {v : Value} :
    Wire.ofValue v = .ok f ↔ f.IsOf v := by
  refine Wire.ofJson_eq_ok_iff.trans ((ofJson_record_value_iff (Fields.nodup_names rfl)).trans ?_)
  refine exists_congr fun look => and_congr_right fun _ => ⟨?_, fun h => ?_⟩
  · rintro ⟨hmethods, hevents, -⟩
    exact ⟨gives_defaulted_texts_iff.1 hmethods, gives_defaulted_texts_iff.1 hevents⟩
  · exact ⟨gives_defaulted_texts_iff.2 h.methods_eq, gives_defaulted_texts_iff.2 h.events_eq,
      trivial⟩

theorem Policy.ofValue_iff {p : Policy} {v : Value} :
    Wire.ofValue v = .ok p ↔ p.IsOf v := by
  refine Wire.ofJson_eq_ok_iff.trans ((ofJson_record_value_iff (Fields.nodup_names rfl)).trans ?_)
  refine exists_congr fun look => and_congr_right fun _ => ⟨?_, fun h => ?_⟩
  · rintro ⟨hpayload, hbuffered, htick, -⟩
    exact ⟨gives_defaulted_natural_iff.1 hpayload, gives_defaulted_natural_iff.1 hbuffered,
      gives_defaulted_natural_iff.1 htick⟩
  · exact ⟨gives_defaulted_natural_iff.2 h.maxPayload_eq,
      gives_defaulted_natural_iff.2 h.maxBufferedBytes_eq,
      gives_defaulted_natural_iff.2 h.tickInterval_eq, trivial⟩

end Tether
