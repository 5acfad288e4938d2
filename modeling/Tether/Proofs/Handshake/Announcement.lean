import Tether.ClientOptions
import Tether.Proofs.Frame.Normal
import Tether.Proofs.Schema.Faithful

/-!
# What a client announces

The options of a client are what its settings made of them, and its connect parameters tell all of
them, each under its own name.

* `Fields.Tells`, `Fields.tells_toMembers`: an object of what is written for fields has each under
  its name, and nothing else;
* `ClientOptions.IsSetBy`: each option has the value of the last setting of it, and the lists have
  all that was added, in order;
* `ClientOptions.IsToldBy`: what is under each name in an object;
* `ClientOptions.announcement`: settings, and the text of the parameters.
-/

namespace Tether

/-! ## What is written -/

/-- What is written of a field, if it is present. -/
def Schema.written? (s : Schema) (a : s.Denote) : Option Value :=
  if s.isPresent a then some (.ofJson (s.toJson a)) else none

/-- Whether each field is written under its name. -/
def Fields.Tells (look : String → Option Value) : (fs : Fields) → fs.Denote → Prop
  | .nil, _ => True
  | .cons name _ s fs, (a, as) => look name = s.written? a ∧ fs.Tells look as

theorem Fields.tells_of_lookup {look : String → Option Value} : ∀ {fs : Fields} {as : fs.Denote},
    fs.names.Nodup →
      (∀ key ∈ fs.names, look key = ((fs.toMembers as).lookup key).map Value.ofJson) →
      fs.Tells look as
  | .nil, _, _, _ => trivial
  | .cons name isRequired s fs, (a, as), hnames, hlook => by
    obtain ⟨hname, hnames⟩ := List.nodup_cons.1 hnames
    refine ⟨?_, tells_of_lookup hnames fun key hkey => ?_⟩
    · rw [hlook name List.mem_cons_self, Schema.written?, Fields.toMembers]
      split
      · rw [List.lookup_cons_self, Option.map_some]
      · -- What is not written for this field is not written for another, as no name is repeated.
        rw [lookup_toMembers_eq_none _ hname, Option.map_none]
    · rw [hlook key (List.mem_cons_of_mem _ hkey),
        lookup_toMembers_of_ne (ne_of_mem_of_not_mem hkey hname)]

/-- An object of what is written for fields has each under its name, and nothing else. -/
theorem Fields.tells_toMembers (fs : Fields) (hnames : fs.names.Nodup) (as : fs.Denote) :
    fs.Tells (Object.ofMembers (fs.toMembers as)).get? as ∧
      ∀ key ∉ fs.names, (Object.ofMembers (fs.toMembers as)).get? key = none := by
  have hget (key : String) : (Object.ofMembers (fs.toMembers as)).get? key =
      ((fs.toMembers as).lookup key).map Value.ofJson :=
    Object.get?_ofMembers (hnames.sublist (keys_toMembers_sublist fs as)) key
  refine ⟨tells_of_lookup hnames fun key _ => hget key, fun key hkey => ?_⟩
  rw [hget, lookup_toMembers_eq_none as hkey, Option.map_none]

theorem Schema.written?_optional (s : Schema) (a : Option s.Denote) :
    (Schema.optional s).written? a = a.map fun a => .ofJson (s.toJson a) := by
  cases a <;> rfl

namespace ClientOptions

/-! ## Settings -/

section

variable {α β : Type} {mk : α → Setting} {value : α → β} {get : ClientOptions → β}
  {o : ClientOptions} {settings : List Setting}

/-- Whether a value is the one of the last setting of a kind, or `old` if there is none. -/
structure IsLast (mk : α → Setting) (value : α → β) (settings : List Setting) (old new : β) :
    Prop where
  of_last : ∀ before a after, settings = before ++ mk a :: after → (∀ b, mk b ∉ after) →
    new = value a
  of_none : (∀ a, mk a ∉ settings) → new = old

theorem setAll_append {before after : List Setting} :
    o.setAll (before ++ after) = (o.setAll before).setAll after := by
  rw [setAll, setAll, setAll, List.foldl_append]

/-- Whether just the settings of a kind change an option, each to its value. -/
def Sets (mk : α → Setting) (value : α → β) (get : ClientOptions → β) : Prop :=
  ∀ o s, (∀ a, s = mk a → get (set o s) = value a) ∧ ((∀ a, s ≠ mk a) → get (set o s) = get o)

/-- Settings of other kinds leave an option as it is. -/
theorem Sets.get_setAll_of_not_mem (hget : Sets mk value get) (h : ∀ a, mk a ∉ settings) :
    get (o.setAll settings) = get o := by
  induction settings generalizing o with
  | nil => rfl
  | cons s settings ih =>
    have hrest (a : α) : mk a ∉ settings := fun ha => h a (List.mem_cons_of_mem s ha)
    have hs (a : α) : s ≠ mk a := fun ha => h a (ha ▸ List.mem_cons_self)
    exact (ih hrest).trans ((hget o s).2 hs)

/-- An option that only settings of one kind change has the value of the last one of them. -/
theorem isLast_setAll (get : ClientOptions → β) (hget : Sets mk value get) :
    IsLast mk value settings (get o) (get (o.setAll settings)) where
  of_last before a after hsettings hafter := by
    -- What comes before the last setting of the kind does not matter, and what comes after it
    -- does not change the option.
    rw [hsettings, setAll_append]
    show get ((set (o.setAll before) (mk a)).setAll after) = value a
    rw [hget.get_setAll_of_not_mem hafter]
    exact (hget _ _).1 a rfl
  of_none h := hget.get_setAll_of_not_mem h

/-- A list to which every setting adds something has all of that, in order. -/
theorem get_setAll_eq_append {γ : Type} {get : ClientOptions → List γ} {added : Setting → List γ}
    (hset : ∀ o s, get (set o s) = get o ++ added s) :
    get (o.setAll settings) = get o ++ settings.flatMap added := by
  induction settings generalizing o with
  | nil => simp [setAll]
  | cons s settings ih =>
    rw [List.flatMap_cons, ← List.append_assoc, ← hset]
    exact ih

end

/-- The capabilities that a setting adds. -/
def Setting.capsAdded : Setting → List String
  | cap s => [s]
  | _ => []

/-- The scopes that a setting adds. -/
def Setting.scopesAdded : Setting → List String
  | scopes ss => ss
  | _ => []

/-- Whether the options are made of others by the settings: each has the value of the last setting
    of it, and the lists have all that was added to them, in order. -/
structure IsSetBy (p o : ClientOptions) (settings : List Setting) : Prop where
  id : IsLast Setting.id (fun s => s) settings o.id p.id
  displayName : IsLast Setting.displayName some settings o.displayName p.displayName
  version : IsLast Setting.version (fun s => s) settings o.version p.version
  platform : IsLast Setting.platform (fun s => s) settings o.platform p.platform
  mode : IsLast Setting.mode (fun s => s) settings o.mode p.mode
  instanceId : p.instanceId = o.instanceId
  protocolRange : IsLast (fun r => Setting.protocolRange r.1 r.2) (fun r => r) settings
    (o.minProtocol, o.maxProtocol) (p.minProtocol, p.maxProtocol)
  caps : p.caps = o.caps ++ settings.flatMap Setting.capsAdded
  role : IsLast Setting.role some settings o.role p.role
  scopes : p.scopes = o.scopes ++ settings.flatMap Setting.scopesAdded
  locale : IsLast Setting.locale some settings o.locale p.locale
  userAgent : IsLast Setting.userAgent some settings o.userAgent p.userAgent
  timezone : IsLast Setting.timezone some settings o.timezone p.timezone

theorem isSetBy_setAll (o : ClientOptions) (settings : List Setting) :
    (o.setAll settings).IsSetBy o settings where
  -- The cases are the kinds of settings: one of them sets the option, and the others leave it.
  id := isLast_setAll ClientOptions.id fun o s => by cases s <;> simp [set]
  displayName := isLast_setAll displayName fun o s => by cases s <;> simp [set]
  version := isLast_setAll version fun o s => by cases s <;> simp [set]
  platform := isLast_setAll platform fun o s => by cases s <;> simp [set]
  mode := isLast_setAll mode fun o s => by cases s <;> simp [set]
  instanceId := by
    induction settings generalizing o with
    | nil => rfl
    | cons s settings ih => exact (ih (o.set s)).trans (by cases s <;> rfl)
  protocolRange :=
    isLast_setAll (fun o => (o.minProtocol, o.maxProtocol)) fun o s => by cases s <;> simp [set]
  caps := get_setAll_eq_append fun o s => by cases s <;> simp [set, Setting.capsAdded]
  role := isLast_setAll role fun o s => by cases s <;> simp [set]
  scopes := get_setAll_eq_append fun o s => by cases s <;> simp [set, Setting.scopesAdded]
  locale := isLast_setAll locale fun o s => by cases s <;> simp [set]
  userAgent := isLast_setAll userAgent fun o s => by cases s <;> simp [set]
  timezone := isLast_setAll timezone fun o s => by cases s <;> simp [set]

/-! ## Parameters -/

/-- Whether the object has under a name the texts of a list, or nothing if the list is empty. -/
def HasTexts (o : Object) (key : String) (ss : List String) : Prop :=
  o.get? key = if ss = [] then none else some (.array (ss.map .text))

/-- Whether an object tells the client of the options, each part under its name. -/
structure IsClientOf (c : Object) (p : ClientOptions) : Prop where
  id : c.get? "id" = some (.text p.id)
  displayName : c.get? "displayName" = p.displayName.map .text
  version : c.get? "version" = some (.text p.version)
  platform : c.get? "platform" = some (.text p.platform)
  mode : c.get? "mode" = some (.text p.mode)
  instanceId : c.get? "instanceId" = p.instanceId.map .text
  others : ∀ key ∉ ["id", "displayName", "version", "platform", "mode", "instanceId"],
    c.get? key = none

/-- Whether an object tells the options, each under its name, and nothing else. -/
structure IsToldBy (p : ClientOptions) (t : Object) : Prop where
  minProtocol : t.get? "minProtocol" = some (.integer (.ofUInt32 p.minProtocol))
  maxProtocol : t.get? "maxProtocol" = some (.integer (.ofUInt32 p.maxProtocol))
  client : ∃ c : Object, t.get? "client" = some c.toValue ∧ IsClientOf c p
  caps : HasTexts t "caps" p.caps
  role : t.get? "role" = p.role.map .text
  scopes : HasTexts t "scopes" p.scopes
  locale : t.get? "locale" = p.locale.map .text
  userAgent : t.get? "userAgent" = p.userAgent.map .text
  timezone : t.get? "timezone" = p.timezone.map .text
  others : ∀ key ∉ ["minProtocol", "maxProtocol", "client", "caps", "role", "scopes", "locale",
    "userAgent", "timezone"], t.get? key = none

theorem nonEmpty?_inj {ss ss' : List String} : nonEmpty? ss = nonEmpty? ss' ↔ ss = ss' := by
  rcases ss with _ | ⟨s, ss⟩ <;> rcases ss' with _ | ⟨s', ss'⟩ <;> simp [nonEmpty?]

/-- Different options have different parameters. -/
theorem connectParams_inj {p q : ClientOptions} : p.connectParams = q.connectParams ↔ p = q := by
  obtain ⟨_, _, _, _, _, _, _, _, _, _, _, _, _, _⟩ := p
  obtain ⟨_, _, _, _, _, _, _, _, _, _, _, _, _, _⟩ := q
  simp only [connectParams, ConnectParams.mk.injEq, ClientInfo.mk.injEq, nonEmpty?_inj,
    ClientOptions.mk.injEq]
  tauto

/-- The value of a list of texts. -/
theorem ofJson_texts (ss : List String) :
    Value.ofJson ((Schema.list .text).toJson ss) = .array (ss.map .text) := by
  have hjson : (Schema.list .text).toJson ss = (Value.array (ss.map .text)).json := by
    simp [Schema.toJson, Value.array, Value.text]
  rw [hjson, Value.ofJson_json]

/-- What is written of a list, unless it is empty. -/
theorem written?_nonEmpty? (ss : List String) :
    (Schema.optional (.list .text)).written? (nonEmpty? ss) =
      if ss = [] then none else some (.array (ss.map .text)) := by
  rcases ss with _ | ⟨s, ss⟩
  · rfl
  · rw [if_neg (List.cons_ne_nil s ss), ← ofJson_texts]
    rfl

/-- The object of the client tells it. -/
theorem isClientOf_clientInfo (p : ClientOptions) :
    IsClientOf (.ofMembers (ClientInfo.fields.toMembers (Wire.parts p.connectParams.client))) p := by
  obtain ⟨⟨hid, hdisplayName, hversion, hplatform, hmode, hinstanceId, -⟩, hothers⟩ :=
    Fields.tells_toMembers ClientInfo.fields (by decide)
      (Wire.parts p.connectParams.client)
  rw [Schema.written?_optional] at hdisplayName hinstanceId
  exact ⟨hid, hdisplayName, hversion, hplatform, hmode, hinstanceId, hothers⟩

/-- The object of the parameters tells the options. -/
theorem exists_isToldBy (p : ClientOptions) :
    ∃ t : Object, Wire.toValue p.connectParams = t.toValue ∧ p.IsToldBy t := by
  obtain ⟨⟨hmin, hmax, hclient, hcaps, hrole, hscopes, hlocale, huserAgent, htimezone, -⟩,
    hothers⟩ := Fields.tells_toMembers ConnectParams.fields (by decide)
      (Wire.parts p.connectParams)
  refine ⟨_, Value.ofJson_object _, ?_⟩
  -- Lists are there unless they are empty, and other options as they are.
  rw [Schema.written?_optional] at hrole hlocale huserAgent htimezone
  exact
    { minProtocol := hmin
      maxProtocol := hmax
      client := ⟨_, hclient.trans (congrArg some (Value.ofJson_object _)),
        p.isClientOf_clientInfo⟩
      caps := hcaps.trans (written?_nonEmpty? p.caps)
      role := hrole
      scopes := hscopes.trans (written?_nonEmpty? p.scopes)
      locale := hlocale
      userAgent := huserAgent
      timezone := htimezone
      others := hothers }

/-- The parameters are not deep. -/
theorem within_connectParams (p : ClientOptions) :
    (Wire.toJson p.connectParams).Within maxDepth := by
  -- The deepest is a text in a list or in the client, with two levels around it.
  have htexts (ss : List String) : ((Schema.list .text).toJson ss).Within 126 :=
    Json.within_array_iff.2 fun j hj => by
      obtain ⟨s, -, rfl⟩ := List.mem_map.1 hj
      exact within_text s
  have hclient : ClientInfo.fields.Within 125 (Wire.parts p.connectParams.client) :=
    ⟨within_text _, within_optional fun _ _ => within_text _, within_text _, within_text _,
      within_text _, within_optional fun _ _ => within_text _, trivial⟩
  have hfields : ConnectParams.fields.Within 126 (Wire.parts p.connectParams) :=
    ⟨within_integer _, within_integer _, Json.within_object_iff.2 hclient.toMembers,
      within_optional fun ss _ => htexts ss, within_optional fun _ _ => within_text _,
      within_optional fun ss _ => htexts ss, within_optional fun _ _ => within_text _,
      within_optional fun _ _ => within_text _, within_optional fun _ _ => within_text _, trivial⟩
  exact Json.within_object_iff.2 hfields.toMembers

/-- Settings make the options, and what is announced tells all of them: it is read back, from its
    text and from its value, and different options have different texts. -/
theorem announcement (o : ClientOptions) (settings : List Setting) :
    (o.setAll settings).IsSetBy o settings ∧
      (∀ p : ClientOptions,
        Wire.read (Wire.write p.connectParams) = .ok p.connectParams ∧
        Value.read (Wire.write p.connectParams) = .ok (Wire.toValue p.connectParams) ∧
        Wire.ofValue (Wire.toValue p.connectParams) = .ok p.connectParams ∧
        ∃ t : Object, Wire.toValue p.connectParams = t.toValue ∧ p.IsToldBy t) ∧
      ∀ p q : ClientOptions, Wire.write p.connectParams = Wire.write q.connectParams ↔ p = q := by
  have hread (p : ClientOptions) : Wire.read (Wire.write p.connectParams) = .ok p.connectParams :=
    Wire.read_write rfl rfl _ p.within_connectParams
  refine ⟨isSetBy_setAll o settings, fun p => ⟨hread p, ?_, ?_, p.exists_isToldBy⟩,
    fun p q => ⟨fun h => ?_, fun h => h ▸ rfl⟩⟩
  · exact Value.read_write p.within_connectParams.1 p.within_connectParams.2
  · exact Wire.ofValue_toValue rfl rfl _
  · -- One text is read as one element, and the parameters tell the options apart.
    have hparams : p.connectParams = q.connectParams :=
      Except.ok.inj ((hread p).symm.trans (h ▸ hread q))
    exact connectParams_inj.1 hparams

end ClientOptions

end Tether
