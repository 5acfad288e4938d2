import Tether.Frame
import Tether.Log

/-!
# The handshake

The first request on every socket is `connect`; its parameters tell who the
client is. The peer accepts with a successful response whose payload has the
type `hello-ok`, and declines with anything else.

* `ConnectParams`: what the client announces;
* `Hello`: what the peer announces when it accepts;
* `Hello.ofResponse`: interprets the response. Acceptance depends on the type
  alone: of the other fields, those that do not have the form of theirs are kept
  among the further ones.
-/

namespace Tether

/-- The method of the handshake. -/
def connectMethod : String := "connect"

/-- The version of the protocol. -/
def protocolVersion : UInt32 := 3

/-! ## What the client announces -/

/-- Who the client is. -/
structure ClientInfo where
  id : String
  displayName : Option String
  version : String
  platform : String
  mode : String
  instanceId : Option String
  deriving DecidableEq, Repr

/-- The fields of a client. -/
@[reducible]
def ClientInfo.fields : Fields :=
  .required "id" .text <| .optional "displayName" .text <| .required "version" .text <|
    .required "platform" .text <| .required "mode" .text <| .optional "instanceId" .text <| .nil

instance : Wire ClientInfo where
  schema := .record "ClientInfo" ClientInfo.fields
  build := fun (id, displayName, version, platform, mode, instanceId, _) =>
    ⟨id, displayName, version, platform, mode, instanceId⟩
  parts c := (c.id, c.displayName, c.version, c.platform, c.mode, c.instanceId, ())
  build_parts _ := rfl
  parts_build _ := rfl

/-- The parameters of the handshake. -/
structure ConnectParams where
  minProtocol : UInt32
  maxProtocol : UInt32
  client : ClientInfo
  caps : Option (List String)
  role : Option String
  scopes : Option (List String)
  locale : Option String
  userAgent : Option String
  timezone : Option String
  deriving DecidableEq, Repr

/-- The fields of the parameters. -/
@[reducible]
def ConnectParams.fields : Fields :=
  .required "minProtocol" (.natural .bits32) <| .required "maxProtocol" (.natural .bits32) <|
    .required "client" (.record "ClientInfo" ClientInfo.fields) <|
    .optional "caps" (.list .text) <| .optional "role" .text <|
    .optional "scopes" (.list .text) <| .optional "locale" .text <|
    .optional "userAgent" .text <| .optional "timezone" .text <| .nil

instance : Wire ConnectParams where
  schema := .record "ConnectParams" ConnectParams.fields
  build := fun (minProtocol, maxProtocol, client, caps, role, scopes, locale, userAgent,
      timezone, _) =>
    ⟨minProtocol, maxProtocol, Wire.build (α := ClientInfo) client, caps, role, scopes, locale,
      userAgent, timezone⟩
  parts p := (p.minProtocol, p.maxProtocol, Wire.parts p.client, p.caps, p.role, p.scopes,
    p.locale, p.userAgent, p.timezone, ())
  build_parts _ := rfl
  parts_build _ := rfl

/-! ## What the peer announces -/

/-- Who the peer is. -/
structure ServerInfo where
  version : String
  commit : Option String
  host : Option String
  connId : Option String
  deriving DecidableEq, Repr

/-- The fields of a peer. -/
@[reducible]
def ServerInfo.fields : Fields :=
  .defaulted "version" .text <| .optional "commit" .text <| .optional "host" .text <|
    .optional "connId" .text <| .nil

instance : Wire ServerInfo where
  schema := .record "ServerInfo" ServerInfo.fields
  build := fun (version, commit, host, connId, _) => ⟨version, commit, host, connId⟩
  parts s := (s.version, s.commit, s.host, s.connId, ())
  build_parts _ := rfl
  parts_build _ := rfl

/-- The methods and events that the peer offers. -/
structure Features where
  methods : List String
  events : List String
  deriving DecidableEq, Repr

/-- The fields of the features. -/
@[reducible]
def Features.fields : Fields :=
  .defaulted "methods" (.list .text) <| .defaulted "events" (.list .text) <| .nil

instance : Wire Features where
  schema := .record "Features" Features.fields
  build := fun (methods, events, _) => ⟨methods, events⟩
  parts f := (f.methods, f.events, ())
  build_parts _ := rfl
  parts_build _ := rfl

/-- The limits that the peer sets. -/
structure Policy where
  /-- The largest message, in bytes. -/
  maxPayload : UInt64
  /-- The largest amount of unsent data, in bytes. -/
  maxBufferedBytes : UInt64
  /-- The time between two signs of life, in milliseconds. -/
  tickInterval : UInt64
  deriving DecidableEq, Repr

/-- The fields of the limits. -/
@[reducible]
def Policy.fields : Fields :=
  .defaulted "maxPayload" (.natural .size) <| .defaulted "maxBufferedBytes" (.natural .size) <|
    .defaulted "tickIntervalMs" (.natural .bits64) <| .nil

instance : Wire Policy where
  schema := .record "Policy" Policy.fields
  build := fun (maxPayload, maxBufferedBytes, tickInterval, _) =>
    ⟨maxPayload, maxBufferedBytes, tickInterval⟩
  parts p := (p.maxPayload, p.maxBufferedBytes, p.tickInterval, ())
  build_parts _ := rfl
  parts_build _ := rfl

/-- The payload of an accepted handshake. -/
structure Hello where
  type : String
  protocol : Option UInt32
  server : Option ServerInfo
  features : Option Features
  policy : Option Policy
  snapshot : Option Value
  /-- The other fields. -/
  extra : Object
  deriving DecidableEq

/-- The fields of the payload that have a meaning of their own. -/
@[reducible]
def Hello.fields : Fields :=
  .required "type" .text <| .optional "protocol" (.natural .bits32) <|
    .optional "server" (.record "ServerInfo" ServerInfo.fields) <|
    .optional "features" (.record "Features" Features.fields) <|
    .optional "policy" (.record "Policy" Policy.fields) <| .optional "snapshot" .any <| .nil

instance : Wire Hello where
  schema := .openRecord "HelloOk" Hello.fields
  build := fun ((type, protocol, server, features, policy, snapshot, _), extra) =>
    ⟨type, protocol, server.map (Wire.build (α := ServerInfo)),
      features.map (Wire.build (α := Features)), policy.map (Wire.build (α := Policy)), snapshot,
      extra⟩
  parts h := ((h.type, h.protocol, h.server.map (Wire.parts (α := ServerInfo)),
    h.features.map (Wire.parts (α := Features)), h.policy.map (Wire.parts (α := Policy)),
    h.snapshot, ()), h.extra)
  build_parts h := by
    obtain ⟨_, _, server, features, policy, _, _⟩ := h
    cases server <;> cases features <;> cases policy <;> rfl
  parts_build := by
    intro ((_, _, server, features, policy, _, ()), _)
    cases server <;> cases features <;> cases policy <;> rfl

/-! ## Interpretation of the response -/

/-- Why a response is no acceptance. -/
inductive Rejection
  /-- The response reports an error, with a message or without an error body. -/
  | refused (message : Option String)
  /-- The payload has another type. -/
  | otherType (type : String)
  /-- The payload has no type, or is absent. -/
  | untyped
  deriving DecidableEq, Repr

/-- The words of a rejection. -/
def Rejection.message : Rejection → String
  | refused message => message.getD "handshake refused"
  | otherType type => s!"unexpected handshake payload type `{type}`"
  | untyped => "handshake payload has no type"

namespace Hello

/-- The type of the payload of an accepted handshake. -/
def tag : String := "hello-ok"

/-- A field that was taken out of an object. -/
structure Taken (α : Type) where
  /-- The field, if it is there and has its form. -/
  field : Option α
  /-- The other fields, and this one if it does not have its form. -/
  rest : Object
  /-- Why the field does not have its form. -/
  mismatch : List (String × Mismatch)

/-- Takes a field out of an object, unless it does not have its form. -/
def take {α : Type} [Wire α] (key : String) (o : Object) : Taken α :=
  match o.get? key with
  | none => ⟨none, o, []⟩
  | some v =>
    match Wire.ofValue v with
    | .ok a => ⟨some a, o.erase key, []⟩
    | .error m => ⟨none, o, [(key, m)]⟩

/-- Interprets the payload of an accepted handshake, and tells why some of its
    fields do not have their form. -/
def ofPayload (o : Object) : Hello × List (String × Mismatch) :=
  let o := o.erase "type"
  -- Each field is taken from what those before it have left.
  let protocol := take "protocol" o
  let server := take "server" protocol.rest
  let features := take "features" server.rest
  let policy := take "policy" features.rest
  ({ type := tag
     protocol := protocol.field
     server := server.field
     features := features.field
     policy := policy.field
     snapshot := policy.rest.get? "snapshot"
     extra := policy.rest.erase "snapshot" },
   protocol.mismatch ++ server.mismatch ++ features.mismatch ++ policy.mismatch)

/-- Interprets a response, and tells why some fields do not have their form. -/
def interpret (r : Response) : Except Rejection (Hello × List (String × Mismatch)) :=
  if !r.ok then .error (.refused r.errorMessage?)
  else
    match r.payload.bind Value.object? with
    | none => .error .untyped
    | some o =>
      match (o.get? "type").bind Value.text? with
      | none => .error .untyped
      | some type => if type = tag then .ok (ofPayload o) else .error (.otherType type)

/-- The log entry for a field that does not have its form. -/
def keepingEntry (f : String × Mismatch) : Log.Entry :=
  .debug "Keeping unparsed hello-ok field" [("field", f.1), ("error", f.2.message)]

/-- Interprets a response. -/
def ofResponse (r : Response) : Except Rejection Hello := (interpret r).map Prod.fst

end Hello

end Tether
