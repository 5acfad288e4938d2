import Tether.Failure
import Tether.RequestId

/-!
# Frames

Each text message holds one frame, a JSON object. Its `type` tells the kind:
`req` is a request, `res` is a response, and anything else, of whatever JSON
kind, is an event.

* `Request`, `Response`, `Event`: the kinds of frames, each a wire type;
* `Frame.decode`: reads a message;
* `Frame.encode`: writes a frame, its `type` first. Absent fields are left out,
  and the further fields of an event come last, by key;
* `Response.result`: the payload of a response, or the failure it reports.
-/

namespace Tether

/-! ## Requests -/

/-- A call of a method. -/
structure Request where
  id : RequestId
  method : String
  params : Option Value
  deriving DecidableEq

/-- The fields of a request. -/
@[reducible]
def Request.fields : Fields :=
  .required "id" .label <| .required "method" .text <| .optional "params" .any <| .nil

instance : Wire Request where
  schema := .record "RequestFrame" Request.fields
  build := fun (id, method, params, _) => ⟨⟨id⟩, method, params⟩
  parts r := (r.id.text, r.method, r.params, ())
  build_parts _ := rfl
  parts_build _ := rfl

/-- The tag of requests. -/
def Request.tag : String := "req"

/-! ## Responses -/

/-- What a failed response tells of the error. -/
structure ErrorBody where
  message : String
  code : Option String
  details : Option Value
  retryable : Option Bool
  retryAfter : Option UInt64
  deriving DecidableEq

/-- The fields of an error. -/
@[reducible]
def ErrorBody.fields : Fields :=
  .defaulted "message" .text <| .optional "code" .text <| .optional "details" .any <|
    .optional "retryable" .flag <| .optional "retryAfterMs" (.natural .bits64) <| .nil

instance : Wire ErrorBody where
  schema := .record "ErrorShape" ErrorBody.fields
  build := fun (message, code, details, retryable, retryAfter, _) =>
    ⟨message, code, details, retryable, retryAfter⟩
  parts e := (e.message, e.code, e.details, e.retryable, e.retryAfter, ())
  build_parts _ := rfl
  parts_build _ := rfl

/-- The answer to a request. -/
structure Response where
  id : RequestId
  ok : Bool
  payload : Option Value
  error : Option ErrorBody
  deriving DecidableEq

/-- The fields of a response. -/
@[reducible]
def Response.fields : Fields :=
  .required "id" .label <| .required "ok" .flag <| .optional "payload" .any <|
    .optional "error" (.record "ErrorShape" ErrorBody.fields) <| .nil

instance : Wire Response where
  schema := .record "ResponseFrame" Response.fields
  build := fun (id, ok, payload, error, _) =>
    ⟨⟨id⟩, ok, payload, error.map (Wire.build (α := ErrorBody))⟩
  parts r := (r.id.text, r.ok, r.payload, r.error.map (Wire.parts (α := ErrorBody)), ())
  build_parts r := by
    cases r with
    | mk id ok payload error => cases error <;> rfl
  parts_build := by
    intro (id, ok, payload, error, ())
    cases error <;> rfl

namespace Response

/-- The tag of responses. -/
def tag : String := "res"

/-- The text under `type` in the payload. -/
def payloadType? (r : Response) : Option String :=
  (r.payload.bind Value.object?).bind fun o => (o.get? "type").bind Value.text?

/-- The message of the error. -/
def errorMessage? (r : Response) : Option String := r.error.map ErrorBody.message

/-- The payload of a successful response, null if it is absent; otherwise the
    failure that the response reports. -/
def result (r : Response) : Except Failure Value :=
  if r.ok then .ok (r.payload.getD .null)
  else
    match r.error with
    | some e => .error (.rpc e.code e.message)
    | none => .error (.rpc none "unknown error")

end Response

/-! ## Events -/

/-- A notification. -/
structure Event where
  /-- The value under `type`, of any JSON kind. -/
  type : Value
  event : Option String
  payload : Option Value
  seq : Option UInt64
  /-- The other fields. -/
  extra : Object
  deriving DecidableEq

/-- The fields of an event that have a meaning of their own. -/
@[reducible]
def Event.fields : Fields :=
  .required "type" .any <| .optional "event" .text <| .optional "payload" .any <|
    .optional "seq" (.natural .bits64) <| .nil

instance : Wire Event where
  schema := .openRecord "EventFrame" Event.fields
  build := fun ((type, event, payload, seq, _), extra) => ⟨type, event, payload, seq, extra⟩
  parts e := ((e.type, e.event, e.payload, e.seq, ()), e.extra)
  build_parts _ := rfl
  parts_build _ := rfl

namespace Event

/-- The tag of events, in want of a better one. -/
def tag : String := "event"

/-- The name of an event: its own, or else the tag of the frame. -/
def name (e : Event) : String := (e.event.or e.type.text?).getD tag

end Event

/-! ## Frames -/

/-- A message. -/
inductive Frame
  | request (r : Request)
  | response (r : Response)
  | event (e : Event)
  deriving DecidableEq

/-- Why a text is no frame. -/
inductive Malformation
  /-- The text is no JSON text. -/
  | unreadable (text : String) (fault : Fault)
  /-- It is not an object with a field `type`. -/
  | untyped
  /-- The object does not have the form of its kind. -/
  | mismatch (m : Mismatch)
  deriving DecidableEq

/-- The words of a malformation. -/
def Malformation.message : Malformation → String
  | unreadable text fault => fault.message text
  | untyped => "missing `type` field"
  | mismatch m => m.message

namespace Frame

/-- The tag of a frame: that of an event is its type, if that is a text. -/
def kind : Frame → String
  | request _ => Request.tag
  | response _ => Response.tag
  | event e => e.type.text?.getD Event.tag

/-- The frame that a value stands for. -/
def ofValue (v : Value) : Except Malformation Frame :=
  match v.object?.bind (·.get? "type") with
  | none => .error .untyped
  | some type =>
    let frame : Except Mismatch Frame :=
      if type.text? = some Request.tag then (Wire.ofValue v).map request
      else if type.text? = some Response.tag then (Wire.ofValue v).map response
      else (Wire.ofValue v).map event
    frame.mapError .mismatch

/-- Reads a message. -/
def decode (text : String) : Except Malformation Frame :=
  match Value.read text with
  | .ok v => ofValue v
  | .error fault => .error (.unreadable text fault)

/-- The document of a frame. -/
def toJson : Frame → Json
  | request r =>
    .object (("type", .text Request.tag) :: Request.fields.toMembers (Wire.parts r))
  | response r =>
    .object (("type", .text Response.tag) :: Response.fields.toMembers (Wire.parts r))
  | event e => Wire.toJson e

/-- Writes a message. -/
def encode (f : Frame) : String := f.toJson.write

end Frame

end Tether
