import Tether.Channel.Basic
import Tether.Channel.Config

/-!
# What happens to a channel

The world acts on a channel by inputs: the socket opens or does not, messages
arrive, a time limit is over, and from time to time the channel gets to take a
command from its queue. `Channel.receive` is the channel after an input, with what
it does in answer to it. An input that does not befit the stage of the channel
changes nothing. What a channel does is a list of effects, in the order in which it does
them; what it tells the log stands beside them.

* `Channel.takeDialing`, `Channel.takeServing`: a command. While the socket is being opened,
  requests are turned down; on the open socket, a request is registered and then written;
* `Channel.hear`: a text. The response to the handshake decides on the
  conversation, any other response is delivered to its request, and all other
  frames are passed on;
* `Channel.finish`: all requests that were queued or pending fail, and the last
  notice is that the socket is closed.
-/

namespace Tether.Channel

variable {κ : Type}

/-- What the world does to a channel. -/
inductive Input
  /-- The channel gets to work. -/
  | begin
  /-- The socket is open. -/
  | dialed
  /-- The socket cannot be opened. -/
  | refused
  /-- The time for opening the socket is over. -/
  | dialTimeout
  /-- The handshake is written, with this id. -/
  | greeted (id : RequestId)
  /-- The handshake cannot be written. -/
  | greetFailed
  /-- A text arrives. -/
  | text (text : String)
  /-- Another message arrives: data, or a sign of life. -/
  | other
  /-- The peer closes the socket. -/
  | closedByPeer
  /-- The socket fails. -/
  | broken
  /-- The socket ends. -/
  | ended
  /-- A command may be taken; whether the socket takes a request. -/
  | command (written : Bool)
  /-- The time for the answer to the handshake is over. -/
  | deadline
  /-- The channel gets to close. -/
  | finish
  deriving DecidableEq

/-- What whoever watches a channel is told. -/
inductive Notice
  /-- An event or a request has arrived. -/
  | frame (f : Frame)
  /-- The handshake was accepted. -/
  | connected (hello : Hello)
  /-- The handshake was rejected. -/
  | handshakeFailed (response : Response)
  /-- The socket is gone; whether the handshake had been accepted. -/
  | closed (wasOpen : Bool)
  deriving DecidableEq

/-- One thing that a channel does. -/
inductive Effect (κ : Type)
  /-- The request with this id becomes pending. -/
  | registered (id : RequestId) (recipient : κ)
  /-- A request is written to the socket. -/
  | written (request : Request)
  /-- The outcome of a request is delivered. -/
  | delivered (d : Pending.Delivery κ)
  /-- The socket is closed from this side. -/
  | hungUp
  /-- Whoever watches is told. -/
  | noticed (n : Notice)

/-- What whoever watches is told by an effect. -/
def Effect.notice? : Effect κ → Option Notice
  | noticed n => some n
  | _ => none

/-- What a channel does in answer to an input. -/
structure Effects (κ : Type) where
  /-- All but what the log is told, in order. -/
  done : List (Effect κ) := []
  log : List Log.Entry := []

/-- What whoever watches is told. It is not told two things at once. -/
def Effects.notice (fx : Effects κ) : Option Notice := fx.done.findSome? Effect.notice?

/-- A channel after an input, with its pending requests. -/
structure Outcome (κ : Type) extends Effects κ where
  channel : Channel κ
  pending : Pending.Table κ

/-- The conversation is over. -/
def leave (c : Channel κ) (closes : Bool) : Channel κ :=
  { c with stage := .leaving c.phase closes }

/-- The log entry for a new phase. -/
def phaseEntry (p : Phase) : Log.Entry := .trace "Channel state changed" [("state", p.name)]

/-- The request of the handshake. -/
def connectRequest (config : Config) (id : RequestId) : Request :=
  ⟨id, connectMethod, some (Wire.toValue config.connectParams)⟩

/-- The outcome of a request whose command is not taken any more. -/
def Command.dropped? : Command κ → Option (Pending.Delivery κ)
  | .send _ recipient => some ⟨recipient, .error .disconnected⟩
  | .shutdown => none

/-! ## Commands -/

/-- Takes a command while the socket is being opened. -/
def takeDialing (t : Pending.Table κ) (c : Channel κ) : Outcome κ :=
  match c.queue with
  | [] => { channel := c, pending := t }
  | .send _ recipient :: queue =>
    { channel := { c with queue }
      pending := t
      done := [.delivered ⟨recipient, .error .notConnected⟩] }
  | .shutdown :: queue =>
    { channel := { c with queue }.leave false
      pending := t
      log := [.debug "Shutdown while connecting" []] }

/-- Takes a command on the open socket. -/
def takeServing (written : Bool) (t : Pending.Table κ) (c : Channel κ) : Outcome κ :=
  match c.queue with
  | [] => { channel := c, pending := t }
  | .send request recipient :: queue =>
    match t.register request.id recipient with
    | .error e =>
      { channel := { c with queue }
        pending := t
        done := [.delivered ⟨recipient, .error .disconnected⟩]
        log := [.warn "Request not registered"
          [("id", request.id.text), ("error", e.message)]] }
    | .ok t =>
      -- What cannot be written stays pending, and fails with the others at the end.
      if written then
        { channel := { c with queue }
          pending := t
          done := [.registered request.id recipient, .written request]
          log := [.trace "Request sent" [("id", request.id.text)]] }
      else
        { channel := { c with queue }.leave true
          pending := t
          done := [.registered request.id recipient]
          log := [.warn "Failed to send request" [("id", request.id.text)]] }
  | .shutdown :: queue =>
    { channel := { c with queue }.leave true
      pending := t
      log := [.debug "Shutdown command received" []] }

/-! ## Messages -/

/-- What is told of an accepted handshake. -/
def connectedEntry (hello : Hello) : Log.Entry :=
  .info "Connected to gateway" <|
    (hello.protocol.map fun n => ("protocol", toString n.toNat)).toList ++
      (hello.server.map fun s => ("server_version", s.version)).toList

/-- The response to the handshake decides on the conversation. -/
def hearHandshake (r : Response) (t : Pending.Table κ) (c : Channel κ) : Outcome κ :=
  if c.watched then
    match Hello.interpret r with
    | .ok (hello, kept) =>
      { channel := { c with stage := .serving none }
        pending := t
        done := [.noticed (.connected hello)]
        log := kept.map Hello.keepingEntry ++ [phaseEntry .opened, connectedEntry hello] }
    | .error rejection =>
      { channel := c.leave true
        pending := t
        done := [.noticed (.handshakeFailed r)]
        log := [.warn "Handshake failed"
          [("error", (Failure.handshakeRejected rejection.message).message)]] }
  else { channel := c.leave true, pending := t }

/-- A response is delivered to its request. -/
def hearResponse (r : Response) (t : Pending.Table κ) (c : Channel κ) : Outcome κ :=
  match t.resolve r with
  | (t', some delivery) =>
    { channel := c
      pending := t'
      done := [.delivered delivery]
      log := t.resolveLog r }
  | (_, none) =>
    { channel := c
      pending := t
      log := [.trace "Discarding response for unknown request" [("id", r.id.text)]] }

/-- An event or a request is passed on, as long as someone watches. -/
def hearFrame (f : Frame) (t : Pending.Table κ) (c : Channel κ) : Outcome κ :=
  if c.watched then { channel := c, pending := t, done := [.noticed (.frame f)] }
  else { channel := c.leave true, pending := t }

/-- A text arrives, while the response with the awaited id is outstanding. -/
def hear (awaited : Option RequestId) (text : String) (t : Pending.Table κ) (c : Channel κ) :
    Outcome κ :=
  match Frame.decode text with
  | .error m =>
    { channel := c
      pending := t
      log := [.trace "Dropping malformed frame"
        [("error", (Failure.malformedFrame m.message).message)]] }
  | .ok (.response r) => if awaited = some r.id then c.hearHandshake r t else c.hearResponse r t
  | .ok f => c.hearFrame f t

/-! ## The end -/

/-- What is done at the end: the socket is closed, if that is up to this side, then all
    outcomes are delivered, and last comes the notice. -/
def closing (closes : Bool) (deliveries : List (Pending.Delivery κ)) (notice : Option Notice) :
    List (Effect κ) :=
  (if closes then [.hungUp] else []) ++ deliveries.map .delivered ++ notice.toList.map .noticed

/-- The channel closes: the requests that were queued or pending fail. -/
def finish (reached : Phase) (closes : Bool) (t : Pending.Table κ) (c : Channel κ) :
    Outcome κ :=
  let wasOpen := reached = .opened
  let (t', failed) := t.failAll
  { channel := { c with stage := .closed wasOpen, queue := [] }
    pending := t'
    done := closing closes (c.queue.filterMap Command.dropped? ++ failed)
      (if c.watched then some (.closed wasOpen) else none)
    log := phaseEntry .closed :: t.failAllLog ++
      [.debug "Channel closed" [("was_open", toString (decide wasOpen))]] }

/-! ## Inputs -/

/-- The channel after an input. -/
def receive (config : Config) (t : Pending.Table κ) (c : Channel κ) (input : Input) : Outcome κ :=
  match c.stage, input with
  | .waiting, .begin =>
    { channel := { c with stage := .dialing }
      pending := t
      log := [.debug "Connecting to gateway" []] }
  | .dialing, .dialed =>
    { channel := { c with stage := .greeting }
      pending := t
      log := [phaseEntry .handshaking] }
  | .dialing, .refused =>
    { channel := c.leave false, pending := t, log := [.warn "Gateway connection failed" []] }
  | .dialing, .dialTimeout =>
    let e : Failure := .connectionTimeout (.ofNat config.connectTimeout.cappedMillis)
    { channel := c.leave false
      pending := t
      log := [.warn "Gateway connection failed" [("error", e.message)]] }
  | .dialing, .command _ => c.takeDialing t
  | .greeting, .greeted id =>
    { channel := { c with stage := .serving (some id) }
      pending := t
      done := [.written (connectRequest config id)]
      log := [.trace "Handshake sent" [("id", id.text)]] }
  | .greeting, .greetFailed =>
    { channel := c.leave true, pending := t, log := [.warn "Failed to send handshake" []] }
  | .serving awaited, .text text => c.hear awaited text t
  | .serving _, .closedByPeer =>
    { channel := c.leave false, pending := t, log := [.debug "WebSocket closed by gateway" []] }
  | .serving _, .broken =>
    { channel := c.leave false, pending := t, log := [.warn "WebSocket error" []] }
  | .serving _, .ended =>
    { channel := c.leave false, pending := t, log := [.debug "WebSocket stream ended" []] }
  | .serving _, .command written => c.takeServing written t
  -- The time limit means nothing once the handshake has been answered.
  | .serving (some _), .deadline =>
    { channel := c.leave true
      pending := t
      log := [.warn "Handshake timed out"
        [("timeout_ms", toString config.handshakeTimeout.cappedMillis)]] }
  | .leaving reached closes, .finish => c.finish reached closes t
  | _, _ => { channel := c, pending := t }

end Tether.Channel
