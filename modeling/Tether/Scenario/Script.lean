import Tether.Gateway.Basic

/-!
# Scripts

A script tells what a client, a server and a clock do in turn, and its reports tell
what was seen of each step.

* `Mode`: how the server treats an attempt to open a socket;
* `Action`: what a client does anywhere, also inside a handler;
* `Call`: what a client does in a step of its own;
* `Step`, `Report`: the steps of a script, and what is seen of a step.
-/

namespace Tether.Scenario

/-- How the server treats an attempt to open a socket. -/
inductive Mode
  | accept
  /-- The attempt fails at once. -/
  | refuse
  /-- The attempt is never answered. -/
  | hang
  /-- The socket opens, and is gone before anything can be written. -/
  | vanish
  deriving DecidableEq, Repr

/-- What the server sends. -/
inductive Message
  | text (text : String)
  | data
  | close
  /-- The connection is cut. -/
  | cut
  /-- A text that is no text. -/
  | garbage
  deriving DecidableEq, Repr

/-- What a message does to a channel. -/
def Message.input : Message → Channel.Input
  | text s => .text s
  | data => .other
  | close => .closedByPeer
  | cut | garbage => .broken

/-- Whether a message ends the socket. -/
def Message.endsSocket : Message → Bool
  | text _ | data => false
  | close | cut | garbage => true

/-! ## The client -/

/-- What a handler is for. -/
inductive Occasion
  | frame
  | connected
  | handshakeFailed
  | disconnected
  deriving DecidableEq, Repr

/-- The occasion of a notice. -/
def Occasion.ofNotice : Channel.Notice → Occasion
  | .frame _ => frame
  | .connected _ => connected
  | .handshakeFailed _ => handshakeFailed
  | .closed _ => disconnected

/-- What a client does anywhere, also inside a handler. -/
inductive Action
  | launch
  | forceReconnect
  | dispose
  | clearHandlers
  /-- Asks for the state. -/
  | state
  /-- Asks for a description. -/
  | describe
  | send (method : String) (params : Value)
  deriving DecidableEq

/-- A handler: it notes its occasion, and so many times takes its actions, each with the
    words under which it is noted. -/
structure Handler where
  actions : List (String × Action) := []
  times : Nat := 1
  deriving DecidableEq

/-- What a client does in a step of its own. -/
inductive Call
  | act (a : Action)
  /-- A request that is answered by the payload of its response alone. -/
  | request (method : String) (params : Value)
  | handle (o : Occasion) (h : Handler)
  /-- No one waits for the request with this label any more. -/
  | dropResponse (label : String)
  /-- No one holds the gateway or the channel any more. -/
  | drop
  | shutdown
  /-- No one watches the channel any more. -/
  | dropObserver
  /-- Asks whether the channel is live, and for the number of its pending requests. -/
  | isLive
  deriving DecidableEq

/-- A step of a script. -/
inductive Step
  | call (c : Call)
  /-- Several calls before anything else happens. -/
  | batch (cs : List Call)
  | serve (ms : List Message)
  /-- The modes of the next attempts; the last one stays. -/
  | setModes (ms : List Mode)
  /-- The clock moves by so many milliseconds. -/
  | tick (ms : Nat)
  deriving DecidableEq

/-! ## What is seen -/

/-- What a call answers. -/
inductive Reply
  | nothing
  | label (l : String)
  | failed (e : Failure)
  | state (p : Channel.Phase) (isOpen isDisposed : Bool)
  | text (s : String)
  | flag (b : Bool)
  | live (b : Bool) (pending : Nat)
  deriving DecidableEq

/-- What a step answers. -/
inductive StepReply
  | one (r : Reply)
  | many (rs : List Reply)
  /-- Whether there was a socket for the messages of the server. -/
  | served (b : Bool)
  deriving DecidableEq

/-- What a client sees happen. -/
inductive Happening
  | notice (n : Channel.Notice)
  /-- An action of a handler has been taken. -/
  | acted (action : String) (r : Reply)
  deriving DecidableEq

/-- How a request was answered: with a response, or with the payload alone. -/
inductive Answer
  | response (r : Except Failure Response)
  | payload (v : Except Failure Value)

/-- What is seen of a step. -/
structure Report where
  reply : StepReply
  events : List Happening
  /-- The texts that reached the server. -/
  received : List String
  /-- The requests that were answered, by their labels. -/
  resolved : List (String × Answer)
  phase : Channel.Phase
  /-- The number of sockets so far. -/
  sockets : Nat
  /-- The number of sockets that were closed by the client. -/
  clientCloses : Nat
  /-- The number of pending requests. -/
  pending : Option Nat
  /-- The delay before the next attempt, and whether one is scheduled. -/
  reconnect : Option (Duration × Bool)
  log : List Log.Entry

end Tether.Scenario
