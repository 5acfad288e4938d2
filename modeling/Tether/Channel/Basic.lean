import Tether.Channel.Phase
import Tether.Pending

/-!
# Channels

A channel is one attempt to open a socket, and the conversation on that socket. It
has a queue of commands from its callers, and takes them one at a time.

* `Channel.send`: queues a request, if the channel is ready for requests;
* `Channel.shutdown`: queues the end of the conversation;
* `Channel.phase`: how far the channel has come.

What the world does to a channel is in `Tether.Channel.Receive`.
-/

namespace Tether

namespace Channel

/-- What callers want of a channel. -/
inductive Command (κ : Type)
  /-- Writes a request, whose outcome is delivered to the recipient. -/
  | send (request : Request) (recipient : κ)
  /-- Ends the conversation. -/
  | shutdown
  deriving DecidableEq

/-- How far a channel has come. -/
inductive Stage
  /-- It does not work yet. -/
  | waiting
  /-- The socket is being opened. -/
  | dialing
  /-- The socket is open, and the handshake is to be written. -/
  | greeting
  /-- Messages are exchanged. The id is that of the handshake, until it is answered. -/
  | serving (awaited : Option RequestId)
  /-- The conversation is over; whether the socket is closed from this side. -/
  | leaving (reached : Phase) (closes : Bool)
  /-- The socket is gone; whether the handshake had been accepted. -/
  | closed (wasOpen : Bool)
  deriving DecidableEq

/-- The phase of a stage. -/
def Stage.phase : Stage → Phase
  | waiting | dialing => .connecting
  | greeting | serving (some _) => .handshaking
  | serving none => .opened
  | leaving reached _ => reached
  | closed _ => .closed

end Channel

/-- One attempt to open a socket, and the conversation on it. -/
structure Channel (κ : Type) where
  stage : Channel.Stage
  /-- The commands that have not been taken, in order. -/
  queue : List (Channel.Command κ)
  /-- Whether someone is there to be told what happens. -/
  watched : Bool
  deriving DecidableEq

namespace Channel

variable {κ : Type}

/-- A new channel. -/
def start : Channel κ := ⟨.waiting, [], true⟩

/-- The phase of a channel. -/
def phase (c : Channel κ) : Phase := c.stage.phase

/-- Whether a channel has not reached its last phase. -/
def isLive (c : Channel κ) : Bool := c.phase ≠ .closed

/-- Queues a request, if requests can be sent. -/
def send (request : Request) (recipient : κ) (c : Channel κ) : Except Failure (Channel κ) :=
  if c.phase.isReady then .ok { c with queue := c.queue ++ [.send request recipient] }
  else .error .notConnected

/-- Queues the end of the conversation, unless it is over. -/
def shutdown (c : Channel κ) : Channel κ :=
  if c.isLive then { c with queue := c.queue ++ [.shutdown] } else c

/-- From now on no one is told what happens. -/
def unwatch (c : Channel κ) : Channel κ := { c with watched := false }

/-- A channel in words, with the number of its pending requests. -/
def describe (pending : Nat) (c : Channel κ) : String :=
  s!"Channel \x7b state: {c.phase.label}, pending: {pending} \x7d"

end Channel

end Tether
