import Tether.Gateway.Basic

/-!
# The subject of a scenario

A scenario is about a gateway, or about one channel on a line of its own.

* `Line`: a channel that is opened once, with its pending requests and someone who
  watches it;
* `Subject`: a gateway or a line, and whether anyone holds it.
-/

namespace Tether.Scenario

/-- The number of a request. -/
abbrev Ticket := Nat

/-- A channel on a line of its own. -/
structure Line where
  config : Channel.Config
  /-- The channel, once it has been opened. -/
  channel : Option (Channel Ticket)
  pending : Pending.Table Ticket
  /-- Whether someone watches. -/
  watched : Bool

namespace Line

/-- A line whose channel has not been opened. -/
def start (config : Channel.Config) : Line := ⟨config, none, .empty, true⟩

/-- Opens the channel, once. -/
def launch (l : Line) : Line :=
  if l.channel.isSome || !l.watched then l else { l with channel := some .start }

/-- No one watches any more. -/
def unwatch (l : Line) : Line :=
  { l with watched := false, channel := l.channel.map Channel.unwatch }

/-- Ends the conversation. -/
def shutdown (l : Line) : Line := { l with channel := l.channel.map Channel.shutdown }

/-- An input reaches the channel. -/
def receive (input : Channel.Input) (l : Line) : Line × Channel.Effects Ticket :=
  match l.channel with
  | none => (l, {})
  | some c =>
    let o := c.receive l.config l.pending input
    ({ l with channel := some o.channel, pending := o.pending }, o.toEffects)

end Line

/-- What a scenario is about. -/
inductive Subject
  | gateway (g : Gateway Ticket)
  | line (l : Line)

namespace Subject

/-- The configuration of the sockets. -/
def config : Subject → Channel.Config
  | gateway g => g.config.channel
  | line l => l.config

/-- The current channel. -/
def current? : Subject → Option (Channel Ticket)
  | gateway g => g.current?
  | line l => l.channel

/-- The phase of the current channel. -/
def phase (s : Subject) : Channel.Phase := (s.current?.map Channel.phase).getD .closed

/-- The pending requests. -/
def pending : Subject → Pending.Table Ticket
  | gateway g => g.pending
  | line l => l.pending

/-- An input reaches the current channel. -/
def receive (input : Channel.Input) : Subject → Subject × Channel.Effects Ticket
  | gateway g =>
    let (g, fx) := g.receive 0 input
    (gateway g, fx)
  | line l =>
    let (l, fx) := l.receive input
    (line l, fx)

/-- Queues a request on the current channel. -/
def send (r : Request) (ticket : Ticket) : Subject → Except Failure Subject
  | gateway g => (g.send r ticket).map gateway
  | line l =>
    match l.channel with
    | none => .error .notConnected
    | some c => (c.send r ticket).map fun c => line { l with channel := some c }

/-- A notice has been passed on. -/
def settle (n : Channel.Notice) : Subject → Subject
  | gateway g => gateway (g.settle n)
  | line l => line l

/-- What `settle` tells the log. -/
def settleLog (n : Channel.Notice) : Subject → List Log.Entry
  | gateway g => g.settleLog n
  | line _ => []

/-- No one holds the gateway or the channel any more. -/
def abandon : Subject → Subject
  | gateway g => gateway g.abandon
  | line l => line l.shutdown

/-- The subject in words. -/
def describe : Subject → String
  | gateway g => g.describe
  | line l => (l.channel.map (Channel.describe l.pending.size)).getD ""

end Subject

end Tether.Scenario
