import Tether.Backoff.Scheduler
import Tether.Channel.Receive
import Tether.Gateway.Config

/-!
# Gateways

A gateway keeps a conversation going over a sequence of channels: when a channel
has closed, it schedules the next one, after a delay that grows from failure to
failure and starts over with every accepted handshake. The pending requests belong
to the gateway; a channel that closes leaves none.

* `Gateway.launch`, `Gateway.send`, `Gateway.forceReconnect`, `Gateway.dispose`:
  what callers do;
* `Gateway.connect`, `Gateway.scheduleNext`: the next channel, at once or later;
* `Gateway.receive`: what the world does to one of its channels;
* `Gateway.settle`: what follows a notice, after the one who watches the gateway
  has been told;
* `Gateway.expire`: the timer for the next channel has run down;
* `launchLog` and so on: what these tell the log.
-/

namespace Tether

/-- A conversation over a sequence of channels. -/
structure Gateway (κ : Type) where
  config : Gateway.Config
  scheduler : Backoff.Scheduler Unit
  pending : Pending.Table κ
  /-- All channels so far. The first one is the current one, the others came before. -/
  channels : List (Channel κ)
  launched : Bool
  disposed : Bool
  deriving DecidableEq

namespace Gateway

variable {κ : Type}

/-- A gateway that has not been launched. -/
def start (config : Config) : Gateway κ where
  config := config
  scheduler := .start config.backoff
  pending := .empty
  channels := []
  launched := false
  disposed := false

/-- The current channel. -/
def current? (g : Gateway κ) : Option (Channel κ) := g.channels.head?

/-- The phase of the current channel. -/
def phase (g : Gateway κ) : Channel.Phase := (g.current?.map Channel.phase).getD .closed

/-- Whether the current channel has not reached its last phase. -/
def isLive (g : Gateway κ) : Bool := g.phase ≠ .closed

/-- Whether the handshake has been accepted on the current channel. -/
def isOpen (g : Gateway κ) : Bool := g.phase = .opened

/-- A gateway in words. -/
def describe (g : Gateway κ) : String :=
  s!"Gateway \x7b url: {Text.quoted g.config.channel.url.write}, state: {g.phase.label}, " ++
    s!"pending: {g.pending.size}, backoff: {g.scheduler.describe} \x7d"

/-! ## Connecting -/

/-- Opens a new channel, unless there is a live one. -/
def openNext (g : Gateway κ) : Gateway κ :=
  if g.isLive then g else { g with channels := .start :: g.channels }

/-- Opens a new channel, unless there is a live one or the gateway is disposed. Others may
    dispose of the gateway between the two. -/
def connect (g : Gateway κ) : Gateway κ := if g.disposed then g else g.openNext

/-- What `connect` tells the log. -/
def connectLog (g : Gateway κ) : List Log.Entry :=
  if !g.disposed && g.isLive then [.trace "Channel already live, skipping connect" []] else []

/-- Opens the first channel. Only the first launch does, and none after the disposal. -/
def launch (g : Gateway κ) : Gateway κ :=
  if g.disposed || g.launched then g else { g with launched := true }.connect

/-- What `launch` tells the log. -/
def launchLog (g : Gateway κ) : List Log.Entry :=
  if g.disposed then [.debug "Ignoring open on disposed gateway" []]
  else if g.launched then [.trace "Gateway already opened" []]
  else g.connectLog

/-- Opens a new channel at once, if the gateway is waiting for the next one. -/
def forceReconnect (g : Gateway κ) : Gateway κ :=
  if !g.launched || g.disposed || g.isLive then g
  else { g with scheduler := g.scheduler.force }.connect

/-- What `forceReconnect` tells the log. -/
def forceReconnectLog (g : Gateway κ) : List Log.Entry :=
  if !g.launched || g.disposed then []
  else if g.isLive then [.trace "Channel live, ignoring forced reconnect" []]
  else g.scheduler.forceLog

/-! ## The timer -/

/-- Starts the timer for the next channel. -/
def startTimer (g : Gateway κ) : Gateway κ :=
  { g with scheduler := (g.scheduler.schedule ()).1 }

/-- Stops the timer for the next channel. -/
def stopTimer (g : Gateway κ) : Gateway κ := { g with scheduler := g.scheduler.cancel }

/-- Schedules the next channel. Others may have disposed of the gateway before there was a
    timer that they could stop, so it is stopped here. -/
def scheduleNext (g : Gateway κ) : Gateway κ :=
  let g := g.startTimer
  if g.disposed then g.stopTimer else g

/-- What `scheduleNext` tells the log. -/
def scheduleNextLog (g : Gateway κ) : List Log.Entry :=
  g.scheduler.scheduleLog ++ if g.disposed then g.startTimer.scheduler.cancelLog else []

/-! ## Requests and the end -/

/-- Queues a request on the current channel, if requests can be sent. -/
def send (request : Request) (recipient : κ) (g : Gateway κ) : Except Failure (Gateway κ) :=
  match g.channels with
  | [] => .error .notConnected
  | c :: past => (c.send request recipient).map fun c => { g with channels := c :: past }

/-- Asks the current channel for the end of its conversation. -/
def shutdown (g : Gateway κ) : Gateway κ :=
  { g with channels := g.channels.modifyHead Channel.shutdown }

/-- Ends the conversation for good. -/
def dispose (g : Gateway κ) : Gateway κ :=
  if g.disposed then g else { g with disposed := true }.stopTimer.shutdown

/-- What `dispose` tells the log. -/
def disposeLog (g : Gateway κ) : List Log.Entry :=
  if g.disposed then [] else g.scheduler.cancelLog ++ [.debug "Gateway disposed" []]

/-- No one holds the gateway any more: the current channel ends, and no one is told. -/
def abandon (g : Gateway κ) : Gateway κ :=
  { g with channels := g.channels.modifyHead fun c => c.unwatch.shutdown }

/-! ## What happens to a gateway -/

/-- The scheduler after a notice: an accepted handshake makes the delays start over. -/
def heed (notice : Option Channel.Notice) (s : Backoff.Scheduler Unit) : Backoff.Scheduler Unit :=
  match notice with
  | some (.connected _) => s.reset
  | _ => s

/-- An input reaches a channel; the current one has the index zero. -/
def receive (i : Nat) (input : Channel.Input) (g : Gateway κ) : Gateway κ × Channel.Effects κ :=
  match g.channels[i]? with
  | none => (g, {})
  | some c =>
    let o := c.receive g.config.channel g.pending input
    ({ g with
        scheduler := heed o.notice g.scheduler
        pending := o.pending
        channels := g.channels.set i o.channel }, o.toEffects)

/-- A notice has been passed on: if the socket is gone, the next channel is scheduled. -/
def settle (notice : Channel.Notice) (g : Gateway κ) : Gateway κ :=
  match notice with
  | .closed _ => if g.disposed then g else g.scheduleNext
  | _ => g

/-- What `settle` tells the log. -/
def settleLog (notice : Channel.Notice) (g : Gateway κ) : List Log.Entry :=
  match notice with
  | .closed _ => if g.disposed then [] else g.scheduleNextLog
  | _ => []

/-- The timer of the generation has run down: the next channel is opened. -/
def expire (generation : Nat) (g : Gateway κ) : Gateway κ :=
  match g.scheduler.expire generation with
  | (scheduler, some ()) => { g with scheduler }.connect
  | (scheduler, none) => { g with scheduler }

/-- What `expire` tells the log. -/
def expireLog (generation : Nat) (g : Gateway κ) : List Log.Entry :=
  match g.scheduler.expire generation with
  | (_, some ()) => g.connectLog
  | (_, none) => []

end Gateway

end Tether
