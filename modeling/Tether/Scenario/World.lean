import Tether.Scenario.Label
import Tether.Scenario.Script
import Tether.Scenario.Subject

/-!
# The world of a script

A world is a subject with what is around it: a server that does what the script
says, a network that may be down, a clock that only moves in steps of its own, and a
client with handlers. Between two steps of a script everything runs until nothing
more can happen (`World.settle`). One thing happens at a time (`World.happen?`):

* a timer that is due fires before anything else;
* while a socket is being opened, the channel takes the commands in its queue before
  the attempt succeeds or fails;
* on an open socket, the channel hears what the server has sent before it takes a
  command.
-/

namespace Tether.Scenario

/-- Who waits for the answer to a request. -/
structure Waiter where
  ticket : Ticket
  /-- Whether the payload of the response is wanted alone. -/
  payloadOnly : Bool
  deriving DecidableEq, Repr

/-- A subject with what is around it. -/
structure World where
  subject : Subject
  /-- Whether anyone holds the subject. -/
  held : Bool
  /-- Whether sockets can be opened at all. -/
  online : Bool
  /-- The time of the clock, in milliseconds. -/
  now : Nat
  /-- When the time limit on the current channel is over. -/
  limit : Nat
  /-- When the timer for the next channel fires. -/
  retryDue : Nat
  /-- How the server treats the next attempts; the last mode stays. -/
  modes : List Mode
  /-- How the server treats the current attempt. -/
  mode : Mode
  /-- The number of sockets so far. -/
  sockets : Nat
  /-- Whether the newest socket is open at the server. -/
  socketUp : Bool
  /-- What the server has sent and the channel has not heard. -/
  inbox : List Message
  clientCloses : Nat
  handlers : List (Occasion × Handler)
  /-- The number of requests so far. -/
  requests : Nat
  waiters : List Waiter
  /-- What has been seen since the step began. -/
  events : List Happening
  received : List String
  resolved : List (Ticket × Answer)
  log : List Log.Entry

namespace World

/-- The world in which a script begins. -/
def start (subject : Subject) (online : Bool) (modes : List Mode)
    (handlers : List (Occasion × Handler)) : World where
  subject := subject
  held := true
  online := online
  now := 0
  limit := 0
  retryDue := 0
  modes := modes
  mode := .accept
  sockets := 0
  socketUp := false
  inbox := []
  clientCloses := 0
  handlers := handlers
  requests := 0
  waiters := []
  events := []
  received := []
  resolved := []
  log := []

/-! ## Notes -/

/-- Notes what a log is told. -/
def tell (log : List Log.Entry) (w : World) : World := { w with log := w.log ++ log }

/-- Notes an event. -/
def note (e : Happening) (w : World) : World := { w with events := w.events ++ [e] }

/-- Delivers the outcome of a request to whoever waits for it. -/
def deliver (w : World) (d : Pending.Delivery Ticket) : World :=
  match w.waiters.find? fun x => x.ticket = d.recipient with
  | none => w
  | some x =>
    let answer : Answer :=
      if x.payloadOnly then .payload (d.outcome.bind Response.result) else .response d.outcome
    { w with
      waiters := w.waiters.filter fun y => y.ticket ≠ d.recipient
      resolved := w.resolved ++ [(d.recipient, answer)] }

/-! ## Requests -/

/-- The request with a number. -/
def requestWith (n : Nat) (method : String) (params : Value) : Request :=
  ⟨(Label.request n).id, method, some params⟩

/-- Sends a request; it has a label only if it was queued. -/
def send (method : String) (params : Value) (w : World) : World × Reply :=
  let n := w.requests + 1
  match w.subject.send (requestWith n method params) n with
  | .error e => (w, .failed e)
  | .ok subject =>
    ({ w with subject, requests := n, waiters := w.waiters ++ [Waiter.mk n false] },
      .label (Label.request n).text)

/-- Makes a request of which the payload is wanted; it has a label also if it was not
    queued. -/
def request (method : String) (params : Value) (w : World) : World × Reply :=
  let n := w.requests + 1
  -- Whoever waits is there before the request is sent, to hear that it was not.
  let w' := { w with requests := n, waiters := w.waiters ++ [Waiter.mk n true] }
  let w' :=
    match w.subject.send (requestWith n method params) n with
    | .error e => w'.deliver ⟨n, .error e⟩
    | .ok subject => { w' with subject }
  (w', .label (Label.request n).text)

/-! ## Actions -/

/-- The time at which a timer fires that starts now. -/
def after (w : World) (d : Duration) : Nat := w.now + d.ceilMillis

/-- Takes an action on a gateway. -/
def actOnGateway (g : Gateway Ticket) (w : World) : Action → World × Reply
  | .launch => ({ w with subject := .gateway g.launch }.tell g.launchLog, .nothing)
  | .forceReconnect =>
    ({ w with subject := .gateway g.forceReconnect }.tell g.forceReconnectLog, .nothing)
  | .dispose => ({ w with subject := .gateway g.dispose }.tell g.disposeLog, .nothing)
  | .clearHandlers => ({ w with handlers := [] }, .nothing)
  | .state => (w, .state g.phase g.isOpen g.disposed)
  | .describe => (w, .text g.describe)
  | .send method params => w.send method params

/-- Takes an action on a line. -/
def actOnLine (l : Line) (w : World) : Action → World × Reply
  | .launch => ({ w with subject := .line l.launch }, .nothing)
  | a =>
    if l.channel.isNone then (w, .failed .notConnected)
    else
      match a with
      | .send method params => w.send method params
      | .describe => (w, .text w.subject.describe)
      | _ => (w, .nothing)

/-- Takes an action. -/
def act (a : Action) (w : World) : World × Reply :=
  match w.subject with
  | .gateway g => w.actOnGateway g a
  | .line l => w.actOnLine l a

/-- Takes the actions of a handler and notes each of them. -/
def actAll (w : World) (actions : List (String × Action)) : World :=
  actions.foldl (fun w a =>
    let (w, r) := w.act a.2
    w.note (.acted a.1 r)) w

/-- Replaces the handler for an occasion. -/
def handle (o : Occasion) (h : Handler) (w : World) : World :=
  { w with handlers := (o, h) :: w.handlers.filter fun e => e.1 ≠ o }

/-- Passes a notice on to its handler. -/
def passOn (n : Channel.Notice) (w : World) : World :=
  match w.handlers.lookup (.ofNotice n) with
  | none => w
  | some h =>
    let w := w.note (.notice n)
    match h.times with
    | 0 => w
    | times + 1 => (w.handle (.ofNotice n) { h with times }).actAll h.actions

/-- What follows a notice that has been passed on. -/
def heed (n : Channel.Notice) (w : World) : World :=
  -- Where no timer runs, one that starts now runs for the current delay.
  let retryDue :=
    match w.subject with
    | .gateway g => if g.scheduler.isScheduled then w.retryDue else w.after g.scheduler.current
    | .line _ => w.retryDue
  { w with subject := w.subject.settle n, retryDue }.tell (w.subject.settleLog n)

/-! ## What happens by itself -/

/-- Does what a channel does. Its pending requests are those of the subject. -/
def perform (w : World) : Channel.Effect Ticket → World
  | .registered _ _ => w
  | .written r => { w with received := w.received ++ [(Frame.request r).encode] }
  | .delivered d => w.deliver d
  | .hungUp =>
    if w.socketUp then { w with clientCloses := w.clientCloses + 1, socketUp := false } else w
  | .noticed n => (w.passOn n).heed n

/-- An input reaches the current channel. -/
def feed (input : Channel.Input) (w : World) : World :=
  let (subject, fx) := w.subject.receive input
  fx.done.foldl perform ({ w with subject }.tell fx.log)

/-- The attempt to open a socket begins. -/
def dial (w : World) : World :=
  { w with
    limit := w.after w.subject.config.connectTimeout
    mode := if w.online then w.modes.headD .accept else .refuse
    modes := if 2 ≤ w.modes.length then w.modes.tail else w.modes
    inbox := [] }.feed .begin

/-- What happens next on a channel of this stage, if anything can. -/
def happenOn? (c : Channel Ticket) (w : World) : Option World :=
  match c.stage with
  | .waiting => some w.dial
  | .dialing =>
    if !c.queue.isEmpty then some (w.feed (.command true))
    else if w.limit ≤ w.now then some (w.feed .dialTimeout)
    else
      match w.mode with
      | .accept => some ({ w with sockets := w.sockets + 1, socketUp := true }.feed .dialed)
      | .vanish => some (w.feed .dialed)
      | .refuse => some (w.feed .refused)
      | .hang => none
  | .greeting =>
    match w.mode with
    | .vanish => some (w.feed .greetFailed)
    | _ =>
      some <| { w with limit := w.after w.subject.config.handshakeTimeout }.feed
        (.greeted (Label.connect w.sockets).id)
  | .serving awaited =>
    match w.inbox with
    | m :: inbox => some ({ w with inbox }.feed m.input)
    | [] =>
      if !c.queue.isEmpty then some (w.feed (.command true))
      else if awaited.isSome && w.limit ≤ w.now then some (w.feed .deadline)
      else none
  | .leaving _ _ => some ({ w with inbox := [] }.feed .finish)
  | .closed _ => none

/-- Fires the timer for the next channel, if it is due and anyone holds the subject. -/
def fire? (w : World) : Option World :=
  match w.subject with
  | .line _ => none
  | .gateway g =>
    match g.scheduler.timer with
    | none => none
    | some t =>
      if w.held && w.retryDue ≤ w.now then
        some ({ w with subject := .gateway (g.expire t.generation) }.tell
          (g.expireLog t.generation))
      else none

/-- What happens next, if anything can. -/
def happen? (w : World) : Option World :=
  w.fire?.or (w.subject.current?.bind w.happenOn?)

/-- Lets things happen while anything can, at most `fuel` times. -/
def settleWith : Nat → World → World
  | 0, w => w
  | fuel + 1, w =>
    match w.happen? with
    | none => w
    | some w => settleWith fuel w

/-- The number of actions that handlers may take yet. -/
def actionsLeft (w : World) : Nat :=
  w.handlers.foldl (fun n e => n + e.2.times * e.2.actions.length) 0

/-- Lets things happen while anything can. Each message is heard once and each command
    is taken once; the current channel, a timer that is due and each action of a
    handler lead to one command or one further channel, with less than ten changes of
    its stage. -/
def settle (w : World) : World :=
  let commands := (w.subject.current?.map fun c => c.queue.length).getD 0
  settleWith (w.inbox.length + commands + 10 * (w.actionsLeft + 3)) w

end World

end Tether.Scenario
