import Tether.Scenario.World

/-!
# Playing a script

* `World.call`, `World.step`: a call and a step of a script;
* `World.report`: what was seen of a step;
* `Script.play`: the reports of a script, one for each step.

A script that gives up a response under a label that no request has is wrong as a
whole.
-/

namespace Tether.Scenario

/-- There is no request with this label. -/
structure UnknownLabel where
  label : String
  deriving DecidableEq, Repr

namespace World

/-- No one waits for the answer to the request with this label any more; whether anyone
    did. -/
def dropResponse (label : String) (w : World) : Except UnknownLabel (World × Reply) :=
  match (List.range w.requests).find? fun n => (Label.request (n + 1)).text = label with
  | none => .error ⟨label⟩
  | some n =>
    .ok ({ w with waiters := w.waiters.filter fun x => x.ticket ≠ n + 1 },
      .flag (w.waiters.any fun x => x.ticket = n + 1))

/-- Calls a line. -/
def callLine (l : Line) (w : World) : Call → World × Reply
  | .dropObserver => ({ w with subject := .line l.unwatch }, .nothing)
  | c =>
    match l.channel with
    | none => (w, .failed .notConnected)
    | some channel =>
      match c with
      | .shutdown => ({ w with subject := .line l.shutdown }, .nothing)
      | .isLive => (w, .live channel.isLive l.pending.size)
      | _ => (w, .nothing)

/-- Makes a call. -/
def call (c : Call) (w : World) : Except UnknownLabel (World × Reply) :=
  match c with
  | .dropResponse label => w.dropResponse label
  | .handle o h => .ok (w.handle o h, .nothing)
  | c =>
    if !w.held then .ok (w, .failed .notConnected)
    else
      match w.subject, c with
      | _, .act a => .ok (w.act a)
      | .gateway _, .request method params => .ok (w.request method params)
      | .gateway g, .drop => .ok ({ w with held := false, subject := .gateway g.abandon }, .nothing)
      | .line l, .drop =>
        if l.channel.isNone then .ok (w, .failed .notConnected)
        else .ok ({ w with held := false, subject := .line l.shutdown }, .nothing)
      | .line l, c => .ok (w.callLine l c)
      | .gateway _, _ => .ok (w, .nothing)

/-- Makes several calls. -/
def callAll (w : World) : List Call → Except UnknownLabel (World × List Reply)
  | [] => .ok (w, [])
  | c :: cs => do
    let (w, r) ← w.call c
    let (w, rs) ← w.callAll cs
    return (w, r :: rs)

/-- The text of the server with the ids in the places of the labels that have been
    given so far. -/
def fillMessage (w : World) : Message → Message
  | .text s =>
    let requests := (List.range w.requests).map fun n => Label.request (n + 1)
    let sockets := (List.range w.sockets).map fun n => Label.connect (n + 1)
    .text (Label.fill (requests ++ sockets) s)
  | m => m

/-- Takes a step. -/
def step (s : Step) (w : World) : Except UnknownLabel (World × StepReply) :=
  match s with
  | .call c => do
    let (w, r) ← w.call c
    return (w.settle, .one r)
  | .batch cs => do
    let (w, rs) ← w.callAll cs
    return (w.settle, .many rs)
  | .serve ms =>
    if w.socketUp then
      .ok ({ w with
        inbox := ms.map w.fillMessage
        socketUp := !ms.any Message.endsSocket }.settle, .served true)
    else .ok (w, .served false)
  | .setModes modes => .ok ({ w with modes }, .one .nothing)
  | .tick ms => .ok ({ w with now := w.now + ms }.settle, .one .nothing)

/-- Forgets what has been seen. -/
def unseen (w : World) : World :=
  { w with events := [], received := [], resolved := [], log := [] }

/-- What has been seen since the step began. -/
def report (reply : StepReply) (w : World) : Report where
  reply := reply
  events := w.events
  received := w.received
  resolved := (w.resolved.mergeSort fun a b => a.1 ≤ b.1).map fun e =>
    ((Label.request e.1).text, e.2)
  phase := if w.held then w.subject.phase else .closed
  sockets := w.sockets
  clientCloses := w.clientCloses
  pending :=
    match w.subject with
    | .gateway g => if w.held then some g.pending.size else none
    | .line l => if w.held && l.channel.isSome then some l.pending.size else none
  reconnect :=
    match w.subject with
    | .gateway g => if w.held then some (g.scheduler.current, g.scheduler.isScheduled) else none
    | .line _ => none
  log := w.log

/-- The reports of the steps from a world on. -/
def reports (w : World) : List Step → Except UnknownLabel (List Report)
  | [] => .ok []
  | s :: steps => do
    let (w, reply) ← w.unseen.step s
    let rest ← w.reports steps
    return w.report reply :: rest

end World

/-- A script. -/
structure Script where
  subject : Subject
  /-- Whether sockets can be opened at all. -/
  online : Bool
  modes : List Mode
  handlers : List (Occasion × Handler)
  steps : List Step

/-- Handlers that note what happens. -/
def Script.recorders : List (Occasion × Handler) :=
  [(.frame, {}), (.connected, {}), (.handshakeFailed, {}), (.disconnected, {})]

/-- The reports of a script. -/
def Script.play (s : Script) : Except UnknownLabel (List Report) :=
  (World.start s.subject s.online s.modes s.handlers).reports s.steps

end Tether.Scenario
