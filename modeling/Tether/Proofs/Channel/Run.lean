import Mathlib.Data.List.Induction
import Tether.ClientOptions
import Tether.Proofs.Channel.Step

/-!
# Runs of a channel

In a run, callers send requests and ask for the end, and the world acts by inputs,
in any order (`Channel.Move`). What happened is kept as a list of events:

* `Channel.Course`: a channel in the course of a run, with its pending requests and
  the events so far;
* `Channel.run`: the course after a list of moves;
* `Course.run_induction`: what holds at the start and is kept by every step holds in
  the course of every run.

Someone watches the channel during the whole run.
-/

namespace Tether.Channel

variable {κ : Type}

/-- A socket on this machine. -/
def Config.loopback : Config where
  url := ⟨['w', 's'], [], [], some (.ipv4 2130706433), some 18789, ['/', 'w', 's'], none, none⟩
  connectParams := (ClientOptions.standard ⟨"linux", "UTC", "0"⟩).connectParams
  connectTimeout := .ofMillis 30000
  handshakeTimeout := .ofMillis 10000

/-- A text that accepts the handshake with the id `1`. -/
def welcome : String :=
  "\x7b\"type\":\"res\",\"id\":\"1\",\"ok\":true," ++
    "\"payload\":\x7b\"type\":\"hello-ok\",\"protocol\":3\x7d\x7d"

/-- What may happen to a channel. -/
inductive Move (κ : Type)
  /-- A caller sends a request. -/
  | send (request : Request) (recipient : κ)
  /-- A caller asks for the end of the conversation. -/
  | shutdown
  /-- The world acts. -/
  | input (input : Input)

/-- What has happened. -/
inductive Event (κ : Type)
  /-- A request was queued. -/
  | accepted (request : Request) (recipient : κ)
  /-- The end of the conversation was asked for. -/
  | shut
  /-- The handshake was written with this id. -/
  | greeted (id : RequestId)
  /-- A frame was read. -/
  | heard (f : Frame)
  /-- The request with this id became pending. -/
  | registered (id : RequestId) (recipient : κ)
  /-- A request was written to the socket. -/
  | written (request : Request)
  /-- The outcome of a request was delivered. -/
  | delivered (d : Pending.Delivery κ)
  /-- The socket was closed from this side. -/
  | hungUp
  /-- Whoever watches was told. -/
  | noticed (n : Notice)

/-- An effect as an event. -/
def Effect.event : Effect κ → Event κ
  | registered id recipient => .registered id recipient
  | written request => .written request
  | delivered d => .delivered d
  | hungUp => .hungUp
  | noticed n => .noticed n

/-- A channel in the course of a run. -/
structure Course (κ : Type) where
  channel : Channel κ
  pending : Pending.Table κ
  /-- What has happened, in order. -/
  events : List (Event κ)

namespace Course

/-- The start of a run. -/
def start : Course κ := ⟨.start, .empty, []⟩

/-- What happens with an input: the handshake is written or a frame is read, and then the channel
    does what it does, in its order. -/
def happenings (x : Course κ) (input : Input) (o : Outcome κ) : List (Event κ) :=
  (x.channel.greeting? input).toList.map .greeted ++
    (x.channel.frame? input).toList.map .heard ++ o.done.map Effect.event

/-- The course with the outcome of an input. -/
def after (x : Course κ) (input : Input) (o : Outcome κ) : Course κ :=
  ⟨o.channel, o.pending, x.events ++ x.happenings input o⟩

/-- The course with a request in the queue. -/
def accept (x : Course κ) (request : Request) (recipient : κ) : Course κ where
  channel := { x.channel with queue := x.channel.queue ++ [.send request recipient] }
  pending := x.pending
  events := x.events ++ [.accepted request recipient]

/-- The course with the next move. -/
def step (config : Config) (x : Course κ) : Move κ → Course κ
  | .send request recipient =>
    match x.channel.send request recipient with
    | .ok channel => { x with channel, events := x.events ++ [.accepted request recipient] }
    | .error _ => x
  | .shutdown => { x with channel := x.channel.shutdown, events := x.events ++ [.shut] }
  | .input input => x.after input (x.channel.receive config x.pending input)

end Course

/-- The course after the moves. -/
def run (config : Config) (moves : List (Move κ)) : Course κ :=
  moves.foldl (Course.step config) .start

variable {config : Config}

theorem run_append (moves moves' : List (Move κ)) :
    run config (moves ++ moves') = moves'.foldl (Course.step config) (run config moves) :=
  List.foldl_append

@[simp]
theorem run_append_singleton (moves : List (Move κ)) (m : Move κ) :
    run config (moves ++ [m]) = (run config moves).step config m :=
  run_append moves [m]

/-! ## Steps -/

theorem send_of_isReady {request : Request} {recipient : κ} {c : Channel κ}
    (h : c.phase.isReady = true) :
    c.send request recipient = .ok { c with queue := c.queue ++ [.send request recipient] } :=
  if_pos h

theorem send_of_not_isReady {request : Request} {recipient : κ} {c : Channel κ}
    (h : c.phase.isReady = false) : c.send request recipient = .error .notConnected :=
  if_neg (by simp [h])

namespace Course

theorem step_send_of_isReady {x : Course κ} {request : Request} {recipient : κ}
    (h : x.channel.phase.isReady = true) :
    x.step config (.send request recipient) = x.accept request recipient := by
  rw [step, send_of_isReady h]
  rfl

/-- A request that cannot be sent leaves everything as it is. -/
theorem step_send_of_not_isReady {x : Course κ} {request : Request} {recipient : κ}
    (h : x.channel.phase.isReady = false) : x.step config (.send request recipient) = x := by
  rw [step, send_of_not_isReady h]

/-- What every part of a step keeps is kept by the step. -/
theorem step_induction {P : Course κ → Prop} {x : Course κ} (hx : P x)
    (accept : ∀ x request recipient, x.channel.phase.isReady = true → P x →
      P (x.accept request recipient))
    (shut : ∀ x, P x → P { x with channel := x.channel.shutdown, events := x.events ++ [.shut] })
    (after : ∀ x input o, Step config x.pending x.channel input o → P x → P (x.after input o))
    (m : Move κ) : P (x.step config m) := by
  cases m with
  | send request recipient =>
    cases hready : x.channel.phase.isReady with
    | true => rw [step_send_of_isReady hready]; exact accept _ _ _ hready hx
    | false => rw [step_send_of_not_isReady hready]; exact hx
  | shutdown => exact shut _ hx
  | input input => exact after _ _ _ (step_receive ..) hx

/-- What every step keeps holds in the course of every run from a course on. -/
theorem foldl_induction {P : Course κ → Prop} {x : Course κ} (start : P x)
    (accept : ∀ x request recipient, x.channel.phase.isReady = true → P x →
      P (x.accept request recipient))
    (shut : ∀ x, P x → P { x with channel := x.channel.shutdown, events := x.events ++ [.shut] })
    (after : ∀ x input o, Step config x.pending x.channel input o → P x → P (x.after input o))
    (moves : List (Move κ)) : P (moves.foldl (step config) x) := by
  induction moves generalizing x with
  | nil => exact start
  | cons m moves ih => exact ih (step_induction start accept shut after m)

/-- What every step keeps holds in the course of every run. -/
theorem run_induction {P : Course κ → Prop} (start : P .start)
    (accept : ∀ x request recipient, x.channel.phase.isReady = true → P x →
      P (x.accept request recipient))
    (shut : ∀ x, P x → P { x with channel := x.channel.shutdown, events := x.events ++ [.shut] })
    (after : ∀ x input o, Step config x.pending x.channel input o → P x → P (x.after input o))
    (moves : List (Move κ)) : P (run config moves) :=
  foldl_induction start accept shut after moves

end Course

/-! ## Without a watcher -/

/-- What may happen to a channel whose watcher may go. -/
inductive Act (κ : Type)
  | move (m : Move κ)
  /-- Whoever watches goes. -/
  | unwatch

/-- The course with the next act. -/
def Course.act (config : Config) (x : Course κ) : Act κ → Course κ
  | .move m => x.step config m
  | .unwatch => { x with channel := x.channel.unwatch }

/-- The course after the acts. -/
def perform (config : Config) (acts : List (Act κ)) : Course κ :=
  acts.foldl (Course.act config) .start

theorem perform_append_singleton (acts : List (Act κ)) (a : Act κ) :
    perform config (acts ++ [a]) = (perform config acts).act config a :=
  List.foldl_append

end Tether.Channel
