import Tether.Gateway.Basic
import Tether.Proofs.Channel.Run

/-!
# Runs of a gateway

In a run, callers make calls, inputs reach the channels, and timers run down, in any
order (`Gateway.Move`). A notice goes to a handler, which may make calls itself, and
then settles. What happens on the channels is kept as a list of events, each with the
number of its channel; the first channel has the number zero.

* `Gateway.Course`: a gateway in the course of a run, with the events so far;
* `Gateway.run`: the course after a list of moves;
* `ofChannel`: the events of one channel;
* `connect_cases`, `settle_cases` and the like: all that a part of a step can do;
* `Course.run_induction`: what holds at the start and is kept by every step holds in the
  course of a run;
* `Course.step_induction`: what is kept by every part of a step is kept by the step.
-/

namespace Tether.Gateway

/-- A gateway on this machine. -/
def Config.loopback : Config where
  channel :=
    { url := ⟨['w', 's'], [], [], some (.ipv4 2130706433), some 18789, ['/', 'w', 's'], none, none⟩
      connectParams := (ClientOptions.standard ⟨"linux", "UTC", "0"⟩).connectParams
      connectTimeout := .ofMillis 30000
      handshakeTimeout := .ofMillis 10000 }
  backoff := .default

/-- The inputs of a channel whose handshake is accepted. -/
def accepting : List Channel.Input :=
  [.begin, .dialed, .greeted ⟨"1"⟩, .text Channel.welcome]

/-- What a caller may do. -/
inductive Call
  | launch
  | send (request : Request)
  | forceReconnect
  | dispose
  deriving DecidableEq

/-- What may happen to a gateway. -/
inductive Move
  | call (c : Call)
  /-- An input reaches the channel with the index. A notice that comes of it goes to a
      handler, which makes the calls. -/
  | input (i : Nat) (input : Channel.Input) (calls : List Call)
  /-- The timer of the generation runs down. -/
  | expire (generation : Nat)
  deriving DecidableEq

/-- A gateway in the course of a run. -/
structure Course where
  gateway : Gateway Nat
  /-- The number of requests that have been queued. It is the recipient of the next one. -/
  sent : Nat
  /-- What has happened, in order, with the numbers of the channels. -/
  events : List (Nat × Channel.Event Nat)

/-- The events of the channel with the number. -/
def ofChannel (k : Nat) (h : List (Nat × Channel.Event Nat)) : List (Channel.Event Nat) :=
  (h.filter fun e => e.1 = k).map Prod.snd

/-- The events as those of the channel with the number. -/
def onChannel (k : Nat) (h : List (Channel.Event Nat)) : List (Nat × Channel.Event Nat) :=
  h.map fun e => (k, e)

/-- What happens with an input to the channel with the index. -/
def happenings (g : Gateway Nat) (i : Nat) (input : Channel.Input) : List (Channel.Event Nat) :=
  match g.channels[i]? with
  | none => []
  | some c =>
    Channel.Course.happenings ⟨c, g.pending, []⟩ input
      (c.receive g.config.channel g.pending input)

namespace Course

/-- The start of a run. -/
def start (config : Config) : Course := ⟨.start config, 0, []⟩

/-- The course after a call. -/
def call (x : Course) : Call → Course
  | .launch => { x with gateway := x.gateway.launch }
  | .send request =>
    match x.gateway.send request x.sent with
    | .ok gateway =>
      { gateway
        sent := x.sent + 1
        events := x.events ++
          onChannel (x.gateway.channels.length - 1) [.accepted request x.sent] }
    | .error _ => x
  | .forceReconnect => { x with gateway := x.gateway.forceReconnect }
  | .dispose =>
    { x with
      gateway := x.gateway.dispose
      events := x.events ++
        if x.gateway.disposed || x.gateway.channels.isEmpty then []
        else onChannel (x.gateway.channels.length - 1) [.shut] }

/-- The course after an input to the channel with the index. -/
def receive (x : Course) (i : Nat) (input : Channel.Input) : Course :=
  { x with
    gateway := (x.gateway.receive i input).1
    events := x.events ++
      onChannel (x.gateway.channels.length - 1 - i) (x.gateway.happenings i input) }

/-- The course after the current channel was asked for the end of its conversation. -/
def shutdown (x : Course) : Course :=
  { x with
    gateway := x.gateway.shutdown
    events := x.events ++
      if x.gateway.channels.isEmpty then []
      else onChannel (x.gateway.channels.length - 1) [.shut] }

/-- The course after a notice has settled. -/
def settle (x : Course) (notice : Channel.Notice) : Course :=
  { x with gateway := x.gateway.settle notice }

/-- The course after a timer has run down. -/
def expire (x : Course) (generation : Nat) : Course :=
  { x with gateway := x.gateway.expire generation }

/-- The course with the next move. -/
def step (x : Course) : Move → Course
  | .call c => x.call c
  | .input i input calls =>
    match (x.gateway.receive i input).2.notice with
    | none => x.receive i input
    | some notice => (calls.foldl call (x.receive i input)).settle notice
  | .expire generation => x.expire generation

end Course

/-- The course after the moves. -/
def run (config : Config) (moves : List Move) : Course := moves.foldl Course.step (.start config)

theorem run_append_singleton (config : Config) (moves : List Move) (m : Move) :
    run config (moves ++ [m]) = (run config moves).step m :=
  List.foldl_append

/-! ## The events of a channel -/

section events

variable {k j : Nat}

@[simp]
theorem ofChannel_append (h h' : List (Nat × Channel.Event Nat)) :
    ofChannel k (h ++ h') = ofChannel k h ++ ofChannel k h' := by
  simp [ofChannel]

@[simp]
theorem ofChannel_onChannel (h : List (Channel.Event Nat)) : ofChannel k (onChannel k h) = h := by
  simp [ofChannel, onChannel, List.filter_map, Function.comp_def]

@[simp]
theorem map_snd_onChannel (h : List (Channel.Event Nat)) : (onChannel k h).map Prod.snd = h := by
  simp [onChannel, Function.comp_def]

theorem ofChannel_onChannel_of_ne (hne : j ≠ k) (h : List (Channel.Event Nat)) :
    ofChannel k (onChannel j h) = [] := by
  simp [ofChannel, onChannel, List.filter_map, Function.comp_def, hne]

theorem mem_ofChannel_iff {e : Channel.Event Nat} {h : List (Nat × Channel.Event Nat)} :
    e ∈ ofChannel k h ↔ (k, e) ∈ h := by
  simp [ofChannel]

theorem ofChannel_eq_nil {h : List (Nat × Channel.Event Nat)} (hk : ∀ e ∈ h, e.1 ≠ k) :
    ofChannel k h = [] := by
  simpa [ofChannel] using fun j e he => hk (j, e) he

theorem ofChannel_sublist (h : List (Nat × Channel.Event Nat)) :
    (ofChannel k h).Sublist (h.map Prod.snd) :=
  List.filter_sublist.map Prod.snd

end events

/-! ## Steps -/

theorem isLive_of_channels {κ : Type} {g : Gateway κ} {c : Channel κ} {past : List (Channel κ)}
    (h : g.channels = c :: past) : g.isLive = c.isLive := by
  rw [isLive, phase, current?, h]
  rfl

/-- A request is queued on the current channel, if that is ready, and else not at all. -/
theorem send_cases {κ : Type} (g : Gateway κ) (request : Request) (recipient : κ) :
    g.send request recipient = .error .notConnected ∨
      ∃ c past, g.channels = c :: past ∧ c.phase.isReady = true ∧
        g.send request recipient = .ok { g with
          channels := { c with queue := c.queue ++ [.send request recipient] } :: past } := by
  rw [send]
  cases hc : g.channels with
  | nil => exact .inl rfl
  | cons c past =>
    cases hready : c.phase.isReady with
    | false => exact .inl (by simp only [Channel.send_of_not_isReady hready]; rfl)
    | true => exact .inr ⟨c, past, rfl, hready, by simp only [Channel.send_of_isReady hready]; rfl⟩

/-- A new channel is opened, or there is a live one. -/
theorem openNext_cases {κ : Type} (g : Gateway κ) :
    g.isLive = true ∧ g.openNext = g ∨
      g.isLive = false ∧ g.openNext = { g with channels := .start :: g.channels } := by
  rw [openNext]
  cases g.isLive with
  | true => exact .inl ⟨rfl, rfl⟩
  | false => exact .inr ⟨rfl, rfl⟩

/-- A new channel is opened, or nothing happens. -/
theorem connect_cases {κ : Type} (g : Gateway κ) :
    (g.disposed = true ∨ g.isLive = true) ∧ g.connect = g ∨
      g.disposed = false ∧ g.isLive = false ∧
        g.connect = { g with channels := .start :: g.channels } := by
  rw [connect]
  split
  · exact .inl ⟨.inl ‹_›, rfl⟩
  · rename_i hdisposed
    rcases g.openNext_cases with ⟨hlive, hopen⟩ | ⟨hlive, hopen⟩
    · exact .inl ⟨.inr hlive, hopen⟩
    · exact .inr ⟨Bool.not_eq_true _ ▸ hdisposed, hlive, hopen⟩

theorem launched_connect {κ : Type} (g : Gateway κ) : g.connect.launched = g.launched := by
  rcases g.connect_cases with ⟨-, h⟩ | ⟨-, -, h⟩ <;> rw [h]

theorem connect_of_not_isLive {κ : Type} {g : Gateway κ} (hdisposed : g.disposed = false)
    (hlive : g.isLive = false) : g.connect = { g with channels := .start :: g.channels } := by
  rcases g.connect_cases with ⟨h, -⟩ | ⟨-, -, h⟩
  · simp [hdisposed, hlive] at h
  · exact h

/-- The first launch opens a channel. Another one does nothing. -/
theorem launch_cases {κ : Type} (g : Gateway κ) :
    (g.disposed = true ∨ g.launched = true) ∧ g.launch = g ∨
      g.disposed = false ∧ g.launched = false ∧
        g.launch = connect { g with launched := true } := by
  rw [launch]
  split
  · rename_i h
    exact .inl ⟨Bool.or_eq_true_iff.1 h, rfl⟩
  · rename_i h
    obtain ⟨hdisposed, hlaunched⟩ := Bool.or_eq_false_iff.1 (Bool.not_eq_true _ ▸ h)
    exact .inr ⟨hdisposed, hlaunched, rfl⟩

/-- A gateway that waits for its next channel opens it at once. -/
theorem forceReconnect_cases {κ : Type} (g : Gateway κ) :
    (g.launched = false ∨ g.disposed = true ∨ g.isLive = true) ∧ g.forceReconnect = g ∨
      g.launched = true ∧ g.disposed = false ∧ g.isLive = false ∧
        g.forceReconnect = connect { g with scheduler := g.scheduler.force } := by
  rw [forceReconnect]
  split
  · rename_i h
    simp only [Bool.or_eq_true, Bool.not_eq_true'] at h
    exact .inl ⟨or_assoc.1 h, rfl⟩
  · rename_i h
    simp only [Bool.or_eq_true, Bool.not_eq_true', not_or, Bool.not_eq_false,
      Bool.not_eq_true] at h
    exact .inr ⟨h.1.1, h.1.2, h.2, rfl⟩

/-- The running timer opens a channel. Another one does nothing. -/
theorem expire_eq_ite {κ : Type} (generation : Nat) (g : Gateway κ) :
    g.expire generation =
      if g.scheduler.timer.map Backoff.Timer.generation = some generation then
        connect { g with scheduler := { g.scheduler with
          timer := none, delay := (g.scheduler.delay.advance g.scheduler.config).2 } }
      else g := by
  rw [expire, Backoff.Scheduler.expire]
  rcases htimer : g.scheduler.timer with _ | t
  · rfl
  · by_cases h : t.generation = generation
    · simp only [Option.map_some, h, if_true]
    · simp only [Option.map_some, Option.some.injEq, h, if_false]

theorem expire_cases {κ : Type} (generation : Nat) (g : Gateway κ) :
    g.expire generation = g ∨
      ∃ t, g.scheduler.timer = some t ∧ t.generation = generation ∧
        g.expire generation = connect { g with scheduler := { g.scheduler with
          timer := none, delay := (g.scheduler.delay.advance g.scheduler.config).2 } } := by
  rw [expire_eq_ite]
  split
  · rename_i hgeneration
    obtain ⟨t, htimer, hgeneration⟩ := Option.map_eq_some_iff.1 hgeneration
    exact .inr ⟨t, htimer, hgeneration, rfl⟩
  · exact .inl rfl

/-- A timer that runs where no channel is live opens one when it fires. -/
theorem expire_of_timer {κ : Type} {g : Gateway κ} {t : Backoff.Timer Unit}
    (htimer : g.scheduler.timer = some t) (hdisposed : g.disposed = false)
    (hlive : g.isLive = false) :
    g.expire t.generation = { g with
      scheduler := { g.scheduler with
        timer := none, delay := (g.scheduler.delay.advance g.scheduler.config).2 }
      channels := .start :: g.channels } := by
  rw [expire_eq_ite, htimer, if_pos (Option.map_some ..)]
  exact connect_of_not_isLive hdisposed hlive

/-- A gateway without channels cannot be shut down. -/
theorem shutdown_of_nil {κ : Type} {g : Gateway κ} (h : g.channels = []) : g.shutdown = g := by
  rw [shutdown, h, List.modifyHead_nil, ← h]

/-- A gateway is disposed of once. -/
theorem dispose_cases {κ : Type} (g : Gateway κ) :
    g.disposed = true ∧ g.dispose = g ∨
      g.disposed = false ∧ g.dispose = { g with
        disposed := true
        scheduler := g.scheduler.cancel
        channels := g.channels.modifyHead Channel.shutdown } := by
  rw [dispose]
  cases hdisposed : g.disposed with
  | true => exact .inl ⟨rfl, rfl⟩
  | false => exact .inr ⟨rfl, rfl⟩

/-- As long as no one disposes of the gateway, the timer that is started stays. -/
theorem scheduleNext_of_not_disposed {κ : Type} {g : Gateway κ} (h : g.disposed = false) :
    g.scheduleNext = g.startTimer := by
  have h : g.startTimer.disposed = false := h
  rw [scheduleNext, h]
  rfl

/-- When the socket is gone, the next channel is scheduled, unless the gateway is disposed
    of. -/
theorem settle_cases {κ : Type} (notice : Channel.Notice) (g : Gateway κ) :
    (g.disposed = true ∨ ∀ wasOpen, notice ≠ .closed wasOpen) ∧ g.settle notice = g ∨
      ∃ wasOpen, notice = .closed wasOpen ∧ g.disposed = false ∧
        g.settle notice = { g with scheduler := (g.scheduler.schedule ()).1 } := by
  cases notice with
  | closed wasOpen =>
    by_cases hdisposed : g.disposed = true
    · exact .inl ⟨.inl hdisposed, if_pos hdisposed⟩
    · refine .inr ⟨wasOpen, rfl, Bool.not_eq_true _ ▸ hdisposed, (if_neg hdisposed).trans ?_⟩
      exact scheduleNext_of_not_disposed (Bool.not_eq_true _ ▸ hdisposed)
  | frame | connected | handshakeFailed => exact .inl ⟨.inr (by rintro wasOpen ⟨⟩), rfl⟩

/-- An input reaches the channel with the index. -/
theorem receive_of_getElem? {κ : Type} {g : Gateway κ} {i : Nat} {c : Channel κ}
    (hc : g.channels[i]? = some c) (input : Channel.Input) :
    g.receive i input =
      let o := c.receive g.config.channel g.pending input
      ({ g with
          scheduler := heed o.notice g.scheduler
          pending := o.pending
          channels := g.channels.set i o.channel }, o.toEffects) := by
  rw [receive, hc]

theorem happenings_of_getElem? {g : Gateway Nat} {i : Nat} {c : Channel Nat}
    (hc : g.channels[i]? = some c) (input : Channel.Input) (h : List (Channel.Event Nat)) :
    g.happenings i input = Channel.Course.happenings ⟨c, g.pending, h⟩ input
      (c.receive g.config.channel g.pending input) := by
  rw [happenings, hc]
  rfl

namespace Course

variable {x : Course} {request : Request}

/-- A request that cannot be sent leaves everything as it is. -/
theorem call_send_of_error {e : Failure} (h : x.gateway.send request x.sent = .error e) :
    x.call (.send request) = x := by
  simp only [call, h]

theorem call_send_of_ok {g : Gateway Nat} (h : x.gateway.send request x.sent = .ok g) :
    x.call (.send request) = ⟨g, x.sent + 1, x.events ++
      onChannel (x.gateway.channels.length - 1) [.accepted request x.sent]⟩ := by
  simp only [call, h]

theorem shutdown_of_nil (h : x.gateway.channels = []) : x.shutdown = x := by
  simp [shutdown, Gateway.shutdown_of_nil h, h]

theorem shutdown_of_cons {c : Channel Nat} {past : List (Channel Nat)}
    (h : x.gateway.channels = c :: past) :
    x.shutdown = { x with
      gateway := { x.gateway with channels := c.shutdown :: past }
      events := x.events ++ onChannel past.length [.shut] } := by
  simp [shutdown, Gateway.shutdown, h]

/-- The disposal marks the gateway, stops the timer and asks the current channel for the end
    of its conversation, in this order. -/
theorem call_dispose_of_not_disposed (h : x.gateway.disposed = false) :
    x.call .dispose =
      shutdown { x with gateway := stopTimer { x.gateway with disposed := true } } := by
  rw [call, dispose, h]
  rfl

theorem call_dispose_of_disposed (h : x.gateway.disposed = true) : x.call .dispose = x := by
  simp [call, dispose, h]

/-- Without calls by the handler, a notice settles at once. -/
theorem step_input_nil (i : Nat) (input : Channel.Input) :
    (x.step (.input i input [])).gateway =
      (x.gateway.receive i input).2.notice.elim (x.gateway.receive i input).1
        fun notice => (x.gateway.receive i input).1.settle notice := by
  simp only [step]
  cases (x.gateway.receive i input).2.notice <;> rfl

end Course

/-! ## Runs -/

variable {config : Config} {P : Course → Prop}

theorem foldl_call (call : ∀ x c, P x → P (x.call c)) {x : Course} (hx : P x) (calls : List Call) :
    P (calls.foldl Course.call x) := by
  induction calls generalizing x with
  | nil => exact hx
  | cons c calls ih => exact ih (call x c hx)

/-- What every step keeps holds in the course of a run. -/
theorem Course.run_induction {moves : List Move} (start : P (.start config))
    (step : ∀ x, ∀ m ∈ moves, P x → P (x.step m)) : P (run config moves) := by
  suffices ∀ x, P x → P (moves.foldl Course.step x) from this _ start
  induction moves with
  | nil => exact fun _ hx => hx
  | cons m moves ih =>
    intro x hx
    exact ih (fun x m hm => step x m (List.mem_cons_of_mem _ hm)) _
      (step x m List.mem_cons_self hx)

/-- What every part of a step keeps is kept by the step. -/
theorem Course.step_induction {x : Course} (hx : P x) (call : ∀ x c, P x → P (x.call c))
    (receive : ∀ x i input, P x → P (x.receive i input))
    (settle : ∀ x notice, P x → P (x.settle notice))
    (expire : ∀ x generation, P x → P (x.expire generation)) (m : Move) : P (x.step m) := by
  cases m with
  | call c => exact call _ c hx
  | input i input calls =>
    simp only [step]
    split
    · exact receive _ i input hx
    · exact settle _ _ (foldl_call call (receive _ i input hx) calls)
  | expire generation => exact expire _ generation hx

end Tether.Gateway
