import Tether.Channel.Receive
import Tether.Proofs.Pending.Table

/-!
# The steps of a channel

`Channel.Step` says in one place all that an input can do to a channel, and what the
channel does in answer, apart from the log. `Channel.step_receive` is the only proof
that looks into `Channel.receive`; everything that is claimed of channels goes by the
cases of a step.

* `Effects.registered`, `Effects.written`, `Effects.deliveries`, `Effects.notices`: what is done of
  each kind, in order.
* `Step.registered_eq`: what becomes pending by a step is what the table then holds in addition.
* The conversation ends by an input that `Channel.Ends` lists, by a command, by a
  rejected handshake, or because no one watches; the channel then only waits to be
  closed.
* An input that is not among the cases leaves the channel and its requests as they are.
-/

namespace Tether

namespace Channel

variable {κ : Type} {config : Config} {t : Pending.Table κ} {c : Channel κ}

/-! ## What is done -/

namespace Effect

/-- The request that becomes pending, as an entry of the table. -/
def registered? : Effect κ → Option (RequestId × κ)
  | registered id recipient => some (id, recipient)
  | _ => none

/-- The request that is written. -/
def written? : Effect κ → Option Request
  | written request => some request
  | _ => none

/-- The outcome that is delivered. -/
def delivered? : Effect κ → Option (Pending.Delivery κ)
  | delivered d => some d
  | _ => none

end Effect

namespace Effects

variable (fx : Effects κ)

/-- The requests that become pending. -/
def registered : List (RequestId × κ) := fx.done.filterMap Effect.registered?

/-- The requests that are written. -/
def written : List Request := fx.done.filterMap Effect.written?

/-- The outcomes that are delivered. -/
def deliveries : List (Pending.Delivery κ) := fx.done.filterMap Effect.delivered?

/-- All that whoever watches is told. -/
def notices : List Notice := fx.done.filterMap Effect.notice?

theorem mem_notices_iff {fx : Effects κ} {n : Notice} : n ∈ fx.notices ↔ .noticed n ∈ fx.done := by
  rw [notices, List.mem_filterMap]
  refine ⟨?_, fun h => ⟨_, h, rfl⟩⟩
  rintro ⟨e, he, hn⟩
  cases e <;> cases hn
  exact he

@[simp]
theorem notice_nil {log : List Log.Entry} : ({ log } : Effects κ).notice = none := rfl

end Effects

section closing

variable {closes : Bool} {deliveries : List (Pending.Delivery κ)} {notice : Option Notice}

theorem filterMap_closing {α : Type} {f : Effect κ → Option α} (hf : f .hungUp = none) :
    (closing closes deliveries notice).filterMap f =
      deliveries.filterMap (fun d => f (.delivered d)) ++
        notice.toList.filterMap fun n => f (.noticed n) := by
  cases closes <;> simp [closing, hf, List.filterMap_map]

@[simp]
theorem registered?_closing :
    (closing closes deliveries notice).filterMap Effect.registered? = [] := by
  rw [filterMap_closing rfl]
  simp [Effect.registered?]

@[simp]
theorem written?_closing : (closing closes deliveries notice).filterMap Effect.written? = [] := by
  rw [filterMap_closing rfl]
  simp [Effect.written?]

@[simp]
theorem delivered?_closing :
    (closing closes deliveries notice).filterMap Effect.delivered? = deliveries := by
  rw [filterMap_closing rfl]
  simp [Effect.delivered?]

@[simp]
theorem notice?_closing :
    (closing closes deliveries notice).filterMap Effect.notice? = notice.toList := by
  rw [filterMap_closing rfl]
  simp [Effect.notice?]

end closing

/-! ## The step -/

/-- The inputs that end the conversation at some stage, and whether the socket is then
    closed from this side. -/
inductive Ends : Stage → Input → Bool → Prop
  | refused : Ends .dialing .refused false
  | dialTimeout : Ends .dialing .dialTimeout false
  | greetFailed : Ends .greeting .greetFailed true
  | closedByPeer {awaited : Option RequestId} : Ends (.serving awaited) .closedByPeer false
  | broken {awaited : Option RequestId} : Ends (.serving awaited) .broken false
  | ended {awaited : Option RequestId} : Ends (.serving awaited) .ended false
  | deadline {id : RequestId} : Ends (.serving (some id)) .deadline true

/-- The frame that a channel reads with an input. -/
def frame? (c : Channel κ) (input : Input) : Option Frame :=
  match c.stage, input with
  | .serving _, .text text => (Frame.decode text).toOption
  | _, _ => none

/-- The id with which a channel writes the handshake. -/
def greeting? (c : Channel κ) (input : Input) : Option RequestId :=
  match c.stage, input with
  | .greeting, .greeted id => some id
  | _, _ => none

/-- What an input does to a channel with its pending requests. -/
inductive Step (config : Config) (t : Pending.Table κ) (c : Channel κ) : Input → Outcome κ → Prop
  | unmoved {input : Input} {log : List Log.Entry} (hframe : c.frame? input = none)
      (hgreeting : c.greeting? input = none)
      (hfinish : ∀ reached closes, c.stage = .leaving reached closes → input ≠ .finish) :
      Step config t c input { channel := c, pending := t, log }
  | begun {log : List Log.Entry} (hstage : c.stage = .waiting) :
      Step config t c .begin { channel := { c with stage := .dialing }, pending := t, log }
  | dialed {log : List Log.Entry} (hstage : c.stage = .dialing) :
      Step config t c .dialed { channel := { c with stage := .greeting }, pending := t, log }
  | greeted {id : RequestId} {log : List Log.Entry} (hstage : c.stage = .greeting) :
      Step config t c (.greeted id)
        { channel := { c with stage := .serving (some id) }, pending := t
          done := [.written (connectRequest config id)], log }
  | left {input : Input} {closes : Bool} {log : List Log.Entry}
      (hends : Ends c.stage input closes) :
      Step config t c input { channel := c.leave closes, pending := t, log }
  | shut {queue : List (Command κ)} {closes written : Bool} {log : List Log.Entry}
      (hstage : c.stage = .dialing ∨ ∃ awaited, c.stage = .serving awaited)
      (hqueue : c.queue = .shutdown :: queue) :
      Step config t c (.command written)
        { channel := { c with queue }.leave closes, pending := t, log }
  | declined {request : Request} {recipient : κ} {queue : List (Command κ)} {written : Bool}
      {log : List Log.Entry} (hstage : c.stage = .dialing)
      (hqueue : c.queue = .send request recipient :: queue) :
      Step config t c (.command written)
        { channel := { c with queue }, pending := t
          done := [.delivered ⟨recipient, .error .notConnected⟩], log }
  | clashed {request : Request} {recipient : κ} {queue : List (Command κ)} {written : Bool}
      {awaited : Option RequestId} {log : List Log.Entry} (hstage : c.stage = .serving awaited)
      (hqueue : c.queue = .send request recipient :: queue)
      (hpending : t.contains request.id = true) :
      Step config t c (.command written)
        { channel := { c with queue }, pending := t
          done := [.delivered ⟨recipient, .error .disconnected⟩], log }
  | sent {request : Request} {recipient : κ} {queue : List (Command κ)}
      {awaited : Option RequestId} {t' : Pending.Table κ} {log : List Log.Entry}
      (hstage : c.stage = .serving awaited) (hqueue : c.queue = .send request recipient :: queue)
      (hregister : t.register request.id recipient = .ok t') :
      Step config t c (.command true)
        { channel := { c with queue }, pending := t'
          done := [.registered request.id recipient, .written request], log }
  | stuck {request : Request} {recipient : κ} {queue : List (Command κ)}
      {awaited : Option RequestId} {t' : Pending.Table κ} {log : List Log.Entry}
      (hstage : c.stage = .serving awaited) (hqueue : c.queue = .send request recipient :: queue)
      (hregister : t.register request.id recipient = .ok t') :
      Step config t c (.command false)
        { channel := { c with queue }.leave true, pending := t'
          done := [.registered request.id recipient], log }
  | accepted {r : Response} {text : String} {hello : Hello} {log : List Log.Entry}
      (hstage : c.stage = .serving (some r.id)) (hdecode : Frame.decode text = .ok (.response r))
      (hwatched : c.watched = true) (hhello : Hello.ofResponse r = .ok hello) :
      Step config t c (.text text)
        { channel := { c with stage := .serving none }, pending := t
          done := [.noticed (.connected hello)], log }
  | rejected {r : Response} {text : String} {e : Rejection} {log : List Log.Entry}
      (hstage : c.stage = .serving (some r.id)) (hdecode : Frame.decode text = .ok (.response r))
      (hwatched : c.watched = true) (hhello : Hello.ofResponse r = .error e) :
      Step config t c (.text text)
        { channel := c.leave true, pending := t, done := [.noticed (.handshakeFailed r)], log }
  | answered {r : Response} {text : String} {awaited : Option RequestId} {recipient : κ}
      {log : List Log.Entry} (hstage : c.stage = .serving awaited)
      (hdecode : Frame.decode text = .ok (.response r)) (hawaited : awaited ≠ some r.id)
      (hpending : t.get? r.id = some recipient) :
      Step config t c (.text text)
        { channel := c, pending := t.erase r.id, done := [.delivered ⟨recipient, .ok r⟩], log }
  | unmatched {r : Response} {text : String} {awaited : Option RequestId}
      {log : List Log.Entry} (hstage : c.stage = .serving awaited)
      (hdecode : Frame.decode text = .ok (.response r)) (hawaited : awaited ≠ some r.id)
      (hpending : t.get? r.id = none) :
      Step config t c (.text text) { channel := c, pending := t, log }
  | passed {f : Frame} {text : String} {awaited : Option RequestId} {log : List Log.Entry}
      (hstage : c.stage = .serving awaited) (hdecode : Frame.decode text = .ok f)
      (hresponse : ∀ r, f ≠ .response r) (hwatched : c.watched = true) :
      Step config t c (.text text)
        { channel := c, pending := t, done := [.noticed (.frame f)], log }
  | unheard {f : Frame} {text : String} {awaited : Option RequestId} {log : List Log.Entry}
      (hstage : c.stage = .serving awaited) (hdecode : Frame.decode text = .ok f)
      (hresponse : ∀ r, f = .response r → awaited = some r.id) (hwatched : c.watched = false) :
      Step config t c (.text text) { channel := c.leave true, pending := t, log }
  | finished {reached : Phase} {closes : Bool} {log : List Log.Entry}
      (hstage : c.stage = .leaving reached closes) :
      Step config t c .finish
        { channel := { c with stage := .closed (reached = .opened), queue := [] }
          pending := .empty
          done := closing closes
            (c.queue.filterMap Command.dropped? ++
              t.entries.map fun e => ⟨e.2, .error .disconnected⟩)
            (if c.watched then some (.closed (reached = .opened)) else none)
          log }

/-- What becomes pending by a step is what the table then holds in addition. -/
theorem Step.registered_eq {input : Input} {o : Outcome κ} (h : Step config t c input o) :
    o.registered = o.pending.entries.filter fun e => !t.contains e.1 := by
  have hold (entries : List (RequestId × κ)) (hentries : ∀ e ∈ entries, e ∈ t.entries) :
      entries.filter (fun e => !t.contains e.1) = [] :=
    List.filter_eq_nil_iff.2 fun e he => by
      have := Pending.Table.contains_eq_true_iff.2 (List.mem_map_of_mem (hentries e he))
      simp [this]
  have hnew {id : RequestId} {recipient : κ} {t' : Pending.Table κ}
      (hregister : t.register id recipient = .ok t') :
      [(id, recipient)] = t'.entries.filter fun e => !t.contains e.1 := by
    obtain ⟨hid, hentries⟩ := Pending.Table.entries_of_register hregister
    rw [hentries, List.filter_append, hold _ fun _ he => he]
    simp [hid]
  cases h with
  | sent _ _ hregister | stuck _ _ hregister => exact hnew hregister
  | answered => exact (hold _ fun _ => List.mem_of_mem_filter).symm
  | finished => rw [Effects.registered, registered?_closing]; rfl
  | _ => exact (hold _ fun _ => id).symm

/-- A step tells one thing at most. -/
theorem Step.notices_eq {input : Input} {o : Outcome κ} (h : Step config t c input o) :
    o.notices = o.notice.toList := by
  rw [Effects.notice, ← List.head?_filterMap]
  show o.notices = o.notices.head?.toList
  cases h with
  | finished =>
    rw [Effects.notices, notice?_closing]
    split <;> rfl
  | _ => rfl

theorem shutdown_cases (c : Channel κ) :
    c.shutdown = c ∨ c.shutdown = { c with queue := c.queue ++ [.shutdown] } := by
  rw [shutdown]
  split
  · exact .inr rfl
  · exact .inl rfl

/-! ## Every input is a step -/

theorem frame?_text {awaited : Option RequestId} {text : String}
    (h : c.stage = .serving awaited) : c.frame? (.text text) = (Frame.decode text).toOption := by
  simp only [frame?, h]

theorem frame?_eq_none {input : Input}
    (h : ∀ awaited text, c.stage = .serving awaited → input ≠ .text text) :
    c.frame? input = none := by
  rw [frame?]
  exact h

theorem greeting?_eq_none {input : Input} (h : ∀ id, c.stage = .greeting → input ≠ .greeted id) :
    c.greeting? input = none := by
  rw [greeting?]
  exact h

theorem Ends.frame?_eq_none {input : Input} {closes : Bool} (h : Ends c.stage input closes) :
    c.frame? input = none :=
  Channel.frame?_eq_none fun _ _ hstage ht => by rw [hstage, ht] at h; cases h

theorem Ends.greeting?_eq_none {input : Input} {closes : Bool} (h : Ends c.stage input closes) :
    c.greeting? input = none :=
  Channel.greeting?_eq_none fun _ hstage ht => by rw [hstage, ht] at h; cases h

theorem step_command_of_queue_eq_nil {written : Bool} {log : List Log.Entry} :
    Step config t c (.command written) { channel := c, pending := t, log } :=
  .unmoved (frame?_eq_none (by simp)) (greeting?_eq_none (by simp)) (by simp)

theorem step_takeDialing {written : Bool} (h : c.stage = .dialing) :
    Step config t c (.command written) (c.takeDialing t) := by
  rw [takeDialing]
  split
  · exact step_command_of_queue_eq_nil
  · exact .declined h ‹_›
  · exact .shut (.inl h) ‹_›

theorem step_takeServing {written : Bool} {awaited : Option RequestId}
    (h : c.stage = .serving awaited) :
    Step config t c (.command written) (c.takeServing written t) := by
  rw [takeServing]
  split
  · exact step_command_of_queue_eq_nil
  · split
    · exact .clashed h ‹_› (Pending.Table.contains_of_register_error ‹_›)
    · cases written
      · exact .stuck h ‹_› ‹_›
      · exact .sent h ‹_› ‹_›
  · exact .shut (.inr ⟨awaited, h⟩) ‹_›

theorem step_hearHandshake {r : Response} {text : String}
    (h : c.stage = .serving (some r.id)) (hdecode : Frame.decode text = .ok (.response r)) :
    Step config t c (.text text) (c.hearHandshake r t) := by
  rw [hearHandshake]
  split
  · rename_i hwatched
    split
    · rename_i hello kept hinterpret
      exact .accepted h hdecode hwatched (by rw [Hello.ofResponse, hinterpret]; rfl)
    · rename_i rejection hinterpret
      exact .rejected h hdecode hwatched (by rw [Hello.ofResponse, hinterpret]; rfl)
  · rename_i hwatched
    refine .unheard h hdecode ?_ (by simpa using hwatched)
    rintro _ ⟨⟩
    rfl

theorem step_hear {text : String} {awaited : Option RequestId} (h : c.stage = .serving awaited) :
    Step config t c (.text text) (c.hear awaited text t) := by
  rw [hear]
  split
  · rename_i hdecode
    refine .unmoved ?_ (greeting?_eq_none (by simp)) (by simp)
    rw [frame?_text h, hdecode]
    rfl
  · rename_i r hdecode
    split
    · rename_i hawaited
      exact step_hearHandshake (h.trans (by rw [hawaited])) hdecode
    · rename_i hawaited
      simp only [hearResponse, Pending.Table.resolve]
      cases hget : t.get? r.id with
      | none => exact .unmatched h hdecode hawaited hget
      | some recipient => exact .answered h hdecode hawaited hget
  · rename_i f hresponse hdecode
    rw [hearFrame]
    split
    · rename_i hwatched
      exact .passed h hdecode (fun r hr => hresponse r hr) hwatched
    · rename_i hwatched
      exact .unheard h hdecode (fun r hr => absurd hr (hresponse r)) (by simpa using hwatched)

/-- What `receive` does is a step. -/
theorem step_receive (config : Config) (t : Pending.Table κ) (c : Channel κ) (input : Input) :
    Step config t c input (c.receive config t input) := by
  unfold receive
  split
  case h_1 h => exact .begun h
  case h_2 h => exact .dialed h
  case h_3 h => exact .left (h ▸ .refused)
  case h_4 h => exact .left (h ▸ .dialTimeout)
  case h_5 h => exact step_takeDialing h
  case h_6 h => exact .greeted h
  case h_7 h => exact .left (h ▸ .greetFailed)
  case h_8 h => exact step_hear h
  case h_9 h => exact .left (h ▸ .closedByPeer)
  case h_10 h => exact .left (h ▸ .broken)
  case h_11 h => exact .left (h ▸ .ended)
  case h_12 h => exact step_takeServing h
  case h_13 h => exact .left (h ▸ .deadline)
  case h_14 h => exact .finished h
  case h_15 =>
    -- Neither a text on the open socket nor the end of a conversation is left over.
    rename_i hgreeted _ htext _ _ _ _ _ hfinish
    refine .unmoved (frame?_eq_none ?_) (greeting?_eq_none ?_) ?_
    · rintro awaited text hstage rfl
      exact htext awaited text hstage rfl
    · rintro id hstage rfl
      exact hgreeted id hstage rfl
    · rintro reached closes hstage rfl
      exact hfinish reached closes hstage rfl

end Channel

end Tether
