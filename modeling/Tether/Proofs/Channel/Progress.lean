import Tether.Proofs.Channel.Push

/-!
# How a channel gets on

What is said of all runs would hold of a channel that never does anything. Here it is shown to get
on: from stage to stage, to the acceptance of the handshake, and from any point to its end.

* `Course.foldl_greeting`: a channel that begins comes to wait for the response to its handshake;
* `Course.step_accepting`: the response opens it;
* `Course.step_open_text`: while it is open, each text is passed on or is no reason to stop;
* `Course.foldl_farewell`: when the peer closes the socket, the last notice follows;
* `Course.foldl_conversation`: what is told of a whole conversation;
* `Course.exists_closed`: every channel can come to its end.
-/

namespace Tether.Channel

variable {κ : Type} (config : Config)

/-- The inputs by which the handshake is written. -/
def greeting (id : RequestId) : List (Move κ) :=
  [.input .begin, .input .dialed, .input (.greeted id)]

/-- The inputs by which the peer ends the conversation. -/
def farewell : List (Move κ) := [.input .closedByPeer, .input .finish]

/-- A whole conversation: the handshake with its answer, then other texts, and the end. -/
def conversation (id : RequestId) (answer : String) (texts : List String) : List (Move κ) :=
  greeting id ++ [.input (.text answer)] ++ texts.map (fun text => .input (.text text)) ++ farewell

namespace Course

variable {x : Course κ}

/-- A channel that begins, and whose socket opens, writes the handshake and waits for the response.
    What is queued and what is pending stays as it is. -/
theorem foldl_greeting (hstage : x.channel.stage = .waiting) (id : RequestId) :
    (greeting id).foldl (step config) x =
      { x with
        channel := { x.channel with stage := .serving (some id) }
        events := x.events ++ [.greeted id, .written (connectRequest config id)] } := by
  obtain ⟨⟨stage, queue, watched⟩, pending, events⟩ := x
  cases hstage
  simp [greeting, step, after, happenings, receive, frame?, greeting?, Effect.event]

/-- The response to the handshake, if it accepts, opens the channel, and whoever watches is told. -/
theorem step_accepting {answer : String} {r : Response} {hello : Hello}
    (hstage : x.channel.stage = .serving (some r.id)) (hwatched : x.channel.watched = true)
    (hdecode : Frame.decode answer = .ok (.response r)) (hhello : Hello.ofResponse r = .ok hello) :
    x.step config (.input (.text answer)) =
      { x with
        channel := { x.channel with stage := .serving none }
        events := x.events ++ [.heard (.response r), .noticed (.connected hello)] } := by
  obtain ⟨⟨stage, queue, watched⟩, pending, events⟩ := x
  cases hstage
  cases hwatched
  cases hinterpret : Hello.interpret r with
  | error e =>
    rw [Hello.ofResponse, hinterpret] at hhello
    cases hhello
  | ok kept =>
    rw [Hello.ofResponse, hinterpret] at hhello
    cases hhello
    simp [step, after, happenings, receive, hear, hearHandshake, hdecode, hinterpret, frame?,
      greeting?, Except.toOption, Effect.event]

/-- A channel that begins opens when the handshake is accepted. -/
theorem foldl_accepted {answer : String} {r : Response} {hello : Hello}
    (hstage : x.channel.stage = .waiting) (hwatched : x.channel.watched = true)
    (hdecode : Frame.decode answer = .ok (.response r)) (hhello : Hello.ofResponse r = .ok hello) :
    (greeting r.id ++ [Move.input (.text answer)]).foldl (step config) x =
      { x with
        channel := { x.channel with stage := .serving none }
        events := x.events ++ [.greeted r.id, .written (connectRequest config r.id),
          .heard (.response r), .noticed (.connected hello)] } := by
  rw [List.foldl_append, foldl_greeting config hstage]
  refine (step_accepting config
    (x := ⟨{ x.channel with stage := .serving (some r.id) }, x.pending, _⟩)
    rfl hwatched hdecode hhello).trans ?_
  rw [List.append_assoc]
  rfl

/-- An open channel stays open with every text, and the frame of the text is passed on, if it is an
    event or a request. -/
theorem step_open_text (hstage : x.channel.stage = .serving none)
    (hwatched : x.channel.watched = true) (text : String) :
    (x.step config (.input (.text text))).channel = x.channel ∧
      notices (x.step config (.input (.text text))).events =
        notices x.events ++ ((pushed? text).map Notice.frame).toList := by
  have hstep := step_receive config x.pending x.channel (.text text)
  rw [step, notices_after]
  have hpushed {f : Frame} (hd : Frame.decode text = .ok f) : pushed? text = passed? f :=
    pushed?_of_decode hd
  generalize x.channel.receive config x.pending (.text text) = o at hstep
  cases hstep with
  | unmoved hf =>
    rw [frame?_text hstage] at hf
    have hnone : pushed? text = none := by rw [pushed?, hf]; rfl
    rw [hnone]
    exact ⟨rfl, rfl⟩
  | left he =>
    rw [hstage] at he
    cases he
  | accepted hs | rejected hs =>
    rw [hstage] at hs
    cases hs
  | answered _ hd | unmatched _ hd =>
    rw [hpushed hd]
    exact ⟨rfl, rfl⟩
  | passed _ hd hr =>
    rw [hpushed hd, passed?_eq_some hr]
    exact ⟨rfl, rfl⟩
  | unheard _ _ _ hw =>
    rw [hwatched] at hw
    cases hw

/-- The same for many texts. -/
theorem foldl_open_texts (hstage : x.channel.stage = .serving none)
    (hwatched : x.channel.watched = true) (texts : List String) :
    let y := (texts.map fun text => Move.input (.text text)).foldl (step config) x
    y.channel = x.channel ∧
      notices y.events = notices x.events ++ (texts.filterMap pushed?).map .frame := by
  induction texts generalizing x with
  | nil => exact ⟨rfl, (List.append_nil _).symm⟩
  | cons text texts ih =>
    obtain ⟨hchannel, hnotices⟩ := x.step_open_text config hstage hwatched text
    obtain ⟨hchannel', hnotices'⟩ := ih (hchannel ▸ hstage) (hchannel ▸ hwatched)
    refine ⟨hchannel'.trans hchannel, hnotices'.trans ?_⟩
    rw [hnotices, List.append_assoc]
    cases h : pushed? text <;> simp [h]

/-- When the peer closes the socket, the conversation is over. -/
theorem step_closedByPeer {awaited : Option RequestId}
    (hstage : x.channel.stage = .serving awaited) :
    x.step config (.input .closedByPeer) = { x with channel := x.channel.leave false } := by
  obtain ⟨⟨stage, queue, watched⟩, pending, events⟩ := x
  cases hstage
  simp [step, after, happenings, receive, frame?, greeting?]

/-- After a conversation the channel closes: nothing stays pending, and the last notice follows. -/
theorem step_finish {reached : Phase} {closes : Bool}
    (hstage : x.channel.stage = .leaving reached closes) (hwatched : x.channel.watched = true) :
    (x.step config (.input .finish)).channel.stage = .closed (reached = .opened) ∧
      (x.step config (.input .finish)).pending = .empty ∧
      notices (x.step config (.input .finish)).events =
        notices x.events ++ [.closed (reached = .opened)] := by
  have hstep := step_receive config x.pending x.channel .finish
  rw [step, notices_after]
  generalize x.channel.receive config x.pending .finish = o at hstep
  cases hstep with
  | unmoved _ _ hfinish => exact absurd rfl (hfinish _ _ hstage)
  | left he =>
    rw [hstage] at he
    cases he
  | finished hs =>
    cases hstage.symm.trans hs
    refine ⟨rfl, rfl, ?_⟩
    rw [Effects.notices, notice?_closing, if_pos hwatched]
    rfl

/-- When the peer closes the socket of an open channel, the last notice follows. -/
theorem foldl_farewell (hstage : x.channel.stage = .serving none)
    (hwatched : x.channel.watched = true) :
    (farewell.foldl (step config) x).channel.stage = .closed true ∧
      (farewell.foldl (step config) x).pending = .empty ∧
      notices (farewell.foldl (step config) x).events = notices x.events ++ [.closed true] := by
  rw [farewell, List.foldl_cons, List.foldl_cons, List.foldl_nil, x.step_closedByPeer config hstage]
  have hstage' : (x.channel.leave false).stage = .leaving .opened false := by
    rw [leave, phase, hstage]
    rfl
  exact step_finish config (x := { x with channel := x.channel.leave false }) hstage' hwatched

/-- What is told of a conversation whose handshake is accepted: the acceptance, then the events and
    requests among the texts, in order, and last that the socket is gone. -/
theorem foldl_conversation (hstage : x.channel.stage = .waiting)
    (hwatched : x.channel.watched = true) {answer : String} {r : Response} {hello : Hello}
    (hdecode : Frame.decode answer = .ok (.response r)) (hhello : Hello.ofResponse r = .ok hello)
    (texts : List String) :
    let y := (conversation r.id answer texts).foldl (step config) x
    y.channel.stage = .closed true ∧ y.pending = .empty ∧
      notices y.events = notices x.events ++
        .connected hello :: (texts.filterMap pushed?).map .frame ++ [.closed true] := by
  intro y
  have hopened := x.foldl_accepted config hstage hwatched hdecode hhello
  generalize hz : (greeting r.id ++ [Move.input (.text answer)]).foldl (step config) x = z
    at hopened
  have hstage' : z.channel.stage = .serving none := by rw [hopened]
  have hwatched' : z.channel.watched = true := by
    rw [hopened]
    exact hwatched
  have hconnected : notices z.events = notices x.events ++ [.connected hello] := by
    rw [hopened, notices_append]
    rfl
  obtain ⟨hchannel, htexts⟩ := z.foldl_open_texts config hstage' hwatched' texts
  obtain ⟨hclosed, hpending, hlast⟩ := foldl_farewell config
    (by rw [hchannel]; exact hstage') (by rw [hchannel]; exact hwatched')
  have hy : y = farewell.foldl (step config)
      ((texts.map fun text => Move.input (.text text)).foldl (step config) z) := by
    show (conversation r.id answer texts).foldl (step config) x = _
    rw [conversation, List.foldl_append, List.foldl_append, hz]
  rw [hy]
  refine ⟨hclosed, hpending, ?_⟩
  rw [hlast, htexts, hconnected, List.append_assoc (notices x.events)]
  rfl

/-- Every channel can come to its end, from wherever it is. -/
theorem exists_closed (x : Course κ) :
    ∃ inputs : List Input,
      ((inputs.map Move.input).foldl (step config) x).channel.phase = .closed := by
  obtain ⟨⟨stage, queue, watched⟩, pending, events⟩ := x
  cases stage with
  | waiting => exact ⟨[.begin, .refused, .finish], rfl⟩
  | dialing => exact ⟨[.refused, .finish], rfl⟩
  | greeting => exact ⟨[.greetFailed, .finish], rfl⟩
  | serving awaited => exact ⟨[.ended, .finish], by cases awaited <;> rfl⟩
  | leaving reached closes => exact ⟨[.finish], rfl⟩
  | closed wasOpen => exact ⟨[], rfl⟩

end Course

/-- The texts of a conversation: an event, one that is no frame, and a reply to no request. -/
def chatter : List String :=
  ["\x7b\"type\":\"event\",\"event\":\"tick\"\x7d", "pong",
    "\x7b\"type\":\"res\",\"id\":\"2\",\"ok\":true\x7d"]

/-- The response that is `welcome` as a text. -/
def welcoming : Response :=
  ⟨⟨"1"⟩, true, some (Object.ofMembers [("type", .text "hello-ok"),
    ("protocol", .number (.integer (.ofUInt32 3)))]).toValue, none⟩

/-- Whoever watches is told of the acceptance, of the event, and of the end. -/
theorem notices_of_chatter :
    notices (run .loopback (conversation ⟨"1"⟩ welcome chatter) : Course Nat).events =
      [.connected ⟨"hello-ok", some 3, none, none, none, none, .empty⟩,
        .frame (.event ⟨.text "event", some "tick", none, none, .empty⟩), .closed true] := by
  have hdecode : Frame.decode welcome = .ok (.response welcoming) := by decide +kernel
  have hhello : Hello.ofResponse welcoming =
      .ok ⟨"hello-ok", some 3, none, none, none, none, .empty⟩ := by decide +kernel
  have hpushed : chatter.filterMap pushed? =
      [.event ⟨.text "event", some "tick", none, none, .empty⟩] := by decide +kernel
  obtain ⟨-, -, hnotices⟩ := Course.foldl_conversation .loopback (x := (.start : Course Nat)) rfl
    rfl hdecode hhello chatter
  rw [hpushed] at hnotices
  exact hnotices

end Tether.Channel
