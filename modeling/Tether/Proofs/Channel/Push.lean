import Tether.Proofs.Channel.Noise

/-!
# What becomes of a text

Every text that a channel reads is put to one use: it is passed on, it decides on the
handshake, it answers a pending request, or it is noise. A text is passed on if its frame is
no response, whatever else goes on meanwhile.

* `Course.incoming`: the texts that are read in a run;
* `pushed?`: the frame of a text, if it is an event or a request;
* `frames_of_step`, `frames_run`: every step passes on the frame of the text it reads, so over
  a run these are the frames of all texts, in order;
* `Use`, `Received`: the uses of a text, and all that comes of each of them;
* `push_run`: what is passed on, and the one use of every text.
-/

namespace Tether.Channel

variable {κ : Type} {config : Config}

/-! ## Texts and frames -/

/-- The text that a channel reads with an input. -/
def text? (c : Channel κ) (input : Input) : Option String :=
  match c.stage, input with
  | .serving _, .text text => some text
  | _, _ => none

/-- The text that is read with a move. -/
def Course.text? (x : Course κ) : Move κ → Option String
  | .input input => x.channel.text? input
  | .send _ _ | .shutdown => none

/-- The texts that are read in a run from a course on, in order. -/
def Course.incoming (config : Config) : Course κ → List (Move κ) → List String
  | _, [] => []
  | x, m :: moves => (x.text? m).toList ++ incoming config (x.step config m) moves

/-- The frame that is passed on: any but a response. -/
def passed? : Frame → Option Frame
  | .response _ => none
  | f => some f

/-- The frame of a text, if it is an event or a request. -/
def pushed? (text : String) : Option Frame := (Frame.decode text).toOption.bind passed?

/-- The frame that whoever watches is told of. -/
def Notice.frame? : Notice → Option Frame
  | frame f => some f
  | _ => none

theorem passed?_eq_some {f : Frame} (h : ∀ r, f ≠ .response r) : passed? f = some f := by
  cases f with
  | response r => exact absurd rfl (h r)
  | request | event => rfl

theorem pushed?_of_decode {text : String} {f : Frame} (h : Frame.decode text = .ok f) :
    pushed? text = passed? f := by
  rw [pushed?, h]
  rfl

/-- No response is passed on. -/
theorem pushed?_ne_response (text : String) (r : Response) :
    pushed? text ≠ some (.response r) := by
  intro h
  obtain ⟨f, -, hf⟩ := Option.bind_eq_some_iff.1 h
  cases f <;> cases hf

theorem frame?_eq (c : Channel κ) (input : Input) :
    c.frame? input = (c.text? input).bind fun text => (Frame.decode text).toOption := by
  obtain ⟨stage, queue, watched⟩ := c
  cases stage <;> cases input <;> rfl

theorem bind_pushed? (c : Channel κ) (input : Input) :
    (c.text? input).bind pushed? = (c.frame? input).bind passed? := by
  rw [frame?_eq, Option.bind_assoc]
  rfl

theorem Course.incoming_append (x : Course κ) (moves moves' : List (Move κ)) :
    x.incoming config (moves ++ moves') =
      x.incoming config moves ++ (moves.foldl (Course.step config) x).incoming config moves' := by
  induction moves generalizing x with
  | nil => rfl
  | cons m moves ih => rw [List.cons_append, incoming, ih, incoming, List.append_assoc]; rfl

/-! ## What is passed on -/

/-- As long as someone watches, a step passes on the frame that it reads, if it is no response. -/
theorem frames_of_step {t : Pending.Table κ} {c : Channel κ} {input : Input} {o : Outcome κ}
    (h : Step config t c input o) (hwatched : c.watched = true) :
    o.notices.filterMap Notice.frame? = ((c.text? input).bind pushed?).toList := by
  have hframe (hi : ∀ text, input ≠ .text text) : c.frame? input = none :=
    frame?_eq_none fun _ text _ => hi text
  have hheard {awaited : Option RequestId} {f : Frame} {text : String}
      (hs : c.stage = .serving awaited) (hd : Frame.decode text = .ok f) :
      c.frame? (.text text) = some f := by
    rw [frame?_text hs, hd]
    rfl
  rw [bind_pushed?]
  cases h with
  | unmoved hf => rw [hf]; rfl
  | left he => rw [he.frame?_eq_none]; rfl
  | begun | dialed | greeted | shut | declined | clashed | sent | stuck =>
    rw [hframe (by simp)]
    rfl
  | accepted hs hd | rejected hs hd | answered hs hd | unmatched hs hd => rw [hheard hs hd]; rfl
  | passed hs hd hr => rw [hheard hs hd, Option.bind_some, passed?_eq_some hr]; rfl
  | unheard _ _ _ hw => rw [hwatched] at hw; cases hw
  | finished =>
    rw [hframe (by simp), Effects.notices, notice?_closing, if_pos hwatched]
    rfl

/-- The frames that whoever watches has been told of. -/
def frames (h : List (Event κ)) : List Frame := (notices h).filterMap Notice.frame?

theorem filterMap_toList {α β : Type} (f : α → Option β) (a : Option α) :
    a.toList.filterMap f = (a.bind f).toList := by
  cases a with
  | none => rfl
  | some a => cases h : f a <;> simp [h]

theorem frames_append (h h' : List (Event κ)) : frames (h ++ h') = frames h ++ frames h' := by
  simp [frames]

theorem Course.frames_step {x : Course κ} (hwatched : x.channel.watched = true) (m : Move κ) :
    frames (x.step config m).events =
      frames x.events ++ (x.text? m).toList.filterMap pushed? := by
  rcases m with ⟨request, recipient⟩ | _ | input
  · cases hready : x.channel.phase.isReady with
    | true => rw [step_send_of_isReady hready, accept, frames_append]; rfl
    | false => rw [step_send_of_not_isReady hready]; exact (List.append_nil _).symm
  · exact frames_append _ _
  · have hnotice := frames_of_step (step_receive config x.pending x.channel input) hwatched
    rw [step, after, frames_append, frames, frames, notices_happenings, hnotice, ← filterMap_toList]
    rfl

/-- Over a run, the frames that are passed on are those of the texts, in order. -/
theorem frames_run (config : Config) (moves : List (Move κ)) :
    frames (run config moves).events = (Course.start.incoming config moves).filterMap pushed? := by
  induction moves using List.reverseRecOn with
  | nil => rfl
  | append_singleton moves m ih =>
    rw [run_append_singleton, Course.frames_step (lifecycle_run config moves).watched, ih,
      Course.incoming_append, List.filterMap_append]
    refine congrArg _ ?_
    rw [Course.incoming, Course.incoming, List.append_nil]
    rfl

/-! ## The use of a text -/

/-- What a text is used for. -/
inductive Use
  /-- It is passed on. -/
  | push
  /-- It decides on the handshake. -/
  | handshake
  /-- It answers a pending request. -/
  | answer
  /-- It is noise. -/
  | nothing

/-- What comes of a text by its use: what becomes of the channel and the pending requests, and
    what is done besides. -/
inductive Received (x : Course κ) (text : String) (x' : Course κ) : Use → Prop
  | push {f : Frame} (hpushed : pushed? text = some f) (hchannel : x'.channel = x.channel)
      (hpending : x'.pending = x.pending)
      (hdeeds : deeds x'.events = deeds x.events ++ [.noticed (.frame f)]) :
      Received x text x' .push
  | accepted {r : Response} {hello : Hello} (hdecode : Frame.decode text = .ok (.response r))
      (hstage : x.channel.stage = .serving (some r.id)) (hhello : Hello.ofResponse r = .ok hello)
      (hchannel : x'.channel = { x.channel with stage := .serving none })
      (hpending : x'.pending = x.pending)
      (hdeeds : deeds x'.events = deeds x.events ++ [.noticed (.connected hello)]) :
      Received x text x' .handshake
  | rejected {r : Response} {e : Rejection} (hdecode : Frame.decode text = .ok (.response r))
      (hstage : x.channel.stage = .serving (some r.id)) (hhello : Hello.ofResponse r = .error e)
      (hchannel : x'.channel = x.channel.leave true) (hpending : x'.pending = x.pending)
      (hdeeds : deeds x'.events = deeds x.events ++ [.noticed (.handshakeFailed r)]) :
      Received x text x' .handshake
  | answer {r : Response} {recipient : κ} (hdecode : Frame.decode text = .ok (.response r))
      (hstage : x.channel.stage ≠ .serving (some r.id))
      (hmem : (r.id, recipient) ∈ x.pending.entries) (hchannel : x'.channel = x.channel)
      (hpending : x'.pending = x.pending.erase r.id)
      (hsize : x'.pending.size + 1 = x.pending.size)
      (hdeeds : deeds x'.events = deeds x.events ++ [.delivered ⟨recipient, .ok r⟩]) :
      Received x text x' .answer
  | nothing (hnoise : x.isNoise (.move (.input (.text text))) = true) (halike : Alike x x') :
      Received x text x' .nothing

/-- The use that shows in what is done. -/
def Use.ofDeeds : List (Event κ) → Use
  | [] => .nothing
  | .noticed (.frame _) :: _ => .push
  | .delivered _ :: _ => .answer
  | _ => .handshake

namespace Received

variable {x x' : Course κ} {text : String} {u u' : Use}

theorem exists_deeds (h : Received x text x' u) :
    ∃ more, deeds x'.events = deeds x.events ++ more ∧ Use.ofDeeds more = u := by
  cases h with
  | push _ _ _ hdeeds | accepted _ _ _ _ _ hdeeds | rejected _ _ _ _ _ hdeeds
  | answer _ _ _ _ _ _ hdeeds => exact ⟨_, hdeeds, rfl⟩
  | nothing _ halike => exact ⟨[], by rw [halike.deeds, List.append_nil], rfl⟩

/-- A text has one use only, since all uses differ in what is done. -/
theorem use_eq (h : Received x text x' u) (h' : Received x text x' u') : u = u' := by
  obtain ⟨more, hdeeds, rfl⟩ := h.exists_deeds
  obtain ⟨more', hdeeds', rfl⟩ := h'.exists_deeds
  rw [List.append_cancel_left (hdeeds.symm.trans hdeeds')]

end Received

/-- A text that is read while someone watches has a use. -/
theorem received_of_step {x : Course κ} {text : String} {o : Outcome κ}
    {awaited : Option RequestId} (h : Step config x.pending x.channel (.text text) o)
    (hstage : x.channel.stage = .serving awaited) (hwatched : x.channel.watched = true) :
    ∃ u, Received x text (x.after (.text text) o) u := by
  have hgreeting : x.channel.greeting? (.text text) = none := greeting?_eq_none (by simp)
  have hdeeds :
      deeds (x.after (.text text) o).events = deeds x.events ++ o.done.map Effect.event := by
    rw [Course.after, deeds_append, deeds_happenings hgreeting]
  cases h with
  | unmoved hf =>
    -- The text is read but has no frame, so it is malformed.
    refine ⟨.nothing, .nothing ?_ (.of_outcome hgreeting rfl rfl rfl)⟩
    rw [frame?_text hstage] at hf
    cases hd : Frame.decode text with
    | error e => simp [Course.isNoise, hstage, hd]
    | ok f => rw [hd] at hf; cases hf
  | unmatched hs hd ha hp =>
    refine ⟨.nothing, .nothing ?_ (.of_outcome hgreeting rfl rfl rfl)⟩
    simp [Course.isNoise, hs, hd, ha, Pending.Table.contains_of_get?_eq_none hp]
  | accepted hs hd _ hr => exact ⟨_, .accepted hd hs hr rfl rfl hdeeds⟩
  | rejected hs hd _ hr => exact ⟨_, .rejected hd hs hr rfl rfl hdeeds⟩
  | answered hs hd ha hp =>
    have hmem := Pending.Table.mem_of_get?_eq_some hp
    exact ⟨_, .answer hd (by rw [hs]; simpa using ha) hmem rfl rfl (Pending.Table.size_erase hmem)
      hdeeds⟩
  | passed hs hd hr =>
    refine ⟨_, .push ?_ rfl rfl hdeeds⟩
    rw [pushed?_of_decode hd, passed?_eq_some hr]
  | unheard _ _ _ hw => rw [hwatched] at hw; cases hw
  | left he => rw [hstage] at he; cases he

/-- The frames that whoever watches is told of are those of the texts that are read before the
    channel closes, in order, as far as they are events or requests; no response is among them.
    Every text that is read is put to exactly one use: besides being passed on it may decide on
    the handshake, answer one pending request, or do nothing. -/
theorem push_run (config : Config) (moves : List (Move κ)) :
    let x := run config moves
    (notices x.events).filterMap Notice.frame? =
      (Course.start.incoming config moves).filterMap pushed? ∧
    (∀ r, .frame (.response r) ∉ notices x.events) ∧
    ∀ text awaited, x.channel.stage = .serving awaited →
      ∃! u, Received x text (x.step config (.input (.text text))) u := by
  intro x
  have hframes : frames x.events = _ := frames_run config moves
  refine ⟨hframes, fun r hmem => ?_, fun text awaited hstage => ?_⟩
  · have hmem : .response r ∈ frames x.events := List.mem_filterMap.2 ⟨_, hmem, rfl⟩
    rw [hframes] at hmem
    obtain ⟨text, -, htext⟩ := List.mem_filterMap.1 hmem
    exact pushed?_ne_response text r htext
  · obtain ⟨u, h⟩ := received_of_step (step_receive config x.pending x.channel (.text text)) hstage
      (lifecycle_run config moves).watched
    exact ⟨u, h, fun u' h' => h'.use_eq h⟩

/-- An event is passed on before the handshake is answered, and a reply to no request is not. -/
example : notices (run .loopback [.input .begin, .input .dialed, .input (.greeted ⟨"1"⟩),
    .input (.text "\x7b\"type\":\"event\",\"event\":\"tick\"\x7d"),
    .input (.text "\x7b\"type\":\"res\",\"id\":\"2\",\"ok\":true\x7d")] : Course Nat).events =
      [.frame (.event ⟨.text "event", some "tick", none, none, .empty⟩)] := by
  decide +kernel

end Tether.Channel
