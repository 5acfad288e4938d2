import Tether.Proofs.Channel.Requests

/-!
# What a channel writes

A channel takes the requests of its queue in order, up to the command that ends the
conversation. What it writes is its handshake, and then requests that it has taken. So
nothing is written that was queued after the end was asked for.

* `greetings`, `written`, `texts`: the handshakes and the requests that were written, and all
  messages;
* `unshut`, `ahead`: a history before the end was asked for, and a queue before it is due;
* `Handling`: what an input does to the queue and to the socket;
* `Traffic`: the invariant, for the requests that were taken and those that were posted;
* `traffic_of_step`, `traffic_run`: every step keeps it, so it holds in the course of every run.
-/

namespace Tether.Channel

variable {κ : Type} {config : Config}

/-! ## Histories and queues -/

/-- The request that is written. -/
def Event.written? : Event κ → Option Request
  | written request => some request
  | _ => none

/-- Whether the end is asked for. -/
def Event.isShut : Event κ → Bool
  | shut => true
  | _ => false

/-- Whether the command ends the conversation. -/
def Command.isShutdown : Command κ → Bool
  | shutdown => true
  | _ => false

/-- The ids with which the handshake was written. -/
def greetings (h : List (Event κ)) : List RequestId := h.filterMap Event.greeted?

/-- The requests that were written. -/
def written (h : List (Event κ)) : List Request := h.filterMap Event.written?

/-- The message of a request. -/
def message (request : Request) : String := (Frame.request request).encode

/-- The messages that were written. -/
def texts (h : List (Event κ)) : List String := (written h).map message

/-- Whether the end was asked for. -/
def isShut (h : List (Event κ)) : Bool := h.any Event.isShut

/-- What happened before the end was asked for. -/
def unshut (h : List (Event κ)) : List (Event κ) := h.takeWhile fun e => !e.isShut

/-- The commands that come before the end. -/
def ahead (queue : List (Command κ)) : List (Command κ) := queue.takeWhile fun c => !c.isShutdown

theorem mem_written_iff {request : Request} {h : List (Event κ)} :
    request ∈ written h ↔ .written request ∈ h := by
  rw [written, List.mem_filterMap]
  refine ⟨?_, fun h => ⟨_, h, rfl⟩⟩
  rintro ⟨e, he, hw⟩
  cases e <;> cases hw
  exact he

section append

variable {h h' : List (Event κ)}

@[simp] theorem greetings_append : greetings (h ++ h') = greetings h ++ greetings h' := by
  simp [greetings]

@[simp] theorem written_append : written (h ++ h') = written h ++ written h' := by
  simp [written]

@[simp] theorem isShut_append : isShut (h ++ h') = (isShut h || isShut h') := by
  simp [isShut]

/-- What is the case for all before a first one is not undone by what follows. -/
theorem takeWhile_append_of_any {α : Type} {p : α → Bool} {as bs : List α}
    (h : as.any (fun a => !p a) = true) : (as ++ bs).takeWhile p = as.takeWhile p := by
  obtain ⟨a, ha, hp⟩ := List.any_eq_true.1 h
  rw [List.takeWhile_append, if_neg]
  intro hlength
  have hall := List.takeWhile_eq_self_iff.1 ((List.takeWhile_prefix p).eq_of_length hlength)
  simp [hall a ha] at hp

theorem unshut_append_of_isShut (hshut : isShut h = true) : unshut (h ++ h') = unshut h :=
  takeWhile_append_of_any (by simpa [isShut] using hshut)

theorem unshut_append_of_not_isShut (hshut : isShut h = false) :
    unshut (h ++ h') = h ++ unshut h' :=
  List.takeWhile_append_of_pos (by simpa [isShut] using hshut)

theorem unshut_eq_self (hshut : isShut h = false) : unshut h = h :=
  List.takeWhile_eq_self_iff.2 (by simpa [isShut] using hshut)

/-- What was accepted before the end was asked for is a part of what was accepted. -/
theorem accepted_unshut_sublist (h : List (Event κ)) :
    (accepted (unshut h)).Sublist (accepted h) :=
  (List.takeWhile_sublist _).filterMap _

/-- Only what is accepted adds to what was accepted before the end was asked for. -/
theorem accepted_unshut_append (haccepted : accepted h' = []) :
    accepted (unshut (h ++ h')) = accepted (unshut h) := by
  rcases hshut : isShut h with _ | _
  · have hnil : accepted (unshut h') = [] :=
      List.sublist_nil.1 (haccepted ▸ accepted_unshut_sublist h')
    rw [unshut_append_of_not_isShut hshut, accepted_append, hnil, List.append_nil,
      unshut_eq_self hshut]
  · rw [unshut_append_of_isShut hshut]

end append

section queue

variable {queue : List (Command κ)} {request : Request} {recipient : κ}

theorem shutdown_mem_iff : .shutdown ∈ queue ↔ queue.any Command.isShutdown = true := by
  rw [List.any_eq_true]
  constructor
  · exact fun h => ⟨_, h, rfl⟩
  · rintro ⟨_ | _, h, hc⟩
    · cases hc
    · exact h

theorem ahead_append_of_mem (h : .shutdown ∈ queue) (more : List (Command κ)) :
    ahead (queue ++ more) = ahead queue :=
  takeWhile_append_of_any (by simpa using shutdown_mem_iff.1 h)

theorem ahead_append_of_not_mem (h : .shutdown ∉ queue) (more : List (Command κ)) :
    ahead (queue ++ more) = queue ++ ahead more := by
  rw [shutdown_mem_iff] at h
  exact List.takeWhile_append_of_pos (by simpa using h)

theorem ahead_eq_self (h : .shutdown ∉ queue) : ahead queue = queue := by
  rw [shutdown_mem_iff] at h
  exact List.takeWhile_eq_self_iff.2 (by simpa using h)

theorem queued_append (queue more : List (Command κ)) :
    queued (queue ++ more) = queued queue ++ queued more := by
  simp [queued]

theorem queued_ahead_cons_send :
    queued (ahead (.send request recipient :: queue)) =
      (request, recipient) :: queued (ahead queue) := rfl

end queue

namespace Course

variable {x : Course κ} {input : Input} {o : Outcome κ}

theorem greetings_after : greetings (x.after input o).events =
    greetings x.events ++ (x.channel.greeting? input).toList := by
  rw [after, greetings_append, greetings, greetings, happenings, List.filterMap_append,
    filterMap_event_eq_nil _ fun e => by cases e <;> rfl]
  simp [Function.comp_def, Event.greeted?]

theorem written_after : written (x.after input o).events = written x.events ++ o.written := by
  rw [after, written_append, written, written,
    filterMap_happenings _ _ _ (fun _ => rfl) fun _ => rfl]
  exact congrArg _ (List.filterMap_congr fun e _ => by cases e <;> rfl)

theorem isShut_after : isShut (x.after input o).events = isShut x.events := by
  have hshut : isShut (o.done.map Effect.event) = false := by
    refine List.any_eq_false.2 fun e he => ?_
    obtain ⟨e, -, rfl⟩ := List.mem_map.1 he
    cases e <;> exact Bool.false_ne_true
  rw [after, isShut_append, happenings, isShut_append, hshut]
  simp [isShut, Event.isShut]

theorem accepted_unshut_after :
    accepted (unshut (x.after input o).events) = accepted (unshut x.events) :=
  accepted_unshut_append (accepted_happenings ..)

end Course

/-! ## What becomes of the queue -/

/-- An input by which nothing is taken from the queue as long as the conversation goes on, and
    nothing is written. -/
structure Quiet (x : Course κ) (input : Input) (o : Outcome κ) : Prop where
  greeting : x.channel.greeting? input = none
  written : o.written = []
  registered : o.registered = []
  pending : ∀ e ∈ o.pending.entries, e ∈ x.pending.entries
  connecting : o.channel.phase = .connecting → x.channel.phase = .connecting
  early : o.channel.stage.isEarly = true → x.channel.stage.isEarly = true
  serving : ∀ awaited, o.channel.stage = .serving awaited →
    ∃ awaited', x.channel.stage = .serving awaited' ∧ (awaited = none ∨ awaited = awaited')
  active : o.channel.stage.isActive = true →
    x.channel.stage.isActive = true ∧ o.channel.queue = x.channel.queue

/-- What an input does to the queue and to the socket: of the steps of a channel, those by which
    a request is taken or something is written, and all others as one. -/
inductive Handling (config : Config) (x : Course κ) : Input → Outcome κ → Prop
  | quiet {input : Input} {o : Outcome κ} (h : Quiet x input o) : Handling config x input o
  | greeted {id : RequestId} {log : List Log.Entry} (hstage : x.channel.stage = .greeting) :
      Handling config x (.greeted id)
        { channel := { x.channel with stage := .serving (some id) }, pending := x.pending
          done := [.written (connectRequest config id)], log }
  | declined {request : Request} {recipient : κ} {queue : List (Command κ)} {written : Bool}
      {log : List Log.Entry} (hstage : x.channel.stage = .dialing)
      (hqueue : x.channel.queue = .send request recipient :: queue) :
      Handling config x (.command written)
        { channel := { x.channel with queue }, pending := x.pending
          done := [.delivered ⟨recipient, .error .notConnected⟩], log }
  | clashed {request : Request} {recipient : κ} {queue : List (Command κ)} {written : Bool}
      {awaited : Option RequestId} {log : List Log.Entry}
      (hstage : x.channel.stage = .serving awaited)
      (hqueue : x.channel.queue = .send request recipient :: queue)
      (hpending : x.pending.contains request.id = true) :
      Handling config x (.command written)
        { channel := { x.channel with queue }, pending := x.pending
          done := [.delivered ⟨recipient, .error .disconnected⟩], log }
  | sent {request : Request} {recipient : κ} {queue : List (Command κ)}
      {awaited : Option RequestId} {t : Pending.Table κ} {log : List Log.Entry}
      (hstage : x.channel.stage = .serving awaited)
      (hqueue : x.channel.queue = .send request recipient :: queue)
      (hregister : x.pending.register request.id recipient = .ok t) :
      Handling config x (.command true)
        { channel := { x.channel with queue }, pending := t
          done := [.registered request.id recipient, .written request], log }
  | stuck {request : Request} {recipient : κ} {queue : List (Command κ)}
      {awaited : Option RequestId} {t : Pending.Table κ} {log : List Log.Entry}
      (hstage : x.channel.stage = .serving awaited)
      (hqueue : x.channel.queue = .send request recipient :: queue)
      (hregister : x.pending.register request.id recipient = .ok t) :
      Handling config x (.command false)
        { channel := { x.channel with queue }.leave true, pending := t
          done := [.registered request.id recipient], log }

/-- A channel that leaves or closes takes nothing more. -/
theorem Quiet.of_not_isActive {x : Course κ} {input : Input} {o : Outcome κ}
    (hgreeting : x.channel.greeting? input = none) (hwritten : o.written = [])
    (hregistered : o.registered = []) (hpending : ∀ e ∈ o.pending.entries, e ∈ x.pending.entries)
    (hconnecting : o.channel.phase = .connecting → x.channel.phase = .connecting)
    (hactive : o.channel.stage.isActive = false) : Quiet x input o where
  greeting := hgreeting
  written := hwritten
  registered := hregistered
  pending := hpending
  connecting := hconnecting
  early h := by simp [Stage.isActive_of_isEarly h] at hactive
  serving awaited h := by
    rw [h] at hactive
    cases hactive
  active h := by simp [h] at hactive

/-- What is heard without an end of the conversation leaves the queue as it is. -/
theorem Quiet.of_channel_eq {x : Course κ} {input : Input} {o : Outcome κ}
    (hgreeting : x.channel.greeting? input = none) (hwritten : o.written = [])
    (hregistered : o.registered = []) (hpending : ∀ e ∈ o.pending.entries, e ∈ x.pending.entries)
    (hchannel : o.channel = x.channel) : Quiet x input o where
  greeting := hgreeting
  written := hwritten
  registered := hregistered
  pending := hpending
  connecting := by rw [hchannel]; exact id
  early := by rw [hchannel]; exact id
  serving awaited h := ⟨awaited, hchannel ▸ h, .inr rfl⟩
  active h := ⟨hchannel ▸ h, by rw [hchannel]⟩

theorem handling_of_step {x : Course κ} {input : Input} {o : Outcome κ}
    (h : Step config x.pending x.channel input o) : Handling config x input o := by
  cases h with
  | unmoved _ hgreeting => exact .quiet (.of_channel_eq hgreeting rfl rfl (fun _ => id) rfl)
  | begun hs =>
    refine .quiet ⟨greeting?_eq_none (by simp), rfl, rfl, fun _ => id, ?_, ?_, by rintro _ ⟨⟩, ?_⟩
    all_goals simp [phase, hs, Stage.phase, Stage.isEarly, Stage.isActive]
  | dialed hs =>
    refine .quiet ⟨greeting?_eq_none (by simp), rfl, rfl, fun _ => id, ?_, ?_, by rintro _ ⟨⟩, ?_⟩
    all_goals simp [phase, hs, Stage.phase, Stage.isEarly, Stage.isActive]
  | accepted hs =>
    refine .quiet ⟨greeting?_eq_none (by simp), rfl, rfl, fun _ => id, by rintro ⟨⟩,
      by rintro ⟨⟩, ?_, ?_⟩
    · rintro _ ⟨⟩
      exact ⟨_, hs, .inl rfl⟩
    · simp [hs, Stage.isActive]
  | left he => exact .quiet (.of_not_isActive he.greeting?_eq_none rfl rfl (fun _ => id) id rfl)
  | shut | rejected | unheard =>
    exact .quiet (.of_not_isActive (greeting?_eq_none (by simp)) rfl rfl (fun _ => id) id rfl)
  | finished =>
    exact .quiet (.of_not_isActive (greeting?_eq_none (by simp)) written?_closing
      registered?_closing (fun _ he => absurd he List.not_mem_nil) (by rintro ⟨⟩) rfl)
  | unmatched | passed =>
    exact .quiet (.of_channel_eq (greeting?_eq_none (by simp)) rfl rfl (fun _ => id) rfl)
  | answered =>
    exact .quiet (.of_channel_eq (greeting?_eq_none (by simp)) rfl rfl
      (fun _ => List.mem_of_mem_filter) rfl)
  | greeted hs => exact .greeted hs
  | declined hs hq => exact .declined hs hq
  | clashed hs hq hp => exact .clashed hs hq hp
  | sent hs hq hr => exact .sent hs hq hr
  | stuck hs hq hr => exact .stuck hs hq hr

/-! ## The invariant -/

/-- How what a channel writes belongs to its queue: `taken` are the requests that it has
    taken, and `posted` those of them that it has written. -/
structure Traffic (config : Config) (x : Course κ) (taken posted : List (Request × κ)) : Prop where
  /-- The handshake comes first. -/
  written_eq : written x.events =
    (greetings x.events).map (connectRequest config) ++ posted.map Prod.fst
  early : x.channel.stage.isEarly = true → greetings x.events = [] ∧ posted = []
  posted_sublist : posted.Sublist taken
  registered_sublist : (registered x.events).Sublist (taken.map entry)
  taken_initial : taken <+: accepted (unshut x.events)
  /-- Up to the end, the requests are taken in the order of the queue. -/
  accepted_eq : x.channel.stage.isActive = true →
    accepted (unshut x.events) = taken ++ queued (ahead x.channel.queue)
  isShut_iff : x.channel.stage.isActive = true →
    (isShut x.events = true ↔ .shutdown ∈ x.channel.queue)

namespace Traffic

variable {x : Course κ} {input : Input} {o : Outcome κ} {taken posted : List (Request × κ)}
  {request : Request} {recipient : κ}

theorem start : Traffic config (Course.start : Course κ) [] [] where
  written_eq := rfl
  early _ := ⟨rfl, rfl⟩
  posted_sublist := .refl _
  registered_sublist := .refl _
  taken_initial := List.prefix_rfl
  accepted_eq _ := rfl
  isShut_iff _ := by simp [Course.start, Channel.start, isShut]

/-- A call changes neither what is taken nor what is written. -/
theorem of_call (hx : Traffic config x taken posted) {x' : Course κ} {more : List (Event κ)}
    (hevents : x'.events = x.events ++ more) (hgreetings : greetings more = [])
    (hwritten : written more = []) (hregistered : registered more = [])
    (hstage : x'.channel.stage = x.channel.stage)
    (hgrown : accepted (unshut x.events) <+: accepted (unshut x'.events))
    (haccepted : x.channel.stage.isActive = true →
      accepted (unshut x'.events) = taken ++ queued (ahead x'.channel.queue))
    (hshut : x.channel.stage.isActive = true →
      (isShut x'.events = true ↔ .shutdown ∈ x'.channel.queue)) :
    Traffic config x' taken posted where
  written_eq := by
    rw [hevents, written_append, greetings_append, hgreetings, hwritten, List.append_nil,
      List.append_nil]
    exact hx.written_eq
  early h := by
    rw [hevents, greetings_append, hgreetings, List.append_nil]
    exact hx.early (hstage ▸ h)
  posted_sublist := hx.posted_sublist
  registered_sublist := by
    rw [hevents, registered_append, hregistered, List.append_nil]
    exact hx.registered_sublist
  taken_initial := hx.taken_initial.trans hgrown
  accepted_eq h := haccepted (hstage ▸ h)
  isShut_iff h := hshut (hstage ▸ h)

/-- A request is queued ahead of the end, or behind it. -/
theorem accept (hx : Traffic config x taken posted) (request : Request) (recipient : κ) :
    Traffic config (x.accept request recipient) taken posted := by
  have hshut' : isShut (x.accept request recipient).events = isShut x.events := by
    rw [Course.accept, isShut_append]
    exact Bool.or_false _
  rcases hshut : isShut x.events with _ | _
  · have haccepted : accepted (unshut (x.accept request recipient).events) =
        accepted (unshut x.events) ++ [(request, recipient)] := by
      rw [Course.accept, unshut_append_of_not_isShut hshut, unshut_eq_self hshut, accepted_append]
      rfl
    refine hx.of_call rfl rfl rfl rfl rfl ?_ (fun h => ?_) (fun h => ?_)
    · rw [haccepted]
      exact List.prefix_append _ _
    · have hqueue : .shutdown ∉ x.channel.queue := by
        rw [← hx.isShut_iff h, hshut]
        exact Bool.false_ne_true
      rw [haccepted, hx.accepted_eq h, ahead_eq_self hqueue, Course.accept,
        ahead_append_of_not_mem hqueue, queued_append, List.append_assoc]
      rfl
    · rw [hshut', hx.isShut_iff h]
      simp [Course.accept]
  · have haccepted : accepted (unshut (x.accept request recipient).events) =
        accepted (unshut x.events) := by
      rw [Course.accept, unshut_append_of_isShut hshut]
    refine hx.of_call rfl rfl rfl rfl rfl ?_ (fun h => ?_) (fun h => ?_)
    · exact haccepted ▸ List.prefix_rfl
    · rw [haccepted, hx.accepted_eq h, Course.accept,
        ahead_append_of_mem ((hx.isShut_iff h).1 hshut)]
    · rw [hshut', hx.isShut_iff h]
      simp [Course.accept]

/-- The end is queued behind all requests so far. -/
theorem shut (hx : Traffic config x taken posted) :
    Traffic config { x with channel := x.channel.shutdown, events := x.events ++ [.shut] }
      taken posted := by
  have haccepted : accepted (unshut (x.events ++ [.shut])) = accepted (unshut x.events) :=
    accepted_unshut_append rfl
  have hqueue (h : x.channel.stage.isActive = true) :
      x.channel.shutdown.queue = x.channel.queue ++ [.shutdown] := by
    have hlive : x.channel.isLive = true := decide_eq_true (Stage.phase_ne_closed_of_isActive h)
    rw [shutdown, if_pos hlive]
  refine hx.of_call rfl rfl rfl rfl (stage_shutdown _) ?_ (fun h => ?_) (fun h => ?_)
  · exact haccepted ▸ List.prefix_rfl
  · rw [haccepted, hx.accepted_eq h, hqueue h]
    by_cases hmem : .shutdown ∈ x.channel.queue
    · rw [ahead_append_of_mem hmem]
    · rw [ahead_append_of_not_mem hmem, ahead_eq_self hmem]
      exact congrArg _ (congrArg queued (List.append_nil _)).symm
  · rw [hqueue h]
    simp [isShut, Event.isShut]

/-- An input by which nothing is taken. -/
theorem of_quiet (hx : Traffic config x taken posted) (hq : Quiet x input o) :
    Traffic config (x.after input o) taken posted where
  written_eq := by
    rw [Course.written_after, Course.greetings_after, hq.written, hq.greeting]
    simpa using hx.written_eq
  early h := by
    rw [Course.greetings_after, hq.greeting, Option.toList_none, List.append_nil]
    exact hx.early (hq.early h)
  posted_sublist := hx.posted_sublist
  registered_sublist := by
    rw [Course.registered_after, hq.registered, List.append_nil]
    exact hx.registered_sublist
  taken_initial := by
    rw [Course.accepted_unshut_after]
    exact hx.taken_initial
  accepted_eq h := by
    obtain ⟨hactive, hqueue⟩ := hq.active h
    rw [Course.accepted_unshut_after, hx.accepted_eq hactive, Course.after, hqueue]
  isShut_iff h := by
    obtain ⟨hactive, hqueue⟩ := hq.active h
    rw [Course.isShut_after, hx.isShut_iff hactive, Course.after, hqueue]

/-- The handshake is written, before any request. -/
theorem of_greeted (hx : Traffic config x taken posted) {id : RequestId}
    (hstage : x.channel.stage = .greeting) {log : List Log.Entry} :
    Traffic config (x.after (.greeted id)
      { channel := { x.channel with stage := .serving (some id) }, pending := x.pending
        done := [.written (connectRequest config id)], log }) taken posted := by
  have hactive : x.channel.stage.isActive = true := by rw [hstage]; rfl
  obtain ⟨hgreetings, hposted⟩ := hx.early (by rw [hstage]; rfl)
  have hwritten : written x.events = [] := by rw [hx.written_eq, hgreetings, hposted]; rfl
  have hgreeting : x.channel.greeting? (.greeted id) = some id := by
    simp only [greeting?, hstage]
  refine ⟨?_, by rintro ⟨⟩, hx.posted_sublist, ?_, ?_, fun _ => ?_, fun _ => ?_⟩
  · rw [Course.written_after, Course.greetings_after, hwritten, hgreetings, hgreeting, hposted]
    rfl
  · rw [Course.registered_after]
    exact (List.append_nil _).symm ▸ hx.registered_sublist
  · rw [Course.accepted_unshut_after]
    exact hx.taken_initial
  · rw [Course.accepted_unshut_after]
    exact hx.accepted_eq hactive
  · rw [Course.isShut_after]
    exact hx.isShut_iff hactive

/-- The next request is taken, and written or not. -/
theorem of_taken (hx : Traffic config x taken posted) (hactive : x.channel.stage.isActive = true)
    {queue : List (Command κ)} (hqueue : x.channel.queue = .send request recipient :: queue)
    (hgreeting : x.channel.greeting? input = none) {post : List (Request × κ)}
    (hpost : post.Sublist [(request, recipient)])
    (hearly : x.channel.stage.isEarly = true → post = [])
    (hwritten : o.written = post.map Prod.fst)
    (hregistered : o.registered.Sublist [(request.id, recipient)])
    (hstage : o.channel.stage = x.channel.stage ∨ o.channel.stage.isActive = false)
    (hqueue' : o.channel.queue = queue) :
    Traffic config (x.after input o) (taken ++ [(request, recipient)]) (posted ++ post) := by
  have haccepted : accepted (unshut x.events) =
      taken ++ [(request, recipient)] ++ queued (ahead queue) := by
    rw [hx.accepted_eq hactive, hqueue, queued_ahead_cons_send, List.append_assoc]
    rfl
  refine ⟨?_, fun h => ?_, hx.posted_sublist.append hpost, ?_, ?_, fun _ => ?_, fun _ => ?_⟩
  · rw [Course.written_after, Course.greetings_after, hx.written_eq, hwritten, hgreeting]
    simp
  · have hactive' : o.channel.stage.isActive = true := Stage.isActive_of_isEarly h
    have hstage := hstage.resolve_right (by simp [hactive'])
    have hearly' : x.channel.stage.isEarly = true := hstage ▸ h
    obtain ⟨hgreetings, hposted⟩ := hx.early hearly'
    rw [Course.greetings_after, hgreeting, hgreetings, hposted, hearly hearly']
    exact ⟨rfl, rfl⟩
  · rw [Course.registered_after, List.map_append]
    exact hx.registered_sublist.append hregistered
  · rw [Course.accepted_unshut_after, haccepted]
    exact List.prefix_append _ _
  · rw [Course.accepted_unshut_after, haccepted, Course.after, hqueue']
  · rw [Course.isShut_after, hx.isShut_iff hactive, Course.after, hqueue, hqueue']
    simp

end Traffic

/-! ## Runs -/

/-- A step keeps the invariant, for what is then taken and written. -/
theorem traffic_of_step {x : Course κ} {input : Input} {o : Outcome κ}
    (h : Step config x.pending x.channel input o)
    (hx : ∃ taken posted, Traffic config x taken posted) :
    ∃ taken posted, Traffic config (x.after input o) taken posted := by
  obtain ⟨taken, posted, hx⟩ := hx
  have hserving {awaited : Option RequestId} (hs : x.channel.stage = .serving awaited) :
      x.channel.stage.isActive = true ∧ x.channel.stage.isEarly = false := by
    rw [hs]
    exact ⟨rfl, rfl⟩
  cases handling_of_step h with
  | quiet hq => exact ⟨_, _, hx.of_quiet hq⟩
  | greeted hs => exact ⟨_, _, hx.of_greeted hs⟩
  | declined hs hq =>
    exact ⟨_, _, hx.of_taken (by rw [hs]; rfl) hq (greeting?_eq_none (by simp))
      (List.nil_sublist _) (fun _ => rfl) rfl (List.nil_sublist _) (.inl rfl) rfl⟩
  | clashed hs hq =>
    exact ⟨_, _, hx.of_taken (hserving hs).1 hq (greeting?_eq_none (by simp))
      (List.nil_sublist _) (fun _ => rfl) rfl (List.nil_sublist _) (.inl rfl) rfl⟩
  | sent hs hq hr =>
    exact ⟨_, _, hx.of_taken (hserving hs).1 hq (greeting?_eq_none (by simp)) (.refl _)
      (fun h => absurd h (by simp [(hserving hs).2])) rfl (.refl _) (.inl rfl) rfl⟩
  | stuck hs hq hr =>
    exact ⟨_, _, hx.of_taken (hserving hs).1 hq (greeting?_eq_none (by simp))
      (List.nil_sublist _) (fun _ => rfl) rfl (.refl _) (.inr rfl) rfl⟩

/-- The invariant holds in the course of every run. -/
theorem traffic_run (config : Config) (moves : List (Move κ)) :
    ∃ taken posted, Traffic config (run config moves) taken posted := by
  refine Course.run_induction (P := fun x => ∃ taken posted, Traffic config x taken posted)
    ⟨[], [], .start⟩ ?_ ?_ (fun x input o h hx => traffic_of_step h hx) moves
  · rintro x request recipient - ⟨taken, posted, hx⟩
    exact ⟨taken, posted, hx.accept request recipient⟩
  · rintro x ⟨taken, posted, hx⟩
    exact ⟨taken, posted, hx.shut⟩

end Tether.Channel
