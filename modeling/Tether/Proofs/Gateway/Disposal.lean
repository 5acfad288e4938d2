import Tether.Proofs.Channel.Traffic
import Tether.Proofs.Gateway.Healing
import Tether.Proofs.Gateway.Requests
import Tether.Proofs.Gateway.Threads

/-!
# The end of a gateway

From the moment on at which a disposal is over, no attempt at a channel gets far that has not seen
before that the gateway is not disposed of, wherever it comes from, and a timer runs only until the
one who has started it looks again. The channels that there are still have to find the end of the
conversation in their queue; what is queued behind it is not written any more.

An attempt that has seen that the gateway is not disposed of opens its channel all the same, and no
one asks this channel for its end.

* `Ended`: after the disposal a timer runs only as long as someone is about to stop it;
* `Single`: at most one disposal is under way behind the mark;
* `Disposed`: a disposal is over;
* `Remains`: what remains of a gateway after its disposal, and `Remains.act`: every act leaves that;
* `Disposed.accepted_unshut_sublist`: what the channels may still take;
* `disposal_interleave`: the end, from every point on at which a disposal is over;
* `isOpen_of_overtaken`: a channel that is opened after the end.
-/

namespace Tether

theorem Channel.IsRun.traffic {κ : Type} {config : Channel.Config} {x : Channel.Course κ}
    (hx : Channel.IsRun config x) : ∃ taken posted, Channel.Traffic config x taken posted := by
  obtain ⟨moves, rfl⟩ := hx
  exact Channel.traffic_run config moves

namespace Gateway

open Channel (accepted registered written greetings drawn isShut unshut)

variable {config : Config} {x y z : Crowd}

/-! ## The mark -/

section flag

variable {κ : Type} (g : Gateway κ)

theorem disposed_connect : g.connect.disposed = g.disposed := by
  rcases g.connect_cases with ⟨-, h⟩ | ⟨-, -, h⟩ <;> rw [h]

theorem disposed_launch : g.launch.disposed = g.disposed := by
  rw [launch]
  split
  · rfl
  · exact disposed_connect _

theorem disposed_forceReconnect : g.forceReconnect.disposed = g.disposed := by
  rw [forceReconnect]
  split
  · rfl
  · exact disposed_connect _

theorem disposed_dispose : g.dispose.disposed = true := by
  rw [dispose]
  split
  · assumption
  · rfl

theorem disposed_settle (notice : Channel.Notice) :
    (g.settle notice).disposed = g.disposed := by
  rcases g.settle_cases notice with ⟨-, h⟩ | ⟨-, -, -, h⟩ <;> rw [h]

theorem disposed_receive (i : Nat) (input : Channel.Input) :
    (g.receive i input).1.disposed = g.disposed := by
  rw [receive]
  split <;> rfl

theorem isScheduled_receive (i : Nat) (input : Channel.Input) :
    (g.receive i input).1.scheduler.isScheduled = g.scheduler.isScheduled := by
  rw [receive]
  split
  · rfl
  · exact isScheduled_heed _ _

end flag

theorem Course.disposed_call (x : Course) (c : Call) :
    (x.call c).gateway.disposed = (x.gateway.disposed || decide (c = .dispose)) := by
  rcases c with _ | request | _ | _
  · simp [call, disposed_launch]
  · rcases x.gateway.send_cases request x.sent with h | ⟨c, past, -, -, h⟩
    · simp [call_send_of_error h]
    · simp [call_send_of_ok h]
  · simp [call, disposed_forceReconnect]
  · simp [call, disposed_dispose]

/-! ## The timer -/

/-- Whether whoever does this next stops the timer of a gateway that is disposed of. -/
def Task.stops : Task → Bool
  | recheck | stopTimer | halt => true
  | _ => false

theorem Task.stops_iff {t : Task} :
    t.stops = true ↔ t = .recheck ∨ t = .stopTimer ∨ t = .halt := by
  cases t <;> simp [stops]

/-- After the disposal, a timer runs only as long as someone is about to stop it. -/
def Ended (z : Crowd) : Prop :=
  z.course.gateway.disposed = true → z.course.gateway.scheduler.isScheduled = true →
    ∃ t ∈ z.tasks, t.stops = true

/-- Whoever does not stop the timer may go on. -/
theorem exists_stops_of_go {before after next : List Task} {t : Task}
    (h : ∃ t' ∈ before ++ t :: after, t'.stops = true) (ht : t.stops = false) :
    ∃ t' ∈ before ++ next ++ after, t'.stops = true := by
  obtain ⟨t', hmem, hstops⟩ := h
  refine ⟨t', ?_, hstops⟩
  have hne : t' ≠ t := by
    rintro rfl
    rw [hstops] at ht
    cases ht
  simp only [List.mem_append, List.mem_cons, hne, false_or] at hmem ⊢
  exact hmem.imp_left .inl

theorem Ended.go (hz : Ended z) {before after : List Task} {t : Task}
    (htasks : z.tasks = before ++ t :: after) :
    Ended ⟨(z.course.access t).1, before ++ (z.course.access t).2.toList ++ after⟩ := by
  intro hdisposed hscheduled
  rcases z.course.isScheduled_of_access hscheduled with rfl | ⟨hscheduled, hstop, hhalt⟩
  · exact ⟨.recheck, by simp [Course.access], rfl⟩
  · have hdisposed : (z.course.access t).1.gateway.disposed = true := hdisposed
    rw [z.course.disposed_access, Bool.or_eq_true, decide_eq_true_iff] at hdisposed
    by_cases hmarked : z.course.gateway.disposed = true
    · by_cases hrecheck : t = .recheck
      · -- Whoever looks again finds that the gateway is disposed of.
        refine ⟨.stopTimer, ?_, rfl⟩
        rw [hrecheck, Course.access, if_pos hmarked]
        simp
      · refine exists_stops_of_go (htasks ▸ hz hmarked hscheduled) ?_
        rw [← Bool.not_eq_true, Task.stops_iff]
        simp [hrecheck, hstop, hhalt]
    · obtain rfl := hdisposed.resolve_left hmarked
      refine ⟨.halt, ?_, rfl⟩
      rw [Course.access, if_neg hmarked]
      simp

theorem Ended.act (hz : Ended z) (a : Act) : Ended (z.act a) := by
  refine Crowd.act_induction hz (fun t _ => ?_) (fun request => ?_) (fun i input => ?_)
    (fun _ _ _ htasks => hz.go htasks) a
  · intro hdisposed hscheduled
    obtain ⟨t', hmem, hstops⟩ := hz hdisposed hscheduled
    exact ⟨t', List.mem_cons_of_mem _ hmem, hstops⟩
  · rcases z.course.gateway.send_cases request z.course.sent with h | ⟨c, past, -, -, h⟩
    · rw [Course.call_send_of_error h]
      exact hz
    · rw [Course.call_send_of_ok h]
      exact hz
  · intro hdisposed hscheduled
    refine hz ((z.course.gateway.disposed_receive i input).symm.trans hdisposed) ?_
    rw [← z.course.gateway.isScheduled_receive i input]
    exact hscheduled

theorem ended_interleave (config : Config) (acts : List Act) : Ended (interleave config acts) :=
  Crowd.acts_induction (P := Ended) (by rintro ⟨⟩) (fun _ a hz => hz.act a) acts

/-- Where no call is disturbed by others, no timer runs after the disposal. -/
theorem unscheduled_walk (config : Config) (parts : List Part)
    (hdisposed : ((Course.start config).walk parts).gateway.disposed = true) :
    ((Course.start config).walk parts).gateway.scheduler.isScheduled = false := by
  obtain ⟨acts, hacts⟩ := exists_interleave_eq_walk config parts
  have hended := ended_interleave config acts
  rw [hacts] at hended
  rw [← Bool.not_eq_true]
  intro hscheduled
  obtain ⟨t, ht, -⟩ := hended hdisposed hscheduled
  cases ht

/-! ## The disposal -/

/-- Whether a disposal that has marked the gateway does this next. -/
def Task.ends : Task → Bool
  | halt | shutdown => true
  | _ => false

/-- How often something is under way after an access. -/
theorem countP_go (p : Task → Bool) (before after : List Task) (t : Task) (next : Option Task) :
    (before ++ next.toList ++ after).countP p + (if p t then 1 else 0) =
      (before ++ t :: after).countP p + if next.any p then 1 else 0 := by
  rw [List.countP_append, List.countP_append, List.countP_append, List.countP_cons]
  have hnext : next.toList.countP p = if next.any p then 1 else 0 := by
    cases next <;> simp [List.countP_singleton]
  omega

/-- An access does not add to what is under way if what comes next is what came before. -/
theorem countP_go_le {p : Task → Bool} (before after : List Task) {t : Task} {next : Option Task}
    (h : ∀ t', next = some t' → p t' = true → p t = true) :
    (before ++ next.toList ++ after).countP p ≤ (before ++ t :: after).countP p := by
  have hcount := countP_go p before after t next
  by_cases hnext : next.any p = true
  · obtain ⟨t', rfl, ht'⟩ := (Option.any_eq_true ..).1 hnext
    rw [if_pos hnext, if_pos (h t' rfl ht')] at hcount
    omega
  · rw [if_neg hnext] at hcount
    omega

theorem Course.ends_of_access (x : Course) {t t' : Task} (h : (x.access t).2 = some t')
    (hends : t'.ends = true) : t.ends = true ∨ t = .dispose ∧ x.gateway.disposed = false := by
  cases t with
  | halt | shutdown => exact .inl rfl
  | startTimer | forceNow =>
    cases h
    cases hends
  | stopTimer | openNext => cases h
  | fire generation =>
    obtain ⟨-, -, rfl⟩ := Option.map_eq_some_iff.1 h
    cases hends
  | dispose =>
    rw [access] at h
    split at h
    · cases h
    · rename_i hdisposed
      exact .inr ⟨rfl, Bool.not_eq_true _ ▸ hdisposed⟩
  | _ =>
    rw [access] at h
    split at h <;> cases h
    all_goals cases hends

/-- At most one disposal has marked the gateway and is not over. -/
def Single (z : Crowd) : Prop :=
  z.tasks.countP Task.ends ≤ if z.course.gateway.disposed then 1 else 0

theorem Single.go (hz : Single z) {before after : List Task} {t : Task}
    (htasks : z.tasks = before ++ t :: after) :
    Single ⟨(z.course.access t).1, before ++ (z.course.access t).2.toList ++ after⟩ := by
  rw [Single, htasks] at hz
  rw [Single, Course.disposed_access]
  by_cases hdispose : t = .dispose ∧ z.course.gateway.disposed = false
  · -- No disposal has marked the gateway before.
    obtain ⟨rfl, hdisposed⟩ := hdispose
    have hcount := countP_go Task.ends before after .dispose (z.course.access .dispose).2
    have hnext : (z.course.access .dispose).2.any Task.ends = true := by
      rw [Course.access, hdisposed]
      rfl
    rw [if_pos hnext, if_neg (show ¬ Task.ends .dispose = true by decide)] at hcount
    rw [hdisposed] at hz ⊢
    simp only [decide_true, Bool.or_true, if_true, Bool.false_eq_true, if_false] at hz ⊢
    omega
  · refine (countP_go_le before after fun t' h hends =>
      (z.course.ends_of_access h hends).resolve_right hdispose).trans (hz.trans ?_)
    split <;> simp_all

theorem Single.act (hz : Single z) (a : Act) : Single (z.act a) := by
  refine Crowd.act_induction hz (fun t ht => ?_) (fun request => ?_) (fun i input => ?_)
    (fun _ _ _ htasks => hz.go htasks) a
  · have hends : t.ends = false := by
      cases t with
      | launch | force | fire | settle | dispose => rfl
      | _ => cases ht
    rw [Single, List.countP_cons_of_neg (by simp [hends])]
    exact hz
  · rw [Single, Course.disposed_call, decide_eq_false (by simp), Bool.or_false]
    exact hz
  · rw [Single, Course.receive, disposed_receive]
    exact hz

theorem single_interleave (config : Config) (acts : List Act) :
    Single (interleave config acts) :=
  Crowd.acts_induction (P := Single) (Nat.zero_le _) (fun _ a hz => hz.act a) acts

/-! ## What remains -/

/-- Whether whoever does this next has seen that the gateway is not disposed of, and starts the
    timer for the next channel or has started it. -/
def Task.schedules : Task → Bool
  | startTimer | recheck | stopTimer => true
  | _ => false

/-- Once the gateway is disposed of, no one sees that it is not. -/
theorem Course.access_of_disposed (x : Course) (hdisposed : x.gateway.disposed = true)
    {t t' : Task} (h : (x.access t).2 = some t') :
    t' ≠ .openNext ∧ (t'.ends = true → t.ends = true) ∧
      (t'.schedules = true → t.schedules = true) := by
  cases t with
  | startTimer | halt | forceNow =>
    cases h
    decide
  | stopTimer | openNext | shutdown => cases h
  | fire generation =>
    obtain ⟨-, -, rfl⟩ := Option.map_eq_some_iff.1 h
    exact ⟨by simp, by rintro ⟨⟩, by rintro ⟨⟩⟩
  | launch | forceKept | connect | settle | dispose =>
    rw [access, if_pos hdisposed] at h
    cases h
  | recheck =>
    rw [access, if_pos hdisposed] at h
    cases h
    decide
  | mark | force | forceIdle =>
    rw [access] at h
    split at h <;> cases h
    all_goals decide

/-- A disposal is over: what it does is done, and no other one is under way. -/
structure Disposed (x : Crowd) : Prop where
  disposed : x.course.gateway.disposed = true
  finished : x.tasks.countP Task.ends = 0
  shut : x.course.gateway.channels ≠ [] →
    isShut (ofChannel (x.course.gateway.channels.length - 1) x.course.events) = true

/-- The last access of a disposal. -/
theorem Disposed.of_shutdown {x : Crowd} (hx : Single x) {i : Nat}
    (hlast : x.tasks[i]? = some .shutdown) : Disposed (x.act (.go i)) := by
  obtain ⟨hi, hi'⟩ := List.getElem?_eq_some_iff.1 hlast
  have htasks : x.tasks = x.tasks.take i ++ .shutdown :: x.tasks.drop (i + 1) := by
    rw [← hi', List.getElem_cons_drop, List.take_append_drop]
  have hcount := countP_go Task.ends (x.tasks.take i) (x.tasks.drop (i + 1)) .shutdown none
  rw [← htasks, if_pos (show Task.ends .shutdown = true by decide), Option.any_none,
    if_neg Bool.false_ne_true] at hcount
  rw [Single] at hx
  rw [Crowd.act_go hlast]
  refine ⟨?_, ?_, fun hne => ?_⟩
  · rw [Course.disposed_access, Bool.or_eq_true]
    left
    by_contra hdisposed
    rw [if_neg hdisposed] at hx
    omega
  · show List.countP Task.ends (_ ++ Option.toList none ++ _) = 0
    split at hx <;> omega
  · cases hchannels : x.course.gateway.channels with
    | nil =>
      simp only [Course.access, Course.shutdown_of_nil hchannels] at hne
      exact absurd hchannels hne
    | cons c past =>
      simp only [Course.access, Course.shutdown_of_cons hchannels, List.length_cons,
        Nat.add_sub_cancel, ofChannel_append, ofChannel_onChannel, Channel.isShut_append]
      exact Bool.or_true _

/-- What remains of a gateway that is disposed of: at most those open channels, and at most those
    are about the timer, who have seen before that it is not. -/
structure Remains (x y : Crowd) : Prop where
  disposed : y.course.gateway.disposed = true
  length_le : x.course.gateway.channels.length ≤ y.course.gateway.channels.length
  opening : y.course.gateway.channels.length + y.tasks.count .openNext ≤
    x.course.gateway.channels.length + x.tasks.count .openNext
  ending : y.tasks.countP Task.ends ≤ x.tasks.countP Task.ends
  scheduling : y.tasks.countP Task.schedules ≤ x.tasks.countP Task.schedules
  /-- What happens on channels happens on the last one of them, or on later ones. -/
  events_eq : ∃ more, y.course.events = x.course.events ++ more ∧
    ∀ e ∈ more, x.course.gateway.channels.length ≤ e.1 + 1
  sent_le : x.course.sent ≤ y.course.sent
  isLive_or : y.course.gateway.isLive = true →
    x.course.gateway.isLive = true ∨
      x.course.gateway.channels.length < y.course.gateway.channels.length

namespace Remains

theorem refl (hdisposed : x.course.gateway.disposed = true) : Remains x x :=
  ⟨hdisposed, Nat.le_refl _, Nat.le_refl _, Nat.le_refl _, Nat.le_refl _,
    ⟨[], (List.append_nil _).symm, fun _ he => absurd he List.not_mem_nil⟩, Nat.le_refl _, .inl⟩

theorem trans (hxy : Remains x y) (hyz : Remains y z) : Remains x z where
  disposed := hyz.disposed
  length_le := hxy.length_le.trans hyz.length_le
  opening := hyz.opening.trans hxy.opening
  ending := hyz.ending.trans hxy.ending
  scheduling := hyz.scheduling.trans hxy.scheduling
  events_eq := by
    obtain ⟨more, hmore, hmem⟩ := hxy.events_eq
    obtain ⟨more', hmore', hmem'⟩ := hyz.events_eq
    refine ⟨more ++ more', by rw [hmore', hmore, List.append_assoc], fun e he => ?_⟩
    exact (List.mem_append.1 he).elim (hmem e) fun he => hxy.length_le.trans (hmem' e he)
  sent_le := hxy.sent_le.trans hyz.sent_le
  isLive_or hlive := by
    rcases hyz.isLive_or hlive with hlive | hlt
    · exact (hxy.isLive_or hlive).imp_right fun hlt => hlt.trans_le hyz.length_le
    · exact .inr (hxy.length_le.trans_lt hlt)

end Remains

/-- No request can be sent while no channel is live. -/
theorem send_of_not_isLive {g : Gateway Nat} (hlive : g.isLive = false) (request : Request)
    (recipient : Nat) : g.send request recipient = .error .notConnected := by
  rcases g.send_cases request recipient with h | ⟨c, past, hchannels, hready, -⟩
  · exact h
  · rw [isLive_of_channels hchannels, Channel.isLive, decide_eq_false_iff_not, not_not] at hlive
    rw [hlive] at hready
    cases hready

/-- Of a gateway that is disposed of, every access of a call leaves what remains. -/
theorem Remains.go (hdisposed : x.course.gateway.disposed = true) {before after : List Task}
    {t : Task} (htasks : x.tasks = before ++ t :: after) :
    Remains x ⟨(x.course.access t).1, before ++ (x.course.access t).2.toList ++ after⟩ := by
  have hlength := x.course.length_access t
  obtain ⟨hsent, hevents⟩ := x.course.events_access t
  refine ⟨?_, hlength.1, ?_, ?_, ?_, hevents, Nat.le_of_eq hsent.symm,
    x.course.isLive_of_access⟩
  · rw [Course.disposed_access, hdisposed, Bool.true_or]
  · -- Whoever opens a channel is not about to open one any more.
    have hcount := countP_go (· == .openNext) before after t (x.course.access t).2
    have hnext : (x.course.access t).2.any (· == .openNext) = false := by
      rw [← Bool.not_eq_true, Option.any_eq_true]
      rintro ⟨t', ht', hopen⟩
      exact (x.course.access_of_disposed hdisposed ht').1 (beq_iff_eq.1 hopen)
    simp only [hnext, Bool.false_eq_true, if_false, beq_iff_eq] at hcount
    rw [htasks]
    simp only [List.count]
    omega
  · rw [htasks]
    exact countP_go_le before after fun t' h =>
      (x.course.access_of_disposed hdisposed h).2.1
  · rw [htasks]
    exact countP_go_le before after fun t' h =>
      (x.course.access_of_disposed hdisposed h).2.2

/-- What happens on the current channel leaves what remains. -/
theorem Remains.of_current {y : Course} {more : List (Channel.Event Nat)}
    (hdisposed : y.gateway.disposed = true)
    (hlength : y.gateway.channels.length = x.course.gateway.channels.length)
    (hevents : y.events =
      x.course.events ++ onChannel (x.course.gateway.channels.length - 1) more)
    (hsent : x.course.sent ≤ y.sent)
    (hlive : y.gateway.isLive = true → x.course.gateway.isLive = true) :
    Remains x { x with course := y } :=
  ⟨hdisposed, Nat.le_of_eq hlength.symm, Nat.add_le_add_right (Nat.le_of_eq hlength) _,
    Nat.le_refl _, Nat.le_refl _, ⟨_, hevents, fun _ => le_of_mem_onChannel⟩, hsent,
    fun h => .inl (hlive h)⟩

/-- A request is queued behind the end of the conversation, or not at all. -/
theorem Remains.send (hdisposed : x.course.gateway.disposed = true) (request : Request) :
    Remains x { x with course := x.course.call (.send request) } := by
  rcases x.course.gateway.send_cases request x.course.sent with h | ⟨c, past, hchannels, -, h⟩
  · rw [Course.call_send_of_error h]
    exact .refl hdisposed
  · rw [Course.call_send_of_ok h]
    refine of_current hdisposed ?_ rfl (Nat.le_succ _) fun hlive => ?_
    · rw [hchannels]
      rfl
    · rw [isLive_of_channels hchannels]
      exact hlive

/-- An input reaches the current channel or none. -/
theorem Remains.receive (hl : Lineage config x.course)
    (hdisposed : x.course.gateway.disposed = true) (i : Nat) (input : Channel.Input) :
    Remains x { x with course := x.course.receive i input } := by
  rcases hl.closed_or_current i with hclosed | ⟨c, past, rfl, hchannels, hphase⟩
  · obtain ⟨hreceive, hhappenings⟩ := hl.receive_of_closed hclosed input
    have hx : x.course.receive i input = x.course := by
      simp [Course.receive, hreceive, hhappenings, onChannel]
    rw [hx]
    exact .refl hdisposed
  · have hc : x.course.gateway.channels[0]? = some c := by rw [hchannels]; rfl
    refine of_current ((x.course.gateway.disposed_receive 0 input).trans hdisposed) ?_ rfl
      (Nat.le_refl _) fun _ => ?_
    · rw [Course.receive, receive_of_getElem? hc]
      exact List.length_set
    · rw [isLive_of_channels hchannels]
      simp [Channel.isLive, hphase]

/-- Of a gateway that is disposed of, every act leaves what remains. -/
theorem Remains.act (hl : Lineage config x.course) (hdisposed : x.course.gateway.disposed = true)
    (a : Act) : Remains x (x.act a) := by
  refine Crowd.act_induction (.refl hdisposed) (fun t ht => ?_) (.send hdisposed)
    (.receive hl hdisposed) (fun _ _ _ htasks => .go hdisposed htasks) a
  -- No call begins with what only those do who have seen that the gateway is not disposed of.
  have hfirst : t ≠ .openNext ∧ t.ends = false ∧ t.schedules = false := by
    cases t with
    | launch | force | fire | settle | dispose => exact ⟨by rintro ⟨⟩, rfl, rfl⟩
    | _ => cases ht
  obtain ⟨hopen, hends, hschedules⟩ := hfirst
  refine ⟨hdisposed, Nat.le_refl _, ?_, ?_, ?_, (Remains.refl hdisposed).events_eq, Nat.le_refl _,
    .inl⟩
  · rw [List.count_cons_of_ne hopen]
  · rw [List.countP_cons_of_neg (by simp [hends])]
  · rw [List.countP_cons_of_neg (by simp [hschedules])]

theorem Remains.acts (hl : Lineage config x.course) (hdisposed : x.course.gateway.disposed = true)
    (acts : List Act) : Remains x (x.acts acts) :=
  (Crowd.acts_induction (P := fun y => Lineage config y.course ∧ Remains x y)
    ⟨hl, .refl hdisposed⟩
    (fun _ a ⟨hl, hxy⟩ => ⟨hl.act a, hxy.trans (.act hl hxy.disposed a)⟩) acts).2

/-! ## What is written -/

/-- What happened before the end was asked for stays what it was. -/
theorem Remains.isShut (hxy : Remains x y) (k : Nat)
    (hshut : isShut (ofChannel k x.course.events) = true) :
    Channel.isShut (ofChannel k y.course.events) = true := by
  obtain ⟨more, hmore, -⟩ := hxy.events_eq
  rw [hmore, ofChannel_append, Channel.isShut_append, hshut, Bool.true_or]

/-- A channel that was there at the disposal and is live has its end in the queue or has come to
    it. -/
theorem Disposed.shutdown_mem_or_leaving (hx : Disposed x) (hxy : Remains x y)
    (hl : Lineage config y.course) {c : Channel Nat}
    (hc : c ∈ y.course.gateway.channels.drop
      (y.course.gateway.channels.length - x.course.gateway.channels.length))
    (hlive : c.isLive = true) :
    .shutdown ∈ c.queue ∨ ∃ reached closes, c.stage = .leaving reached closes := by
  have hphase : c.phase ≠ .closed := by simpa [Channel.isLive] using hlive
  obtain ⟨j, hj⟩ := List.getElem?_of_mem hc
  rw [List.getElem?_drop] at hj
  rcases hl.closed_or_current
      (y.course.gateway.channels.length - x.course.gateway.channels.length + j) with
    hclosed | ⟨c', past, hzero, hchannels, -⟩
  · exact absurd (hclosed c hj) hphase
  · -- The current channel is the one that was asked for its end.
    have hlength : y.course.gateway.channels.length = x.course.gateway.channels.length := by
      have := hxy.length_le
      omega
    obtain rfl : c' = c := by
      rw [hzero, hchannels] at hj
      exact Option.some.inj hj
    have hpresent := hl.present
    rw [hchannels] at hpresent
    obtain ⟨taken, posted, htraffic⟩ := hpresent.1.traffic
    have hne : x.course.gateway.channels ≠ [] := by
      rw [← List.length_pos_iff, ← hlength, hchannels]
      exact Nat.succ_pos _
    have hshut := hxy.isShut _ (hx.shut hne)
    rw [← hlength, hchannels] at hshut
    rcases hstage : c'.stage with _ | _ | _ | awaited | ⟨reached, closes⟩ | wasOpen
    case leaving => exact .inr ⟨reached, closes, rfl⟩
    case closed => exact absurd (by rw [Channel.phase, hstage]; rfl) hphase
    all_goals exact .inl ((htraffic.isShut_iff (by rw [hstage]; rfl)).1 hshut)

/-- The events with any number are those of a run of a channel. -/
theorem Lineage.exists_isRun {x : Course} (hl : Lineage config x) (k : Nat) :
    ∃ c t, Channel.IsRun config.channel ⟨c, t, ofChannel k x.events⟩ := by
  rcases hevents : ofChannel k x.events with _ | ⟨e, more⟩
  · exact ⟨.start, .empty, .start⟩
  · have he : e ∈ ofChannel k x.events := by
      rw [hevents]
      exact List.mem_cons_self
    rw [← hevents]
    exact hl.isRun_of_mem (mem_ofChannel_iff.1 he)

/-- What a channel that was there at the disposal may still write was accepted before. -/
theorem Disposed.accepted_unshut_sublist (hx : Disposed x) (hxy : Remains x y) {k : Nat}
    (hk : k < x.course.gateway.channels.length) :
    (accepted (unshut (ofChannel k y.course.events))).Sublist
      (accepted (ofChannel k x.course.events)) := by
  -- Of these channels, only the last one has further events, and it was asked for its end before.
  obtain ⟨more, hmore, hmem⟩ := hxy.events_eq
  rw [hmore, ofChannel_append]
  by_cases hlast : x.course.gateway.channels.length - 1 = k
  · have hne : x.course.gateway.channels ≠ [] := List.length_pos_iff.1 (Nat.zero_lt_of_lt hk)
    rw [← hlast, Channel.unshut_append_of_isShut (hx.shut hne)]
    exact Channel.accepted_unshut_sublist _
  · have hnil : ofChannel k more = [] := ofChannel_eq_nil fun e he => by
      have := hmem e he
      omega
    rw [hnil, List.append_nil]
    exact Channel.accepted_unshut_sublist _

/-- After its handshake, a channel that was there at the disposal writes requests that were
    accepted before. -/
theorem Disposed.exists_written_eq (hx : Disposed x) (hxy : Remains x y)
    (hl : Lineage config y.course) {k : Nat} (hk : k < x.course.gateway.channels.length) :
    ∃ posted : List (Request × Nat), posted.Sublist (accepted (ofChannel k x.course.events)) ∧
      written (ofChannel k y.course.events) =
        (greetings (ofChannel k y.course.events)).map
          (Channel.connectRequest config.channel) ++ posted.map Prod.fst := by
  obtain ⟨c, t, hrun⟩ := hl.exists_isRun k
  obtain ⟨taken, posted, htraffic⟩ := hrun.traffic
  refine ⟨posted, ?_, htraffic.written_eq⟩
  exact (htraffic.posted_sublist.trans htraffic.taken_initial.sublist).trans
    (hx.accepted_unshut_sublist hxy hk)

theorem Lineage.lt_of_accepted {x : Course} (hl : Lineage config x) {k n : Nat}
    {request : Request} (h : (k, .accepted request n) ∈ x.events) : n < x.sent := by
  have hmem : (request, n) ∈ accepted (x.events.map Prod.snd) :=
    Channel.mem_accepted_iff.2 (List.mem_map.2 ⟨_, h, rfl⟩)
  rw [← List.mem_range, ← hl.recipients]
  exact List.mem_map.2 ⟨_, hmem, rfl⟩

/-- No request that is accepted after the disposal becomes pending on such a channel, as it would
    before it is written. -/
theorem Disposed.lt_of_registered (hx : Disposed x) (hlx : Lineage config x.course)
    (hxy : Remains x y) (hl : Lineage config y.course) {k n : Nat} {id : RequestId}
    (hk : k < x.course.gateway.channels.length)
    (h : (k, .registered id n) ∈ y.course.events) : n < x.course.sent := by
  obtain ⟨c, t, hrun⟩ := hl.exists_isRun k
  obtain ⟨taken, posted, htraffic⟩ := hrun.traffic
  have hregistered : (id, n) ∈ registered (ofChannel k y.course.events) :=
    List.mem_filterMap.2 ⟨_, mem_ofChannel_iff.2 h, rfl⟩
  obtain ⟨a, ha, hentry⟩ := List.mem_map.1 (htraffic.registered_sublist.subset hregistered)
  cases hentry
  have hmem := (hx.accepted_unshut_sublist hxy hk).subset (htraffic.taken_initial.subset ha)
  exact hlx.lt_of_accepted (mem_ofChannel_iff.1 (Channel.mem_accepted_iff.1 hmem))

/-- No request that is accepted after the disposal is written on such a channel, if all ids are
    different. -/
theorem Disposed.not_mem_written (hx : Disposed x) (hlx : Lineage config x.course)
    (hxy : Remains x y) (hl : Lineage config y.course)
    (hd : (drawn (y.course.events.map Prod.snd)).Nodup) {j k n : Nat} {request : Request}
    (hk : k < x.course.gateway.channels.length)
    (hmem : (j, .accepted request n) ∈ y.course.events) (hn : x.course.sent ≤ n) :
    (k, .written request) ∉ y.course.events := by
  intro hwritten
  have hnodup : (y.course.events.filterMap fun e => e.2.drawn?).Nodup := by
    rwa [drawn, List.filterMap_map] at hd
  obtain ⟨posted, hposted, heq⟩ := hx.exists_written_eq hxy hl hk
  have hrequest : request ∈ written (ofChannel k y.course.events) :=
    Channel.mem_written_iff.2 (mem_ofChannel_iff.2 hwritten)
  rw [heq, List.mem_append] at hrequest
  rcases hrequest with hgreeting | hpost
  · -- The handshake has an id of its own.
    obtain ⟨id, hid, rfl⟩ := List.mem_map.1 hgreeting
    obtain ⟨e, he, heid⟩ := List.mem_filterMap.1 hid
    have hdrawn : e.drawn? = some id := by
      rcases e with _ | _ | _ | _ | _ | _ | _ | _ <;> cases heid
      rfl
    have := Channel.eq_of_nodup_filterMap hnodup (mem_ofChannel_iff.1 he) hmem hdrawn rfl
    cases this
    cases heid
  · -- A request that was accepted before the disposal has a smaller number.
    obtain ⟨⟨request, m⟩, ha, rfl⟩ := List.mem_map.1 hpost
    have hm : (k, .accepted request m) ∈ x.course.events :=
      mem_ofChannel_iff.1 (Channel.mem_accepted_iff.1 (hposted.subset ha))
    obtain ⟨more, hmore, -⟩ := hxy.events_eq
    have := Channel.eq_of_nodup_filterMap hnodup (hmore ▸ List.mem_append_left _ hm) hmem rfl rfl
    cases this
    exact absurd (hlx.lt_of_accepted hm) (Nat.not_lt.2 hn)

/-! ## From the disposal on -/

/-- A timer that runs after the disposal is about to be stopped by whoever has started it. -/
theorem Disposed.exists_of_isScheduled (hx : Disposed x) (hxy : Remains x y) (hy : Ended y)
    (hscheduled : y.course.gateway.scheduler.isScheduled = true) :
    .recheck ∈ y.tasks ∨ .stopTimer ∈ y.tasks := by
  obtain ⟨t, ht, hstops⟩ := hy hxy.disposed hscheduled
  have hends : t.ends = false := by
    have hfinished := Nat.le_zero.1 (hx.finished ▸ hxy.ending)
    simpa using List.countP_eq_zero.1 hfinished t ht
  rcases Task.stops_iff.1 hstops with rfl | rfl | rfl
  · exact .inl ht
  · exact .inr ht
  · cases hends

/-- Once no channel is live and no one is about to open one, no channel is live any more. -/
theorem Remains.isLive_eq_false (hxy : Remains x y) (hopen : .openNext ∉ x.tasks)
    (hlive : x.course.gateway.isLive = false) : y.course.gateway.isLive = false := by
  rw [← Bool.not_eq_true]
  intro h
  rcases hxy.isLive_or h with h | h
  · rw [hlive] at h
    cases h
  · have hopening := hxy.opening
    rw [List.count_eq_zero.2 hopen] at hopening
    omega

/-- From the end of a disposal on, at every point: a timer runs only until whoever has started it
    looks again; as many at most are about the timer, and as many channels at most are opened, as
    there were callers on their way who had seen before that the gateway is not disposed of; where
    there were none, no timer runs and no channel is opened. A channel that was there and is live
    has the end of the conversation in its queue or has come to it. After its handshake, each of
    these channels writes requests that were accepted before, and none that is accepted later,
    which does not even become pending. Once no channel is live and no one is about to open one,
    none is live any more, and no request can be sent. -/
theorem disposal_interleave (config : Config) (acts more : List Act) {i : Nat}
    (hlast : (interleave config acts).tasks[i]? = some .shutdown) :
    let x := interleave config (acts ++ [.go i])
    let y := x.acts more
    let before := x.course.gateway.channels.length
    let late := y.course.gateway.channels.length - before
    (y.course.gateway.scheduler.isScheduled = true → .recheck ∈ y.tasks ∨ .stopTimer ∈ y.tasks) ∧
    y.tasks.countP Task.schedules ≤ x.tasks.countP Task.schedules ∧
    before ≤ y.course.gateway.channels.length ∧
    late + y.tasks.count .openNext ≤ x.tasks.count .openNext ∧
    ((∀ t ∈ x.tasks, t ≠ .openNext ∧ t.schedules = false) →
      y.course.gateway.scheduler.isScheduled = false ∧ late = 0) ∧
    (∀ c ∈ y.course.gateway.channels.drop late, c.isLive = true →
      .shutdown ∈ c.queue ∨ ∃ reached closes, c.stage = .leaving reached closes) ∧
    (∀ k < before, ∃ posted : List (Request × Nat),
      posted.Sublist (accepted (ofChannel k x.course.events)) ∧
      written (ofChannel k y.course.events) =
        (greetings (ofChannel k y.course.events)).map
          (Channel.connectRequest config.channel) ++ posted.map Prod.fst) ∧
    (∀ k < before, ∀ id n, (k, .registered id n) ∈ y.course.events → n < x.course.sent) ∧
    ((drawn (y.course.events.map Prod.snd)).Nodup → ∀ k < before, ∀ j n request,
      (j, .accepted request n) ∈ y.course.events → x.course.sent ≤ n →
        (k, .written request) ∉ y.course.events) ∧
    (.openNext ∉ y.tasks → y.course.gateway.isLive = false → ∀ later,
      (y.acts later).course.gateway.isLive = false ∧ ∀ request recipient,
        (y.acts later).course.gateway.send request recipient = .error .notConnected) := by
  intro x y before late
  have hx : Disposed x := by
    show Disposed (interleave config (acts ++ [.go i]))
    rw [interleave_append]
    exact .of_shutdown (single_interleave config acts) hlast
  have hlx : Lineage config x.course := lineage_interleave config _
  have hy : y = interleave config (acts ++ [.go i] ++ more) := (interleave_append ..).symm
  have hly : Lineage config y.course := hy ▸ lineage_interleave config _
  have hended : Ended y := hy ▸ ended_interleave config _
  have hxy : Remains x y := .acts hlx hx.disposed more
  have hopening : late + y.tasks.count .openNext ≤ x.tasks.count .openNext := by
    have hopening := hxy.opening
    have hlength := hxy.length_le
    omega
  refine ⟨hx.exists_of_isScheduled hxy hended, hxy.scheduling, hxy.length_le, hopening,
    fun hnone => ⟨?_, ?_⟩, fun c hc hlive => hx.shutdown_mem_or_leaving hxy hly hc hlive,
    fun k hk => hx.exists_written_eq hxy hly hk,
    fun k hk id n h => hx.lt_of_registered hlx hxy hly hk h,
    fun hd k hk j n request hmem hn => hx.not_mem_written hlx hxy hly hd hk hmem hn,
    fun hopen hlive later => ?_⟩
  · -- No one is about the timer, so no one has started it.
    have hschedules : y.tasks.countP Task.schedules = 0 := by
      refine Nat.le_zero.1 (hxy.scheduling.trans_eq (List.countP_eq_zero.2 fun t ht => ?_))
      rw [(hnone t ht).2]
      exact Bool.false_ne_true
    rw [List.countP_eq_zero] at hschedules
    rw [← Bool.not_eq_true]
    intro hscheduled
    rcases hx.exists_of_isScheduled hxy hended hscheduled with h | h
    · exact hschedules _ h rfl
    · exact hschedules _ h rfl
  · have : x.tasks.count .openNext = 0 :=
      List.count_eq_zero.2 fun h => (hnone _ h).1 rfl
    omega
  · have hlater : (y.acts later).course.gateway.isLive = false :=
      Remains.isLive_eq_false (.acts hly hxy.disposed later) hopen hlive
    exact ⟨hlater, send_of_not_isLive hlater⟩

/-- A request that comes too late. -/
def belated : Request := ⟨⟨"2"⟩, "health", none⟩

/-- A gateway with an open channel, which a disposal is about to ask for its end. -/
def disposing : List Act :=
  [.enter .launch, .go 0, .go 0, .go 0, .go 0] ++ accepting.map (.receive 0) ++
    [.enter .dispose, .go 0, .go 0]

/-- A request that is sent after that is queued and not written. -/
theorem not_mem_written_of_disposing :
    let x := interleave .loopback (disposing ++ [.go 0])
    let y := x.acts [.send belated, .receive 0 (.command true), .receive 0 .finish]
    (interleave .loopback disposing).tasks[0]? = some .shutdown ∧
    x.course.gateway.isOpen = true ∧ (0, .accepted belated 0) ∈ y.course.events ∧
    (0, .written belated) ∉ y.course.events ∧
    y.course.gateway.send belated 1 = .error .notConnected := by
  intro x y
  have hlast : (interleave .loopback disposing).tasks[0]? = some .shutdown := by decide +kernel
  have hmem : (0, .accepted belated 0) ∈ y.course.events := by
    rw [← mem_ofChannel_iff, ← Channel.mem_accepted_iff]
    decide +kernel
  have hdrawn : (drawn (y.course.events.map Prod.snd)).Nodup := by decide +kernel
  obtain ⟨-, -, -, -, -, -, -, -, hwritten, hlater⟩ := disposal_interleave .loopback disposing
    [.send belated, .receive 0 (.command true), .receive 0 .finish] hlast
  refine ⟨hlast, by decide +kernel, hmem, ?_, ?_⟩
  · exact hwritten hdrawn 0 (by decide +kernel) 0 0 belated hmem (by decide +kernel)
  · exact (hlater (by decide +kernel) (by decide +kernel) []).2 belated 1

/-- A launch that has seen that the gateway is not disposed of when a disposal begins. -/
def overtaken : List Act :=
  [.enter .launch, .go 0, .go 0, .go 0, .enter .dispose, .go 0, .go 0]

/-- When the disposal is over, this launch opens its channel, which no one asks for its end: the
    handshake is accepted, and a request is written. -/
theorem isOpen_of_overtaken :
    let x := interleave .loopback (overtaken ++ [.go 0])
    let y := x.acts (.go 0 :: accepting.map (.receive 0) ++
      [.send belated, .receive 0 (.command true)])
    (interleave .loopback overtaken).tasks = [.shutdown, .openNext] ∧
    x.course.gateway.disposed = true ∧ x.course.gateway.channels = [] ∧
    y.course.gateway.isOpen = true ∧ (∀ c ∈ y.course.gateway.channels, c.queue = []) ∧
    (0, .accepted belated 0) ∈ y.course.events ∧ (0, .written belated) ∈ y.course.events := by
  intro x y
  refine ⟨by decide +kernel, by decide +kernel, by decide +kernel, by decide +kernel,
    by decide +kernel, ?_, ?_⟩
  · rw [← mem_ofChannel_iff, ← Channel.mem_accepted_iff]
    decide +kernel
  · rw [← mem_ofChannel_iff, ← Channel.mem_written_iff]
    decide +kernel

end Gateway

end Tether
