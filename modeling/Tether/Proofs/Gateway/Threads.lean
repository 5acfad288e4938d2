import Tether.Proofs.Gateway.Healing
import Tether.Proofs.Gateway.Walk

/-!
# Calls from several threads

Callers may be on several threads, and so are a timer that runs down and what follows a notice.
Each of them accesses what they share several times, and others may come in between: a gateway may
be disposed of after someone has seen that it is not. What follows a notice may begin at any time
here, and so may a timer, so all orders are among these that there can be.

* `Task`: what a call that is under way does next. It is one access to what is shared;
* `Course.access`: the course after the access, and what the call does then;
* `Crowd`: a gateway in the course of a run, with all calls that are under way;
* `interleave`: the crowd after a list of acts, in which calls begin and go on in any order;
* `Course.disposed_access` and the like: what an access can change;
* `lineage_interleave`: what is known of the channels of a gateway does not depend on the order;
* `exists_interleave_eq_walk`: where no call is disturbed by others, this is a walk.

A request is sent by one act, since only the last access of the call changes anything.
-/

namespace Tether.Gateway

/-- What a call that is under way does next. -/
inductive Task
  /-- A launch looks whether the gateway is disposed of. -/
  | launch
  /-- A launch marks the gateway as launched, and looks whether it was. -/
  | mark
  /-- A forced reconnect looks whether the gateway has been launched. -/
  | force
  /-- A forced reconnect looks whether the gateway is disposed of. -/
  | forceKept
  /-- A forced reconnect looks whether a channel is live. -/
  | forceIdle
  /-- A forced reconnect stops the timer. -/
  | forceNow
  /-- The timer of the generation runs down. -/
  | fire (generation : Nat)
  /-- Whoever wants a channel looks whether the gateway is disposed of. -/
  | connect
  /-- Whoever has found that it is not opens a channel, unless there is a live one. -/
  | openNext
  /-- A notice that the socket is gone has been passed on; who did looks whether the gateway is
      disposed of. -/
  | settle
  /-- Whoever has found that it is not starts the timer. -/
  | startTimer
  /-- Whoever has started the timer looks again whether the gateway is disposed of. -/
  | recheck
  /-- Whoever has found that it is stops the timer. -/
  | stopTimer
  /-- A disposal marks the gateway as disposed of, and looks whether it was. -/
  | dispose
  /-- A disposal stops the timer. -/
  | halt
  /-- A disposal asks the current channel for the end of its conversation. -/
  | shutdown
  deriving DecidableEq

/-- Whether a call begins with this. -/
def Task.isFirst : Task → Bool
  | launch | force | fire _ | settle | dispose => true
  | _ => false

/-- The course after the access of a call, and what the call does then. -/
def Course.access (x : Course) : Task → Course × Option Task
  | .launch => (x, if x.gateway.disposed then none else some .mark)
  | .mark =>
    ({ x with gateway := { x.gateway with launched := true } },
      if x.gateway.launched then none else some .connect)
  | .force => (x, if x.gateway.launched then some .forceKept else none)
  | .forceKept => (x, if x.gateway.disposed then none else some .forceIdle)
  | .forceIdle => (x, if x.gateway.isLive then none else some .forceNow)
  | .forceNow =>
    ({ x with gateway := { x.gateway with scheduler := x.gateway.scheduler.force } },
      some .connect)
  | .fire generation =>
    let (scheduler, retry) := x.gateway.scheduler.expire generation
    ({ x with gateway := { x.gateway with scheduler } }, retry.map fun _ => .connect)
  | .connect => (x, if x.gateway.disposed then none else some .openNext)
  | .openNext => ({ x with gateway := x.gateway.openNext }, none)
  | .settle => (x, if x.gateway.disposed then none else some .startTimer)
  | .startTimer => ({ x with gateway := x.gateway.startTimer }, some .recheck)
  | .recheck => (x, if x.gateway.disposed then some .stopTimer else none)
  | .stopTimer => ({ x with gateway := x.gateway.stopTimer }, none)
  | .dispose =>
    ({ x with gateway := { x.gateway with disposed := true } },
      if x.gateway.disposed then none else some .halt)
  | .halt => ({ x with gateway := x.gateway.stopTimer }, some .shutdown)
  | .shutdown => (x.shutdown, none)

/-- A gateway in the course of a run, with what the calls that are under way do next. -/
structure Crowd where
  course : Course
  tasks : List Task

/-- What may happen next. -/
inductive Act
  /-- A call begins, if this is what one begins with. -/
  | enter (t : Task)
  /-- A caller sends a request. -/
  | send (request : Request)
  /-- An input reaches the channel with the index. -/
  | receive (i : Nat) (input : Channel.Input)
  /-- The call with the index goes on. -/
  | go (i : Nat)
  deriving DecidableEq

/-- The crowd with the next act. -/
def Crowd.act (z : Crowd) : Act → Crowd
  | .enter t => if t.isFirst then { z with tasks := t :: z.tasks } else z
  | .send request => { z with course := z.course.call (.send request) }
  | .receive i input => { z with course := z.course.receive i input }
  | .go i =>
    match z.tasks[i]? with
    | none => z
    | some t =>
      let (course, next) := z.course.access t
      ⟨course, z.tasks.take i ++ next.toList ++ z.tasks.drop (i + 1)⟩

/-- The crowd after the acts. -/
def Crowd.acts (z : Crowd) (acts : List Act) : Crowd := acts.foldl act z

/-- The crowd after the acts, from the start of a run on. -/
def interleave (config : Config) (acts : List Act) : Crowd := Crowd.acts ⟨.start config, []⟩ acts

theorem interleave_append (config : Config) (acts more : List Act) :
    interleave config (acts ++ more) = (interleave config acts).acts more :=
  List.foldl_append

namespace Crowd

/-- A call goes on by its access, and all others stay where they are. -/
theorem act_go {z : Crowd} {i : Nat} {t : Task} (h : z.tasks[i]? = some t) :
    z.act (.go i) = ⟨(z.course.access t).1,
      z.tasks.take i ++ (z.course.access t).2.toList ++ z.tasks.drop (i + 1)⟩ := by
  simp only [act, h]

/-- What is kept when a call begins, by a request, by an input and by every access is kept by all
    acts. -/
theorem act_induction {P : Crowd → Prop} {z : Crowd} (hz : P z)
    (enter : ∀ t, t.isFirst = true → P { z with tasks := t :: z.tasks })
    (send : ∀ request, P { z with course := z.course.call (.send request) })
    (receive : ∀ i input, P { z with course := z.course.receive i input })
    (go : ∀ before t after, z.tasks = before ++ t :: after →
      P ⟨(z.course.access t).1, before ++ (z.course.access t).2.toList ++ after⟩)
    (a : Act) : P (z.act a) := by
  rcases a with t | request | ⟨i, input⟩ | i
  · rw [act]
    split
    · exact enter t ‹_›
    · exact hz
  · exact send request
  · exact receive i input
  · cases h : z.tasks[i]? with
    | none =>
      simp only [act, h]
      exact hz
    | some t =>
      obtain ⟨hi, rfl⟩ := List.getElem?_eq_some_iff.1 h
      rw [act_go h]
      refine go _ _ _ ?_
      rw [List.getElem_cons_drop, List.take_append_drop]

/-- What every act keeps holds after all acts. -/
theorem acts_induction {P : Crowd → Prop} {z : Crowd} (hz : P z) (act : ∀ z a, P z → P (z.act a))
    (acts : List Act) : P (z.acts acts) := by
  induction acts generalizing z with
  | nil => exact hz
  | cons a acts ih => exact ih (act z a hz)

end Crowd

/-! ## What an access can change -/

/-- What happens on the last channel happens on none before it. -/
theorem le_of_mem_onChannel {n : Nat} {h : List (Channel.Event Nat)}
    {e : Nat × Channel.Event Nat} (he : e ∈ onChannel (n - 1) h) : n ≤ e.1 + 1 := by
  obtain ⟨e', -, rfl⟩ := List.mem_map.1 he
  exact Nat.le_add_of_sub_le (Nat.le_refl _)

namespace Course

variable (x : Course)

/-- Only a disposal disposes of a gateway. -/
theorem disposed_access (t : Task) :
    (x.access t).1.gateway.disposed = (x.gateway.disposed || decide (t = .dispose)) := by
  cases t with
  | openNext =>
    rcases x.gateway.openNext_cases with ⟨-, h⟩ | ⟨-, h⟩ <;> simp [access, h]
  | _ => simp [access, startTimer, stopTimer, shutdown, Gateway.shutdown]

/-- Only an access that starts the timer makes it run. -/
theorem isScheduled_of_access {t : Task}
    (h : (x.access t).1.gateway.scheduler.isScheduled = true) :
    t = .startTimer ∨ x.gateway.scheduler.isScheduled = true ∧ t ≠ .stopTimer ∧ t ≠ .halt := by
  cases t with
  | startTimer => exact .inl rfl
  | forceNow | stopTimer | halt => cases h
  | openNext =>
    refine .inr ⟨?_, by simp, by simp⟩
    rcases x.gateway.openNext_cases with ⟨-, hopen⟩ | ⟨-, hopen⟩ <;> rwa [access, hopen] at h
  | fire generation =>
    refine .inr ⟨?_, by simp, by simp⟩
    rw [access, Backoff.Scheduler.expire] at h
    rcases htimer : x.gateway.scheduler.timer with _ | t
    · simp [htimer, Backoff.Scheduler.isScheduled] at h
    · rw [Backoff.Scheduler.isScheduled, htimer]
      rfl
  | _ => exact .inr ⟨h, by simp, by simp⟩

/-- Only whoever opens a channel adds one. -/
theorem length_access (t : Task) :
    x.gateway.channels.length ≤ (x.access t).1.gateway.channels.length ∧
      (x.access t).1.gateway.channels.length ≤
        x.gateway.channels.length + if t = .openNext then 1 else 0 := by
  cases t with
  | openNext =>
    rcases x.gateway.openNext_cases with ⟨-, h⟩ | ⟨-, h⟩ <;> simp [access, h]
  | _ => simp [access, startTimer, stopTimer, shutdown, Gateway.shutdown]

/-- No access makes a channel live but the one that opens it. -/
theorem isLive_of_access {t : Task} (h : (x.access t).1.gateway.isLive = true) :
    x.gateway.isLive = true ∨
      x.gateway.channels.length < (x.access t).1.gateway.channels.length := by
  cases t with
  | openNext =>
    rcases x.gateway.openNext_cases with ⟨hlive, -⟩ | ⟨-, hopen⟩
    · exact .inl hlive
    · right
      rw [access, hopen]
      exact Nat.lt_succ_self _
  | shutdown =>
    left
    rw [access, shutdown, Gateway.shutdown, Gateway.isLive, phase_modifyHead_shutdown] at h
    exact h
  | _ => exact .inl h

/-- What happens on a channel with an access happens on the current one. -/
theorem events_access (t : Task) :
    (x.access t).1.sent = x.sent ∧ ∃ more, (x.access t).1.events = x.events ++ more ∧
      ∀ e ∈ more, x.gateway.channels.length ≤ e.1 + 1 := by
  cases t with
  | shutdown =>
    refine ⟨rfl, _, rfl, fun e he => ?_⟩
    split at he
    · cases he
    · exact le_of_mem_onChannel he
  | _ => exact ⟨rfl, [], (List.append_nil _).symm, fun _ he => absurd he List.not_mem_nil⟩

end Course

/-! ## The channels -/

variable {config : Config} {x : Course}

theorem Lineage.access (hx : Lineage config x) (t : Task) : Lineage config (x.access t).1 := by
  cases t with
  | openNext => exact hx.openNext
  | shutdown => exact hx.shutdown
  | _ => exact hx.of_gateway rfl rfl rfl

theorem Lineage.act {z : Crowd} (hz : Lineage config z.course) (a : Act) :
    Lineage config (z.act a).course :=
  Crowd.act_induction (P := fun z => Lineage config z.course) hz (fun _ _ => hz)
    (fun request => hz.call (.send request)) (fun i input => hz.receive i input)
    (fun _ t _ _ => hz.access t) a

theorem lineage_interleave (config : Config) (acts : List Act) :
    Lineage config (interleave config acts).course :=
  Crowd.acts_induction (P := fun z => Lineage config z.course) (.start config)
    (fun _ a hz => hz.act a) acts

/-! ## Without disturbance -/

/-- Whether a crowd may come to be another one. -/
def Crowd.Leads (z z' : Crowd) : Prop := ∃ acts, z.acts acts = z'

namespace Crowd.Leads

variable {z z' z'' : Crowd}

theorem refl (z : Crowd) : Leads z z := ⟨[], rfl⟩

theorem trans (h : Leads z z') (h' : Leads z' z'') : Leads z z'' := by
  obtain ⟨acts, rfl⟩ := h
  obtain ⟨more, rfl⟩ := h'
  exact ⟨acts ++ more, List.foldl_append⟩

theorem enter (x : Course) {t : Task} (h : t.isFirst = true) : Leads ⟨x, []⟩ ⟨x, [t]⟩ :=
  ⟨[.enter t], by rw [acts, List.foldl_cons, act, if_pos h]; rfl⟩

theorem access (x : Course) (t : Task) :
    Leads ⟨x, [t]⟩ ⟨(x.access t).1, (x.access t).2.toList⟩ :=
  ⟨[.go 0], by rw [acts, List.foldl_cons, act_go rfl]; simp⟩

/-- An access by which the call goes on. -/
theorem of_access {t u : Task} {y : Course} (h : x.access t = (y, some u))
    (h' : Leads ⟨y, [u]⟩ z) : Leads ⟨x, [t]⟩ z := by
  have := access x t
  rw [h] at this
  exact this.trans h'

/-- The last access of a call. -/
theorem of_last {t : Task} {y : Course} (h : x.access t = (y, none)) : Leads ⟨x, [t]⟩ ⟨y, []⟩ := by
  have := access x t
  rwa [h] at this

theorem connect (x : Course) :
    Leads ⟨x, [.connect]⟩ ⟨{ x with gateway := x.gateway.connect }, []⟩ := by
  rw [Gateway.connect]
  split
  · exact .of_last (by rw [Course.access, if_pos ‹_›])
  · exact .of_access (by rw [Course.access, if_neg ‹_›]) (.of_last rfl)

theorem launch (x : Course) : Leads ⟨x, []⟩ ⟨x.call .launch, []⟩ := by
  refine (enter x (t := .launch) rfl).trans ?_
  rw [Course.call]
  rcases x.gateway.launch_cases with ⟨h, hlaunch⟩ | ⟨hdisposed, hlaunched, hlaunch⟩
  · rw [hlaunch]
    by_cases hdisposed : x.gateway.disposed = true
    · exact .of_last (by rw [Course.access, if_pos hdisposed])
    · have hlaunched := h.resolve_left hdisposed
      refine .of_access (u := .mark) (by rw [Course.access, if_neg hdisposed]) (.of_last ?_)
      rw [Course.access, if_pos hlaunched, ← hlaunched]
  · rw [hlaunch]
    exact .of_access (u := .mark) (by rw [Course.access, hdisposed]; rfl)
      (.of_access (by rw [Course.access, hlaunched]; rfl) (connect _))

theorem forceReconnect (x : Course) : Leads ⟨x, []⟩ ⟨x.call .forceReconnect, []⟩ := by
  refine (enter x (t := .force) rfl).trans ?_
  rw [Course.call]
  rcases x.gateway.forceReconnect_cases with ⟨h, hforce⟩ | ⟨hlaunched, hdisposed, hlive, hforce⟩
  · rw [hforce]
    by_cases hlaunched : x.gateway.launched = true
    · refine .of_access (u := .forceKept) (by rw [Course.access, if_pos hlaunched]) ?_
      by_cases hdisposed : x.gateway.disposed = true
      · exact .of_last (by rw [Course.access, if_pos hdisposed])
      · have hlive := (h.resolve_left (by simp [hlaunched])).resolve_left hdisposed
        exact .of_access (u := .forceIdle) (by rw [Course.access, if_neg hdisposed])
          (.of_last (by rw [Course.access, if_pos hlive]))
    · exact .of_last (by rw [Course.access, if_neg hlaunched])
  · rw [hforce]
    exact .of_access (u := .forceKept) (by rw [Course.access, hlaunched]; rfl)
      (.of_access (u := .forceIdle) (by rw [Course.access, hdisposed]; rfl)
        (.of_access (u := .forceNow) (by rw [Course.access, hlive]; rfl)
          (.of_access rfl (connect _))))

theorem dispose (x : Course) : Leads ⟨x, []⟩ ⟨x.call .dispose, []⟩ := by
  refine (enter x (t := .dispose) rfl).trans ?_
  by_cases hdisposed : x.gateway.disposed = true
  · rw [Course.call_dispose_of_disposed hdisposed]
    refine .of_last ?_
    rw [Course.access, if_pos hdisposed, ← hdisposed]
  · rw [Course.call_dispose_of_not_disposed (by simpa using hdisposed)]
    exact .of_access (u := .halt) (by rw [Course.access, if_neg hdisposed])
      (.of_access rfl (.of_last rfl))

theorem settle (x : Course) (notice : Channel.Notice) :
    Leads ⟨x, []⟩ ⟨x.settle notice, []⟩ := by
  rw [Course.settle]
  rcases x.gateway.settle_cases notice with ⟨-, hsettle⟩ | ⟨-, -, hdisposed, hsettle⟩
  · rw [hsettle]
    exact refl _
  · rw [hsettle]
    refine (enter x (t := .settle) rfl).trans ?_
    have hkept : ¬ x.gateway.startTimer.disposed = true := by simp [startTimer, hdisposed]
    exact .of_access (u := .startTimer) (by rw [Course.access, hdisposed]; rfl)
      (.of_access rfl (.of_last (by rw [Course.access, if_neg hkept]; rfl)))

theorem expire (x : Course) (generation : Nat) :
    Leads ⟨x, []⟩ ⟨x.expire generation, []⟩ := by
  refine (enter x (t := .fire generation) rfl).trans ?_
  rw [Course.expire, Gateway.expire]
  rcases hexpire : x.gateway.scheduler.expire generation with ⟨scheduler, _ | _⟩
  · exact .of_last (by rw [Course.access, hexpire]; rfl)
  · exact .of_access (by rw [Course.access, hexpire]; rfl) (connect _)

theorem part (x : Course) (p : Part) : Leads ⟨x, []⟩ ⟨x.part p, []⟩ := by
  rcases p with (_ | request | _ | _) | ⟨i, input⟩ | notice | generation
  · exact launch x
  · exact ⟨[.send request], rfl⟩
  · exact forceReconnect x
  · exact dispose x
  · exact ⟨[.receive i input], rfl⟩
  · exact settle x notice
  · exact expire x generation

end Crowd.Leads

/-- Where no call is disturbed by others, the acts make a walk. -/
theorem exists_interleave_eq_walk (config : Config) (parts : List Part) :
    ∃ acts, interleave config acts = ⟨(Course.start config).walk parts, []⟩ :=
  Course.walk_induction (P := fun x => Crowd.Leads ⟨.start config, []⟩ ⟨x, []⟩) (.refl _)
    (fun x p h => h.trans (.part x p)) parts

end Tether.Gateway
