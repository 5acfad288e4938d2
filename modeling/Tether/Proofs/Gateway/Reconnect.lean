import Tether.Proofs.Gateway.Disposal

/-!
# What follows the end of a channel

When a channel has closed, the handler is told, and may make calls; then the timer for the
next channel is started, unless the gateway is disposed of. Whether the handler has opened
the next channel itself is not looked at: if it has, the timer runs behind a live channel.
In a run that is the only way to such a timer, and without it the delay starts over with an
accepted handshake and stays at the start up to the end of the channel. In a walk there is
another way, as anyone may call between the end of the channel and the start of the timer.

* `reopens`: whether the calls of the handler open the next channel;
* `Keeps`: what a call does to the current channel and the timer, unless it opens a channel;
* `closed_run`: after a channel has closed;
* `Calm`: the invariant of a channel behind which no timer runs;
* `reconnect_run`: the two together, in the course of a run.
-/

namespace Tether

/-- A channel is open after a step if it was open or says that it is now. -/
theorem Channel.opened_of_step {κ : Type} {config : Channel.Config} {t : Pending.Table κ}
    {c : Channel κ} {input : Channel.Input} {o : Channel.Outcome κ}
    (h : Channel.Step config t c input o) (ho : o.channel.phase = .opened) :
    c.phase = .opened ∨ ∃ hello, o.notice = some (.connected hello) := by
  cases h with
  | accepted _ _ _ _ => exact .inr ⟨_, rfl⟩
  | begun | dialed | greeted | finished => cases ho
  | _ => exact .inl ho

namespace Gateway

variable {config : Config} {x y : Course} {n : Nat}

/-! ## Calls -/

/-- Whether the calls open the next channel, where none is live: whether a reconnect is
    forced before the gateway is disposed of. -/
def reopens : List Call → Bool
  | [] => false
  | .forceReconnect :: _ => true
  | .dispose :: _ => false
  | _ :: calls => reopens calls

/-- What a call can do to the current channel and to the timer: it opens a channel, or it
    leaves the phase of the current one and the delay as they are, and starts no timer. -/
structure Keeps (g g' : Gateway Nat) : Prop where
  length_eq : g'.channels.length = g.channels.length
  phase_eq : g'.phase = g.phase
  delay_eq : g'.scheduler.delay = g.scheduler.delay
  isScheduled_of : g'.scheduler.isScheduled = true → g.scheduler.isScheduled = true

theorem Keeps.refl (g : Gateway Nat) : Keeps g g := ⟨rfl, rfl, rfl, id⟩

theorem connect_keeps (g : Gateway Nat) :
    g.connect.channels.length = g.channels.length + 1 ∨ Keeps g g.connect := by
  rcases g.connect_cases with ⟨-, h⟩ | ⟨-, -, h⟩
  · rw [h]
    exact .inr (.refl g)
  · rw [h]
    exact .inl rfl

theorem forceReconnect_of_not_isLive {g : Gateway Nat} (hlaunched : g.launched = true)
    (hdisposed : g.disposed = false) (hlive : g.isLive = false) :
    g.forceReconnect =
      { g with scheduler := g.scheduler.force, channels := .start :: g.channels } := by
  rw [forceReconnect, if_neg (by simp [hlaunched, hdisposed, hlive])]
  exact connect_of_not_isLive hdisposed hlive

theorem Course.call_keeps (x : Course) (c : Call) :
    (x.call c).gateway.channels.length = x.gateway.channels.length + 1 ∨
      Keeps x.gateway (x.call c).gateway := by
  rcases c with _ | request | _ | _
  · rcases x.gateway.launch_cases with ⟨-, h⟩ | ⟨-, -, h⟩
    · rw [call, h]
      exact .inr (.refl _)
    · rw [call, h]
      exact (connect_keeps _).imp_right fun hk => ⟨hk.1, hk.2, hk.3, hk.4⟩
  · rcases x.gateway.send_cases request x.sent with h | ⟨c, past, hchannels, -, h⟩
    · rw [call_send_of_error h]
      exact .inr (.refl _)
    · rw [call_send_of_ok h]
      refine .inr ⟨?_, ?_, rfl, id⟩
      · rw [hchannels]
        rfl
      · rw [Gateway.phase, Gateway.phase, current?, current?, hchannels]
        rfl
  · rcases x.gateway.forceReconnect_cases with ⟨-, h⟩ | ⟨hlaunched, hdisposed, hlive, -⟩
    · rw [call, h]
      exact .inr (.refl _)
    · rw [call, forceReconnect_of_not_isLive hlaunched hdisposed hlive]
      exact .inl rfl
  · rcases x.gateway.dispose_cases with ⟨-, h⟩ | ⟨-, h⟩
    · rw [call, h]
      exact .inr (.refl _)
    · rw [call, h]
      exact .inr ⟨List.length_modifyHead, phase_modifyHead_shutdown _, rfl, by rintro ⟨⟩⟩

/-- After the launch, a call makes a channel live only by forcing a reconnect. -/
theorem Course.isLive_call {x : Course} (hlaunched : x.gateway.launched = true) (c : Call) :
    (x.call c).gateway.launched = true ∧
      (x.call c).gateway.isLive =
        (x.gateway.isLive || (!x.gateway.disposed && decide (c = .forceReconnect))) := by
  rcases c with _ | request | _ | _
  · rcases x.gateway.launch_cases with ⟨-, h⟩ | ⟨-, h, -⟩
    · simp [call, h, hlaunched]
    · simp [hlaunched] at h
  · rcases x.gateway.send_cases request x.sent with h | ⟨c, past, hchannels, -, h⟩
    · simp [call_send_of_error h, hlaunched]
    · rw [call_send_of_ok h, isLive_of_channels hchannels, isLive_of_channels rfl]
      simp only [hlaunched, reduceCtorEq, decide_false, Bool.and_false, Bool.or_false, true_and]
      rfl
  · rcases x.gateway.forceReconnect_cases with ⟨hskip, h⟩ | ⟨-, hdisposed, hlive, -⟩
    · rw [call, h]
      rcases hskip with hskip | hskip | hskip
      · rw [hlaunched] at hskip
        cases hskip
      · simp [hskip, hlaunched]
      · simp [hskip, hlaunched]
    · rw [call, forceReconnect_of_not_isLive hlaunched hdisposed hlive, hdisposed]
      exact ⟨hlaunched, (Bool.or_true _).symm⟩
  · rcases x.gateway.dispose_cases with ⟨-, h⟩ | ⟨-, h⟩
    · simp [call, h, hlaunched]
    · rw [call, h]
      refine ⟨hlaunched, ?_⟩
      simp only [reduceCtorEq, decide_false, Bool.and_false, Bool.or_false]
      exact congrArg (fun p => decide (p ≠ Channel.Phase.closed)) (phase_modifyHead_shutdown _)

theorem Course.foldl_call_launched {x : Course} (hlaunched : x.gateway.launched = true)
    (calls : List Call) :
    (calls.foldl call x).gateway.disposed =
        (x.gateway.disposed || decide (.dispose ∈ calls)) ∧
      (calls.foldl call x).gateway.isLive =
        (x.gateway.isLive || (!x.gateway.disposed && reopens calls)) := by
  induction calls generalizing x with
  | nil => simp [reopens]
  | cons c calls ih =>
    obtain ⟨hlaunched', hlive⟩ := x.isLive_call hlaunched c
    obtain ⟨hdisposed, hlive'⟩ := ih hlaunched'
    rw [List.foldl_cons, hdisposed, hlive', hlive, x.disposed_call]
    rcases c with _ | request | _ | _
    · simp [reopens]
    · simp [reopens]
    · cases x.gateway.disposed <;> simp [reopens]
    · simp [reopens]

/-! ## The end of a channel -/

/-- Only the current channel can say that it has closed, and then no channel is live. -/
theorem Lineage.isLive_of_closed_notice (hl : Lineage config x) {i : Nat} {input : Channel.Input}
    {wasOpen : Bool} (h : (x.gateway.receive i input).2.notice = some (.closed wasOpen)) :
    x.gateway.channels ≠ [] ∧ (x.receive i input).gateway.isLive = false := by
  rcases hl.closed_or_current i with hclosed | ⟨c, past, rfl, hchannels, hphase⟩
  · rw [(hl.receive_of_closed hclosed input).1, Channel.Effects.notice_nil] at h
    cases h
  · have hpresent := hl.present
    rw [hchannels] at hpresent
    have hc : x.gateway.channels[0]? = some c := by rw [hchannels]; rfl
    have hclosed := hpresent.1.lifecycle.phase_eq_closed_iff_notice
      (Channel.step_receive x.gateway.config.channel _ _ input) hphase
    have hreceive := receive_of_getElem? hc input
    rw [hreceive] at h
    refine ⟨by simp [hchannels], ?_⟩
    rw [Course.receive, hreceive, hchannels]
    rw [isLive_of_channels rfl]
    simpa [Channel.isLive] using hclosed.2 ⟨wasOpen, h⟩

/-- Before the launch there is no channel and no timer. -/
def Idle (x : Course) : Prop :=
  x.gateway.launched = false →
    x.gateway.channels = [] ∧ x.gateway.scheduler.isScheduled = false

theorem Course.launched_receive (x : Course) (i : Nat) (input : Channel.Input) :
    (x.receive i input).gateway.launched = x.gateway.launched := by
  rw [receive, Gateway.receive]
  split <;> rfl

theorem launched_step (hlaunched : x.gateway.launched = true) (m : Move) :
    (x.step m).gateway.launched = true := by
  refine Course.step_induction (P := fun x => x.gateway.launched = true) hlaunched
    (fun _ c h => (Course.isLive_call h c).1)
    (fun y i input h => (y.launched_receive i input).trans h)
    (fun y notice h => ?_) (fun y generation h => ?_) m
  · rcases y.gateway.settle_cases notice with ⟨-, hs⟩ | ⟨-, -, -, hs⟩ <;>
      rwa [Course.settle, hs]
  · rcases y.gateway.expire_cases generation with hs | ⟨t, -, -, hs⟩
    · rwa [Course.expire, hs]
    · rw [Course.expire, hs]
      exact (launched_connect _).trans h

theorem Idle.call (hx : Idle x) (c : Call) : Idle (x.call c) := by
  intro h
  rcases hlaunched : x.gateway.launched with _ | _
  · obtain ⟨hchannels, hscheduled⟩ := hx hlaunched
    rcases c with _ | request | _ | _
    · rcases x.gateway.launch_cases with ⟨-, hs⟩ | ⟨-, -, hs⟩
      · rw [Course.call, hs]
        exact ⟨hchannels, hscheduled⟩
      · rw [Course.call, hs, launched_connect] at h
        cases h
    · rcases x.gateway.send_cases request x.sent with hs | ⟨c, past, hc, -⟩
      · rw [Course.call_send_of_error hs]
        exact ⟨hchannels, hscheduled⟩
      · rw [hchannels] at hc
        cases hc
    · rcases x.gateway.forceReconnect_cases with ⟨-, hs⟩ | ⟨hs, -⟩
      · rw [Course.call, hs]
        exact ⟨hchannels, hscheduled⟩
      · rw [hlaunched] at hs
        cases hs
    · rcases x.gateway.dispose_cases with ⟨-, hs⟩ | ⟨-, hs⟩
      · rw [Course.call, hs]
        exact ⟨hchannels, hscheduled⟩
      · rw [Course.call, hs, hchannels]
        exact ⟨rfl, rfl⟩
  · rw [(Course.isLive_call hlaunched c).1] at h
    cases h

theorem Idle.step (hx : Idle x) (m : Move) : Idle (x.step m) := by
  rcases hlaunched : x.gateway.launched with _ | _
  · obtain ⟨hchannels, hscheduled⟩ := hx hlaunched
    rcases m with c | ⟨i, input, calls⟩ | generation
    · exact hx.call c
    · -- There is no channel that the input could reach.
      have hreceive : x.gateway.receive i input = (x.gateway, {}) := by
        rw [Gateway.receive, hchannels]
        rfl
      have hstep : (x.step (.input i input calls)).gateway = x.gateway := by
        rw [Course.step]
        simp only [hreceive, Course.receive, Channel.Effects.notice_nil]
      exact fun _ => ⟨hstep ▸ hchannels, hstep ▸ hscheduled⟩
    · rcases x.gateway.expire_cases generation with hs | ⟨t, htimer, -⟩
      · rw [Course.step, Course.expire, hs]
        exact hx
      · simp [Backoff.Scheduler.isScheduled, htimer] at hscheduled
  · intro h
    rw [launched_step hlaunched m] at h
    cases h

/-- A gateway with a channel has been launched. -/
theorem launched_run (config : Config) (moves : List Move)
    (h : (run config moves).gateway.channels ≠ []) :
    (run config moves).gateway.launched = true := by
  have hidle : Idle (run config moves) :=
    Course.run_induction (P := Idle) (fun _ => ⟨rfl, rfl⟩) fun _ m _ hx => hx.step m
  by_contra hlaunched
  exact h (hidle (by simpa using hlaunched)).1

/-- After a step, no timer runs if the gateway is disposed of. -/
theorem unscheduled_step (config : Config) (moves : List Move) (m : Move)
    (hdisposed : ((run config moves).step m).gateway.disposed = true) :
    ((run config moves).step m).gateway.scheduler.isScheduled = false := by
  obtain ⟨parts, hparts⟩ := run_eq_walk config moves
  rw [← Course.walk_parts, hparts, ← Course.walk_append] at hdisposed ⊢
  exact unscheduled_walk config _ hdisposed

/-- The step in which the notice comes that a channel has closed. -/
theorem step_closed {i : Nat} {input : Channel.Input} {wasOpen : Bool} (calls : List Call)
    (h : (x.gateway.receive i input).2.notice = some (.closed wasOpen)) :
    x.step (.input i input calls) =
      (calls.foldl Course.call (x.receive i input)).settle (.closed wasOpen) := by
  simp only [Course.step, h]

/-- After a channel has closed, the timer runs unless the gateway is disposed of, whatever the
    handler has done; and a channel is live if the handler has forced a reconnect. -/
theorem closed_run (moves : List Move) {i : Nat} {input : Channel.Input} {wasOpen : Bool}
    (calls : List Call)
    (h : ((run config moves).gateway.receive i input).2.notice = some (.closed wasOpen)) :
    let x := run config moves
    let g := (x.step (.input i input calls)).gateway
    g.disposed = (x.gateway.disposed || decide (.dispose ∈ calls)) ∧
      g.scheduler.isScheduled = !g.disposed ∧
      g.isLive = (!x.gateway.disposed && reopens calls) := by
  intro x g
  obtain ⟨hchannels, hlive⟩ := (lineage_run config moves).isLive_of_closed_notice h
  have hlaunched : (x.receive i input).gateway.launched = true :=
    (x.launched_receive i input).trans (launched_run config moves hchannels)
  have hdisposed : (x.receive i input).gateway.disposed = x.gateway.disposed :=
    x.gateway.disposed_receive i input
  obtain ⟨hcalls, hlive'⟩ := Course.foldl_call_launched hlaunched calls
  rw [hdisposed] at hcalls hlive'
  rw [hlive, Bool.false_or] at hlive'
  have hg : g = (calls.foldl Course.call (x.receive i input)).gateway.settle (.closed wasOpen) :=
    congrArg Course.gateway (step_closed calls h)
  refine ⟨?_, ?_, ?_⟩
  · rw [hg, disposed_settle, hcalls]
  · rcases hd : g.disposed with _ | _
    · rw [hg, disposed_settle] at hd
      rw [hg, Gateway.settle, if_neg (by simp [hd]), scheduleNext_of_not_disposed hd]
      exact isScheduled_schedule _
    · exact unscheduled_step config moves _ hd
  · rw [hg, ← hlive']
    rcases (calls.foldl Course.call (x.receive i input)).gateway.settle_cases
      (.closed wasOpen) with ⟨-, hs⟩ | ⟨-, -, -, hs⟩
    · rw [hs]
    · rw [hs]
      rfl

/-! ## Without a timer -/

theorem config_heed (notice : Option Channel.Notice) (s : Backoff.Scheduler Unit) :
    (heed notice s).config = s.config := by
  unfold heed
  split <;> rfl

theorem current_heed (notice : Option Channel.Notice) {s : Backoff.Scheduler Unit}
    (h : s.current = s.config.initial) : (heed notice s).current = s.config.initial := by
  unfold heed
  split
  · rfl
  · exact h

theorem scheduler_connect (g : Gateway Nat) : g.connect.scheduler = g.scheduler := by
  rcases g.connect_cases with ⟨-, h⟩ | ⟨-, -, h⟩ <;> rw [h]

theorem Course.scheduler_config_call (x : Course) (c : Call) :
    (x.call c).gateway.scheduler.config = x.gateway.scheduler.config := by
  rcases c with _ | request | _ | _
  · rcases x.gateway.launch_cases with ⟨-, h⟩ | ⟨-, -, h⟩
    · rw [call, h]
    · rw [call, h, scheduler_connect]
  · rcases x.gateway.send_cases request x.sent with h | ⟨c, past, -, -, h⟩
    · rw [call_send_of_error h]
    · rw [call_send_of_ok h]
  · rcases x.gateway.forceReconnect_cases with ⟨-, h⟩ | ⟨-, -, -, h⟩
    · rw [call, h]
    · rw [call, h, scheduler_connect]
      rfl
  · rcases x.gateway.dispose_cases with ⟨-, h⟩ | ⟨-, h⟩
    · rw [call, h]
    · rw [call, h]
      rfl

theorem config_settle (notice : Channel.Notice) (g : Gateway Nat) :
    (g.settle notice).scheduler.config = g.scheduler.config := by
  rcases g.settle_cases notice with ⟨-, h⟩ | ⟨-, -, -, h⟩
  · rw [h]
  · rw [h, Backoff.Scheduler.schedule]
    split <;> rfl

theorem channels_settle (notice : Channel.Notice) (g : Gateway Nat) :
    (g.settle notice).channels = g.channels := by
  rcases g.settle_cases notice with ⟨-, h⟩ | ⟨-, -, -, h⟩ <;> rw [h]

theorem Course.foldl_call_keeps (x : Course) (calls : List Call) :
    x.gateway.channels.length < (calls.foldl call x).gateway.channels.length ∨
      (calls.foldl call x).gateway.channels.length = x.gateway.channels.length ∧
        (calls.foldl call x).gateway.phase = x.gateway.phase := by
  induction calls generalizing x with
  | nil => exact .inr ⟨rfl, rfl⟩
  | cons c calls ih =>
    rw [List.foldl_cons]
    rcases x.call_keeps c with hlength | hk <;> rcases ih (x.call c) with hlt | ⟨heq, hphase⟩
    · omega
    · omega
    · exact .inl (hk.length_eq ▸ hlt)
    · exact .inr ⟨heq.trans hk.length_eq, hphase.trans hk.phase_eq⟩

theorem Course.scheduler_config_part (x : Course) (p : Part) :
    (x.part p).gateway.scheduler.config = x.gateway.scheduler.config := by
  rcases p with c | ⟨i, input⟩ | notice | generation
  · exact x.scheduler_config_call c
  · rw [part, receive, Gateway.receive]
    split
    · rfl
    · exact config_heed _ _
  · exact x.gateway.config_settle notice
  · rcases x.gateway.expire_cases generation with h | ⟨t, -, -, h⟩
    · rw [part, expire, h]
    · rw [part, expire, h, scheduler_connect]

theorem Course.scheduler_config_step (x : Course) (m : Move) :
    (x.step m).gateway.scheduler.config = x.gateway.scheduler.config := by
  rw [← x.walk_parts m]
  exact Course.walk_induction
    (P := fun y => y.gateway.scheduler.config = x.gateway.scheduler.config) rfl
    (fun y p hy => (y.scheduler_config_part p).trans hy) _

theorem scheduler_config_run (config : Config) (moves : List Move) :
    (run config moves).gateway.scheduler.config = config.backoff :=
  Course.run_induction (P := fun x => x.gateway.scheduler.config = config.backoff) rfl
    fun x m _ hx => (x.scheduler_config_step m).trans hx

/-- As long as the channel that was opened as the `n`-th is live, no timer runs, and once it
    is open the delay is the first one. -/
structure Calm (config : Config) (n : Nat) (x : Course) : Prop where
  le_length : n ≤ x.gateway.channels.length
  unscheduled : x.gateway.channels.length = n → x.gateway.isLive = true →
    x.gateway.scheduler.isScheduled = false
  current_eq : x.gateway.channels.length = n → x.gateway.isOpen = true →
    x.gateway.scheduler.current = config.backoff.initial

namespace Calm

/-- Where another channel has been opened, nothing is left to show. -/
theorem of_lt (hlt : n < y.gateway.channels.length) : Calm config n y :=
  ⟨Nat.le_of_lt hlt, fun h => absurd h (Nat.ne_of_gt hlt), fun h => absurd h (Nat.ne_of_gt hlt)⟩

/-- The same for a channel that has closed. -/
theorem of_not_isLive (hle : n ≤ y.gateway.channels.length)
    (hlive : y.gateway.isLive = false) : Calm config n y := by
  have hphase : y.gateway.phase = .closed := by simpa [Gateway.isLive] using hlive
  exact ⟨hle, fun _ h => by simp [hlive] at h,
    fun _ h => by simp [Gateway.isOpen, hphase] at h⟩

theorem of_keeps (hx : Calm config n x) (hk : Keeps x.gateway y.gateway) :
    Calm config n y where
  le_length := hk.length_eq ▸ hx.le_length
  unscheduled hn hlive := by
    rw [Gateway.isLive, hk.phase_eq] at hlive
    have hunscheduled := hx.unscheduled (hk.length_eq ▸ hn) hlive
    exact Bool.not_eq_true _ ▸ mt hk.isScheduled_of (by simp [hunscheduled])
  current_eq hn hopen := by
    rw [Gateway.isOpen, hk.phase_eq] at hopen
    rw [Backoff.Scheduler.current, hk.delay_eq]
    exact hx.current_eq (hk.length_eq ▸ hn) hopen

theorem call (hx : Calm config n x) (c : Call) : Calm config n (x.call c) := by
  rcases x.call_keeps c with hlength | hk
  · exact of_lt (hlength ▸ Nat.lt_succ_of_le hx.le_length)
  · exact hx.of_keeps hk

theorem receive (hx : Calm config n x) (hl : Lineage config x)
    (hconfig : x.gateway.scheduler.config = config.backoff) (i : Nat) (input : Channel.Input) :
    Calm config n (x.receive i input) := by
  rcases hl.closed_or_current i with hclosed | ⟨c, past, rfl, hchannels, hphase⟩
  · have hgateway : (x.receive i input).gateway = x.gateway :=
      congrArg Prod.fst (hl.receive_of_closed hclosed input).1
    exact hx.of_keeps (hgateway ▸ .refl _)
  · have hc : x.gateway.channels[0]? = some c := by rw [hchannels]; rfl
    have hreceive := receive_of_getElem? hc input
    have hlength : (x.receive 0 input).gateway.channels.length = x.gateway.channels.length := by
      rw [Course.receive, hreceive]
      exact List.length_set
    refine ⟨hlength ▸ hx.le_length, fun hn _ => ?_, fun hn hopen => ?_⟩
    · have hlive : x.gateway.isLive = true := by
        simpa [isLive_of_channels hchannels, Channel.isLive] using hphase
      rw [Course.receive, hreceive]
      exact (isScheduled_heed _ _).trans (hx.unscheduled (hlength ▸ hn) hlive)
    · -- The channel was open, or the notice makes the delay start over.
      have ho : (c.receive x.gateway.config.channel x.gateway.pending input).channel.phase =
          .opened := by
        rw [Course.receive, hreceive, hchannels] at hopen
        exact of_decide_eq_true hopen
      rw [Course.receive, hreceive]
      rcases Channel.opened_of_step (Channel.step_receive ..) ho with hc | ⟨hello, hnotice⟩
      · have hopen' : x.gateway.isOpen = true := by
          simpa [Gateway.isOpen, Gateway.phase, current?, hchannels] using hc
        have hcurrent := hx.current_eq (hlength ▸ hn) hopen'
        rw [← hconfig] at hcurrent ⊢
        exact current_heed _ hcurrent
      · rw [← hconfig]
        exact congrArg (fun n => (heed n x.gateway.scheduler).current) hnotice

theorem expire (hx : Calm config n x) (generation : Nat) :
    Calm config n (x.expire generation) := by
  rcases x.gateway.expire_cases generation with h | ⟨t, htimer, -, h⟩
  · rw [Course.expire, h]
    exact ⟨hx.1, hx.2, hx.3⟩
  · rw [Course.expire, h]
    rcases connect_keeps _ with hlength | hk
    · refine of_lt ?_
      rw [hlength]
      exact Nat.lt_succ_of_le hx.le_length
    · rcases Nat.lt_or_eq_of_le hx.le_length with hlt | heq
      · exact of_lt (hlt.trans_eq hk.length_eq.symm)
      · -- As a timer runs, the channel is not live.
        refine of_not_isLive (heq.trans hk.length_eq.symm).le ?_
        rw [Gateway.isLive, hk.phase_eq, ← Bool.not_eq_true]
        intro hlive
        have := hx.unscheduled heq.symm hlive
        simp [Backoff.Scheduler.isScheduled, htimer] at this

theorem foldl_call (hx : Calm config n x) (calls : List Call) :
    Calm config n (calls.foldl Course.call x) := by
  induction calls generalizing x with
  | nil => exact hx
  | cons c calls ih => exact ih (hx.call c)

/-- The step in which a channel closes leaves it closed, whatever the handler does. -/
theorem step_of_closed_notice (hx : Calm config n x) (hl : Lineage config x)
    (hconfig : x.gateway.scheduler.config = config.backoff) {i : Nat}
    {input : Channel.Input} {wasOpen : Bool} (calls : List Call)
    (h : (x.gateway.receive i input).2.notice = some (.closed wasOpen)) :
    Calm config n (x.step (.input i input calls)) := by
  have hreceive := hx.receive hl hconfig i input
  have hcalls := hreceive.foldl_call calls
  obtain ⟨-, hlive⟩ := hl.isLive_of_closed_notice h
  rw [step_closed calls h]
  generalize hw : calls.foldl Course.call (x.receive i input) = w at hcalls ⊢
  have hchannels : (w.settle (.closed wasOpen)).gateway.channels = w.gateway.channels :=
    w.gateway.channels_settle _
  rcases Nat.lt_or_eq_of_le hcalls.le_length with hlt | heq
  · exact of_lt (by rwa [hchannels])
  · refine of_not_isLive (by rw [hchannels, heq]) ?_
    rw [Gateway.isLive, Gateway.phase, current?, hchannels]
    rcases Course.foldl_call_keeps (x.receive i input) calls with hlt | ⟨-, hphase⟩
    · rw [hw, ← heq] at hlt
      exact absurd hlt (Nat.not_lt.2 hreceive.le_length)
    · rw [hw] at hphase
      rw [Gateway.isLive, ← hphase] at hlive
      exact hlive

theorem step (hx : Calm config n x) (hl : Lineage config x)
    (hconfig : x.gateway.scheduler.config = config.backoff) (m : Move) :
    Calm config n (x.step m) := by
  rcases m with c | ⟨i, input, calls⟩ | generation
  · exact hx.call c
  · rcases hnotice : (x.gateway.receive i input).2.notice with _ | notice
    · simp only [Course.step, hnotice]
      exact hx.receive hl hconfig i input
    · by_cases hclosed : ∃ wasOpen, notice = .closed wasOpen
      · obtain ⟨wasOpen, rfl⟩ := hclosed
        exact hx.step_of_closed_notice hl hconfig calls hnotice
      · have hcalls := (hx.receive hl hconfig i input).foldl_call calls
        have hsettle : (calls.foldl Course.call (x.receive i input)).settle notice =
            calls.foldl Course.call (x.receive i input) := by
          rw [Course.settle]
          rcases (calls.foldl Course.call (x.receive i input)).gateway.settle_cases notice with
            ⟨-, hs⟩ | ⟨wasOpen, hs, -⟩
          · rw [hs]
          · exact absurd ⟨wasOpen, hs⟩ hclosed
        simp only [Course.step, hnotice]
        rwa [hsettle]
  · exact hx.expire generation

theorem foldl_step (hx : Calm config n x) (hl : Lineage config x)
    (hconfig : x.gateway.scheduler.config = config.backoff) (moves : List Move) :
    Calm config n (moves.foldl Course.step x) := by
  induction moves generalizing x with
  | nil => exact hx
  | cons m moves ih =>
    exact ih (hx.step hl hconfig m) (hl.step m) ((x.scheduler_config_step m).trans hconfig)

end Calm

/-! ## Runs -/

theorem reopens_iff {calls : List Call} (h : .dispose ∉ calls) :
    reopens calls = true ↔ .forceReconnect ∈ calls := by
  induction calls with
  | nil => simp [reopens]
  | cons c calls ih =>
    have ih := ih fun hmem => h (List.mem_cons_of_mem _ hmem)
    rcases c with _ | request | _ | _
    · simpa [reopens] using ih
    · simpa [reopens] using ih
    · simp [reopens]
    · exact absurd List.mem_cons_self h

/-- When a channel has closed and the handler has made its calls, the timer runs unless the
    gateway is disposed of. So it runs behind a live channel exactly if the handler has forced
    a reconnect and the gateway is not disposed of. Where a channel is live that has not been
    open and no timer runs, none runs up to its end, and once it is open the delay is the
    first one. -/
theorem reconnect_run (config : Config) (moves : List Move) :
    let x := run config moves
    (∀ i input calls wasOpen, (x.gateway.receive i input).2.notice = some (.closed wasOpen) →
      let g := (x.step (.input i input calls)).gateway
      g.disposed = (x.gateway.disposed || decide (.dispose ∈ calls)) ∧
      g.scheduler.isScheduled = !g.disposed ∧
      g.isLive = (!x.gateway.disposed && reopens calls) ∧
      ((g.scheduler.isScheduled = true → g.isLive = false ∧ g.disposed = false) ↔
        x.gateway.disposed = true ∨ .dispose ∈ calls ∨ .forceReconnect ∉ calls)) ∧
    (x.gateway.isLive = true → x.gateway.isOpen = false →
      x.gateway.scheduler.isScheduled = false → ∀ more : List Move,
        let g := (more.foldl Course.step x).gateway
        g.channels.length = x.gateway.channels.length →
          (g.isLive = true → g.scheduler.isScheduled = false) ∧
          (g.isOpen = true → g.scheduler.current = config.backoff.initial)) := by
  intro x
  refine ⟨fun i input calls wasOpen h => ?_, fun _ hopen hscheduled more => ?_⟩
  · obtain ⟨hdisposed, hscheduled, hlive⟩ := closed_run moves calls h
    refine ⟨hdisposed, hscheduled, hlive, ?_⟩
    rw [hscheduled, hlive, hdisposed]
    by_cases hd : (run config moves).gateway.disposed = true
    · simp [x, hd]
    · by_cases hcall : .dispose ∈ calls
      · simp [hcall]
      · simp [x, hd, hcall, ← reopens_iff hcall]
  · have hx : Calm config x.gateway.channels.length x :=
      ⟨Nat.le_refl _, fun _ _ => hscheduled, fun _ h => by simp [hopen] at h⟩
    have hcalm :=
      hx.foldl_step (lineage_run config moves) (scheduler_config_run config moves) more
    exact fun hlength => ⟨hcalm.unscheduled hlength, hcalm.current_eq hlength⟩

/-- When the handler forces a reconnect, the timer runs behind the new channel. -/
theorem isScheduled_of_forceReconnect :
    let g := (run .loopback [.call .launch, .input 0 .begin [], .input 0 .refused [],
      .input 0 .finish [.forceReconnect]]).gateway
    g.disposed = false ∧ g.isLive = true ∧ g.scheduler.isScheduled = true :=
  ⟨rfl, rfl, rfl⟩

end Gateway

end Tether
