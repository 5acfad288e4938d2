import Tether.Proofs.Gateway.Lineage

/-!
# How a gateway heals itself

A gateway that has been launched and not disposed of is never left alone: it has a
live channel, or its timer for the next one runs, and never both. It takes that no
calls are made by handlers, since a call in the middle of a step may find the gateway
with neither.

* `Healthy`: the invariant;
* `healthy_of_step`: a step without calls by handlers keeps it;
* `healing_run`: the current channel is the only one that may be live, and it is live or
  the timer runs;
* `reopening_run`: the timer that runs opens the next channel.
-/

namespace Tether.Gateway

variable {config : Config} {x : Course}

/-- A move in which no handler makes a call. -/
def Move.isQuiet : Move → Bool
  | .input _ _ calls => calls.isEmpty
  | _ => true

/-! ## The timer -/

theorem isScheduled_heed (notice : Option Channel.Notice) (s : Backoff.Scheduler Unit) :
    (heed notice s).isScheduled = s.isScheduled := by
  unfold heed
  split <;> rfl

theorem isScheduled_schedule (s : Backoff.Scheduler Unit) :
    (s.schedule ()).1.isScheduled = true := by
  rw [Backoff.Scheduler.schedule]
  split
  · rename_i htimer
    rw [Backoff.Scheduler.isScheduled, htimer]
    rfl
  · rfl

/-! ## The end of a channel -/

/-- A channel that is asked for its end is as live as before. -/
theorem phase_modifyHead_shutdown (g : Gateway Nat) :
    Gateway.phase { g with channels := g.channels.modifyHead Channel.shutdown } = g.phase := by
  rw [Gateway.phase, Gateway.phase, current?, current?]
  rcases g.channels with _ | ⟨c, past⟩
  · rfl
  · exact congrArg Channel.Stage.phase (Channel.stage_shutdown c)

/-! ## The invariant -/

/-- Either the current channel is live or the timer for the next one runs, from the launch
    to the disposal. -/
structure Healthy (g : Gateway Nat) : Prop where
  unlaunched : g.launched = false → g.channels = [] ∧ g.scheduler.isScheduled = false
  launched : g.launched = true → g.disposed = false → g.isLive = !g.scheduler.isScheduled

namespace Healthy

variable {g : Gateway Nat}

theorem start (config : Config) : Healthy (.start config) where
  unlaunched _ := ⟨rfl, rfl⟩
  launched := by rintro ⟨⟩

theorem of_isLive (hlaunched : g.launched = true) (hlive : g.isLive = true)
    (hscheduled : g.disposed = false → g.scheduler.isScheduled = false) : Healthy g where
  unlaunched h := by
    rw [hlaunched] at h
    cases h
  launched _ hdisposed := by rw [hlive, hscheduled hdisposed]; rfl

theorem of_not_isLive (hlaunched : g.launched = true) (hlive : g.isLive = false)
    (hscheduled : g.disposed = false → g.scheduler.isScheduled = true) : Healthy g where
  unlaunched h := by
    rw [hlaunched] at h
    cases h
  launched _ hdisposed := by rw [hlive, hscheduled hdisposed]; rfl

theorem connect (hlaunched : g.launched = true) (hscheduled : g.scheduler.isScheduled = false) :
    Healthy g.connect := by
  rcases g.connect_cases with ⟨hskip, hconnect⟩ | ⟨-, -, hconnect⟩
  · rw [hconnect]
    refine ⟨fun h => ?_, fun _ hdisposed => ?_⟩
    · rw [hlaunched] at h
      cases h
    · rw [hscheduled]
      exact hskip.resolve_left (by simp [hdisposed])
  · rw [hconnect]
    exact of_isLive hlaunched rfl fun _ => hscheduled

/-- A change after which neither the current channel nor the timer is another. -/
theorem congr {g' : Gateway Nat} (hg : Healthy g) (hchannels : g.channels = [] → g'.channels = [])
    (hlive : g'.isLive = g.isLive) (hscheduler : g'.scheduler.isScheduled = g.scheduler.isScheduled)
    (hlaunched : g'.launched = g.launched) (hdisposed : g'.disposed = g.disposed) : Healthy g' where
  unlaunched h := by
    rw [hlaunched] at h
    rw [hscheduler]
    exact (hg.unlaunched h).imp_left hchannels
  launched h hd := by
    rw [hlive, hscheduler]
    exact hg.launched (hlaunched ▸ h) (hdisposed ▸ hd)

theorem launch (hg : Healthy g) : Healthy g.launch := by
  rcases g.launch_cases with ⟨-, hlaunch⟩ | ⟨-, hlaunched, hlaunch⟩
  · rw [hlaunch]
    exact hg
  · rw [hlaunch]
    exact connect rfl (hg.unlaunched hlaunched).2

theorem forceReconnect (hg : Healthy g) : Healthy g.forceReconnect := by
  rcases g.forceReconnect_cases with ⟨-, hforce⟩ | ⟨hlaunched, -, -, hforce⟩
  · rw [hforce]
    exact hg
  · rw [hforce]
    exact connect hlaunched rfl

theorem dispose (hg : Healthy g) : Healthy g.dispose := by
  rcases g.dispose_cases with ⟨-, hdispose⟩ | ⟨-, hdispose⟩
  · rw [hdispose]
    exact hg
  · rw [hdispose]
    refine ⟨fun h => ?_, fun _ h => ?_⟩
    · rw [(hg.unlaunched h).1]
      exact ⟨rfl, rfl⟩
    · cases h

/-- Where a timer runs, the gateway has been launched. -/
theorem launched_of_timer (hg : Healthy g) {t : Backoff.Timer Unit}
    (htimer : g.scheduler.timer = some t) : g.launched = true := by
  by_contra h
  have := (hg.unlaunched (by simpa using h)).2
  rw [Backoff.Scheduler.isScheduled, htimer] at this
  cases this

/-- Where a timer runs, no channel is live. -/
theorem isLive_eq_false (hg : Healthy g) {t : Backoff.Timer Unit}
    (htimer : g.scheduler.timer = some t) (hdisposed : g.disposed = false) :
    g.isLive = false := by
  rw [hg.launched (hg.launched_of_timer htimer) hdisposed, Backoff.Scheduler.isScheduled, htimer]
  rfl

theorem expire (hg : Healthy g) (generation : Nat) : Healthy (g.expire generation) := by
  rcases g.expire_cases generation with hexpire | ⟨t, htimer, -, hexpire⟩
  · rw [hexpire]
    exact hg
  · rw [hexpire]
    exact connect (hg.launched_of_timer htimer) rfl

/-- After an input to a live channel, the timer runs if and only if the channel has closed. -/
theorem settle (hlaunched : g.launched = true)
    (hscheduled : g.disposed = false → g.scheduler.isScheduled = false)
    {notice : Option Channel.Notice}
    (hclosed : g.isLive = false ↔ ∃ wasOpen, notice = some (.closed wasOpen)) :
    Healthy (notice.elim g fun n => g.settle n) := by
  by_cases hlive : g.isLive = true
  · have hsettle : (notice.elim g fun n => g.settle n) = g := by
      cases notice with
      | none => rfl
      | some n =>
        cases n with
        | closed wasOpen => simp [hclosed.2 ⟨wasOpen, rfl⟩] at hlive
        | _ => rfl
    rw [hsettle]
    exact of_isLive hlaunched hlive hscheduled
  · have hlive : g.isLive = false := by simpa using hlive
    obtain ⟨wasOpen, rfl⟩ := hclosed.1 hlive
    rw [Option.elim_some]
    rcases g.settle_cases (.closed wasOpen) with ⟨hskip, hsettle⟩ | ⟨-, -, -, hsettle⟩
    · rw [hsettle]
      refine of_not_isLive hlaunched hlive fun hdisposed => ?_
      rcases hskip with h | h
      · rw [hdisposed] at h
        cases h
      · exact absurd rfl (h wasOpen)
    · rw [hsettle]
      exact of_not_isLive hlaunched hlive fun _ => isScheduled_schedule _

end Healthy

theorem Course.healthy_call (hx : Healthy x.gateway) (c : Call) : Healthy (x.call c).gateway := by
  cases c with
  | launch => exact hx.launch
  | send request =>
    rcases x.gateway.send_cases request x.sent with herror | ⟨c, past, hchannels, -, hok⟩
    · rw [Course.call_send_of_error herror]
      exact hx
    · rw [Course.call_send_of_ok hok]
      refine hx.congr (by simp [hchannels]) ?_ rfl rfl rfl
      rw [isLive_of_channels hchannels, isLive_of_channels rfl]
      rfl
  | forceReconnect => exact hx.forceReconnect
  | dispose => exact hx.dispose

/-- A step without calls by handlers keeps the invariant. -/
theorem healthy_of_step {m : Move} (hm : m.isQuiet = true) (hl : Lineage config x)
    (hx : Healthy x.gateway) : Healthy (x.step m).gateway := by
  cases m with
  | call c => exact Course.healthy_call hx c
  | expire generation => exact hx.expire generation
  | input i input calls =>
    obtain rfl : calls = [] := by simpa [Move.isQuiet] using hm
    rcases hl.closed_or_current i with hclosed | ⟨c, past, rfl, hchannels, hphase⟩
    · rw [Course.step_input_nil, (hl.receive_of_closed hclosed input).1]
      exact hx
    · have hpresent := hl.present
      rw [hchannels] at hpresent
      have hc : x.gateway.channels[0]? = some c := by rw [hchannels]; rfl
      have hclosed := hpresent.1.lifecycle.phase_eq_closed_iff_notice
        (Channel.step_receive x.gateway.config.channel _ _ input) hphase
      -- A gateway with a channel has been launched.
      have hlaunched : x.gateway.launched = true := by
        by_contra h
        rw [(hx.unlaunched (by simpa using h)).1] at hchannels
        cases hchannels
      rw [Course.step_input_nil, receive_of_getElem? hc, hchannels]
      refine Healthy.settle ?_ (fun hdisposed => ?_) ?_
      · exact hlaunched
      · have := hx.launched hlaunched hdisposed
        rw [isLive_of_channels hchannels] at this
        rw [isScheduled_heed]
        simpa [Channel.isLive, hphase] using this
      · rw [← hclosed, isLive_of_channels rfl]
        simp [Channel.isLive]

/-! ## Runs -/

theorem healthy_run (config : Config) {moves : List Move}
    (hquiet : ∀ m ∈ moves, m.isQuiet = true) : Healthy (run config moves).gateway :=
  (Course.run_induction (P := fun x => Lineage config x ∧ Healthy x.gateway)
    ⟨.start config, .start config⟩ fun _ m hm hx =>
      ⟨hx.1.step m, healthy_of_step (hquiet m hm) hx.1 hx.2⟩).2

/-- When no handler makes a call, the current channel is the only one that may be live. From
    the launch to the disposal either it is live or the timer for the next one runs. -/
theorem healing_run (config : Config) (moves : List Move)
    (hquiet : ∀ m ∈ moves, m.isQuiet = true) :
    let g := (run config moves).gateway
    (∀ i c, g.channels[i]? = some c → c.isLive = true → i = 0 ∧ g.current? = some c) ∧
    (g.launched = true → g.disposed = false →
      g.isLive = true ∧ g.scheduler.isScheduled = false ∨
        g.isLive = false ∧ g.scheduler.isScheduled = true) := by
  intro g
  have hl : Lineage config (run config moves) := lineage_run config moves
  have hx : Healthy g := healthy_run config hquiet
  refine ⟨fun i c hc hlive => ?_, fun hlaunched hdisposed => ?_⟩
  · rcases hl.closed_or_current i with hclosed | ⟨c', past, rfl, -, -⟩
    · simp [Channel.isLive, hclosed c hc] at hlive
    · exact ⟨rfl, List.head?_eq_getElem?.trans hc⟩
  · have := hx.launched hlaunched hdisposed
    cases hscheduled : g.scheduler.isScheduled with
    | true => exact .inr ⟨by rw [this, hscheduled]; rfl, rfl⟩
    | false => exact .inl ⟨by rw [this, hscheduled]; rfl, rfl⟩

/-- When the first socket cannot be opened, the timer for the next one runs. -/
theorem isScheduled_of_refused :
    (run .loopback [.call .launch, .input 0 .begin [], .input 0 .refused [],
      .input 0 .finish []]).gateway.isLive = false ∧
    (run .loopback [.call .launch, .input 0 .begin [], .input 0 .refused [],
      .input 0 .finish []]).gateway.scheduler.isScheduled = true :=
  ((healing_run .loopback _ (by decide)).2 rfl rfl).resolve_left (by decide)

/-- When no handler makes a call, the timer that runs opens the next channel when it fires. -/
theorem reopening_run (config : Config) (moves : List Move)
    (hquiet : ∀ m ∈ moves, m.isQuiet = true) {t : Backoff.Timer Unit}
    (htimer : (run config moves).gateway.scheduler.timer = some t)
    (hdisposed : (run config moves).gateway.disposed = false) :
    let g := (run config (moves ++ [.expire t.generation])).gateway
    g.channels = .start :: (run config moves).gateway.channels ∧ g.isLive = true ∧
      g.scheduler.isScheduled = false := by
  intro g
  have hlive := (healthy_run config hquiet).isLive_eq_false htimer hdisposed
  have hg : g = (run config moves).gateway.expire t.generation := by
    show (run config (moves ++ [.expire t.generation])).gateway = _
    rw [run_append_singleton]
    rfl
  rw [hg, expire_of_timer htimer hdisposed hlive]
  exact ⟨rfl, rfl, rfl⟩

end Tether.Gateway
