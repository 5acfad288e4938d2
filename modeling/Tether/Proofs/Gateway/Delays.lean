import Mathlib.Data.List.DropRight
import Mathlib.Logic.Function.Iterate
import Tether.Proofs.Gateway.Reconnect

/-!
# The delays of a gateway

The delay grows each time a timer fires, and starts over with an accepted handshake and
with a forced reconnect. Nothing else changes it: how the attempts in between end does not
matter. So it can be read off the turns of a walk, as far back as it last started over.

* `Turn`, `Course.turns`: what changes the delay, and the turns that come with the parts of a
  walk;
* `streak`: how many timers have fired since the delay last started over;
* `current_walk`: the delay in the course of every walk;
* `Steady`: the invariant of runs in which no handler makes a call, with the delay while a
  channel is open and the time that the timer runs;
* `delays_run`: the two together;
* `current_of_intrusion`: a call between the end of a channel and the start of the timer, after
  which the delay of an open channel is not the first one.
-/

namespace Tether.Gateway

variable {config : Config} {x y : Course}

/-! ## Turns -/

/-- What changes the delay. -/
inductive Turn
  /-- A timer has fired. -/
  | fired
  /-- A handshake was accepted, or a reconnect was forced. -/
  | restarted
  deriving DecidableEq

/-- The delay after a turn. -/
def Turn.next (c : Backoff.Config) (current : Duration) : Turn → Duration
  | fired => c.next current
  | restarted => c.initial

/-- How many timers have fired since the delay last started over. -/
def streak (turns : List Turn) : Nat := (turns.rtakeWhile fun t => t = .fired).length

theorem streak_fired (turns : List Turn) : streak (turns ++ [.fired]) = streak turns + 1 := by
  rw [streak, List.rtakeWhile_concat_pos _ _ _ (by rfl), List.length_append]
  rfl

theorem streak_restarted (turns : List Turn) : streak (turns ++ [.restarted]) = 0 := by
  rw [streak, List.rtakeWhile_concat_neg _ _ _ (by simp)]
  rfl

namespace Course

/-- The turn that comes with a part: the timer that runs fires, a handshake is accepted, or a
    reconnect is forced where the gateway waits for its next channel. -/
def turn? (x : Course) : Part → Option Turn
  | .expire generation =>
    if x.gateway.scheduler.timer.map Backoff.Timer.generation = some generation then some .fired
    else none
  | .receive i input =>
    match (x.gateway.receive i input).2.notice with
    | some (.connected _) => some .restarted
    | _ => none
  | .call .forceReconnect =>
    if x.gateway.launched ∧ ¬ x.gateway.disposed ∧ ¬ x.gateway.isLive then some .restarted
    else none
  | _ => none

/-- The turns of a walk, in order. -/
def turns (x : Course) : List Part → List Turn
  | [] => []
  | p :: parts => (x.turn? p).toList ++ (x.part p).turns parts

theorem turns_append (x : Course) (parts more : List Part) :
    x.turns (parts ++ more) = x.turns parts ++ (x.walk parts).turns more := by
  induction parts generalizing x with
  | nil => rfl
  | cons p parts ih => rw [List.cons_append, turns, turns, ih, List.append_assoc]; rfl

/-- The parts of the moves, one after the other. -/
def unfold (x : Course) : List Move → List Part
  | [] => []
  | m :: moves => x.parts m ++ (x.step m).unfold moves

theorem walk_unfold (x : Course) (moves : List Move) :
    x.walk (x.unfold moves) = moves.foldl step x := by
  induction moves generalizing x with
  | nil => rfl
  | cons m moves ih => rw [unfold, walk_append, walk_parts, ih]; rfl

theorem unfold_append (x : Course) (moves more : List Move) :
    x.unfold (moves ++ more) = x.unfold moves ++ (moves.foldl step x).unfold more := by
  induction moves generalizing x with
  | nil => rfl
  | cons m moves ih => rw [List.cons_append, unfold, unfold, ih, List.append_assoc]; rfl

end Course

/-! ## The delay of a walk -/

theorem Course.current_call (x : Course) (c : Call) :
    (x.call c).gateway.scheduler.current =
      (x.turn? (.call c)).elim x.gateway.scheduler.current
        (Turn.next x.gateway.scheduler.config x.gateway.scheduler.current) := by
  rcases c with _ | request | _ | _
  · rcases x.gateway.launch_cases with ⟨-, h⟩ | ⟨-, -, h⟩
    · rw [call, h]
      rfl
    · rw [call, h, scheduler_connect]
      rfl
  · rcases x.gateway.send_cases request x.sent with h | ⟨c, past, -, -, h⟩
    · rw [call_send_of_error h]
      rfl
    · rw [call_send_of_ok h]
      rfl
  · rcases x.gateway.forceReconnect_cases with ⟨hskip, h⟩ | ⟨hlaunched, hdisposed, hlive, h⟩
    · have hturn : x.turn? (.call .forceReconnect) = none := by
        refine if_neg ?_
        rintro ⟨hlaunched, hdisposed, hlive⟩
        simp [hlaunched, hdisposed, hlive] at hskip
      rw [call, h, hturn]
      rfl
    · have hturn : x.turn? (.call .forceReconnect) = some .restarted :=
        if_pos (by simp [hlaunched, hdisposed, hlive])
      rw [call, h, hturn, scheduler_connect]
      rfl
  · rcases x.gateway.dispose_cases with ⟨-, h⟩ | ⟨-, h⟩
    · rw [call, h]
      rfl
    · rw [call, h]
      rfl

theorem Course.current_receive (x : Course) (i : Nat) (input : Channel.Input) :
    (x.receive i input).gateway.scheduler.current =
      (x.turn? (.receive i input)).elim x.gateway.scheduler.current
        (Turn.next x.gateway.scheduler.config x.gateway.scheduler.current) := by
  rcases hc : x.gateway.channels[i]? with _ | c
  · simp only [receive, Gateway.receive, turn?, hc]
    rfl
  · simp only [receive, turn?, receive_of_getElem? hc]
    rcases (c.receive x.gateway.config.channel x.gateway.pending input).notice with
      _ | _ | _ | _ | _ <;> rfl

/-- The delay changes with a turn, and with nothing else. -/
theorem Course.current_part (x : Course) (p : Part) :
    (x.part p).gateway.scheduler.current =
      (x.turn? p).elim x.gateway.scheduler.current
        (Turn.next x.gateway.scheduler.config x.gateway.scheduler.current) := by
  rcases p with c | ⟨i, input⟩ | notice | generation
  · exact x.current_call c
  · exact x.current_receive i input
  · rcases x.gateway.settle_cases notice with ⟨-, h⟩ | ⟨-, -, -, h⟩
    · rw [part, settle, h]
      rfl
    · rw [part, settle, h, Backoff.Scheduler.schedule]
      split <;> rfl
  · rw [part, expire, turn?, expire_eq_ite]
    split
    · rw [scheduler_connect]
      rfl
    · rfl

theorem scheduler_config_walk (config : Config) (parts : List Part) :
    ((Course.start config).walk parts).gateway.scheduler.config = config.backoff :=
  Course.walk_induction (P := fun x => x.gateway.scheduler.config = config.backoff) rfl
    (fun x p hx => (x.scheduler_config_part p).trans hx) parts

/-- In the course of every walk, the delay is the first one, grown once for each timer that has
    fired since it last started over. -/
theorem current_walk (config : Config) (parts : List Part) :
    ((Course.start config).walk parts).gateway.scheduler.current =
      config.backoff.next^[streak ((Course.start config).turns parts)] config.backoff.initial := by
  induction parts using List.reverseRecOn with
  | nil => rfl
  | append_singleton parts p ih =>
    have hwalk : (Course.start config).walk (parts ++ [p]) =
        ((Course.start config).walk parts).part p := Course.walk_append ..
    have hturns : (Course.start config).turns (parts ++ [p]) =
        (Course.start config).turns parts ++
          (((Course.start config).walk parts).turn? p).toList := by
      rw [Course.turns_append, Course.turns, Course.turns, List.append_nil]
    rw [hwalk, hturns, Course.current_part, scheduler_config_walk, ih]
    rcases ((Course.start config).walk parts).turn? p with _ | _ | _
    · rw [Option.toList_none, List.append_nil]
      rfl
    · rw [Option.toList_some, streak_fired, Function.iterate_succ_apply']
      rfl
    · rw [Option.toList_some, streak_restarted]
      rfl

/-! ## Without calls by handlers -/

theorem isLive_of_isOpen {g : Gateway Nat} (h : g.isOpen = true) : g.isLive = true := by
  have hphase : g.phase = .opened := of_decide_eq_true h
  rw [isLive, hphase]
  rfl

theorem isOpen_of_isOpen_connect {g : Gateway Nat} (h : g.connect.isOpen = true) :
    g.isOpen = true := by
  rcases g.connect_cases with ⟨-, hs⟩ | ⟨-, -, hs⟩
  · rwa [hs] at h
  · rw [hs] at h
    cases h

/-- No call makes a channel open. -/
theorem Course.isOpen_of_isOpen_call {c : Call} (h : (x.call c).gateway.isOpen = true) :
    x.gateway.isOpen = true := by
  rcases c with _ | request | _ | _
  · rcases x.gateway.launch_cases with ⟨-, hs⟩ | ⟨-, -, hs⟩
    · rwa [call, hs] at h
    · rw [call, hs] at h
      exact isOpen_of_isOpen_connect (g := { x.gateway with launched := true }) h
  · rcases x.gateway.send_cases request x.sent with hs | ⟨c, past, hchannels, -, hs⟩
    · rwa [call_send_of_error hs] at h
    · rw [call_send_of_ok hs] at h
      rw [Gateway.isOpen, Gateway.phase, current?, hchannels]
      exact h
  · rcases x.gateway.forceReconnect_cases with ⟨-, hs⟩ | ⟨-, -, -, hs⟩
    · rwa [call, hs] at h
    · rw [call, hs] at h
      exact isOpen_of_isOpen_connect
        (g := { x.gateway with scheduler := x.gateway.scheduler.force }) h
  · rcases x.gateway.dispose_cases with ⟨-, hs⟩ | ⟨-, hs⟩
    · rwa [call, hs] at h
    · rw [call, hs] at h
      rw [Gateway.isOpen, ← phase_modifyHead_shutdown]
      exact h

/-- A call leaves the timer alone or stops it. -/
theorem Course.scheduler_call (x : Course) (c : Call) :
    (x.call c).gateway.scheduler = x.gateway.scheduler ∨
      (x.call c).gateway.scheduler.timer = none := by
  rcases c with _ | request | _ | _
  · rcases x.gateway.launch_cases with ⟨-, h⟩ | ⟨-, -, h⟩
    · exact .inl (by rw [call, h])
    · exact .inl (by rw [call, h, scheduler_connect])
  · rcases x.gateway.send_cases request x.sent with h | ⟨c, past, -, -, h⟩
    · exact .inl (by rw [call_send_of_error h])
    · exact .inl (by rw [call_send_of_ok h])
  · rcases x.gateway.forceReconnect_cases with ⟨-, h⟩ | ⟨-, -, -, h⟩
    · exact .inl (by rw [call, h])
    · exact .inr (by rw [call, h, scheduler_connect]; rfl)
  · rcases x.gateway.dispose_cases with ⟨-, h⟩ | ⟨-, h⟩
    · exact .inl (by rw [call, h])
    · exact .inr (by rw [call, h]; rfl)

/-- While a channel is open, no timer has fired since the delay last started over; and a timer
    runs as long as the delay is. -/
structure Steady (turns : List Turn) (x : Course) : Prop where
  opened : x.gateway.isOpen = true → streak turns = 0
  wait_eq : ∀ t, x.gateway.scheduler.timer = some t → t.wait = x.gateway.scheduler.current

/-- A timer runs only where the next channel is waited for. -/
def Alone (x : Course) : Prop :=
  x.gateway.scheduler.isScheduled = true → x.gateway.isLive = false ∧ x.gateway.disposed = false

/-- Where a timer runs that no channel stands behind, it opens one when it fires. -/
theorem Alone.expire_eq (ha : Alone x) {t : Backoff.Timer Unit}
    (htimer : x.gateway.scheduler.timer = some t) :
    x.gateway.expire t.generation = { x.gateway with
      scheduler := { x.gateway.scheduler with
        timer := none
        delay := (x.gateway.scheduler.delay.advance x.gateway.scheduler.config).2 }
      channels := .start :: x.gateway.channels } := by
  obtain ⟨hlive, hdisposed⟩ := ha (by rw [Backoff.Scheduler.isScheduled, htimer]; rfl)
  exact expire_of_timer htimer hdisposed hlive

theorem Healthy.alone (hx : Healthy x.gateway)
    (hunscheduled : x.gateway.disposed = true → x.gateway.scheduler.isScheduled = false) :
    Alone x := by
  intro hscheduled
  have hdisposed : x.gateway.disposed = false := by
    by_contra h
    simp [hunscheduled (by simpa using h)] at hscheduled
  obtain ⟨t, htimer⟩ := Option.isSome_iff_exists.1 hscheduled
  exact ⟨hx.isLive_eq_false htimer hdisposed, hdisposed⟩

namespace Steady

variable {turns : List Turn}

theorem start (config : Config) : Steady [] (.start config) where
  opened _ := rfl
  wait_eq := by rintro t ⟨⟩

theorem call (hx : Steady turns x) (c : Call) :
    Steady (turns ++ (x.turn? (.call c)).toList) (x.call c) where
  opened h := by
    have hopen := Course.isOpen_of_isOpen_call h
    have hturn : x.turn? (.call c) = none := by
      rcases c with _ | _ | _ | _
      case forceReconnect => exact if_neg (by simp [isLive_of_isOpen hopen])
      all_goals rfl
    rw [hturn, Option.toList_none, List.append_nil]
    exact hx.opened hopen
  wait_eq t ht := by
    rcases x.scheduler_call c with h | h
    · rw [h] at ht ⊢
      exact hx.wait_eq t ht
    · rw [h] at ht
      cases ht

theorem receive (hx : Steady turns x) (hl : Lineage config x) (ha : Alone x) (i : Nat)
    (input : Channel.Input) :
    Steady (turns ++ (x.turn? (.receive i input)).toList) (x.receive i input) := by
  rcases hl.closed_or_current i with hclosed | ⟨c, past, rfl, hchannels, hphase⟩
  · have hreceive := (hl.receive_of_closed hclosed input).1
    have hturn : x.turn? (.receive i input) = none := by
      simp only [Course.turn?, hreceive, Channel.Effects.notice_nil]
    have hgateway : (x.receive i input).gateway = x.gateway := congrArg Prod.fst hreceive
    rw [hturn, Option.toList_none, List.append_nil]
    exact ⟨hgateway ▸ hx.opened, hgateway ▸ hx.wait_eq⟩
  · have hc : x.gateway.channels[0]? = some c := by rw [hchannels]; rfl
    have hreceive := receive_of_getElem? hc input
    refine ⟨fun hopen => ?_, fun t ht => ?_⟩
    · -- The channel was open, or the handshake has just been accepted.
      have ho : (c.receive x.gateway.config.channel x.gateway.pending input).channel.phase =
          .opened := by
        rw [Course.receive, hreceive, hchannels] at hopen
        exact of_decide_eq_true hopen
      simp only [Course.turn?, hreceive]
      rcases Channel.opened_of_step (Channel.step_receive ..) ho with hc | ⟨hello, hnotice⟩
      · have hopen' : x.gateway.isOpen = true := by
          simpa [Gateway.isOpen, Gateway.phase, current?, hchannels] using hc
        split
        · exact streak_restarted _
        · rw [Option.toList_none, List.append_nil]
          exact hx.opened hopen'
      · rw [hnotice]
        exact streak_restarted _
    · -- As the channel is live, no timer runs.
      have hscheduled : (x.receive 0 input).gateway.scheduler.isScheduled =
          x.gateway.scheduler.isScheduled := by
        rw [Course.receive, hreceive]
        exact isScheduled_heed _ _
      rw [Backoff.Scheduler.isScheduled, ht] at hscheduled
      have hlive := (ha hscheduled.symm).1
      rw [isLive_of_channels hchannels] at hlive
      simp [Channel.isLive, hphase] at hlive

theorem settle (hx : Steady turns x) (notice : Channel.Notice) :
    Steady turns (x.settle notice) where
  opened h := by
    refine hx.opened ?_
    rw [Course.settle, Gateway.isOpen, Gateway.phase, current?, channels_settle] at h
    exact h
  wait_eq t ht := by
    rcases x.gateway.settle_cases notice with ⟨-, h⟩ | ⟨-, -, -, h⟩
    · rw [Course.settle, h] at ht ⊢
      exact hx.wait_eq t ht
    · rw [Course.settle, h, Backoff.Scheduler.schedule] at ht ⊢
      rcases htimer : x.gateway.scheduler.timer with _ | t'
      · simp only [htimer, Option.some.injEq] at ht ⊢
        rw [← ht]
        rfl
      · simp only [htimer] at ht ⊢
        exact hx.wait_eq t (htimer.trans ht)

theorem expire (hx : Steady turns x) (ha : Alone x) (generation : Nat) :
    Steady (turns ++ (x.turn? (.expire generation)).toList) (x.expire generation) := by
  by_cases hruns : x.gateway.scheduler.timer.map Backoff.Timer.generation = some generation
  · obtain ⟨t, htimer, rfl⟩ := Option.map_eq_some_iff.1 hruns
    rw [Course.expire, ha.expire_eq htimer]
    exact ⟨by rintro ⟨⟩, by rintro t ⟨⟩⟩
  · have hturn : x.turn? (.expire generation) = none := if_neg hruns
    rw [Course.expire, expire_eq_ite, if_neg hruns, hturn, Option.toList_none, List.append_nil]
    exact hx

/-- A step in which no handler makes a call keeps the invariant. -/
theorem step (hx : Steady turns x) (hl : Lineage config x) (ha : Alone x) {m : Move}
    (hm : m.isQuiet = true) : Steady (turns ++ x.turns (x.parts m)) (x.step m) := by
  rcases m with c | ⟨i, input, calls⟩ | generation
  · rw [Course.parts, Course.turns, Course.turns, List.append_nil]
    exact hx.call c
  · obtain rfl : calls = [] := by simpa [Move.isQuiet] using hm
    have hreceive := hx.receive hl ha i input
    rcases hnotice : (x.gateway.receive i input).2.notice with _ | notice
    · simpa only [Course.parts, Course.step, hnotice, Course.turns, List.append_nil] using hreceive
    · have hsettle := hreceive.settle notice
      rw [← List.append_nil (turns ++ _)] at hsettle
      simpa only [Course.parts, Course.step, hnotice, List.map_nil, List.foldl_nil,
        List.cons_append, List.nil_append, Course.turns, Course.turn?, Option.toList_none,
        List.append_nil] using hsettle
  · rw [Course.parts, Course.turns, Course.turns, List.append_nil]
    exact hx.expire ha generation

end Steady

/-! ## Runs -/

/-- The turns of a run, in order. -/
def turns (config : Config) (moves : List Move) : List Turn :=
  (Course.start config).turns ((Course.start config).unfold moves)

theorem run_eq_walk_unfold (config : Config) (moves : List Move) :
    run config moves = (Course.start config).walk ((Course.start config).unfold moves) :=
  (Course.walk_unfold _ moves).symm

theorem turns_append_singleton (config : Config) (moves : List Move) (m : Move) :
    turns config (moves ++ [m]) =
      turns config moves ++ (run config moves).turns ((run config moves).parts m) := by
  rw [turns, Course.unfold_append, Course.turns_append, Course.walk_unfold, Course.unfold,
    Course.unfold, List.append_nil]
  rfl

theorem alone_run (config : Config) {moves : List Move}
    (hquiet : ∀ m ∈ moves, m.isQuiet = true) : Alone (run config moves) := by
  refine (healthy_run config hquiet).alone ?_
  rw [run_eq_walk_unfold]
  exact unscheduled_walk config _

theorem steady_run (config : Config) {moves : List Move}
    (hquiet : ∀ m ∈ moves, m.isQuiet = true) :
    Steady (turns config moves) (run config moves) := by
  induction moves using List.reverseRecOn with
  | nil => exact .start config
  | append_singleton moves m ih =>
    have hmoves : ∀ m ∈ moves, m.isQuiet = true := fun m hm =>
      hquiet m (List.mem_append_left _ hm)
    rw [turns_append_singleton, run_append_singleton]
    exact (ih hmoves).step (lineage_run config moves) (alone_run config hmoves)
      (hquiet m (List.mem_append_right _ List.mem_cons_self))

/-- At every point of a run, also amid the calls of a handler, the delay is the first one, grown
    once for each timer that has fired since the last accepted handshake and the last forced
    reconnect. When no handler makes a call, no timer has fired since then while a channel is
    open, so the delay is the first one; and a timer that runs takes the delay, and opens the
    next channel when it fires, however the attempts before it have ended. -/
theorem delays_run (config : Config) (moves : List Move)
    (hquiet : ∀ m ∈ moves, m.isQuiet = true) :
    let g := (run config moves).gateway
    let k := streak (turns config moves)
    (∀ parts, ((Course.start config).walk parts).gateway.scheduler.current =
      config.backoff.next^[streak ((Course.start config).turns parts)] config.backoff.initial) ∧
    g.scheduler.current = config.backoff.next^[k] config.backoff.initial ∧
    (g.isOpen = true → k = 0 ∧ g.scheduler.current = config.backoff.initial) ∧
    ∀ t, g.scheduler.timer = some t →
      t.wait = config.backoff.next^[k] config.backoff.initial ∧
        (g.expire t.generation).channels = .start :: g.channels := by
  intro g k
  have hcurrent : g.scheduler.current = config.backoff.next^[k] config.backoff.initial := by
    rw [show g = _ from congrArg Course.gateway (run_eq_walk_unfold config moves)]
    exact current_walk config _
  have hsteady := steady_run config hquiet
  refine ⟨current_walk config, hcurrent, fun hopen => ?_, fun t ht => ⟨?_, ?_⟩⟩
  · have hk : k = 0 := hsteady.opened hopen
    exact ⟨hk, by rw [hcurrent, hk]; rfl⟩
  · exact (hsteady.wait_eq t ht).trans hcurrent
  · exact congrArg Gateway.channels ((alone_run config hquiet).expire_eq ht)

/-- A run in which the first socket cannot be opened, the handshake on the second one is not
    answered in time, and the third one is closed by the peer. -/
def failures : List Move :=
  [.call .launch, .input 0 .begin [], .input 0 .refused [], .input 0 .finish [],
    .expire 1, .input 0 .begin [], .input 0 .dialed [], .input 0 (.greeted ⟨"1"⟩) [],
    .input 0 .deadline [], .input 0 .finish [],
    .expire 2, .input 0 .begin [], .input 0 .dialed [], .input 0 (.greeted ⟨"2"⟩) [],
    .input 0 .closedByPeer [], .input 0 .finish []]

/-- After that the timer takes a delay that has grown twice. -/
theorem wait_of_failures :
    (∀ m ∈ failures, m.isQuiet = true) ∧ streak (turns .loopback failures) = 2 ∧
    ∃ t, (run .loopback failures).gateway.scheduler.timer = some t ∧
      t.wait = Config.loopback.backoff.next^[2] Config.loopback.backoff.initial := by
  have hquiet : ∀ m ∈ failures, m.isQuiet = true := by decide
  have hstreak : streak (turns .loopback failures) = 2 := by decide
  obtain ⟨t, ht⟩ : ∃ t, (run .loopback failures).gateway.scheduler.timer = some t :=
    Option.isSome_iff_exists.1 (by decide)
  have hwait := ((delays_run .loopback failures hquiet).2.2.2 t ht).1
  rw [hstreak] at hwait
  exact ⟨hquiet, hstreak, t, ht, hwait⟩

/-- A walk in which a caller forces a reconnect after the first channel has closed, before the
    one who has passed this on starts the timer. -/
def intrusion : List Part :=
  [.call .launch, .receive 0 .begin, .receive 0 .refused, .receive 0 .finish,
    .call .forceReconnect, .settle (.closed false)] ++ accepting.map (.receive 0) ++ [.expire 2]

/-- The timer runs behind the second channel then. It fires while this one is open, and the delay
    is not the first one any more. -/
theorem current_of_intrusion :
    let x := (Course.start .loopback).walk (intrusion.take 3)
    let y := (Course.start .loopback).walk (intrusion.take 10)
    let z := (Course.start .loopback).walk intrusion
    Config.loopback.backoff.check = .ok () ∧
    (x.gateway.receive 0 .finish).2.notice = some (.closed false) ∧
    y.gateway.isOpen = true ∧ y.gateway.scheduler.isScheduled = true ∧
    z.gateway.isOpen = true ∧ streak ((Course.start .loopback).turns intrusion) = 1 ∧
    z.gateway.scheduler.current = .ofMillis 1500 ∧
    z.gateway.scheduler.current ≠ Config.loopback.backoff.initial := by
  decide +kernel

end Tether.Gateway
