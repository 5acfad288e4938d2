import Tether.Proofs.Channel.Requests
import Tether.Proofs.Gateway.Run

/-!
# The channels of a gateway

Each channel of a gateway goes through a run of its own, whatever happens to the
others: the pending requests are those of the current channel, as every channel that
came before has closed and left none.

* `Past`: the channels that came before;
* `Lineage`: the invariant;
* `lineage_run`: it holds in the course of every run;
* `Lineage.isRun`: so what is known of the runs of a channel applies to the events of
  each channel of a gateway.
-/

namespace Tether

namespace Channel

variable {κ : Type} {config : Config} {x : Course κ}

/-- Whether a course is that of some run. -/
def IsRun (config : Config) (x : Course κ) : Prop := ∃ moves, run config moves = x

theorem IsRun.start : IsRun config (.start : Course κ) := ⟨[], rfl⟩

theorem IsRun.step (hx : IsRun config x) (m : Move κ) : IsRun config (x.step config m) := by
  obtain ⟨moves, rfl⟩ := hx
  exact ⟨moves ++ [m], run_append_singleton moves m⟩

theorem IsRun.lifecycle (hx : IsRun config x) : Lifecycle x := by
  obtain ⟨moves, rfl⟩ := hx
  exact lifecycle_run config moves

theorem IsRun.ledger [DecidableEq κ] (hx : IsRun config x) (hd : Distinct x.events) : Ledger x := by
  obtain ⟨moves, rfl⟩ := hx
  exact ledger_run config moves hd

theorem IsRun.pending_eq_empty (hx : IsRun config x) (hphase : x.channel.phase = .closed) :
    x.pending = .empty := by
  obtain ⟨wasOpen, hstage⟩ := hx.lifecycle.phase_eq_closed_iff.1 hphase
  exact Pending.Table.eq_empty (hx.lifecycle.cleared wasOpen hstage)

/-- After its end, a channel does nothing more. -/
theorem IsRun.receive_of_closed (hx : IsRun config x) (hphase : x.channel.phase = .closed)
    (config' : Config) (t : Pending.Table κ) (input : Input) :
    x.channel.receive config' t input = { channel := x.channel, pending := t } := by
  obtain ⟨wasOpen, hstage⟩ := hx.lifecycle.phase_eq_closed_iff.1 hphase
  rw [receive] <;> simp [hstage]

end Channel

namespace Gateway

/-! ## The invariant -/

section past

variable {config : Channel.Config} {h h' : List (Nat × Channel.Event Nat)}
  {past : List (Channel Nat)}

/-- The channels that came before have closed, each in a run of its own. -/
def Past (config : Channel.Config) (h : List (Nat × Channel.Event Nat)) :
    List (Channel Nat) → Prop
  | [] => True
  | c :: past =>
    c.phase = .closed ∧ Channel.IsRun config ⟨c, .empty, ofChannel past.length h⟩ ∧
      Past config h past

/-- The current channel is in a run of its own, with the pending requests of the gateway. -/
def Present (config : Channel.Config) (t : Pending.Table Nat)
    (h : List (Nat × Channel.Event Nat)) : List (Channel Nat) → Prop
  | [] => t = .empty
  | c :: past => Channel.IsRun config ⟨c, t, ofChannel past.length h⟩ ∧ Past config h past

/-- What happens on later channels does not matter to the earlier ones. -/
theorem Past.congr (hp : Past config h past)
    (hh : ∀ k < past.length, ofChannel k h' = ofChannel k h) : Past config h' past := by
  induction past with
  | nil => trivial
  | cons c past ih =>
    obtain ⟨hclosed, hrun, hp⟩ := hp
    refine ⟨hclosed, ?_, ih hp fun k hk => hh k (Nat.lt_succ_of_lt hk)⟩
    rw [hh past.length (Nat.lt_succ_self _)]
    exact hrun

theorem Past.onChannel (hp : Past config h past) (more : List (Channel.Event Nat)) :
    Past config (h ++ onChannel past.length more) past :=
  hp.congr fun k hk => by
    rw [ofChannel_append, ofChannel_onChannel_of_ne (Nat.ne_of_gt hk), List.append_nil]

theorem Past.phase_eq_closed (hp : Past config h past) {c : Channel Nat} (hc : c ∈ past) :
    c.phase = .closed := by
  induction past with
  | nil => cases hc
  | cons c' past ih =>
    rcases List.mem_cons.1 hc with rfl | hc
    · exact hp.1
    · exact ih hp.2.2 hc

theorem Past.isRun (hp : Past config h past) {c : Channel Nat} (hc : c ∈ past) :
    ∃ k, Channel.IsRun config ⟨c, .empty, ofChannel k h⟩ := by
  induction past with
  | nil => cases hc
  | cons c' past ih =>
    rcases List.mem_cons.1 hc with rfl | hc
    · exact ⟨past.length, hp.2.1⟩
    · exact ih hp.2.2 hc

theorem Past.isRun_of_lt (hp : Past config h past) {k : Nat} (hk : k < past.length) :
    ∃ c, c.phase = .closed ∧ Channel.IsRun config ⟨c, .empty, ofChannel k h⟩ := by
  induction past with
  | nil => cases hk
  | cons c past ih =>
    rcases Nat.lt_succ_iff_lt_or_eq.1 hk with hk | rfl
    · exact ih hp.2.2 hk
    · exact ⟨c, hp.1, hp.2.1⟩

end past

/-- How the channels of a gateway and its history belong together. -/
structure Lineage (config : Config) (x : Course) : Prop where
  config_eq : x.gateway.config = config
  present : Present config.channel x.gateway.pending x.events x.gateway.channels
  number_lt : ∀ e ∈ x.events, e.1 < x.gateway.channels.length
  recipients : (Channel.accepted (x.events.map Prod.snd)).map Prod.snd = List.range x.sent

namespace Lineage

variable {config : Config} {x x' : Course}

theorem start (config : Config) : Lineage config (.start config) where
  config_eq := rfl
  present := rfl
  number_lt := by simp [Course.start]
  recipients := rfl

/-- A change that concerns neither the channels nor the requests. -/
theorem of_gateway (hx : Lineage config x) {g : Gateway Nat}
    (hconfig : g.config = x.gateway.config) (hchannels : g.channels = x.gateway.channels)
    (hpending : g.pending = x.gateway.pending) : Lineage config { x with gateway := g } where
  config_eq := hconfig.trans hx.config_eq
  present := by
    rw [hchannels, hpending]
    exact hx.present
  number_lt := by
    rw [hchannels]
    exact hx.number_lt
  recipients := hx.recipients

/-- No events have the number of the next channel. -/
theorem ofChannel_eq_nil (hx : Lineage config x) :
    ofChannel x.gateway.channels.length x.events = [] :=
  Gateway.ofChannel_eq_nil fun e he => Nat.ne_of_lt (hx.number_lt e he)

/-- The next channel finds no pending requests. -/
theorem past_of_not_isLive (hx : Lineage config x) (hlive : x.gateway.isLive = false) :
    x.gateway.pending = .empty ∧ Past config.channel x.events x.gateway.channels := by
  have hpresent := hx.present
  cases hc : x.gateway.channels with
  | nil =>
    rw [hc] at hpresent
    exact ⟨hpresent, trivial⟩
  | cons c past =>
    rw [hc] at hpresent
    have hphase : c.phase = .closed := by
      simpa [isLive_of_channels hc, Channel.isLive] using hlive
    -- The end of a channel leaves no pending requests to the next one.
    have hpending : x.gateway.pending = .empty := hpresent.1.pending_eq_empty hphase
    refine ⟨hpending, hphase, ?_, hpresent.2⟩
    rw [← hpending]
    exact hpresent.1

theorem openNext (hx : Lineage config x) :
    Lineage config { x with gateway := x.gateway.openNext } := by
  rcases x.gateway.openNext_cases with ⟨-, hopen⟩ | ⟨hlive, hopen⟩
  · rw [hopen]
    exact hx
  · obtain ⟨hpending, hpast⟩ := hx.past_of_not_isLive hlive
    rw [hopen]
    refine ⟨hx.config_eq, ⟨?_, hpast⟩, fun e he => Nat.lt_succ_of_lt (hx.number_lt e he),
      hx.recipients⟩
    -- The new channel is at the start of its run, with nothing pending and no events.
    rw [hpending, hx.ofChannel_eq_nil]
    exact .start

theorem connect (hx : Lineage config x) :
    Lineage config { x with gateway := x.gateway.connect } := by
  rw [Gateway.connect]
  split
  · exact hx
  · exact hx.openNext

/-- The same after a change that concerns neither the channels nor the requests. -/
theorem connect_of_gateway (hx : Lineage config x) {g : Gateway Nat}
    (hconfig : g.config = x.gateway.config) (hchannels : g.channels = x.gateway.channels)
    (hpending : g.pending = x.gateway.pending) :
    Lineage config { x with gateway := g.connect } :=
  (hx.of_gateway hconfig hchannels hpending).connect

/-- A change of the current channel. -/
theorem of_current (hx : Lineage config x) {c : Channel Nat} (c' : Channel Nat)
    {past : List (Channel Nat)} (more : List (Channel.Event Nat))
    (hchannels : x.gateway.channels = c :: past)
    (hconfig : x'.gateway.config = x.gateway.config) (hchannels' : x'.gateway.channels = c' :: past)
    (hevents : x'.events = x.events ++ onChannel past.length more)
    (hrun : Channel.IsRun config.channel
      ⟨c', x'.gateway.pending, ofChannel past.length x.events ++ more⟩)
    (hrecipients : (Channel.accepted (x'.events.map Prod.snd)).map Prod.snd = List.range x'.sent) :
    Lineage config x' where
  config_eq := hconfig.trans hx.config_eq
  present := by
    have hpresent := hx.present
    rw [hchannels] at hpresent
    rw [hchannels', hevents]
    refine ⟨?_, hpresent.2.onChannel more⟩
    rw [ofChannel_append, ofChannel_onChannel]
    exact hrun
  number_lt e he := by
    rw [hevents, List.mem_append] at he
    rw [hchannels']
    rcases he with he | he
    · have := hx.number_lt e he
      rwa [hchannels] at this
    · obtain ⟨e', -, rfl⟩ := List.mem_map.1 he
      exact Nat.lt_succ_self _
  recipients := hrecipients

/-- The current channel, if there is one, is asked for the end of its conversation. -/
theorem shutdown (hx : Lineage config x) : Lineage config x.shutdown := by
  cases hchannels : x.gateway.channels with
  | nil =>
    rw [Course.shutdown_of_nil hchannels]
    exact hx
  | cons c past =>
    have hpresent := hx.present
    rw [hchannels] at hpresent
    rw [Course.shutdown_of_cons hchannels]
    refine hx.of_current c.shutdown [.shut] hchannels rfl rfl rfl (hpresent.1.step .shutdown) ?_
    rw [List.map_append, Channel.accepted_append, List.map_append, hx.recipients]
    simp [Channel.accepted, Channel.Event.accepted?]

theorem call (hx : Lineage config x) (c : Call) : Lineage config (x.call c) := by
  cases c with
  | launch =>
    show Lineage config { x with gateway := x.gateway.launch }
    rcases x.gateway.launch_cases with ⟨-, hlaunch⟩ | ⟨-, -, hlaunch⟩
    · rw [hlaunch]
      exact hx
    · rw [hlaunch]
      exact hx.connect_of_gateway rfl rfl rfl
  | send request =>
    rcases x.gateway.send_cases request x.sent with herror | ⟨c, past, hchannels, hready, hok⟩
    · rw [Course.call_send_of_error herror]
      exact hx
    · have hpresent := hx.present
      rw [hchannels] at hpresent
      rw [Course.call_send_of_ok hok, hchannels]
      refine hx.of_current _ _ hchannels rfl rfl rfl ?_ ?_
      · have := hpresent.1.step (.send request x.sent)
        rwa [Channel.Course.step_send_of_isReady hready] at this
      · rw [List.map_append, Channel.accepted_append, List.map_append, hx.recipients,
          map_snd_onChannel, List.range_succ]
        rfl
  | forceReconnect =>
    show Lineage config { x with gateway := x.gateway.forceReconnect }
    rcases x.gateway.forceReconnect_cases with ⟨-, hforce⟩ | ⟨-, -, -, hforce⟩
    · rw [hforce]
      exact hx
    · rw [hforce]
      exact hx.connect_of_gateway rfl rfl rfl
  | dispose =>
    cases hdisposed : x.gateway.disposed with
    | true =>
      rw [Course.call_dispose_of_disposed hdisposed]
      exact hx
    | false =>
      rw [Course.call_dispose_of_not_disposed hdisposed]
      refine shutdown (x := { x with gateway := stopTimer { x.gateway with disposed := true } }) ?_
      exact hx.of_gateway rfl rfl rfl

/-- Each channel is in a run of its own. -/
theorem isRun (hx : Lineage config x) {c : Channel Nat} (hc : c ∈ x.gateway.channels) :
    ∃ t k, Channel.IsRun config.channel ⟨c, t, ofChannel k x.events⟩ := by
  have hpresent := hx.present
  cases hchannels : x.gateway.channels with
  | nil =>
    rw [hchannels] at hc
    cases hc
  | cons c' past =>
    rw [hchannels] at hpresent hc
    rcases List.mem_cons.1 hc with rfl | hc
    · exact ⟨_, _, hpresent.1⟩
    · exact ⟨.empty, hpresent.2.isRun hc⟩

/-- An input to a channel that has closed does nothing. -/
theorem receive_of_closed (hx : Lineage config x) {i : Nat}
    (hclosed : ∀ c, x.gateway.channels[i]? = some c → c.phase = .closed) (input : Channel.Input) :
    x.gateway.receive i input = (x.gateway, {}) ∧ x.gateway.happenings i input = [] := by
  cases hc : x.gateway.channels[i]? with
  | none => simp only [Gateway.receive, happenings, hc, and_self]
  | some c =>
    obtain ⟨t, k, hrun⟩ := hx.isRun (List.mem_of_getElem? hc)
    obtain ⟨wasOpen, hstage⟩ := hrun.lifecycle.phase_eq_closed_iff.1 (hclosed c hc)
    have hreceive := hrun.receive_of_closed (hclosed c hc) x.gateway.config.channel
      x.gateway.pending input
    obtain ⟨hi, rfl⟩ := List.getElem?_eq_some_iff.1 hc
    rw [receive_of_getElem? hc, happenings_of_getElem? hc input [], hreceive]
    refine ⟨by simp [heed], Channel.Course.happenings_eq_nil _ _ _ ?_ ?_ rfl⟩
    · exact Channel.greeting?_eq_none fun _ h => by rw [hstage] at h; cases h
    · exact Channel.frame?_eq_none fun _ _ h => by rw [hstage] at h; cases h

/-- Of the channels, only the current one may not have closed. -/
theorem closed_or_current (hx : Lineage config x) (i : Nat) :
    (∀ c, x.gateway.channels[i]? = some c → c.phase = .closed) ∨
      ∃ c past, i = 0 ∧ x.gateway.channels = c :: past ∧ c.phase ≠ .closed := by
  by_cases hclosed : ∀ c, x.gateway.channels[i]? = some c → c.phase = .closed
  · exact .inl hclosed
  · simp only [not_forall] at hclosed
    obtain ⟨c, hc, hphase⟩ := hclosed
    have hpresent := hx.present
    cases hchannels : x.gateway.channels with
    | nil => simp [hchannels] at hc
    | cons c' past =>
      rw [hchannels] at hpresent hc
      cases i with
      | succ i => exact absurd (hpresent.2.phase_eq_closed (List.mem_of_getElem? hc)) hphase
      | zero =>
        cases hc
        exact .inr ⟨c, past, rfl, rfl, hphase⟩

/-- An input reaches the current channel. The earlier ones do nothing any more. -/
theorem receive (hx : Lineage config x) (i : Nat) (input : Channel.Input) :
    Lineage config (x.receive i input) := by
  rcases hx.closed_or_current i with hclosed | ⟨c, past, rfl, hchannels, -⟩
  · obtain ⟨hreceive, hhappenings⟩ := hx.receive_of_closed hclosed input
    rw [Course.receive, hreceive, hhappenings]
    simpa [onChannel] using hx
  · have hpresent := hx.present
    rw [hchannels] at hpresent
    have hc : x.gateway.channels[0]? = some c := by rw [hchannels]; rfl
    have hreceive := receive_of_getElem? hc input
    refine hx.of_current (c.receive x.gateway.config.channel x.gateway.pending input).channel
      (x.gateway.happenings 0 input) hchannels ?_ ?_ ?_ ?_ ?_
    · rw [Course.receive, hreceive]
    · rw [Course.receive, hreceive]
      simp [hchannels]
    · simp [Course.receive, hchannels]
    · rw [Course.receive, hreceive, happenings_of_getElem? hc input, hx.config_eq]
      exact hpresent.1.step (.input input)
    · rw [Course.receive, List.map_append, Channel.accepted_append, map_snd_onChannel,
        happenings_of_getElem? hc input [], Channel.Course.accepted_happenings, List.append_nil]
      exact hx.recipients

theorem expire (hx : Lineage config x) (generation : Nat) :
    Lineage config (x.expire generation) := by
  rw [Course.expire]
  rcases x.gateway.expire_cases generation with hexpire | ⟨t, -, -, hexpire⟩
  · rw [hexpire]
    exact hx
  · rw [hexpire]
    exact hx.connect_of_gateway rfl rfl rfl

theorem settle (hx : Lineage config x) (notice : Channel.Notice) :
    Lineage config (x.settle notice) := by
  rw [Course.settle]
  rcases x.gateway.settle_cases notice with ⟨-, hsettle⟩ | ⟨wasOpen, -, -, hsettle⟩
  · rw [hsettle]
    exact hx
  · rw [hsettle]
    exact hx.of_gateway rfl rfl rfl

/-- A step keeps the invariant. -/
theorem step (hx : Lineage config x) (m : Move) : Lineage config (x.step m) :=
  Course.step_induction hx (fun _ c hx => hx.call c) (fun _ i input hx => hx.receive i input)
    (fun _ notice hx => hx.settle notice) (fun _ generation hx => hx.expire generation) m

end Lineage

/-- The invariant holds in the course of every run. -/
theorem lineage_run (config : Config) (moves : List Move) : Lineage config (run config moves) :=
  Course.run_induction (.start config) fun _ m _ hx => hx.step m

end Gateway

end Tether
