import Tether.Proofs.Gateway.Lineage

/-!
# The requests of a gateway

A request belongs to the channel that it was queued on, and what happens on later
channels does not matter to it: no response that is read there is its outcome, and
the end of its channel settles it.

* `outcomes_ofChannel`: the outcomes of a request are delivered on its channel;
* `requests_run`: each request has the outcomes that are due to it, and the pending
  requests of a gateway are those of its current channel.
-/

namespace Tether.Gateway

open Channel (accepted registered outcomes drawn due isOver)

variable {config : Config} {x : Course} {k n : Nat}

/-- What is delivered on one channel alone can be read off its events. -/
theorem outcomes_ofChannel {h : List (Nat × Channel.Event Nat)}
    (hk : ∀ e ∈ h, ∀ d, e.2.delivered? = some d → d.recipient = n → e.1 = k) :
    outcomes n (h.map Prod.snd) = outcomes n (ofChannel k h) := by
  induction h with
  | nil => rfl
  | cons e h ih =>
    have ih := ih fun e' he' => hk e' (List.mem_cons_of_mem _ he')
    rw [List.map_cons, ← List.singleton_append, Channel.outcomes_append, ih,
      ← List.singleton_append (l := h), ofChannel_append, Channel.outcomes_append]
    congr 1
    by_cases hek : e.1 = k
    · simp [ofChannel, hek]
    · -- What happens on another channel delivers nothing to `n`.
      rw [ofChannel_eq_nil (by simpa using hek)]
      cases hdel : e.2.delivered? with
      | none => simp [outcomes, Channel.delivered, hdel]
      | some d =>
        have hne : d.recipient ≠ n := fun hn => hek (hk e List.mem_cons_self d hdel hn)
        simp [outcomes, Channel.delivered, hdel, hne]

namespace Lineage

/-- The events of a channel are those of a run of its own. -/
theorem isRun_of_mem (hx : Lineage config x) {e : Channel.Event Nat} (he : (k, e) ∈ x.events) :
    ∃ c t, Channel.IsRun config.channel ⟨c, t, ofChannel k x.events⟩ := by
  have hlt := hx.number_lt _ he
  have hpresent := hx.present
  cases hchannels : x.gateway.channels with
  | nil =>
    rw [hchannels] at hlt
    cases hlt
  | cons c past =>
    rw [hchannels] at hpresent hlt
    rcases Nat.lt_succ_iff_lt_or_eq.1 hlt with hlt | heq
    · obtain ⟨c', -, hrun⟩ := hpresent.2.isRun_of_lt hlt
      exact ⟨c', .empty, hrun⟩
    · cases heq
      exact ⟨c, _, hpresent.1⟩

theorem distinct (hx : Lineage config x) (hd : (drawn (x.events.map Prod.snd)).Nodup) (k : Nat) :
    Channel.Distinct (ofChannel k x.events) := by
  refine .of_drawn (hd.sublist ((ofChannel_sublist _).filterMap _)) ?_
  refine List.Nodup.sublist (((ofChannel_sublist x.events).filterMap _).map _) ?_
  exact hx.recipients ▸ List.nodup_range

/-- A recipient waits for one request alone. -/
theorem number_eq (hx : Lineage config x) {j : Nat} {request request' : Request}
    (hk : (k, .accepted request n) ∈ x.events) (hj : (j, .accepted request' n) ∈ x.events) :
    j = k := by
  have hnodup : (x.events.filterMap fun e => e.2.accepted?.map Prod.snd).Nodup := by
    have := hx.recipients
    rw [accepted, List.filterMap_map, List.map_filterMap] at this
    exact this ▸ List.nodup_range
  exact congrArg Prod.fst (Channel.eq_of_nodup_filterMap hnodup hj hk rfl rfl)

theorem outcomes_eq (hx : Lineage config x) (hd : (drawn (x.events.map Prod.snd)).Nodup)
    {request : Request} (hk : (k, .accepted request n) ∈ x.events) :
    outcomes n (x.events.map Prod.snd) = outcomes n (ofChannel k x.events) := by
  refine outcomes_ofChannel fun e he d hdel hrec => ?_
  obtain ⟨c, t, hrun⟩ := hx.isRun_of_mem he
  -- What is delivered on a channel is the outcome of a request of that channel.
  obtain ⟨⟨request', n'⟩, ha, rfl⟩ := (hrun.ledger (hx.distinct hd e.1)).delivered_mem d
    (List.mem_filterMap.2 ⟨e.2, mem_ofChannel_iff.2 he, hdel⟩)
  cases hrec
  exact hx.number_eq hk (mem_ofChannel_iff.1 (Channel.mem_accepted_iff.1 ha))

/-- The pending requests are those of the current channel that have no outcome. -/
theorem pending_entries (hx : Lineage config x) (hd : (drawn (x.events.map Prod.snd)).Nodup)
    (hlive : x.gateway.isLive = true) :
    x.gateway.pending.entries =
      (registered (ofChannel (x.gateway.channels.length - 1) x.events)).filter fun e =>
        (outcomes e.2 (x.events.map Prod.snd)).isEmpty := by
  have hpresent := hx.present
  cases hchannels : x.gateway.channels with
  | nil => simp [Gateway.isLive, Gateway.phase, current?, hchannels] at hlive
  | cons c past =>
    rw [hchannels] at hpresent
    have hledger := hpresent.1.ledger (hx.distinct hd past.length)
    rw [hledger.pending]
    refine List.filter_congr fun e he => ?_
    obtain ⟨⟨request, n⟩, ha, rfl⟩ := hledger.registered_mem e he
    have houtcomes := hx.outcomes_eq hd (mem_ofChannel_iff.1 (Channel.mem_accepted_iff.1 ha))
    exact congrArg List.isEmpty houtcomes.symm

theorem outcomes_eq_due (hx : Lineage config x) (hd : (drawn (x.events.map Prod.snd)).Nodup)
    {request : Request} (hk : (k, .accepted request n) ∈ x.events) :
    outcomes n (x.events.map Prod.snd) = due request.id n (ofChannel k x.events) := by
  obtain ⟨c, t, hrun⟩ := hx.isRun_of_mem hk
  rw [hx.outcomes_eq hd hk]
  exact (hrun.ledger (hx.distinct hd k)).settled (request, n)
    (Channel.mem_accepted_iff.2 (mem_ofChannel_iff.2 hk))

theorem recipient_lt (hx : Lineage config x) (hd : (drawn (x.events.map Prod.snd)).Nodup)
    {d : Pending.Delivery Nat} (hdel : d ∈ Channel.delivered (x.events.map Prod.snd)) :
    d.recipient < x.sent := by
  obtain ⟨e, he, hd'⟩ := List.mem_filterMap.1 hdel
  obtain ⟨⟨j, e⟩, hj, rfl⟩ := List.mem_map.1 he
  obtain ⟨c, t, hrun⟩ := hx.isRun_of_mem hj
  obtain ⟨a, ha, had⟩ := (hrun.ledger (hx.distinct hd j)).delivered_mem d
    (List.mem_filterMap.2 ⟨e, mem_ofChannel_iff.2 hj, hd'⟩)
  rw [← List.mem_range, ← hx.recipients, ← had]
  exact List.mem_map_of_mem (((ofChannel_sublist _).filterMap _).subset ha)

end Lineage

/-- When all ids are different, a request either cannot be sent and leaves everything as it
    is, or is queued, and then it has the outcomes that are due to it by the events of its
    channel: the first response with its id after it became pending, and if there is none,
    that the channel is gone once it has closed. So there is one outcome at most, and one
    at the end of the channel. There are no other outcomes. The pending requests are those
    that became pending on the current channel and have no outcome. -/
theorem requests_run (config : Config) (moves : List Move)
    (hd : (drawn ((run config moves).events.map Prod.snd)).Nodup) :
    let x := run config moves
    (∀ (y : Course) (request : Request),
      y.gateway.send request y.sent = .error .notConnected ∧ y.call (.send request) = y ∨
      ∃ g, y.gateway.send request y.sent = .ok g ∧ g.pending = y.gateway.pending ∧
        y.call (.send request) = ⟨g, y.sent + 1, y.events ++
          [(y.gateway.channels.length - 1, .accepted request y.sent)]⟩) ∧
    (accepted (x.events.map Prod.snd)).map Prod.snd = List.range x.sent ∧
    (∀ k request n, (k, .accepted request n) ∈ x.events →
      outcomes n (x.events.map Prod.snd) = due request.id n (ofChannel k x.events) ∧
      (outcomes n (x.events.map Prod.snd)).length ≤ 1 ∧
      (isOver (ofChannel k x.events) = true → (outcomes n (x.events.map Prod.snd)).length = 1)) ∧
    (∀ d ∈ Channel.delivered (x.events.map Prod.snd), d.recipient < x.sent) ∧
    x.gateway.pending.entries =
      if x.gateway.isLive then
        (registered (ofChannel (x.gateway.channels.length - 1) x.events)).filter fun e =>
          (outcomes e.2 (x.events.map Prod.snd)).isEmpty
      else [] := by
  intro x
  have hx : Lineage config x := lineage_run config moves
  refine ⟨fun y request => ?_, hx.recipients, fun k request n hk => ?_,
    fun d hdel => hx.recipient_lt hd hdel, ?_⟩
  · rcases y.gateway.send_cases request y.sent with herror | ⟨c, past, hchannels, -, hok⟩
    · exact .inl ⟨herror, Course.call_send_of_error herror⟩
    · exact .inr ⟨_, hok, rfl, Course.call_send_of_ok hok⟩
  · have hdue := hx.outcomes_eq_due hd hk
    refine ⟨hdue, ?_, fun hover => ?_⟩
    · rw [hdue]
      exact Channel.length_due_le _ _ _
    · rw [hdue]
      exact Channel.length_due_of_isOver hover
  · cases hlive : x.gateway.isLive with
    | true => exact hx.pending_entries hd hlive
    | false => exact congrArg Pending.Table.entries (hx.past_of_not_isLive hlive).1

/-- A request that is pending when the peer closes the socket is told so. -/
theorem outcomes_of_closedByPeer :
    outcomes 0 ((run .loopback
      [.call .launch, .input 0 .begin [], .input 0 .dialed [], .input 0 (.greeted ⟨"1"⟩) [],
        .call (.send ⟨⟨"2"⟩, "health", none⟩), .input 0 (.command true) [],
        .input 0 .closedByPeer [], .input 0 .finish []]).events.map Prod.snd) =
      [.error .disconnected] :=
  ((requests_run .loopback _ (by decide)).2.2.1 0 ⟨⟨"2"⟩, "health", none⟩ 0
    (List.mem_of_getElem? (i := 2) rfl)).1

end Tether.Gateway
