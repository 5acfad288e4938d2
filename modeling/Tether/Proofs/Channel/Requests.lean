import Mathlib.Data.List.Nodup
import Mathlib.Data.List.Pairwise
import Tether.Proofs.Channel.Lifecycle

/-!
# The requests of a channel

A request is queued, becomes pending, and has its outcome in the end. What the
outcome has to be can be read off the history (`due`): the first response with the
id of the request that comes after the request is pending, and that the request was
cut off if the channel closes before.

* `Distinct`: no two requests have one id or one recipient, and the handshake has an
  id of its own;
* `Ledger`: the invariant, which ties the queue, the table and the outcomes to the
  history;
* `ledger_run`: it holds in the course of every run with distinct ids.
-/

namespace Tether.Channel

variable {κ : Type} {config : Config}

/-! ## What is due -/

/-- Whether the channel has closed. -/
def isOver (h : List (Event κ)) : Bool :=
  (notices h).any fun n => n = .closed true ∨ n = .closed false

/-- The outcomes that a request has to have. -/
def due [DecidableEq κ] (id : RequestId) (recipient : κ) (h : List (Event κ)) :
    List (Except Failure Response) :=
  match answer? id recipient h with
  | some r => [.ok r]
  | none => if isOver h then [.error .disconnected] else []

/-- A request as an entry of the table. -/
def entry (a : Request × κ) : RequestId × κ := (a.1.id, a.2)

/-- The request of a command. -/
def Command.request? : Command κ → Option (Request × κ)
  | .send request recipient => some (request, recipient)
  | .shutdown => none

/-- The requests in the queue. -/
def queued (queue : List (Command κ)) : List (Request × κ) := queue.filterMap Command.request?

/-- All ids and all recipients are different. -/
structure Distinct (h : List (Event κ)) : Prop where
  ids : ((accepted h).map fun a => a.1.id).Nodup
  recipients : ((accepted h).map Prod.snd).Nodup
  greeted : ∀ id, greetedId? h = some id → id ∉ (accepted h).map fun a => a.1.id

section due

variable [DecidableEq κ] {id : RequestId} {recipient : κ} {h h' : List (Event κ)}

theorem due_of_answer {r : Response} (ha : answer? id recipient h = some r) :
    due id recipient h = [.ok r] := by
  rw [due, ha]

theorem due_of_isOver (ha : answer? id recipient h = none) (ho : isOver h = true) :
    due id recipient h = [.error .disconnected] := by
  rw [due, ha, ho]
  rfl

theorem due_of_not_isOver (ha : answer? id recipient h = none) (ho : isOver h = false) :
    due id recipient h = [] := by
  rw [due, ha, ho]
  rfl

theorem due_congr (ha : answer? id recipient h' = answer? id recipient h)
    (ho : isOver h' = isOver h) : due id recipient h' = due id recipient h := by
  rw [due, ha, ho, due]

theorem due_eq_nil_iff :
    due id recipient h = [] ↔ answer? id recipient h = none ∧ isOver h = false := by
  rw [due]
  split
  · simp [*]
  · split <;> simp [*]

theorem length_due_le (id : RequestId) (recipient : κ) (h : List (Event κ)) :
    (due id recipient h).length ≤ 1 := by
  rw [due]
  split
  · exact Nat.le_refl 1
  · split <;> simp

theorem length_due_of_isOver (ho : isOver h = true) : (due id recipient h).length = 1 := by
  rw [due, ho]
  split <;> rfl

end due

theorem Lifecycle.isOver_iff {x : Course κ} (hx : Lifecycle x) :
    isOver x.events = true ↔ x.channel.phase = .closed := by
  obtain ⟨early, late, htrace, -⟩ := hx.trace
  rw [hx.phase_eq_closed_iff, isOver, htrace]
  cases hs : x.channel.stage with
  | closed wasOpen => cases wasOpen <;> simp [Stage.ending]
  | _ =>
    simp only [Stage.ending, List.append_nil, List.any_eq_true, List.mem_append, List.mem_map,
      decide_eq_true_eq, reduceCtorEq, exists_false, iff_false]
    rintro ⟨n, (⟨f, -, rfl⟩ | hn) | ⟨f, -, rfl⟩, h⟩
    · simp at h
    · rcases h with rfl | rfl
      · exact closed_not_mem_verdict hn
      · exact closed_not_mem_verdict hn
    · simp at h

theorem isOver_append (h h' : List (Event κ)) : isOver (h ++ h') = (isOver h || isOver h') := by
  simp [isOver]

/-- A channel reaches its last phase when it says so. -/
theorem Lifecycle.phase_eq_closed_iff_notice {x : Course κ} {input : Input} {o : Outcome κ}
    (hx : Lifecycle x) (h : Step config x.pending x.channel input o)
    (hphase : x.channel.phase ≠ .closed) :
    o.channel.phase = .closed ↔ ∃ wasOpen, o.notice = some (.closed wasOpen) := by
  have hover : isOver x.events = false := Bool.not_eq_true _ ▸ mt hx.isOver_iff.1 hphase
  have := (lifecycle_of_step h hx).isOver_iff
  rw [Course.after, isOver_append, hover, Bool.false_or, isOver, Course.notices_happenings,
    h.notices_eq] at this
  rw [← this]
  cases o.notice with
  | none => simp
  | some n =>
    cases n with
    | closed wasOpen => cases wasOpen <;> simp
    | _ => simp

/-- Where no value is found twice, each comes from one element. -/
theorem eq_of_nodup_filterMap {α β : Type} {f : α → Option β} {as : List α}
    (has : (as.filterMap f).Nodup) {a a' : α} (ha : a ∈ as) (ha' : a' ∈ as) {b : β}
    (hb : f a = some b) (hb' : f a' = some b) : a = a' := by
  have : Std.Symm fun a a' : α => ∀ b, f a = some b → ∀ b', f a' = some b' → b ≠ b' :=
    ⟨fun _ _ h c hc c' hc' => (h c' hc' c hc).symm⟩
  by_contra hne
  exact (List.pairwise_filterMap.1 has).forall ha ha' hne b hb b hb' rfl

/-- Where no id is drawn twice, no two requests have one id. -/
theorem nodup_ids_of_drawn {h : List (Event κ)} (hdrawn : (drawn h).Nodup) :
    ((accepted h).map fun a => a.1.id).Nodup := by
  rw [List.Nodup, List.pairwise_map, accepted, List.pairwise_filterMap]
  refine (List.pairwise_filterMap.1 hdrawn).imp fun {e e'} hne a ha a' ha' => ?_
  cases e <;> cases ha
  cases e' <;> cases ha'
  exact hne _ rfl _ rfl

/-- Where no id is drawn twice, no request has the id of the handshake. -/
theorem greetedId_not_mem_of_drawn {h : List (Event κ)} (hdrawn : (drawn h).Nodup) {id : RequestId}
    (hid : greetedId? h = some id) : id ∉ (accepted h).map fun a => a.1.id := by
  intro hmem
  obtain ⟨e, he, heid⟩ := List.mem_filterMap.1 (List.mem_of_head? hid)
  obtain ⟨⟨request, recipient⟩, ha, haid⟩ := List.mem_map.1 hmem
  cases e <;> cases heid
  cases eq_of_nodup_filterMap hdrawn he (mem_accepted_iff.1 ha) rfl (congrArg some haid)

theorem Distinct.of_drawn {h : List (Event κ)} (hdrawn : (drawn h).Nodup)
    (hrecipients : ((accepted h).map Prod.snd).Nodup) : Distinct h where
  ids := nodup_ids_of_drawn hdrawn
  recipients := hrecipients
  greeted _ := greetedId_not_mem_of_drawn hdrawn

theorem Distinct.of_append {h h' : List (Event κ)} (hd : Distinct (h ++ h')) : Distinct h where
  ids := by
    have := hd.ids
    rw [accepted_append, List.map_append] at this
    exact (List.nodup_append.1 this).1
  recipients := by
    have := hd.recipients
    rw [accepted_append, List.map_append] at this
    exact (List.nodup_append.1 this).1
  greeted id hid hmem := by
    refine hd.greeted id (by rw [greetedId?_append, hid, Option.some_or]) ?_
    rw [accepted_append, List.map_append]
    exact List.mem_append_left _ hmem

namespace Distinct

variable {h : List (Event κ)} {a b : Request × κ}

theorem eq_of_id_eq (hd : Distinct h) (ha : a ∈ accepted h) (hb : b ∈ accepted h)
    (hab : a.1.id = b.1.id) : a = b :=
  List.inj_on_of_nodup_map hd.ids ha hb hab

theorem eq_of_recipient_eq (hd : Distinct h) (ha : a ∈ accepted h) (hb : b ∈ accepted h)
    (hab : a.2 = b.2) : a = b :=
  List.inj_on_of_nodup_map hd.recipients ha hb hab

end Distinct

theorem outcomes_congr [DecidableEq κ] {h h' : List (Event κ)} (hd : delivered h' = delivered h)
    (recipient : κ) : outcomes recipient h' = outcomes recipient h := by
  rw [outcomes, hd, outcomes]

/-- The recipients of the requests that are queued or pending. -/
def Course.waiting (x : Course κ) : List κ :=
  (queued x.channel.queue).map Prod.snd ++ x.pending.entries.map Prod.snd

/-- What comes of one outcome for each of several recipients. -/
theorem map_outcome_filter [DecidableEq κ] {ks : List κ} (hks : ks.Nodup) (recipient : κ)
    {outcome : Except Failure Response} :
    ((ks.map fun k => (⟨k, outcome⟩ : Pending.Delivery κ)).filter
      fun d => d.recipient = recipient).map Pending.Delivery.outcome =
      if recipient ∈ ks then [outcome] else [] := by
  induction ks with
  | nil => rfl
  | cons k ks ih =>
    obtain ⟨hk, hks⟩ := List.nodup_cons.1 hks
    by_cases h : k = recipient
    · subst h
      simp [ih hks, hk]
    · simp [ih hks, h, Ne.symm h]

/-! ## The invariant -/

/-- How the queue, the table and the outcomes of the requests belong to the history. -/
structure Ledger [DecidableEq κ] (x : Course κ) : Prop where
  /-- No request is queued before the socket is open. -/
  unqueued : x.channel.phase = .connecting → accepted x.events = []
  /-- Up to the end, the requests have become pending in the order of the queue. -/
  entered : x.channel.phase ≠ .closed → ∃ taken,
    accepted x.events = taken ++ queued x.channel.queue ∧ registered x.events = taken.map entry
  registered_mem : ∀ e ∈ registered x.events, ∃ a ∈ accepted x.events, entry a = e
  pending : x.pending.entries =
    (registered x.events).filter fun e => (outcomes e.2 x.events).isEmpty
  settled : ∀ a ∈ accepted x.events, outcomes a.2 x.events = due a.1.id a.2 x.events
  delivered_mem : ∀ d ∈ delivered x.events, ∃ a ∈ accepted x.events, a.2 = d.recipient

namespace Ledger

variable [DecidableEq κ] {x x' : Course κ} {input : Input} {o : Outcome κ}

theorem start : Ledger (Course.start : Course κ) where
  unqueued _ := rfl
  entered _ := ⟨[], rfl, rfl⟩
  registered_mem := by simp [Course.start, registered]
  pending := rfl
  settled := by simp [Course.start, accepted]
  delivered_mem := by simp [Course.start, delivered]

/-- A change that concerns no request. -/
theorem of_quiet (hx : Ledger x) (haccepted : accepted x'.events = accepted x.events)
    (hregistered : registered x'.events = registered x.events)
    (hdelivered : delivered x'.events = delivered x.events)
    (hdue : ∀ a ∈ accepted x.events, due a.1.id a.2 x'.events = due a.1.id a.2 x.events)
    (hqueue : queued x'.channel.queue = queued x.channel.queue)
    (hpending : x'.pending = x.pending)
    (hconnecting : x'.channel.phase = .connecting → x.channel.phase = .connecting)
    (hclosed : x.channel.phase = .closed → x'.channel.phase = .closed) : Ledger x' where
  unqueued h := haccepted.trans (hx.unqueued (hconnecting h))
  entered h := by
    rw [haccepted, hregistered, hqueue]
    exact hx.entered (mt hclosed h)
  registered_mem := by
    rw [hregistered, haccepted]
    exact hx.registered_mem
  pending := by
    rw [hpending, hregistered, hx.pending]
    simp only [outcomes_congr hdelivered]
  settled a ha := by
    rw [haccepted] at ha
    rw [outcomes_congr hdelivered, hx.settled a ha, hdue a ha]
  delivered_mem := by
    rw [hdelivered, haccepted]
    exact hx.delivered_mem

/-- A request that is pending has been queued, and has no outcome. -/
theorem of_mem_pending (hx : Ledger x) {e : RequestId × κ} (he : e ∈ x.pending.entries) :
    ∃ a ∈ accepted x.events, entry a = e ∧ e ∈ registered x.events ∧
      outcomes e.2 x.events = [] := by
  rw [hx.pending, List.mem_filter, List.isEmpty_iff] at he
  obtain ⟨a, ha, hae⟩ := hx.registered_mem e he.1
  exact ⟨a, ha, hae, he⟩

/-- A request in the queue has not become pending. -/
theorem not_mem_registered (hx : Ledger x) (hd : Distinct x.events)
    (hclosed : x.channel.phase ≠ .closed) {a : Request × κ} (ha : a ∈ queued x.channel.queue) :
    a ∈ accepted x.events ∧ ∀ e ∈ registered x.events, e.1 ≠ a.1.id ∧ e.2 ≠ a.2 := by
  obtain ⟨taken, haccepted, hregistered⟩ := hx.entered hclosed
  have hids := hd.ids
  have hrecipients := hd.recipients
  rw [haccepted, List.map_append, List.nodup_append] at hids hrecipients
  refine ⟨by rw [haccepted]; exact List.mem_append_right _ ha, ?_⟩
  rw [hregistered]
  intro e he
  obtain ⟨b, hb, rfl⟩ := List.mem_map.1 he
  exact ⟨hids.2.2 _ (List.mem_map_of_mem hb) _ (List.mem_map_of_mem ha),
    hrecipients.2.2 _ (List.mem_map_of_mem hb) _ (List.mem_map_of_mem ha)⟩

theorem not_mem_registered_of_queue (hx : Ledger x) (hd : Distinct x.events)
    (hclosed : x.channel.phase ≠ .closed) {request : Request} {recipient : κ}
    {queue : List (Command κ)} (hqueue : x.channel.queue = .send request recipient :: queue) :
    (request, recipient) ∈ accepted x.events ∧
      ∀ e ∈ registered x.events, e.1 ≠ request.id ∧ e.2 ≠ recipient :=
  hx.not_mem_registered hd hclosed (a := (request, recipient))
    (by rw [hqueue]; exact List.mem_cons_self)

/-- A response is delivered to its request, which is pending no more. -/
theorem of_answered (hx : Ledger x) (hd : Distinct x.events) {r : Response} {recipient : κ}
    {more : List (Event κ)} (hget : x.pending.get? r.id = some recipient)
    (hchannel : x'.channel = x.channel) (hpending : x'.pending = x.pending.erase r.id)
    (hevents : x'.events = x.events ++ more)
    (haccepted : accepted more = []) (hregistered : registered more = [])
    (hdelivered : delivered more = [⟨recipient, .ok r⟩]) (hover' : isOver more = false)
    (hresponse : ∀ id, response? id more = if r.id = id then some r else none) : Ledger x' := by
  have hmem : (r.id, recipient) ∈ x.pending.entries := Pending.Table.mem_of_get?_eq_some hget
  obtain ⟨b, hb, hentry, hregisteredb, hnone⟩ := hx.of_mem_pending hmem
  have hid : b.1.id = r.id := congrArg Prod.fst hentry
  have hrecipient : b.2 = recipient := congrArg Prod.snd hentry
  have hacc : accepted x'.events = accepted x.events := by
    rw [hevents, accepted_append, haccepted, List.append_nil]
  have hreg : registered x'.events = registered x.events := by
    rw [hevents, registered_append, hregistered, List.append_nil]
  -- Ids and recipients are both unique, so they point to the same request.
  have hiff (a : Request × κ) (ha : a ∈ accepted x.events) : a.1.id = r.id ↔ a.2 = recipient := by
    constructor
    · intro h
      rw [hd.eq_of_id_eq ha hb (h.trans hid.symm), hrecipient]
    · intro h
      rw [hd.eq_of_recipient_eq ha hb (h.trans hrecipient.symm), hid]
  have houtcomes (k : κ) : outcomes k x'.events =
      outcomes k x.events ++ if recipient = k then [.ok r] else [] := by
    rw [hevents, outcomes_append, outcomes, outcomes, hdelivered]
    by_cases h : recipient = k <;> simp [h]
  refine ⟨?_, ?_, ?_, ?_, ?_, ?_⟩
  · rw [hchannel, hacc]
    exact hx.unqueued
  · rw [hchannel, hacc, hreg]
    exact hx.entered
  · rw [hacc, hreg]
    exact hx.registered_mem
  · rw [hpending, hreg]
    show x.pending.entries.filter _ = _
    rw [hx.pending, List.filter_filter]
    refine List.filter_congr fun e he => ?_
    obtain ⟨a, ha, rfl⟩ := hx.registered_mem e he
    have := hiff a ha
    rw [houtcomes]
    by_cases h : recipient = a.2
    · simp [entry, this, h]
    · simp [entry, this, h, Ne.symm h]
  · intro a ha
    rw [hacc] at ha
    rw [houtcomes, hx.settled a ha]
    by_cases h : a.2 = recipient
    · -- Nothing was due to the request so far, so this is its first response.
      have hab : a = b := hd.eq_of_recipient_eq ha hb (h.trans hrecipient.symm)
      have hdue := hx.settled a ha
      rw [h, hnone] at hdue
      rw [if_pos h.symm, h, ← hdue, List.nil_append, due_of_answer]
      rw [hevents, (hiff a ha).2 h, answer?_append_of_mem hregisteredb, hresponse, if_pos rfl,
        ← (hiff a ha).2 h, (due_eq_nil_iff.1 hdue.symm).1, Option.none_or]
    · have hne : r.id ≠ a.1.id := fun hr => h ((hiff a ha).1 hr.symm)
      rw [if_neg (Ne.symm h), List.append_nil, hevents]
      refine (due_congr (answer?_append_of_response?_eq_none ?_) ?_).symm
      · rw [hresponse, if_neg hne]
      · rw [isOver_append, hover', Bool.or_false]
  · intro d hd
    rw [hevents, delivered_append, hdelivered, List.mem_append, List.mem_singleton] at hd
    rw [hacc]
    rcases hd with hd | rfl
    · exact hx.delivered_mem d hd
    · exact ⟨b, hb, hrecipient⟩

/-- A step that enters no request, delivers no outcome and is not the last. A response
    that is read meanwhile is to no request that still waits for one. -/
theorem of_silent (hx : Ledger x) (hdeliveries : o.deliveries = [])
    (hregistered : o.registered = [])
    (hnotice : ∀ wasOpen, .noticed (.closed wasOpen) ∉ o.done) (hpending : o.pending = x.pending)
    (hqueue : queued o.channel.queue = queued x.channel.queue)
    (hconnecting : o.channel.phase = .connecting → x.channel.phase = .connecting)
    (hclosed : x.channel.phase = .closed → o.channel.phase = .closed)
    (hresponse : ∀ a ∈ accepted x.events,
      (x.channel.frame? input).bind (responseTo? a.1.id) = none ∨
        entry a ∉ registered x.events ∨ answer? a.1.id a.2 x.events ≠ none) :
    Ledger (x.after input o) := by
  refine hx.of_quiet Course.accepted_after ?_ ?_ (fun a ha => due_congr ?_ ?_) hqueue hpending
    hconnecting hclosed
  · rw [Course.registered_after, hregistered, List.append_nil]
  · rw [Course.delivered_after, hdeliveries, List.append_nil]
  · rcases hresponse a ha with hnone | hnot | hanswer
    · exact answer?_append_of_response?_eq_none (by rw [Course.response?_happenings, hnone])
    · rw [Course.after, answer?_append_of_not_mem hnot, answer?_eq_none_of_not_mem hnot,
        answer?_eq_none_of_not_mem
          (by rw [Course.registered_happenings, hregistered]; exact List.not_mem_nil)]
    · by_cases hmem : entry a ∈ registered x.events
      · obtain ⟨r, hr⟩ := Option.ne_none_iff_exists'.1 hanswer
        rw [Course.after, answer?_append_of_mem hmem, hr, Option.some_or]
      · exact absurd (answer?_eq_none_of_not_mem hmem) hanswer
  · have hnone : isOver (x.happenings input o) = false := by
      rw [isOver, Course.notices_happenings, List.any_eq_false]
      intro n hn
      rw [decide_eq_true_iff]
      rintro (rfl | rfl) <;> exact hnotice _ (Effects.mem_notices_iff.1 hn)
    rw [Course.after, isOver_append, hnone, Bool.or_false]

/-- The request at the head of the queue becomes pending. -/
theorem of_registered (hx : Ledger x) (hd : Distinct x.events) {request : Request} {recipient : κ}
    {queue : List (Command κ)} (hphase : x.channel.phase ≠ .closed)
    (hover : isOver x.events = false)
    (hqueue : x.channel.queue = .send request recipient :: queue)
    (hregister : x.pending.register request.id recipient = .ok o.pending)
    (hregistered : o.registered = [(request.id, recipient)])
    (hframe : x.channel.frame? input = none) (hdeliveries : o.deliveries = [])
    (hnotice : o.notices = []) (hqueue' : o.channel.queue = queue)
    (hphase' : o.channel.phase = x.channel.phase) : Ledger (x.after input o) := by
  have hpending := (Pending.Table.entries_of_register hregister).2
  obtain ⟨hmem, hnot⟩ := hx.not_mem_registered_of_queue hd hphase hqueue
  have hacc : accepted (x.after input o).events = accepted x.events := Course.accepted_after
  have hreg : registered (x.after input o).events =
      registered x.events ++ [(request.id, recipient)] := by
    rw [Course.registered_after, hregistered]
  have hdel : delivered (x.after input o).events = delivered x.events := by
    rw [Course.delivered_after, hdeliveries, List.append_nil]
  have hanswer (id : RequestId) (k : κ) :
      answer? id k (x.after input o).events = answer? id k x.events :=
    answer?_append_of_response?_eq_none (by rw [Course.response?_happenings, hframe]; rfl)
  have hover' : isOver (x.after input o).events = isOver x.events := by
    rw [Course.after, isOver_append, isOver, isOver, Course.notices_happenings, hnotice]
    exact Bool.or_false _
  refine ⟨?_, ?_, ?_, ?_, ?_, ?_⟩
  · intro h
    exact hacc.trans (hx.unqueued (hphase' ▸ h))
  · intro _
    obtain ⟨taken, htaken, hmap⟩ := hx.entered hphase
    refine ⟨taken ++ [(request, recipient)], ?_, ?_⟩
    · rw [hacc, htaken, hqueue, Course.after, hqueue', List.append_assoc]
      rfl
    · rw [hreg, hmap, List.map_append]
      rfl
  · intro e he
    rw [hacc]
    rw [hreg, List.mem_append, List.mem_singleton] at he
    rcases he with he | rfl
    · exact hx.registered_mem e he
    · exact ⟨(request, recipient), hmem, rfl⟩
  · -- The request has no outcome yet: none is due as long as it is not pending.
    have hnone : outcomes recipient x.events = [] := by
      rw [hx.settled _ hmem]
      exact due_of_not_isOver (answer?_eq_none_of_not_mem fun h => (hnot _ h).1 rfl) hover
    show o.pending.entries = _
    rw [hpending, hreg, List.filter_append, hx.pending]
    simp [outcomes_congr hdel, hnone]
  · intro a ha
    rw [hacc] at ha
    rw [outcomes_congr hdel, hx.settled a ha, due_congr (hanswer _ _) hover']
  · rw [hdel, hacc]
    exact hx.delivered_mem

/-- Up to the end, the requests that wait are those without an outcome. -/
theorem mem_waiting_iff (hx : Ledger x) (hd : Distinct x.events)
    (hphase : x.channel.phase ≠ .closed) (hover : isOver x.events = false) {a : Request × κ}
    (ha : a ∈ accepted x.events) : a.2 ∈ x.waiting ↔ outcomes a.2 x.events = [] := by
  rw [Course.waiting, List.mem_append, List.mem_map, List.mem_map]
  constructor
  · rintro (⟨b, hb, hab⟩ | ⟨e, he, hae⟩)
    · obtain ⟨hbmem, hnot⟩ := hx.not_mem_registered hd hphase hb
      rw [← hab, hx.settled b hbmem]
      exact due_of_not_isOver (answer?_eq_none_of_not_mem fun h => (hnot _ h).1 rfl) hover
    · obtain ⟨-, -, -, -, hnone⟩ := hx.of_mem_pending he
      rwa [← hae]
  · intro hnone
    obtain ⟨taken, haccepted, hregistered⟩ := hx.entered hphase
    rw [haccepted, List.mem_append] at ha
    rcases ha with ha | ha
    · refine .inr ⟨entry a, ?_, rfl⟩
      rw [hx.pending, List.mem_filter, hregistered]
      exact ⟨List.mem_map_of_mem ha, by rw [entry, hnone]; rfl⟩
    · exact .inl ⟨a, ha, rfl⟩

theorem nodup_waiting (hx : Ledger x) (hd : Distinct x.events)
    (hphase : x.channel.phase ≠ .closed) : x.waiting.Nodup := by
  obtain ⟨taken, haccepted, hregistered⟩ := hx.entered hphase
  have hrecipients := hd.recipients
  rw [haccepted, List.map_append] at hrecipients
  refine List.nodup_append_comm.1 (hrecipients.sublist (.append ?_ (.refl _)))
  rw [hx.pending, hregistered]
  have := (List.filter_sublist (p := fun e => (outcomes e.2 x.events).isEmpty)
    (l := taken.map entry)).map Prod.snd
  rwa [List.map_map] at this

theorem exists_of_mem_waiting (hx : Ledger x) (hd : Distinct x.events)
    (hphase : x.channel.phase ≠ .closed) {recipient : κ} (h : recipient ∈ x.waiting) :
    ∃ a ∈ accepted x.events, a.2 = recipient := by
  rw [Course.waiting, List.mem_append, List.mem_map, List.mem_map] at h
  rcases h with ⟨b, hb, rfl⟩ | ⟨e, he, rfl⟩
  · exact ⟨b, (hx.not_mem_registered hd hphase hb).1, rfl⟩
  · obtain ⟨a, ha, rfl, -, -⟩ := hx.of_mem_pending he
    exact ⟨a, ha, rfl⟩

/-- At the end, all requests that wait are told that they are cut off. -/
theorem of_finished (hx : Ledger x) (hd : Distinct x.events) {more : List (Event κ)}
    (hphase : x.channel.phase ≠ .closed) (hover : isOver x.events = false)
    (hevents : x'.events = x.events ++ more) (haccepted : accepted more = [])
    (hregistered : registered more = [])
    (hdelivered : delivered more = x.waiting.map fun k => ⟨k, .error .disconnected⟩)
    (hover' : isOver more = true) (hresponse : ∀ id, response? id more = none)
    (hpending : x'.pending = .empty) (hphase' : x'.channel.phase = .closed) : Ledger x' := by
  have hacc : accepted x'.events = accepted x.events := by
    rw [hevents, accepted_append, haccepted, List.append_nil]
  have hreg : registered x'.events = registered x.events := by
    rw [hevents, registered_append, hregistered, List.append_nil]
  have hanswer (a : Request × κ) :
      answer? a.1.id a.2 x'.events = answer? a.1.id a.2 x.events := by
    rw [hevents, answer?_append_of_response?_eq_none (hresponse _)]
  have hisOver : isOver x'.events = true := by rw [hevents, isOver_append, hover', Bool.or_true]
  have houtcomes (k : κ) :
      outcomes k more = if k ∈ x.waiting then [.error .disconnected] else [] := by
    rw [outcomes, hdelivered]
    exact map_outcome_filter (hx.nodup_waiting hd hphase) k
  have hsettled (a : Request × κ) (ha : a ∈ accepted x.events) :
      outcomes a.2 x'.events = due a.1.id a.2 x'.events := by
    have hdue := hx.settled a ha
    rw [hevents, outcomes_append, houtcomes, ← hevents]
    by_cases hmem : a.2 ∈ x.waiting
    · -- Whoever waits has no outcome yet, and none was due.
      have hnone := (hx.mem_waiting_iff hd hphase hover ha).1 hmem
      rw [hnone] at hdue
      rw [if_pos hmem, hnone,
        due_of_isOver ((hanswer a).trans (due_eq_nil_iff.1 hdue.symm).1) hisOver]
      rfl
    · -- Whoever does not wait has been answered, since nothing else was due before.
      have hsome := mt (hx.mem_waiting_iff hd hphase hover ha).2 hmem
      rw [if_neg hmem, List.append_nil, hdue]
      cases ha' : answer? a.1.id a.2 x.events with
      | none => exact absurd (hdue.trans (due_of_not_isOver ha' hover)) hsome
      | some r => rw [due_of_answer ha', due_of_answer ((hanswer a).trans ha')]
  refine ⟨?_, ?_, ?_, ?_, ?_, ?_⟩
  · rw [hphase']; rintro ⟨⟩
  · exact fun h => absurd hphase' h
  · rw [hacc, hreg]
    exact hx.registered_mem
  · rw [hpending]
    refine (List.filter_eq_nil_iff.2 fun e he => ?_).symm
    obtain ⟨a, ha, rfl⟩ := hx.registered_mem e (hreg ▸ he)
    rw [entry, hsettled a ha, List.isEmpty_iff, due_eq_nil_iff, hisOver]
    simp
  · rw [hacc]
    exact hsettled
  · rw [hacc, hevents, delivered_append, hdelivered]
    intro d hmem
    rcases List.mem_append.1 hmem with hmem | hmem
    · exact hx.delivered_mem d hmem
    · obtain ⟨k, hk, rfl⟩ := List.mem_map.1 hmem
      exact hx.exists_of_mem_waiting hd hphase hk

/-- A request that is queued is new. -/
theorem of_accepted (hx : Ledger x) {request : Request} {recipient : κ}
    (hd : Distinct (x.accept request recipient).events) (hready : x.channel.phase.isReady = true)
    (hover : isOver x.events = false) : Ledger (x.accept request recipient) := by
  have haccepted : accepted (x.accept request recipient).events =
      accepted x.events ++ [(request, recipient)] := by
    simp [Course.accept, accepted, Event.accepted?]
  have hregistered : registered (x.accept request recipient).events = registered x.events := by
    simp [Course.accept, registered, Event.registered?]
  have hdelivered : delivered (x.accept request recipient).events = delivered x.events := by
    simp [Course.accept, delivered, Event.delivered?]
  have hanswer (id : RequestId) (k : κ) : answer? id k (x.accept request recipient).events =
      answer? id k x.events := answer?_append_of_response?_eq_none rfl
  have hover' : isOver (x.accept request recipient).events = isOver x.events := by
    rw [Course.accept, isOver_append]
    exact Bool.or_false _
  have hids := hd.ids
  have hrecipients := hd.recipients
  rw [haccepted, List.map_append, List.nodup_append] at hids hrecipients
  refine ⟨?_, ?_, ?_, ?_, ?_, ?_⟩
  · intro hphase
    change x.channel.phase = .connecting at hphase
    rw [hphase] at hready
    cases hready
  · intro hphase
    obtain ⟨taken, htaken, hmap⟩ := hx.entered hphase
    refine ⟨taken, ?_, hregistered.trans hmap⟩
    rw [haccepted, htaken, List.append_assoc, Course.accept, queued, queued, List.filterMap_append]
    rfl
  · intro e he
    rw [hregistered] at he
    obtain ⟨a, ha, hae⟩ := hx.registered_mem e he
    exact ⟨a, by rw [haccepted]; exact List.mem_append_left _ ha, hae⟩
  · rw [hregistered]
    simp only [outcomes_congr hdelivered]
    exact hx.pending
  · intro a ha
    rw [haccepted, List.mem_append, List.mem_singleton] at ha
    rw [outcomes_congr hdelivered, due_congr (hanswer _ _) hover']
    rcases ha with ha | rfl
    · exact hx.settled a ha
    · -- Nothing has been delivered to the recipient, and nothing is due.
      rw [due_of_not_isOver (answer?_eq_none_of_not_mem fun hmem => ?_) hover, outcomes,
        List.filter_eq_nil_iff.2 fun d hdel hrec => ?_, List.map_nil]
      · obtain ⟨b, hb, hbd⟩ := hx.delivered_mem d hdel
        exact hrecipients.2.2 _ (List.mem_map_of_mem hb) _ (List.mem_singleton_self _)
          (hbd.trans (of_decide_eq_true hrec))
      · obtain ⟨b, hb, hbe⟩ := hx.registered_mem _ hmem
        exact hids.2.2 _ (List.mem_map_of_mem hb) _ (List.mem_singleton_self _)
          (congrArg Prod.fst hbe)
  · rw [hdelivered, haccepted]
    intro d hmem
    obtain ⟨a, ha, had⟩ := hx.delivered_mem d hmem
    exact ⟨a, List.mem_append_left _ ha, had⟩

end Ledger

theorem queued_cons_send {request : Request} {recipient : κ} {queue : List (Command κ)} :
    queued (.send request recipient :: queue) = (request, recipient) :: queued queue := rfl

theorem queued_cons_shutdown {queue : List (Command κ)} :
    queued (.shutdown :: queue) = queued queue := rfl

theorem filterMap_dropped? (queue : List (Command κ)) : queue.filterMap Command.dropped? =
    ((queued queue).map Prod.snd).map fun k => ⟨k, .error .disconnected⟩ := by
  rw [queued, List.map_map, List.map_filterMap]
  congr 1
  funext command
  cases command <;> rfl

/-- A step keeps the invariant. -/
theorem ledger_of_step [DecidableEq κ] {x : Course κ} {input : Input} {o : Outcome κ}
    (h : Step config x.pending x.channel input o) (hl : Lifecycle x) (hd : Distinct x.events)
    (hx : Ledger x) : Ledger (x.after input o) := by
  have hframe (hi : ∀ text, input ≠ .text text) (id : RequestId) :
      (x.channel.frame? input).bind (responseTo? id) = none := by
    rw [frame?_eq_none fun _ text _ => hi text]
    rfl
  have hheard {awaited : Option RequestId} {f : Frame} {text : String}
      (hs : x.channel.stage = .serving awaited) (hdecode : Frame.decode text = .ok f) :
      x.channel.frame? (.text text) = some f := by
    rw [frame?_text hs, hdecode]
    rfl
  have hserving {awaited : Option RequestId} (hs : x.channel.stage = .serving awaited) :
      x.channel.phase ≠ .closed ∧ isOver x.events = false := by
    have hphase : x.channel.phase ≠ .closed := by
      rw [phase, hs]
      exact Stage.phase_ne_closed_of_isActive rfl
    exact ⟨hphase, Bool.not_eq_true _ ▸ mt hl.isOver_iff.1 hphase⟩
  cases h with
  | unmoved hf _ _ =>
    exact hx.of_silent rfl rfl (by simp) rfl rfl id id fun a _ => .inl (by rw [hf]; rfl)
  | begun hs | dialed hs | greeted hs =>
    refine hx.of_silent rfl rfl (by simp) rfl rfl ?_ ?_ fun a _ => .inl (hframe (by simp) _)
    · simp [phase, hs, Stage.phase]
    · simp [phase, hs, Stage.phase]
  | left he =>
    exact hx.of_silent rfl rfl (by simp) rfl rfl id id fun a _ =>
      .inl (by rw [he.frame?_eq_none]; rfl)
  | shut hs hq =>
    refine hx.of_silent rfl rfl (by simp) rfl ?_ id id fun a _ => .inl (hframe (by simp) _)
    rw [hq, queued_cons_shutdown]
    rfl
  | declined hs hq =>
    -- While the socket is being opened, the queue holds no request.
    have hnil := hx.unqueued (by rw [phase, hs]; rfl)
    obtain ⟨taken, haccepted, -⟩ := hx.entered (by rw [phase, hs]; rintro ⟨⟩)
    rw [hnil, hq, queued_cons_send] at haccepted
    simp at haccepted
  | clashed hs hq hp =>
    -- The id of a request in the queue is new, so the table cannot refuse it.
    obtain ⟨e, he, hid⟩ := List.mem_map.1 (Pending.Table.contains_eq_true_iff.1 hp)
    obtain ⟨a, -, -, hmem, -⟩ := hx.of_mem_pending he
    exact absurd hid ((hx.not_mem_registered_of_queue hd (hserving hs).1 hq).2 e hmem).1
  | sent hs hq hr | stuck hs hq hr =>
    exact hx.of_registered hd (hserving hs).1 (hserving hs).2 hq hr rfl (frame?_eq_none (by simp))
      rfl rfl rfl rfl
  | accepted hs hdecode _ hr =>
    refine hx.of_silent rfl rfl (by simp) rfl rfl (by rintro ⟨⟩) (fun h => absurd h (hserving hs).1)
      fun a ha => .inl ?_
    rw [hheard hs hdecode, Option.bind_some, responseTo?, if_neg]
    exact fun h => hd.greeted _ (hl.awaiting _ hs).1 (h ▸ List.mem_map_of_mem ha)
  | rejected hs hdecode _ hr =>
    refine hx.of_silent rfl rfl (by simp) rfl rfl id id fun a ha => .inl ?_
    rw [hheard hs hdecode, Option.bind_some, responseTo?, if_neg]
    exact fun h => hd.greeted _ (hl.awaiting _ hs).1 (h ▸ List.mem_map_of_mem ha)
  | answered hs hdecode ha hp =>
    refine hx.of_answered hd hp rfl rfl rfl (Course.accepted_happenings ..)
      (Course.registered_happenings ..) (Course.delivered_happenings ..) ?_ fun id => ?_
    · rw [isOver, Course.notices_happenings]
      rfl
    · rw [Course.response?_happenings, hheard hs hdecode]
      rfl
  | unmatched hs hdecode ha hp =>
    refine hx.of_silent rfl rfl (by simp) rfl rfl id id fun a hmem => ?_
    rw [hheard hs hdecode, Option.bind_some, responseTo?]
    split
    · rename_i hid
      -- A request with the id that became pending has had its outcome.
      refine .inr (or_iff_not_imp_left.2 fun hreg hanswer => ?_)
      have hreg := not_not.1 hreg
      have hdue := (hx.settled a hmem).trans (due_of_not_isOver hanswer (hserving hs).2)
      refine Pending.Table.ne_of_get?_eq_none hp (e := entry a) ?_ hid.symm
      rw [hx.pending, List.mem_filter]
      exact ⟨hreg, by rw [entry, hdue]; rfl⟩
    · exact .inl rfl
  | passed hs hdecode hr _ =>
    refine hx.of_silent rfl rfl (by simp) rfl rfl id id fun a _ => .inl ?_
    rw [hheard hs hdecode, Option.bind_some, responseTo?_eq_none hr]
  | unheard hs hdecode _ hw =>
    rw [hl.watched] at hw
    cases hw
  | @finished reached closes log hs =>
    have hphase : x.channel.phase ≠ .closed := by
      rw [phase, hs]
      exact hl.reached _ _ hs
    refine hx.of_finished hd hphase (Bool.not_eq_true _ ▸ mt hl.isOver_iff.1 hphase) rfl
      (Course.accepted_happenings ..) ?_ ?_ ?_ (fun id => ?_) rfl rfl
    · rw [Course.registered_happenings, Effects.registered, registered?_closing]
    · rw [Course.delivered_happenings, Effects.deliveries, delivered?_closing, filterMap_dropped?,
        Course.waiting, List.map_append, List.map_map (l := x.pending.entries)]
      rfl
    · rw [isOver, Course.notices_happenings, Effects.notices, notice?_closing, if_pos hl.watched]
      cases decide (reached = .opened) <;> rfl
    · rw [Course.response?_happenings, hframe (by simp)]

/-- The invariant holds in the course of every run in which all ids and recipients are
    different. -/
theorem ledger_run [DecidableEq κ] (config : Config) (moves : List (Move κ))
    (hd : Distinct (run config moves).events) : Ledger (run config moves) := by
  refine (Course.run_induction (P := fun x => Lifecycle x ∧ (Distinct x.events → Ledger x))
    ⟨.start, fun _ => .start⟩ ?_ ?_ ?_ moves).2 hd
  · rintro x request recipient hready ⟨hl, hx⟩
    refine ⟨hl.accept request recipient, fun hd => (hx hd.of_append).of_accepted hd hready ?_⟩
    rw [← Bool.not_eq_true, hl.isOver_iff]
    intro hphase
    rw [hphase] at hready
    cases hready
  · rintro x ⟨hl, hx⟩
    refine ⟨hl.shut, fun hd => (hx hd.of_append).of_quiet ?_ ?_ ?_ ?_ ?_ rfl ?_ ?_⟩
    · simp [accepted, Event.accepted?]
    · simp [registered, Event.registered?]
    · simp [delivered, Event.delivered?]
    · intro a _
      refine due_congr (answer?_append_of_response?_eq_none rfl) ?_
      rw [isOver_append]
      exact Bool.or_false _
    · rcases x.channel.shutdown_cases with h | h
      · rw [h]
      · simp [h, queued, Command.request?]
    · simp only [phase, stage_shutdown]
      exact id
    · simp only [phase, stage_shutdown]
      exact id
  · rintro x input o h ⟨hl, hx⟩
    exact ⟨lifecycle_of_step h hl, fun hd => ledger_of_step h hl hd.of_append (hx hd.of_append)⟩

end Tether.Channel
