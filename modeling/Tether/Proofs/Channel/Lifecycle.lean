import Tether.Proofs.Channel.History

/-!
# The life of a channel

What whoever watches a channel is told, over a whole run, and how the channel moves
from phase to phase meanwhile. The handshake is decided by one response, the first
with its id (`decision?`), and by nothing else:

* `verdict`: what is told of the decision;
* `Lifecycle`: the invariant, which ties the stage of a channel to its history;
* `lifecycle_run`: it holds in the course of every run;
* `notices_run`: the notices in order, the phases, the time limit and the end.
-/

namespace Tether.Channel

variable {κ : Type} {config : Config}

/-! ## Phases and stages -/

/-- The phases that may follow a phase. -/
inductive Phase.Next : Phase → Phase → Prop
  | handshaking : Next .connecting .handshaking
  | opened : Next .handshaking .opened
  | closed {p : Phase} : p ≠ .closed → Next p .closed

namespace Stage

/-- Whether the handshake has not been written. -/
def isEarly : Stage → Bool
  | waiting | dialing | greeting => true
  | _ => false

/-- Whether the conversation has not come to its end. -/
def isActive : Stage → Bool
  | leaving _ _ | closed _ => false
  | _ => true

/-- Whether the handshake has been accepted. -/
def hasOpened : Stage → Bool
  | serving none => true
  | leaving reached _ => reached = .opened
  | closed wasOpen => wasOpen
  | _ => false

/-- The last notice. -/
def ending : Stage → List Notice
  | closed wasOpen => [.closed wasOpen]
  | _ => []

theorem hasOpened_eq_false_of_isEarly {s : Stage} (h : s.isEarly = true) : s.hasOpened = false := by
  cases s <;> simp_all [isEarly, hasOpened]

theorem isActive_of_isEarly {s : Stage} (h : s.isEarly = true) : s.isActive = true := by
  cases s <;> simp_all [isEarly, isActive]

theorem ending_of_isActive {s : Stage} (h : s.isActive = true) : s.ending = [] := by
  cases s <;> simp_all [isActive, ending]

theorem phase_eq_opened_of_isActive {s : Stage} (h : s.isActive = true) :
    s.phase = .opened ↔ s.hasOpened = true := by
  cases s with
  | serving awaited => cases awaited <;> simp [phase, hasOpened]
  | leaving | closed => simp [isActive] at h
  | _ => simp [phase, hasOpened]

theorem phase_ne_closed_of_isActive {s : Stage} (h : s.isActive = true) : s.phase ≠ .closed := by
  cases s with
  | serving awaited => cases awaited <;> simp [phase]
  | leaving | closed => simp [isActive] at h
  | _ => simp [phase]

end Stage

theorem Ends.isActive {s : Stage} {input : Input} {closes : Bool} (h : Ends s input closes) :
    s.isActive = true := by
  cases h <;> rfl

/-! ## The decision -/

/-- The response that decides on the handshake: the first one with its id. -/
def decision? (h : List (Event κ)) : Option Response := (greetedId? h).bind (response? · h)

/-- What is told of the decision. -/
def verdict (h : List (Event κ)) : List Notice :=
  match decision? h with
  | none => []
  | some r =>
    match Hello.ofResponse r with
    | .ok hello => [.connected hello]
    | .error _ => [.handshakeFailed r]

theorem verdict_of_eq_none {h : List (Event κ)} (hd : decision? h = none) : verdict h = [] := by
  rw [verdict, hd]

theorem verdict_of_ok {h : List (Event κ)} {r : Response} {hello : Hello}
    (hd : decision? h = some r) (hr : Hello.ofResponse r = .ok hello) :
    verdict h = [.connected hello] := by
  simp only [verdict, hd, hr]

theorem verdict_of_error {h : List (Event κ)} {r : Response} {e : Rejection}
    (hd : decision? h = some r) (hr : Hello.ofResponse r = .error e) :
    verdict h = [.handshakeFailed r] := by
  simp only [verdict, hd, hr]

theorem verdict_congr {h h' : List (Event κ)} (hd : decision? h' = decision? h) :
    verdict h' = verdict h := by
  rw [verdict, hd, verdict]

theorem verdict_cases (h : List (Event κ)) :
    verdict h = [] ∨ (∃ hello, verdict h = [.connected hello]) ∨
      ∃ r, verdict h = [.handshakeFailed r] := by
  cases hd : decision? h with
  | none => exact .inl (verdict_of_eq_none hd)
  | some r =>
    cases hr : Hello.ofResponse r with
    | ok hello => exact .inr (.inl ⟨hello, verdict_of_ok hd hr⟩)
    | error e => exact .inr (.inr ⟨r, verdict_of_error hd hr⟩)

theorem connected_mem_verdict {h : List (Event κ)} {hello : Hello} :
    .connected hello ∈ verdict h ↔ verdict h = [.connected hello] := by
  rcases verdict_cases h with hv | ⟨hello', hv⟩ | ⟨r, hv⟩ <;> simp [hv, eq_comm]

theorem closed_not_mem_verdict {h : List (Event κ)} {wasOpen : Bool} :
    .closed wasOpen ∉ verdict h := by
  rcases verdict_cases h with hv | ⟨hello, hv⟩ | ⟨r, hv⟩ <;> simp [hv]

/-- A decision stands. -/
theorem decision?_append_of_ne_none {h : List (Event κ)} (hd : decision? h ≠ none)
    (h' : List (Event κ)) : decision? (h ++ h') = decision? h := by
  obtain ⟨r, hr⟩ := Option.ne_none_iff_exists'.1 hd
  obtain ⟨id, hid, hresponse⟩ := Option.bind_eq_some_iff.1 hr
  rw [hr, decision?, greetedId?_append, hid, Option.some_or, Option.bind_some, response?_append,
    hresponse, Option.some_or]

/-- Without a response to the handshake, and without a handshake, nothing is decided. -/
theorem decision?_append {h h' : List (Event κ)} (hid : greetedId? h' = none)
    (hr : ∀ id, greetedId? h = some id → response? id h' = none) :
    decision? (h ++ h') = decision? h := by
  rw [decision?, decision?, greetedId?_append, hid, Option.or_none]
  cases hg : greetedId? h with
  | none => rfl
  | some id => rw [Option.bind_some, Option.bind_some, response?_append, hr id hg, Option.or_none]

namespace Course

/-! ## One step -/

variable {x : Course κ} {input : Input} {o : Outcome κ}

theorem greetedId?_after : greetedId? (x.after input o).events =
    (greetedId? x.events).or (x.channel.greeting? input) := by
  rw [after, greetedId?_append, greetedId?_happenings]

theorem response?_after (id : RequestId) : response? id (x.after input o).events =
    (response? id x.events).or ((x.channel.frame? input).bind (responseTo? id)) := by
  rw [after, response?_append, response?_happenings]

theorem notices_after : notices (x.after input o).events =
    notices x.events ++ o.notices := by
  rw [after, notices_append, notices_happenings]

theorem accepted_after : accepted (x.after input o).events = accepted x.events := by
  rw [after, accepted_append, accepted_happenings, List.append_nil]

theorem registered_after : registered (x.after input o).events =
    registered x.events ++ o.registered := by
  rw [after, registered_append, registered_happenings]

theorem delivered_after : delivered (x.after input o).events =
    delivered x.events ++ o.deliveries := by
  rw [after, delivered_append, delivered_happenings]

theorem decision?_after (hgreeting : x.channel.greeting? input = none)
    (hframe : ∀ id, greetedId? x.events = some id →
      (x.channel.frame? input).bind (responseTo? id) = none) :
    decision? (x.after input o).events = decision? x.events := by
  refine decision?_append ((greetedId?_happenings x input o).trans hgreeting) fun id hid => ?_
  rw [response?_happenings, hframe id hid]

end Course

/-! ## The invariant -/

/-- How the stage of a channel and its history belong together. -/
structure Lifecycle (x : Course κ) : Prop where
  watched : x.channel.watched = true
  /-- Before the handshake is written, nothing has been read. -/
  unheard : x.channel.stage.isEarly = true →
    greetedId? x.events = none ∧ ∀ id, response? id x.events = none
  /-- While a response is awaited, it has not been read. -/
  awaiting : ∀ id, x.channel.stage = .serving (some id) →
    greetedId? x.events = some id ∧ decision? x.events = none
  opened : x.channel.stage.hasOpened = true ↔ ∃ hello, verdict x.events = [.connected hello]
  reached : ∀ reached closes, x.channel.stage = .leaving reached closes → reached ≠ .closed
  /-- Frames may come before the decision, and after it if it was an acceptance. -/
  trace : ∃ early late : List Frame,
    notices x.events =
      early.map .frame ++ verdict x.events ++ late.map .frame ++ x.channel.stage.ending ∧
    (x.channel.stage.hasOpened = false → late = [])
  cleared : ∀ wasOpen, x.channel.stage = .closed wasOpen → x.pending.entries = []

namespace Lifecycle

variable {x x' : Course κ} {input : Input} {o : Outcome κ}

theorem start : Lifecycle (Course.start : Course κ) where
  watched := rfl
  unheard _ := ⟨rfl, fun _ => rfl⟩
  awaiting := by rintro id ⟨⟩
  opened := by simp [Course.start, Channel.start, Stage.hasOpened, verdict, decision?, greetedId?]
  reached := by rintro reached closes ⟨⟩
  trace := ⟨[], [], rfl, fun _ => rfl⟩
  cleared _ _ := rfl

theorem decision?_eq_none_of_isEarly (hx : Lifecycle x) (h : x.channel.stage.isEarly = true) :
    decision? x.events = none := by
  rw [decision?, (hx.unheard h).1]
  rfl

theorem verdict_eq_connected (hx : Lifecycle x) (h : x.channel.stage = .serving none) :
    ∃ hello, verdict x.events = [.connected hello] :=
  hx.opened.1 (by rw [h]; rfl)

theorem decision?_ne_none (hx : Lifecycle x) (h : x.channel.stage = .serving none) :
    decision? x.events ≠ none := by
  intro hd
  obtain ⟨hello, hv⟩ := hx.verdict_eq_connected h
  rw [verdict_of_eq_none hd] at hv
  cases hv

/-- A change of the stage that is neither heard nor told of. -/
theorem of_quiet (hx : Lifecycle x) (hwatched : x'.channel.watched = x.channel.watched)
    (hgreeted : greetedId? x'.events = greetedId? x.events)
    (hresponse : x'.channel.stage.isEarly = true →
      ∀ id, response? id x'.events = response? id x.events)
    (hdecision : decision? x'.events = decision? x.events)
    (hnotices : notices x'.events = notices x.events)
    (hstage : (x'.channel.stage = x.channel.stage ∧
        ∀ wasOpen, x.channel.stage = .closed wasOpen → x'.pending = x.pending) ∨
      (x.channel.stage.isEarly = true ∧ x'.channel.stage.isEarly = true) ∨
      ∃ closes, x.channel.stage.isActive = true ∧
        x'.channel.stage = .leaving x.channel.phase closes) :
    Lifecycle x' := by
  have hverdict := verdict_congr hdecision
  obtain ⟨early, late, htrace, hlate⟩ := hx.trace
  rcases hstage with ⟨hstage, hpending⟩ | ⟨hearly, hearly'⟩ | ⟨closes, hactive, hstage⟩
  · -- The stage is what it was.
    refine ⟨hwatched.trans hx.watched, ?_, ?_, ?_, ?_, ?_, ?_⟩
    · intro he
      refine ⟨hgreeted.trans (hx.unheard (hstage ▸ he)).1, fun id => ?_⟩
      rw [hresponse he]
      exact (hx.unheard (hstage ▸ he)).2 id
    · rw [hstage, hgreeted, hdecision]
      exact hx.awaiting
    · rw [hstage, hverdict]
      exact hx.opened
    · rw [hstage]
      exact hx.reached
    · rw [hstage, hverdict, hnotices]
      exact hx.trace
    · intro wasOpen hclosed
      rw [hpending wasOpen (hstage ▸ hclosed)]
      exact hx.cleared wasOpen (hstage ▸ hclosed)
  · -- The handshake has not been written yet, so nothing is known of it.
    have hopened := Stage.hasOpened_eq_false_of_isEarly hearly
    have hopened' := Stage.hasOpened_eq_false_of_isEarly hearly'
    have hending := Stage.ending_of_isActive (Stage.isActive_of_isEarly hearly)
    have hending' := Stage.ending_of_isActive (Stage.isActive_of_isEarly hearly')
    refine ⟨hwatched.trans hx.watched, ?_, ?_, ?_, ?_, ?_, ?_⟩
    · intro he
      refine ⟨hgreeted.trans (hx.unheard hearly).1, fun id => ?_⟩
      rw [hresponse he]
      exact (hx.unheard hearly).2 id
    · intro id hs
      rw [hs] at hearly'
      cases hearly'
    · rw [hopened', hverdict, ← hopened]
      exact hx.opened
    · intro reached closes hs
      rw [hs] at hearly'
      cases hearly'
    · refine ⟨early, late, ?_, fun _ => hlate hopened⟩
      rw [hnotices, htrace, hverdict, hending, hending']
    · intro wasOpen hs
      rw [hs] at hearly'
      cases hearly'
  · -- The conversation comes to its end: the stage still tells what was reached.
    have hopened : x'.channel.stage.hasOpened = x.channel.stage.hasOpened := by
      rw [hstage, Bool.eq_iff_iff, ← Stage.phase_eq_opened_of_isActive hactive]
      exact decide_eq_true_iff
    refine ⟨hwatched.trans hx.watched, ?_, ?_, ?_, ?_, ?_, ?_⟩
    · intro he
      rw [hstage] at he
      cases he
    · intro id hs
      rw [hstage] at hs
      cases hs
    · rw [hopened, hverdict]
      exact hx.opened
    · intro reached closes hs
      rw [hstage] at hs
      cases hs
      exact Stage.phase_ne_closed_of_isActive hactive
    · refine ⟨early, late, ?_, fun h => hlate (hopened ▸ h)⟩
      rw [hnotices, htrace, hverdict, Stage.ending_of_isActive hactive, hstage]
      rfl
    · intro wasOpen hs
      rw [hstage] at hs
      cases hs

/-- A step in which nothing is read, written as a handshake or told. -/
theorem of_silent (hx : Lifecycle x) (hgreeting : x.channel.greeting? input = none)
    (hframe : x.channel.frame? input = none) (hnotice : o.notices = [])
    (hwatched : o.channel.watched = x.channel.watched)
    (hstage : (o.channel.stage = x.channel.stage ∧ o.pending = x.pending ∨
        o.channel.stage = x.channel.stage ∧ x.channel.stage.isActive = true) ∨
      (x.channel.stage.isEarly = true ∧ o.channel.stage.isEarly = true) ∨
      ∃ closes, x.channel.stage.isActive = true ∧
        o.channel.stage = .leaving x.channel.phase closes) :
    Lifecycle (x.after input o) := by
  refine hx.of_quiet hwatched ?_ ?_ ?_ ?_ ?_
  · rw [Course.greetedId?_after, hgreeting, Option.or_none]
  · intro _ id
    rw [Course.response?_after, hframe, Option.bind_none, Option.or_none]
  · exact Course.decision?_after hgreeting fun _ _ => by rw [hframe]; rfl
  · rw [Course.notices_after, hnotice, List.append_nil]
  · refine hstage.imp_left fun hs => ?_
    rcases hs with ⟨hs, hpending⟩ | ⟨hs, hactive⟩
    · exact ⟨hs, fun _ _ => hpending⟩
    · refine ⟨hs, fun wasOpen hclosed => ?_⟩
      rw [hclosed] at hactive
      cases hactive

/-- A response to a request decides nothing. -/
theorem of_response (hx : Lifecycle x) {r : Response} {awaited : Option RequestId}
    (hgreeting : x.channel.greeting? input = none)
    (hframe : x.channel.frame? input = some (.response r))
    (hstage : x.channel.stage = .serving awaited) (hawaited : awaited ≠ some r.id)
    (hchannel : o.channel = x.channel) (hnotice : o.notices = []) :
    Lifecycle (x.after input o) := by
  have hstage' : (x.after input o).channel.stage = x.channel.stage := by
    rw [Course.after, hchannel]
  refine hx.of_quiet (by rw [Course.after, hchannel]) ?_ ?_ ?_ ?_ (.inl ⟨hstage', ?_⟩)
  · rw [Course.greetedId?_after, hgreeting, Option.or_none]
  · intro hearly
    rw [hstage', hstage] at hearly
    cases hearly
  · -- The decision stands, or the id is not the one that is awaited.
    cases awaited with
    | none =>
      rw [Course.after]
      exact decision?_append_of_ne_none (hx.decision?_ne_none hstage) _
    | some id =>
      refine Course.decision?_after hgreeting fun id' hid => ?_
      have hne : r.id ≠ id' := by
        rintro rfl
        exact hawaited ((hx.awaiting id hstage).1.symm.trans hid)
      rw [hframe, Option.bind_some, responseTo?, if_neg hne]
  · rw [Course.notices_after, hnotice, List.append_nil]
  · intro wasOpen hclosed
    rw [hstage] at hclosed
    cases hclosed

theorem of_greeted (hx : Lifecycle x) {id : RequestId} (hstage : x.channel.stage = .greeting)
    (ho : o.channel = { x.channel with stage := .serving (some id) }) (hnotice : o.notices = []) :
    Lifecycle (x.after (.greeted id) o) := by
  have hearly : x.channel.stage.isEarly = true := by rw [hstage]; rfl
  obtain ⟨early, late, htrace, hlate⟩ := hx.trace
  have hgreeting : x.channel.greeting? (.greeted id) = some id := by simp only [greeting?, hstage]
  have hframe : x.channel.frame? (.greeted id) = none := frame?_eq_none (by simp)
  have hgreeted : greetedId? (x.after (.greeted id) o).events = some id := by
    rw [Course.greetedId?_after, (hx.unheard hearly).1, hgreeting, Option.none_or]
  have hdecision : decision? (x.after (.greeted id) o).events = none := by
    rw [decision?, hgreeted, Option.bind_some, Course.response?_after, (hx.unheard hearly).2,
      hframe]
    rfl
  have hstage' : (x.after (.greeted id) o).channel.stage = .serving (some id) := by
    rw [Course.after, ho]
  refine ⟨?_, ?_, ?_, ?_, ?_, ⟨early, [], ?_, fun _ => rfl⟩, ?_⟩
  · rw [Course.after, ho]
    exact hx.watched
  · intro h
    rw [hstage'] at h
    cases h
  · intro id' h
    rw [hstage'] at h
    cases h
    exact ⟨hgreeted, hdecision⟩
  · rw [hstage', verdict_of_eq_none hdecision]
    simp [Stage.hasOpened]
  · intro reached closes h
    rw [hstage'] at h
    cases h
  · rw [Course.notices_after, hnotice, htrace, hlate (Stage.hasOpened_eq_false_of_isEarly hearly),
      verdict_of_eq_none hdecision, verdict_of_eq_none (hx.decision?_eq_none_of_isEarly hearly),
      hstage', hstage]
    simp [Stage.ending]
  · intro wasOpen h
    rw [hstage'] at h
    cases h

/-- The response to the handshake decides: the channel opens, or the conversation ends. -/
theorem of_decision (hx : Lifecycle x) {r : Response}
    (hstage : x.channel.stage = .serving (some r.id))
    (hframe : x.channel.frame? input = some (.response r))
    (hwatched : o.channel.watched = x.channel.watched)
    (ho : (∃ hello, Hello.ofResponse r = .ok hello ∧ o.channel.stage = .serving none ∧
        o.notices = [.connected hello]) ∨
      ∃ e closes, Hello.ofResponse r = .error e ∧ o.channel.stage = .leaving .handshaking closes ∧
        o.notices = [.handshakeFailed r]) :
    Lifecycle (x.after input o) := by
  obtain ⟨hgreeted, hundecided⟩ := hx.awaiting r.id hstage
  obtain ⟨early, late, htrace, hlate⟩ := hx.trace
  have hnotices : notices x.events = early.map .frame := by
    rw [htrace, hlate (by rw [hstage]; rfl), verdict_of_eq_none hundecided, hstage]
    simp [Stage.ending]
  -- No response with this id has been read before, so this one decides.
  have hdecision : decision? (x.after input o).events = some r := by
    have hnone : response? r.id x.events = none := by
      rwa [decision?, hgreeted, Option.bind_some] at hundecided
    rw [decision?, Course.greetedId?_after, hgreeted, Option.some_or, Option.bind_some,
      Course.response?_after, hnone, hframe, Option.none_or, Option.bind_some, responseTo?,
      if_pos rfl]
  rcases ho with ⟨hello, hhello, hserving, hnotice⟩ | ⟨e, closes, hhello, hleaving, hnotice⟩
  · have hverdict := verdict_of_ok hdecision hhello
    have hs : (x.after input o).channel.stage = .serving none := hserving
    refine ⟨hwatched.trans hx.watched, ?_, ?_, ?_, ?_, ⟨early, [], ?_, fun _ => rfl⟩, ?_⟩
    · rw [hs]; rintro ⟨⟩
    · rw [hs]; rintro id ⟨⟩
    · rw [hs, hverdict]; simp [Stage.hasOpened]
    · rw [hs]; rintro reached closes ⟨⟩
    · rw [Course.notices_after, hnotices, hnotice, hverdict, hs]
      simp [Stage.ending]
    · rw [hs]; rintro wasOpen ⟨⟩
  · have hverdict := verdict_of_error hdecision hhello
    have hs : (x.after input o).channel.stage = .leaving .handshaking closes := hleaving
    refine ⟨hwatched.trans hx.watched, ?_, ?_, ?_, ?_, ⟨early, [], ?_, fun _ => rfl⟩, ?_⟩
    · rw [hs]; rintro ⟨⟩
    · rw [hs]; rintro id ⟨⟩
    · rw [hs, hverdict]; simp [Stage.hasOpened]
    · rw [hs]; rintro reached closes ⟨⟩; simp
    · rw [Course.notices_after, hnotices, hnotice, hverdict, hs]
      simp [Stage.ending]
    · rw [hs]; rintro wasOpen ⟨⟩

/-- A frame that is no response is passed on. -/
theorem of_passed (hx : Lifecycle x) {f : Frame} {awaited : Option RequestId}
    (hstage : x.channel.stage = .serving awaited) (hgreeting : x.channel.greeting? input = none)
    (hframe : x.channel.frame? input = some f) (hresponse : ∀ r, f ≠ .response r)
    (hchannel : o.channel = x.channel) (hnotice : o.notices = [.frame f]) :
    Lifecycle (x.after input o) := by
  obtain ⟨early, late, htrace, hlate⟩ := hx.trace
  have hdecision : decision? (x.after input o).events = decision? x.events := by
    refine Course.decision?_after hgreeting fun id _ => ?_
    rw [hframe, Option.bind_some, responseTo?_eq_none hresponse]
  have hverdict := verdict_congr hdecision
  have hs : (x.after input o).channel.stage = .serving awaited := by
    rw [Course.after, hchannel, hstage]
  refine ⟨?_, ?_, ?_, ?_, ?_, ?_, ?_⟩
  · rw [Course.after, hchannel]
    exact hx.watched
  · rw [hs]; rintro ⟨⟩
  · rw [hs, Course.greetedId?_after, hgreeting, Option.or_none, hdecision, ← hstage]
    exact hx.awaiting
  · rw [hs, hverdict, ← hstage]
    exact hx.opened
  · rw [hs]; rintro reached closes ⟨⟩
  · -- The frame comes after the decision if there was one, and else before it.
    cases awaited with
    | none =>
      refine ⟨early, late ++ [f], ?_, by rw [hs]; rintro ⟨⟩⟩
      rw [Course.notices_after, htrace, hnotice, hverdict, hs, hstage]
      simp [Stage.ending]
    | some id =>
      refine ⟨early ++ [f], [], ?_, fun _ => rfl⟩
      rw [Course.notices_after, htrace, hnotice, hverdict, hs, hstage,
        hlate (by rw [hstage]; rfl), verdict_of_eq_none (hx.awaiting id hstage).2]
      simp [Stage.ending]
  · rw [hs]; rintro wasOpen ⟨⟩

theorem of_finished (hx : Lifecycle x) {reached : Phase} {closes : Bool}
    (hstage : x.channel.stage = .leaving reached closes)
    (hgreeting : x.channel.greeting? input = none) (hframe : x.channel.frame? input = none)
    (hwatched : o.channel.watched = x.channel.watched)
    (hclosed : o.channel.stage = .closed (reached = .opened))
    (hnotice : o.notices = [.closed (reached = .opened)]) (hpending : o.pending = .empty) :
    Lifecycle (x.after input o) := by
  obtain ⟨early, late, htrace, hlate⟩ := hx.trace
  have hdecision : decision? (x.after input o).events = decision? x.events :=
    Course.decision?_after hgreeting fun _ _ => by rw [hframe]; rfl
  have hverdict := verdict_congr hdecision
  have hs : (x.after input o).channel.stage = .closed (reached = .opened) := hclosed
  have hopened : (x.after input o).channel.stage.hasOpened = x.channel.stage.hasOpened := by
    rw [hs, hstage]
    rfl
  refine ⟨hwatched.trans hx.watched, ?_, ?_, ?_, ?_,
    ⟨early, late, ?_, fun h => hlate (hopened ▸ h)⟩, fun _ _ => ?_⟩
  · rw [hs]; rintro ⟨⟩
  · rw [hs]; rintro id ⟨⟩
  · rw [hopened, hverdict]
    exact hx.opened
  · rw [hs]; rintro reached closes ⟨⟩
  · rw [Course.notices_after, htrace, hverdict, hnotice, hs, hstage]
    simp [Stage.ending]
  · rw [Course.after, hpending]
    rfl

end Lifecycle

/-- A step keeps the invariant. -/
theorem lifecycle_of_step {x : Course κ} {input : Input} {o : Outcome κ}
    (h : Step config x.pending x.channel input o) (hx : Lifecycle x) :
    Lifecycle (x.after input o) := by
  have hgreeting (hi : ∀ id, input ≠ .greeted id) : x.channel.greeting? input = none :=
    greeting?_eq_none fun id _ => hi id
  have hframe (hi : ∀ text, input ≠ .text text) : x.channel.frame? input = none :=
    frame?_eq_none fun _ text _ => hi text
  have hactive {awaited : Option RequestId} (hs : x.channel.stage = .serving awaited) :
      x.channel.stage.isActive = true := by rw [hs]; rfl
  cases h with
  | unmoved hf hg _ => exact hx.of_silent hg hf rfl rfl (.inl (.inl ⟨rfl, rfl⟩))
  | begun hs =>
    exact hx.of_silent (hgreeting (by simp)) (hframe (by simp)) rfl rfl
      (.inr (.inl ⟨by rw [hs]; rfl, rfl⟩))
  | dialed hs =>
    exact hx.of_silent (hgreeting (by simp)) (hframe (by simp)) rfl rfl
      (.inr (.inl ⟨by rw [hs]; rfl, rfl⟩))
  | greeted hs => exact hx.of_greeted hs rfl rfl
  | left he =>
    exact hx.of_silent he.greeting?_eq_none he.frame?_eq_none rfl rfl
      (.inr (.inr ⟨_, he.isActive, rfl⟩))
  | shut hs _ =>
    refine hx.of_silent (hgreeting (by simp)) (hframe (by simp)) rfl rfl (.inr (.inr ⟨_, ?_, rfl⟩))
    rcases hs with hs | ⟨awaited, hs⟩ <;> rw [hs] <;> rfl
  | declined hs _ =>
    exact hx.of_silent (hgreeting (by simp)) (hframe (by simp)) rfl rfl
      (.inl (.inr ⟨rfl, by rw [hs]; rfl⟩))
  | clashed hs _ _ | sent hs _ _ =>
    exact hx.of_silent (hgreeting (by simp)) (hframe (by simp)) rfl rfl
      (.inl (.inr ⟨rfl, hactive hs⟩))
  | stuck hs _ _ =>
    exact hx.of_silent (hgreeting (by simp)) (hframe (by simp)) rfl rfl
      (.inr (.inr ⟨_, hactive hs, rfl⟩))
  | accepted hs hd _ hr =>
    refine hx.of_decision hs ?_ rfl (.inl ⟨_, hr, rfl, rfl⟩)
    rw [frame?_text hs, hd]
    rfl
  | rejected hs hd _ hr =>
    refine hx.of_decision hs ?_ rfl (.inr ⟨_, true, hr, ?_, rfl⟩)
    · rw [frame?_text hs, hd]
      rfl
    · simp only [leave, phase, hs, Stage.phase]
  | answered hs hd ha _ | unmatched hs hd ha _ =>
    refine hx.of_response (hgreeting (by simp)) ?_ hs ha rfl rfl
    rw [frame?_text hs, hd]
    rfl
  | passed hs hd hr _ =>
    refine hx.of_passed hs (hgreeting (by simp)) ?_ hr rfl rfl
    rw [frame?_text hs, hd]
    rfl
  | unheard hs hd _ hw =>
    rw [hx.watched] at hw
    cases hw
  | finished hs =>
    refine hx.of_finished hs (hgreeting (by simp)) (hframe (by simp)) rfl rfl ?_ rfl
    rw [Effects.notices, notice?_closing, if_pos hx.watched]
    rfl

theorem stage_shutdown (c : Channel κ) : c.shutdown.stage = c.stage := by
  rcases c.shutdown_cases with h | h <;> rw [h]

theorem watched_shutdown (c : Channel κ) : c.shutdown.watched = c.watched := by
  rcases c.shutdown_cases with h | h <;> rw [h]

theorem Lifecycle.accept {x : Course κ} (hx : Lifecycle x) (request : Request) (recipient : κ) :
    Lifecycle (x.accept request recipient) := by
  refine hx.of_quiet rfl ?_ (fun _ id => ?_) (decision?_append rfl fun _ _ => rfl) ?_
    (.inl ⟨rfl, fun _ _ => rfl⟩)
  · simp [Course.accept, greetedId?, Event.greeted?]
  · simp [Course.accept, response?, Event.response?]
  · simp [Course.accept, notices, Event.notice?]

theorem Lifecycle.shut {x : Course κ} (hx : Lifecycle x) :
    Lifecycle { x with channel := x.channel.shutdown, events := x.events ++ [.shut] } := by
  refine hx.of_quiet (watched_shutdown _) ?_ (fun _ id => ?_) (decision?_append rfl fun _ _ => rfl)
    ?_ (.inl ⟨stage_shutdown _, fun _ _ => rfl⟩)
  · simp [greetedId?, Event.greeted?]
  · simp [response?, Event.response?]
  · simp [notices, Event.notice?]

/-- The invariant holds in the course of every run. -/
theorem lifecycle_run (config : Config) (moves : List (Move κ)) :
    Lifecycle (run config moves) :=
  Course.run_induction .start (fun _ request recipient _ hx => hx.accept request recipient)
    (fun _ hx => hx.shut) (fun _ _ _ h hx => lifecycle_of_step h hx) moves

/-! ## What is told of a run -/

theorem Lifecycle.phase_eq_closed_iff {x : Course κ} (hx : Lifecycle x) :
    x.channel.phase = .closed ↔ ∃ wasOpen, x.channel.stage = .closed wasOpen := by
  cases hs : x.channel.stage with
  | leaving reached closes => simp [phase, hs, Stage.phase, hx.reached reached closes hs]
  | serving awaited => cases awaited <;> simp [phase, hs, Stage.phase]
  | _ => simp [phase, hs, Stage.phase]

theorem Lifecycle.phase_eq_opened_iff {x : Course κ} (hx : Lifecycle x) :
    x.channel.phase = .opened ↔
      (∃ hello, verdict x.events = [.connected hello]) ∧ x.channel.phase ≠ .closed := by
  rw [← hx.opened]
  cases hs : x.channel.stage with
  | leaving reached closes =>
    simp only [phase, hs, Stage.phase, Stage.hasOpened, decide_eq_true_iff, ne_eq]
    exact ⟨fun h => ⟨h, hx.reached reached closes hs⟩, And.left⟩
  | serving awaited => cases awaited <;> simp [phase, hs, Stage.phase, Stage.hasOpened]
  | _ => simp [phase, hs, Stage.phase, Stage.hasOpened]

/-- A channel stays in its phase or moves on to one of the next. -/
theorem phase_of_step {x : Course κ} {input : Input} {o : Outcome κ}
    (h : Step config x.pending x.channel input o) (hx : Lifecycle x) :
    o.channel.phase = x.channel.phase ∨ Phase.Next x.channel.phase o.channel.phase := by
  cases h with
  | begun hs => exact .inl (by simp only [phase, hs, Stage.phase])
  | dialed hs =>
    refine .inr ?_
    simp only [phase, hs, Stage.phase]
    exact .handshaking
  | greeted hs => exact .inl (by simp only [phase, hs, Stage.phase])
  | accepted hs =>
    refine .inr ?_
    simp only [phase, hs, Stage.phase]
    exact .opened
  | finished hs =>
    refine .inr (.closed ?_)
    rw [phase, hs]
    exact hx.reached _ _ hs
  | _ => exact .inl rfl

/-- Once the conversation has come to its end, nothing is decided any more. -/
theorem decision?_of_not_isActive {x : Course κ} (hactive : x.channel.stage.isActive = false)
    (more : List (Move κ)) :
    decision? (more.foldl (Course.step config) x).events = decision? x.events := by
  refine (Course.foldl_induction
    (P := fun y => y.channel.stage.isActive = false ∧ decision? y.events = decision? x.events)
    ⟨hactive, rfl⟩ ?_ ?_ ?_ more).2
  · rintro y request recipient - ⟨hactive, hdecision⟩
    exact ⟨hactive, (decision?_append rfl fun _ _ => rfl).trans hdecision⟩
  · rintro y ⟨hactive, hdecision⟩
    exact ⟨(congrArg Stage.isActive (stage_shutdown _)).trans hactive,
      (decision?_append rfl fun _ _ => rfl).trans hdecision⟩
  · rintro y input o h ⟨hactive, hdecision⟩
    have hgreeting : y.channel.greeting? input = none := greeting?_eq_none fun _ hs => by
      rw [hs] at hactive
      cases hactive
    have hframe : y.channel.frame? input = none := frame?_eq_none fun _ _ hs => by
      rw [hs] at hactive
      cases hactive
    refine ⟨?_, (Course.decision?_after hgreeting fun _ _ => by rw [hframe]; rfl).trans hdecision⟩
    -- From here on a channel only waits to be closed, and then stays closed.
    cases h with
    | unmoved => exact hactive
    | finished => rfl
    | left he => rw [he.isActive] at hactive; cases hactive
    | shut hs => rcases hs with hs | ⟨awaited, hs⟩ <;> rw [hs] at hactive <;> cases hactive
    | begun hs | dialed hs | greeted hs | declined hs | clashed hs | sent hs | stuck hs
    | accepted hs | rejected hs | answered hs | unmatched hs | passed hs | unheard hs =>
      rw [hs] at hactive
      cases hactive

/-- The time limit ends the conversation only while the response to the handshake is
    outstanding. -/
theorem deadline_of_step {x : Course κ} {o : Outcome κ}
    (h : Step config x.pending x.channel .deadline o) (hx : Lifecycle x) :
    notices (x.after .deadline o).events = notices x.events ∧
      (o.channel = x.channel ∨
        greetedId? x.events ≠ none ∧ decision? x.events = none ∧
          o.channel = x.channel.leave true) := by
  cases h with
  | unmoved => exact ⟨by rw [Course.notices_after]; exact List.append_nil _, .inl rfl⟩
  | left he =>
    refine ⟨by rw [Course.notices_after]; exact List.append_nil _, .inr ?_⟩
    generalize hs : x.channel.stage = s at he
    cases he with
    | deadline =>
      obtain ⟨hgreeted, hdecision⟩ := hx.awaiting _ hs
      exact ⟨by simp [hgreeted], hdecision, rfl⟩

theorem Lifecycle.connected_mem_iff {x : Course κ} (hx : Lifecycle x) {hello : Hello} :
    .connected hello ∈ notices x.events ↔ verdict x.events = [.connected hello] := by
  obtain ⟨early, late, htrace, -⟩ := hx.trace
  rw [htrace, ← connected_mem_verdict]
  cases x.channel.stage <;> simp [Stage.ending]

theorem Lifecycle.decision?_ne_none_of_handshakeFailed_mem {x : Course κ} (hx : Lifecycle x)
    {r : Response} (h : .handshakeFailed r ∈ notices x.events) : decision? x.events ≠ none := by
  intro hd
  obtain ⟨early, late, htrace, -⟩ := hx.trace
  rw [htrace, verdict_of_eq_none hd] at h
  cases hs : x.channel.stage <;> simp [hs, Stage.ending] at h

theorem Lifecycle.pending_eq_nil_of_closed_mem {x : Course κ} (hx : Lifecycle x) {wasOpen : Bool}
    (h : .closed wasOpen ∈ notices x.events) : x.pending.entries = [] := by
  obtain ⟨early, late, htrace, -⟩ := hx.trace
  cases hs : x.channel.stage with
  | closed wasOpen' => exact hx.cleared wasOpen' hs
  | _ =>
    rw [htrace, hs] at h
    simp [Stage.ending, closed_not_mem_verdict] at h

/-- Whoever watches a channel is told of frames, then of the decision on the handshake,
    of frames again if it was accepted, and last, once, that the socket is gone and
    whether the handshake had been accepted. The decision is that of the first response
    with the id of the handshake. From the acceptance to the end the channel is open, and
    it goes from phase to phase without return. The time limit takes effect only while the
    decision is outstanding, and leads to no rejection. At the end no request is pending. -/
theorem notices_run (config : Config) (moves : List (Move κ)) :
    let x := run config moves
    (∃ (early late : List Frame) (ending : List Notice),
      notices x.events = early.map .frame ++ verdict x.events ++ late.map .frame ++ ending ∧
      (late = [] ∨ ∃ hello, verdict x.events = [.connected hello]) ∧
      (x.channel.phase ≠ .closed ∧ ending = [] ∨
        x.channel.phase = .closed ∧ ∃ wasOpen, ending = [.closed wasOpen] ∧
          (wasOpen = true ↔ ∃ hello, .connected hello ∈ notices x.events))) ∧
    (x.channel.phase = .opened ↔
      (∃ hello, .connected hello ∈ notices x.events) ∧ x.channel.phase ≠ .closed) ∧
    (∀ m, (x.step config m).channel.phase = x.channel.phase ∨
      Phase.Next x.channel.phase (x.step config m).channel.phase) ∧
    (notices (x.step config (.input .deadline)).events = notices x.events ∧
      ((x.step config (.input .deadline)).channel = x.channel ∨
        greetedId? x.events ≠ none ∧ decision? x.events = none ∧
          ∀ more r, .handshakeFailed r ∉
            notices (run config (moves ++ .input .deadline :: more)).events)) ∧
    ∀ wasOpen, .closed wasOpen ∈ notices x.events → x.pending.entries = [] := by
  intro x
  have hx : Lifecycle x := lifecycle_run config moves
  have hconnected : (∃ hello, .connected hello ∈ notices x.events) ↔
      ∃ hello, verdict x.events = [.connected hello] :=
    exists_congr fun _ => hx.connected_mem_iff
  refine ⟨?_, ?_, ?_, ?_, fun wasOpen => hx.pending_eq_nil_of_closed_mem⟩
  · obtain ⟨early, late, htrace, hlate⟩ := hx.trace
    refine ⟨early, late, x.channel.stage.ending, htrace, ?_, ?_⟩
    · rw [← hx.opened]
      cases h : x.channel.stage.hasOpened with
      | true => exact .inr rfl
      | false => exact .inl (hlate h)
    · by_cases hclosed : x.channel.phase = .closed
      · obtain ⟨wasOpen, hs⟩ := hx.phase_eq_closed_iff.1 hclosed
        refine .inr ⟨hclosed, wasOpen, by rw [hs]; rfl, ?_⟩
        rw [hconnected, ← hx.opened, hs]
        rfl
      · refine .inl ⟨hclosed, ?_⟩
        cases hs : x.channel.stage with
        | closed wasOpen => exact absurd (hx.phase_eq_closed_iff.2 ⟨wasOpen, hs⟩) hclosed
        | _ => rfl
  · rw [hconnected]
    exact hx.phase_eq_opened_iff
  · rintro (⟨request, recipient⟩ | _ | input)
    · left
      cases hready : x.channel.phase.isReady with
      | true => rw [Course.step_send_of_isReady hready]; rfl
      | false => rw [Course.step_send_of_not_isReady hready]
    · exact .inl (congrArg Stage.phase (stage_shutdown _))
    · exact phase_of_step (step_receive ..) hx
  · obtain ⟨hnotices, hchannel⟩ := deadline_of_step (step_receive config _ _ _) hx
    refine ⟨hnotices, hchannel.imp_right fun ⟨hgreeted, hdecision, hleave⟩ => ?_⟩
    refine ⟨hgreeted, hdecision, fun more r hmem => ?_⟩
    refine (lifecycle_run config _).decision?_ne_none_of_handshakeFailed_mem hmem ?_
    -- The channel is leaving now, so nothing is decided any more.
    rw [run_append, List.foldl_cons, decision?_of_not_isActive]
    · exact (Course.decision?_after (greeting?_eq_none (by simp)) fun _ _ => by
        rw [frame?_eq_none (by simp)]; rfl).trans hdecision
    · exact congrArg (fun c => c.stage.isActive) hleave

end Tether.Channel
