import Mathlib.Data.List.Basic
import Mathlib.Data.List.TakeWhile
import Tether.Proofs.Channel.Run

/-!
# Questions to a history

What the events of a run say about its requests, its responses and its notices. Each
question is answered for the events of one step by what the step shows
(`accepted_happenings` and so on), so no proof looks into the list of these events.

* `accepted`, `registered`, `outcomes`, `notices`: what there was of each kind, in
  order;
* `greetedId?`, `response? id`: the id of the handshake, and the first response with
  an id;
* `answer?`: the first response with the id of a request that is read after the
  request became pending.
-/

namespace Tether.Channel

variable {κ : Type}

/-! ## Single events -/

/-- The response with the id that a frame is. -/
def responseTo? (id : RequestId) : Frame → Option Response
  | .response r => if r.id = id then some r else none
  | _ => none

theorem responseTo?_eq_none {id : RequestId} {f : Frame} (h : ∀ r, f ≠ .response r) :
    responseTo? id f = none := by
  cases f with
  | response r => exact absurd rfl (h r)
  | request | event => rfl

namespace Event

/-- The request that is queued, with its recipient. -/
def accepted? : Event κ → Option (Request × κ)
  | accepted request recipient => some (request, recipient)
  | _ => none

/-- The request that becomes pending, as an entry of the table. -/
def registered? : Event κ → Option (RequestId × κ)
  | registered id recipient => some (id, recipient)
  | _ => none

/-- The outcome that is delivered. -/
def delivered? : Event κ → Option (Pending.Delivery κ)
  | delivered d => some d
  | _ => none

/-- What whoever watches is told. -/
def notice? : Event κ → Option Notice
  | noticed n => some n
  | _ => none

/-- The id of the handshake that is written. -/
def greeted? : Event κ → Option RequestId
  | greeted id => some id
  | _ => none

/-- The id that is drawn, for a request or for the handshake. -/
def drawn? : Event κ → Option RequestId
  | accepted request _ => some request.id
  | greeted id => some id
  | _ => none

/-- The response with the id that is read. -/
def response? (id : RequestId) : Event κ → Option Response
  | heard f => responseTo? id f
  | _ => none

end Event

/-! ## Histories -/

/-- The requests that were queued, with their recipients. -/
def accepted (h : List (Event κ)) : List (Request × κ) := h.filterMap Event.accepted?

/-- The requests that became pending. -/
def registered (h : List (Event κ)) : List (RequestId × κ) := h.filterMap Event.registered?

/-- The outcomes that were delivered. -/
def delivered (h : List (Event κ)) : List (Pending.Delivery κ) := h.filterMap Event.delivered?

/-- What whoever watches was told. -/
def notices (h : List (Event κ)) : List Notice := h.filterMap Event.notice?

/-- The ids that were drawn. -/
def drawn (h : List (Event κ)) : List RequestId := h.filterMap Event.drawn?

/-- The id of the handshake, once it is written. -/
def greetedId? (h : List (Event κ)) : Option RequestId := (h.filterMap Event.greeted?).head?

/-- The first response with the id. -/
def response? (id : RequestId) (h : List (Event κ)) : Option Response :=
  (h.filterMap (Event.response? id)).head?

/-- The outcomes that were delivered to a recipient. -/
def outcomes [DecidableEq κ] (recipient : κ) (h : List (Event κ)) :
    List (Except Failure Response) :=
  ((delivered h).filter fun d => d.recipient = recipient).map Pending.Delivery.outcome

/-- Whether the request became pending. -/
def isRegistered [DecidableEq κ] (id : RequestId) (recipient : κ) (e : Event κ) : Bool :=
  e.registered? = some (id, recipient)

/-- The first response with the id that is read after the request became pending. -/
def answer? [DecidableEq κ] (id : RequestId) (recipient : κ) (h : List (Event κ)) :
    Option Response :=
  response? id (h.dropWhile fun e => !isRegistered id recipient e)

section append

variable (h h' : List (Event κ))

@[simp] theorem accepted_append : accepted (h ++ h') = accepted h ++ accepted h' := by
  simp [accepted]

@[simp] theorem registered_append : registered (h ++ h') = registered h ++ registered h' := by
  simp [registered]

@[simp] theorem delivered_append : delivered (h ++ h') = delivered h ++ delivered h' := by
  simp [delivered]

@[simp] theorem notices_append : notices (h ++ h') = notices h ++ notices h' := by
  simp [notices]

@[simp] theorem greetedId?_append : greetedId? (h ++ h') = (greetedId? h).or (greetedId? h') := by
  simp [greetedId?]

@[simp] theorem response?_append (id : RequestId) :
    response? id (h ++ h') = (response? id h).or (response? id h') := by
  simp [response?]

@[simp] theorem outcomes_append [DecidableEq κ] (recipient : κ) :
    outcomes recipient (h ++ h') = outcomes recipient h ++ outcomes recipient h' := by
  simp [outcomes]

end append

theorem mem_accepted_iff {request : Request} {recipient : κ} {h : List (Event κ)} :
    (request, recipient) ∈ accepted h ↔ .accepted request recipient ∈ h := by
  rw [accepted, List.mem_filterMap]
  refine ⟨?_, fun h => ⟨_, h, rfl⟩⟩
  rintro ⟨e, he, ha⟩
  cases e <;> cases ha
  exact he

/-! ## Answers -/

section answer

variable [DecidableEq κ] {id : RequestId} {recipient : κ} {h h' : List (Event κ)}

theorem mem_registered_iff :
    (id, recipient) ∈ registered h ↔ ∃ e ∈ h, isRegistered id recipient e = true := by
  simp [registered, isRegistered]

theorem dropWhile_append_of_mem (hmem : (id, recipient) ∈ registered h) :
    (h ++ h').dropWhile (fun e => !isRegistered id recipient e) =
      h.dropWhile (fun e => !isRegistered id recipient e) ++ h' := by
  rw [List.dropWhile_append, if_neg]
  simpa [List.isEmpty_iff, List.dropWhile_eq_nil_iff] using mem_registered_iff.1 hmem

theorem dropWhile_append_of_not_mem (hmem : (id, recipient) ∉ registered h) :
    (h ++ h').dropWhile (fun e => !isRegistered id recipient e) =
      h'.dropWhile (fun e => !isRegistered id recipient e) := by
  rw [List.dropWhile_append, if_pos]
  rw [mem_registered_iff] at hmem
  simpa [List.isEmpty_iff, List.dropWhile_eq_nil_iff] using hmem

/-- Once a request is pending, the first response with its id answers it. -/
theorem answer?_append_of_mem (hmem : (id, recipient) ∈ registered h) :
    answer? id recipient (h ++ h') = (answer? id recipient h).or (response? id h') := by
  rw [answer?, dropWhile_append_of_mem hmem, response?_append]
  rfl

/-- Before a request is pending, no response answers it. -/
theorem answer?_append_of_not_mem (hmem : (id, recipient) ∉ registered h) :
    answer? id recipient (h ++ h') = answer? id recipient h' := by
  rw [answer?, dropWhile_append_of_not_mem hmem]
  rfl

theorem answer?_eq_none_of_not_mem (hmem : (id, recipient) ∉ registered h) :
    answer? id recipient h = none := by
  rw [← List.append_nil h, answer?_append_of_not_mem hmem]
  rfl

theorem answer?_eq_none (hresponse : response? id h = none) :
    answer? id recipient h = none := by
  simp only [response?, List.head?_eq_none_iff, List.filterMap_eq_nil_iff] at hresponse
  simp only [answer?, response?, List.head?_eq_none_iff, List.filterMap_eq_nil_iff]
  exact fun e he => hresponse e ((List.dropWhile_sublist _).subset he)

/-- Events without a response leave all answers as they are. -/
theorem answer?_append_of_response?_eq_none (hresponse : response? id h' = none) :
    answer? id recipient (h ++ h') = answer? id recipient h := by
  by_cases hmem : (id, recipient) ∈ registered h
  · rw [answer?_append_of_mem hmem, hresponse, Option.or_none]
  · rw [answer?_append_of_not_mem hmem, answer?_eq_none hresponse,
      answer?_eq_none_of_not_mem hmem]

end answer

/-! ## One step -/

namespace Course

variable (x : Course κ) (input : Input) (o : Outcome κ)

/-- A question that only the effects of an input answer. -/
theorem filterMap_happenings {α : Type} {f : Event κ → Option α}
    (hgreeted : ∀ id, f (.greeted id) = none) (hheard : ∀ r, f (.heard r) = none) :
    (x.happenings input o).filterMap f = o.done.filterMap fun e => f e.event := by
  simp [happenings, List.filterMap_map, hgreeted, hheard]

/-- A question that no effect answers. -/
theorem filterMap_event_eq_nil {α : Type} {f : Event κ → Option α}
    (hf : ∀ e : Effect κ, f e.event = none) : (o.done.map Effect.event).filterMap f = [] := by
  simp [List.filterMap_map, hf]

theorem accepted_happenings : accepted (x.happenings input o) = [] := by
  rw [accepted, filterMap_happenings _ _ _ (fun _ => rfl) fun _ => rfl]
  exact List.filterMap_eq_nil_iff.2 fun e _ => by cases e <;> rfl

theorem registered_happenings : registered (x.happenings input o) = o.registered := by
  rw [registered, filterMap_happenings _ _ _ (fun _ => rfl) fun _ => rfl]
  exact List.filterMap_congr fun e _ => by cases e <;> rfl

theorem delivered_happenings : delivered (x.happenings input o) = o.deliveries := by
  rw [delivered, filterMap_happenings _ _ _ (fun _ => rfl) fun _ => rfl]
  exact List.filterMap_congr fun e _ => by cases e <;> rfl

theorem notices_happenings : notices (x.happenings input o) = o.notices := by
  rw [notices, filterMap_happenings _ _ _ (fun _ => rfl) fun _ => rfl]
  exact List.filterMap_congr fun e _ => by cases e <;> rfl

theorem greetedId?_happenings :
    greetedId? (x.happenings input o) = x.channel.greeting? input := by
  rw [greetedId?, happenings, List.filterMap_append,
    filterMap_event_eq_nil _ fun e => by cases e <;> rfl]
  simp [Function.comp_def, Event.greeted?]

theorem response?_happenings (id : RequestId) :
    response? id (x.happenings input o) = (x.channel.frame? input).bind (responseTo? id) := by
  rw [response?, happenings, List.filterMap_append,
    filterMap_event_eq_nil _ fun e => by cases e <;> rfl]
  simp only [List.filterMap_append, List.filterMap_map,
    Function.comp_def, Event.response?, List.filterMap_none, List.append_nil, List.nil_append]
  cases x.channel.frame? input with
  | none => rfl
  | some f => cases h : responseTo? id f <;> simp [h]

/-- An input that is neither read nor answered is nothing that happens. -/
theorem happenings_eq_nil (hgreeting : x.channel.greeting? input = none)
    (hframe : x.channel.frame? input = none) (hdone : o.done = []) :
    x.happenings input o = [] := by
  rw [happenings, hgreeting, hframe, hdone]
  rfl

end Course

end Tether.Channel
