import Tether.Proofs.Channel.Traffic

/-!
# Noise

Some messages do nothing to a channel: those that are no text, those that are no frame, and
responses to nothing that is awaited or pending. Which messages these are depends on when they
are read: a response is awaited once, and its repetition is noise. A run is the same without
such messages, in all that the channel does and from then on.

* `Course.isNoise`: whether an act is noise at a point of a run;
* `deeds`: all that happens apart from what is read;
* `Alike`: two courses that differ by what was read only;
* `Alike.act`, `alike_act_of_isNoise`: an act leads from alike courses to alike courses, and
  noise leads nowhere;
* `noise_run`: runs with noise and without.
-/

namespace Tether.Channel

variable {κ : Type} {config : Config}

/-- Whether an act is a message that does nothing: one that is not read, is no text or is no
    frame, or a response with an id that is neither awaited nor pending. -/
def Course.isNoise (x : Course κ) : Act κ → Bool
  | .move (.input .other) => true
  | .move (.input (.text text)) =>
    match x.channel.stage with
    | .serving awaited =>
      match Frame.decode text with
      | .error _ => true
      | .ok (.response r) => awaited ≠ some r.id && !x.pending.contains r.id
      | .ok _ => false
    | _ => true
  | _ => false

/-- The acts of a run that are not marked. -/
def unmarked (marked : List (Act κ × Bool)) : List (Act κ) :=
  (marked.filter fun m => !m.2).map Prod.fst

theorem unmarked_append (marked marked' : List (Act κ × Bool)) :
    unmarked (marked ++ marked') = unmarked marked ++ unmarked marked' := by
  simp [unmarked]

/-! ## Deeds -/

/-- Whether a frame is read. -/
def Event.isHeard : Event κ → Bool
  | heard _ => true
  | _ => false

/-- What happened, apart from the frames that were read. -/
def deeds (h : List (Event κ)) : List (Event κ) := h.filter fun e => !e.isHeard

theorem deeds_append (h h' : List (Event κ)) : deeds (h ++ h') = deeds h ++ deeds h' :=
  List.filter_append h h'

/-- A question that no frame answers is one to the deeds. -/
theorem filterMap_deeds {α : Type} {f : Event κ → Option α} (hf : ∀ r, f (.heard r) = none)
    (h : List (Event κ)) : (deeds h).filterMap f = h.filterMap f := by
  rw [deeds, List.filterMap_filter]
  refine List.filterMap_congr fun e _ => ?_
  cases e with
  | heard r => exact (hf r).symm
  | _ => rfl

/-- What happens with a message is what is done with it. -/
theorem deeds_happenings {x : Course κ} {input : Input} {o : Outcome κ}
    (hgreeting : x.channel.greeting? input = none) :
    deeds (x.happenings input o) = o.done.map Effect.event := by
  have hdone : deeds (o.done.map Effect.event) = o.done.map Effect.event := by
    refine List.filter_eq_self.2 fun e he => ?_
    obtain ⟨e, -, rfl⟩ := List.mem_map.1 he
    cases e <;> rfl
  rw [Course.happenings, hgreeting, deeds_append, hdone]
  simp [deeds, Event.isHeard]

/-! ## Alike courses -/

/-- The courses differ by what was read only. -/
structure Alike (x y : Course κ) : Prop where
  channel : y.channel = x.channel
  pending : y.pending = x.pending
  deeds : deeds y.events = deeds x.events

/-- What an act does depends on the channel and its pending requests, and not on the history. -/
theorem Course.act_eq (config : Config) (channel : Channel κ) (pending : Pending.Table κ)
    (a : Act κ) : ∃ channel' pending' more, ∀ h,
      Course.act config ⟨channel, pending, h⟩ a = ⟨channel', pending', h ++ more⟩ := by
  rcases a with (⟨request, recipient⟩ | _ | input) | _
  · cases hready : channel.phase.isReady with
    | true =>
      refine ⟨{ channel with queue := channel.queue ++ [.send request recipient] }, pending,
        [.accepted request recipient], fun h => ?_⟩
      rw [act, step_send_of_isReady (x := ⟨channel, pending, h⟩) hready]
      rfl
    | false =>
      refine ⟨channel, pending, [], fun h => ?_⟩
      rw [List.append_nil, act, step_send_of_not_isReady (x := ⟨channel, pending, h⟩) hready]
  · exact ⟨channel.shutdown, pending, [.shut], fun _ => rfl⟩
  · let o := channel.receive config pending input
    exact ⟨o.channel, o.pending, happenings ⟨channel, pending, []⟩ input o, fun _ => rfl⟩
  · exact ⟨channel.unwatch, pending, [], fun h => by rw [List.append_nil]; rfl⟩

namespace Alike

variable {x y z : Course κ}

theorem refl (x : Course κ) : Alike x x := ⟨rfl, rfl, rfl⟩

theorem symm (h : Alike x y) : Alike y x := ⟨h.channel.symm, h.pending.symm, h.deeds.symm⟩

theorem trans (h : Alike x y) (h' : Alike y z) : Alike x z :=
  ⟨h'.channel.trans h.channel, h'.pending.trans h.pending, h'.deeds.trans h.deeds⟩

theorem act (h : Alike x y) (a : Act κ) : Alike (x.act config a) (y.act config a) := by
  obtain ⟨channel, pending, events⟩ := x
  obtain ⟨channel', pending', events'⟩ := y
  obtain ⟨rfl, rfl, hdeeds⟩ := h
  obtain ⟨channel, pending, more, hact⟩ := Course.act_eq config channel' pending' a
  rw [hact, hact]
  refine ⟨rfl, rfl, ?_⟩
  rw [deeds_append, deeds_append, hdeeds]

/-- Messages that are read without an answer. -/
theorem of_outcome {input : Input} {o : Outcome κ} (hgreeting : x.channel.greeting? input = none)
    (hchannel : o.channel = x.channel) (hpending : o.pending = x.pending) (hdone : o.done = []) :
    Alike x (x.after input o) where
  channel := hchannel
  pending := hpending
  deeds := by
    rw [Course.after, deeds_append, deeds_happenings hgreeting, hdone]
    exact List.append_nil _

end Alike

/-- Noise leads nowhere. -/
theorem alike_act_of_isNoise {x : Course κ} {a : Act κ} (h : x.isNoise a = true) :
    Alike x (x.act config a) := by
  rcases a with (_ | _ | input) | _
  · cases h
  · cases h
  · have hstep := step_receive config x.pending x.channel input
    rw [Course.act, Course.step]
    generalize x.channel.receive config x.pending input = o at hstep ⊢
    cases hstep with
    | unmoved _ hgreeting => exact .of_outcome hgreeting rfl rfl rfl
    | unmatched => exact .of_outcome (greeting?_eq_none (by simp)) rfl rfl rfl
    -- All other messages are answered, so they are no noise.
    | accepted hs hd | rejected hs hd => simp [Course.isNoise, hs, hd] at h
    | answered hs hd _ hp =>
      simp [Course.isNoise, hs, hd, Pending.Table.contains_of_get?_eq_some hp] at h
    | @passed f _ _ _ hs hd hr =>
      cases f with
      | response r => exact absurd rfl (hr r)
      | _ => simp [Course.isNoise, hs, hd] at h
    | @unheard f _ _ _ hs hd hr =>
      cases f with
      | response r => simp [Course.isNoise, hs, hd, hr r rfl] at h
      | _ => simp [Course.isNoise, hs, hd] at h
    | left he =>
      generalize x.channel.stage = s at he
      cases he <;> cases h
    | _ => cases h
  · cases h

/-! ## Runs -/

theorem alike_run (config : Config) (marked : List (Act κ × Bool))
    (hnoise : ∀ i, (hi : i < marked.length) → marked[i].2 = true →
      (perform config ((marked.take i).map Prod.fst)).isNoise marked[i].1 = true) (n : ℕ) :
    Alike (perform config ((marked.take n).map Prod.fst))
      (perform config (unmarked (marked.take n))) := by
  induction n with
  | zero => exact .refl _
  | succ n ih =>
    by_cases hn : n < marked.length
    · rw [← List.take_append_getElem hn, List.map_append, unmarked_append]
      have hnoise := hnoise n hn
      generalize marked[n] = m at hnoise
      obtain ⟨a, mark⟩ := m
      rw [List.map_singleton, perform_append_singleton]
      cases mark with
      | false =>
        -- Both runs take this act, from alike courses.
        rw [show unmarked [(a, false)] = [a] from rfl, perform_append_singleton]
        exact ih.act a
      | true =>
        -- Only the run with noise does, and stays where it is.
        rw [show unmarked [(a, true)] = [] from rfl, List.append_nil]
        exact (alike_act_of_isNoise (hnoise rfl)).symm.trans ih
    · have hlength : marked.length ≤ n := Nat.le_of_not_lt hn
      rw [List.take_of_length_le hlength] at ih
      rwa [List.take_of_length_le (Nat.le_succ_of_le hlength)]

/-- If every act of a run that is marked is noise when it comes, then the run is the same without
    these acts: at every point of it there are the same channel and the same pending requests,
    whoever watches has been told the same, every request has had the same outcome, and the same
    messages have been written, all in the same order. -/
theorem noise_run (config : Config) (marked : List (Act κ × Bool))
    (hnoise : ∀ i, (hi : i < marked.length) → marked[i].2 = true →
      (perform config ((marked.take i).map Prod.fst)).isNoise marked[i].1 = true) (n : ℕ) :
    let x := perform config ((marked.take n).map Prod.fst)
    let y := perform config (unmarked (marked.take n))
    y.channel = x.channel ∧ y.pending = x.pending ∧ deeds y.events = deeds x.events ∧
      notices y.events = notices x.events ∧ accepted y.events = accepted x.events ∧
      delivered y.events = delivered x.events ∧ texts y.events = texts x.events := by
  intro x y
  have h : Alike x y := alike_run config marked hnoise n
  have hsame {α : Type} {f : Event κ → Option α} (hf : ∀ r, f (.heard r) = none) :
      y.events.filterMap f = x.events.filterMap f := by
    rw [← filterMap_deeds hf, h.deeds, filterMap_deeds hf]
  exact ⟨h.channel, h.pending, h.deeds, hsame fun _ => rfl, hsame fun _ => rfl, hsame fun _ => rfl,
    congrArg (List.map message) (hsame fun _ => rfl)⟩

/-- A reply to the request with the id `2`. -/
def reply : String := "\x7b\"type\":\"res\",\"id\":\"2\",\"ok\":true\x7d"

/-- A run in which the reply comes twice, followed by other messages without a meaning. -/
def echoes : List (Act Nat × Bool) :=
  [(.move (.input .begin), false), (.move (.input .dialed), false),
    (.move (.input (.greeted ⟨"1"⟩)), false), (.move (.send ⟨⟨"2"⟩, "health", none⟩ 0), false),
    (.move (.input (.command true)), false), (.move (.input (.text reply)), false),
    (.move (.input (.text reply)), true), (.move (.input (.text "pong")), true),
    (.move (.input .other), true), (.move (.input .closedByPeer), false),
    (.move (.input .finish), false)]

/-- The second reply is noise, and nothing else comes of it. -/
theorem deeds_unmarked_echoes :
    (∀ i, (hi : i < echoes.length) → echoes[i].2 = true →
      (perform .loopback ((echoes.take i).map Prod.fst)).isNoise echoes[i].1 = true) ∧
    deeds (perform .loopback (unmarked echoes)).events =
      deeds (perform .loopback (echoes.map Prod.fst)).events := by
  have hnoise : ∀ i, (hi : i < echoes.length) → echoes[i].2 = true →
      (perform .loopback ((echoes.take i).map Prod.fst)).isNoise echoes[i].1 = true := by
    decide +kernel
  obtain ⟨-, -, hdeeds, -⟩ := noise_run .loopback echoes hnoise echoes.length
  rw [List.take_length] at hdeeds
  exact ⟨hnoise, hdeeds⟩

end Tether.Channel
