import Tether.Proofs.Pending.History

/-!
# Calls on different ids

A call on a table is about one id, unless it fails all requests. What it does depends on what is
pending under that id, and shows under that id alone. So the calls on one id come to the same
whether or not there are others between them, and calls on different ids may change places.

* `Call.id?`, `Delivery.id?`, `on`: what is about an id;
* `Course.call_of_id?`, `Course.get?_call_of_ne`: what a call does under its id, and under others;
* `runFrom_on`: what comes of the calls on one id;
* `Reordering`, `Agree`, `reordering_run`: other orders of the calls.
-/

namespace Tether.Pending

variable {κ : Type}

/-! ## What is about an id -/

/-- The id that a call is about, if it is about one. -/
def Call.id? : Call κ → Option RequestId
  | register id _ => some id
  | resolve r => some r.id
  | remove id => some id
  | failAll => none
  | abandon _ => none

/-- The id of the response that is sent, if it is one. -/
def Delivery.id? (d : Delivery κ) : Option RequestId :=
  match d.outcome with
  | .ok r => some r.id
  | .error _ => none

/-- The calls on an id, in order. -/
def on (id : RequestId) (calls : List (Call κ)) : List (Call κ) :=
  calls.filter fun c => c.id? = some id

/-- Whether a recipient is pending under the id in the table, or one of the calls registers it. -/
def Offered (t : Table κ) (calls : List (Call κ)) (id : RequestId) (k : κ) : Prop :=
  (id, k) ∈ t.entries ∨ .register id k ∈ calls

/-! ## Orders of calls -/

/-- Whether the calls `calls'` are the calls `calls`, each on one id, in an order that keeps that of
    the calls on each single id. -/
structure Reordering (calls calls' : List (Call κ)) : Prop where
  perm : calls.Perm calls'
  isSome_id? : ∀ c ∈ calls, c.id?.isSome
  on_eq : ∀ id, on id calls = on id calls'

/-- Responses with different ids may come in any order. -/
theorem Reordering.of_responses {rs rs' : List Response} (hperm : rs.Perm rs')
    (hids : (rs.map Response.id).Nodup) :
    Reordering (rs.map Call.resolve : List (Call κ)) (rs'.map Call.resolve) := by
  have hon (id : RequestId) (rs : List Response) :
      on id (rs.map Call.resolve : List (Call κ)) =
        (rs.filter fun r => r.id = id).map .resolve := by
    simp [on, List.filter_map, Function.comp_def, Call.id?]
  refine ⟨hperm.map _, by simp [Call.id?], fun id => ?_⟩
  rw [hon, hon]
  congr 1
  -- Under an id there is one response at most, so there is nothing to be ordered.
  have hone : (rs.filter fun r => r.id = id).length ≤ 1 := by
    have hcount := List.nodup_iff_count_le_one.1 hids id
    rw [List.count, List.countP_map, List.countP_eq_length_filter] at hcount
    simpa only [Function.comp_def, beq_eq_decide] using hcount
  have hfilter := hperm.filter fun r => r.id = id
  rcases hrs : rs.filter fun r => r.id = id with _ | ⟨r, _ | ⟨r', rest⟩⟩
  · rw [hrs] at hfilter ⊢
    exact hfilter.nil_eq
  · rw [hrs] at hfilter ⊢
    exact List.singleton_perm.1 hfilter
  · rw [hrs] at hone
    simp at hone

/-! ## Tables, by id -/

namespace Table

variable {t t' : Table κ} {id i : RequestId} {k : κ}

theorem get?_erase : (t.erase id).get? i = if i = id then none else t.get? i := by
  refine Option.ext fun k => ?_
  rw [get?_eq_some_iff, erase, List.mem_filter]
  split_ifs with hi
  · simp [hi]
  · simp [hi, get?_eq_some_iff]

theorem get?_of_register (h : t.register id k = .ok t') :
    t'.get? i = if i = id then some k else t.get? i := by
  obtain ⟨hcontains, hentries⟩ := entries_of_register h
  have hnone : t.get? id = none := by
    rw [contains_eq_isSome] at hcontains
    simpa using hcontains
  refine Option.ext fun j => ?_
  rw [get?_eq_some_iff, hentries, List.mem_append, ← get?_eq_some_iff]
  split_ifs with hi
  · simp [hi, hnone, eq_comm]
  · simp [hi]

/-- A request is registered if nothing is pending under its id. -/
theorem exists_of_get?_eq_none (h : t.get? id = none) (k : κ) :
    ∃ t', t.register id k = .ok t' := by
  rcases hregister : t.register id k with e | t'
  · have hcontains := contains_of_register_error hregister
    rw [contains_of_get?_eq_none h] at hcontains
    cases hcontains
  · exact ⟨t', rfl⟩

/-- Tables with the same under every id have the same entries. -/
theorem perm_entries (h : ∀ id, t.get? id = t'.get? id) : t.entries.Perm t'.entries := by
  refine (List.perm_ext_iff_of_nodup t.nodup_ids.of_map t'.nodup_ids.of_map).2 fun e => ?_
  rw [← get?_eq_some_iff, ← get?_eq_some_iff, h]

end Table

variable [DecidableEq κ]

/-- The course of calls on a table. -/
def runFrom (t : Table κ) (calls : List (Call κ)) : Course κ :=
  calls.foldl Course.call ⟨t, [], [], [], []⟩

theorem runFrom_append_singleton (t : Table κ) (calls : List (Call κ)) (c : Call κ) :
    runFrom t (calls ++ [c]) = (runFrom t calls).call c := List.foldl_append

/-! ## One call -/

namespace Course

variable {x y : Course κ} {c : Call κ} {id i : RequestId}

/-- Where the same is pending under its id, a call returns the same and sends the same, under that
    id, and leaves the same there. -/
theorem call_of_id? (hc : c.id? = some id) (h : x.table.get? id = y.table.get? id) :
    ∃ reply ds, (∀ d ∈ ds, d.id? = some id) ∧
      ((x.call c).replies = x.replies ++ [reply] ∧ (x.call c).sent = x.sent ++ ds) ∧
      ((y.call c).replies = y.replies ++ [reply] ∧ (y.call c).sent = y.sent ++ ds) ∧
      (x.call c).table.get? id = (y.call c).table.get? id := by
  rcases c with ⟨j, k⟩ | r | j | _ | _
  case register =>
    obtain rfl := Option.some.inj hc
    -- What is pending under the id decides whether the request is registered.
    rcases hget : x.table.get? j with _ | k'
    · obtain ⟨tx, hx⟩ := Table.exists_of_get?_eq_none hget k
      obtain ⟨ty, hy⟩ := Table.exists_of_get?_eq_none (h ▸ hget) k
      refine ⟨.registered (.ok ()), [], by simp, ?_, ?_, ?_⟩
      · simp [call, hx]
      · simp [call, hy]
      · simp [call, hx, hy, Table.get?_of_register hx, Table.get?_of_register hy]
    · have hx := Table.contains_of_get?_eq_some hget
      have hy := Table.contains_of_get?_eq_some (h ▸ hget)
      rw [call_register_of_contains x hx, call_register_of_contains y hy]
      exact ⟨_, [], by simp, ⟨rfl, by simp⟩, ⟨rfl, by simp⟩, h⟩
  case resolve =>
    obtain rfl := Option.some.inj hc
    refine ⟨.resolved (x.table.get? r.id).isSome,
      ((x.table.get? r.id).map fun k => ⟨k, .ok r⟩).toList, ?_, ?_, ?_, ?_⟩
    · simp [Delivery.id?]
    · simp [call, Table.resolve, send]
    · simp [call, Table.resolve, send, h]
    · simp [call, Table.resolve, Table.get?_erase]
  case remove =>
    obtain rfl := Option.some.inj hc
    refine ⟨.removed (x.table.get? j), [], by simp, ?_, ?_, ?_⟩
    · simp [call, Table.take]
    · simp [call, Table.take, h]
    · simp [call, Table.take, Table.get?_erase]
  all_goals cases hc

/-- What is pending under other ids stays as it is. -/
theorem get?_call_of_ne (hc : c.id? = some i) (hne : id ≠ i) :
    (x.call c).table.get? id = x.table.get? id := by
  rcases c with ⟨j, k⟩ | r | j | _ | _
  case register =>
    obtain rfl := Option.some.inj hc
    rw [call]
    split
    · rename_i t hregister
      exact (Table.get?_of_register hregister).trans (if_neg hne)
    · rfl
  case resolve =>
    obtain rfl := Option.some.inj hc
    exact Table.get?_erase.trans (if_neg hne)
  case remove =>
    obtain rfl := Option.some.inj hc
    exact Table.get?_erase.trans (if_neg hne)
  all_goals cases hc

end Course

/-! ## The calls on one id -/

variable {t : Table κ} {calls calls' : List (Call κ)} {id : RequestId} {k : κ}

/-- Each call returns something. -/
theorem length_replies (hcalls : ∀ c ∈ calls, c.id?.isSome) :
    (runFrom t calls).replies.length = calls.length := by
  induction calls using List.reverseRecOn with
  | nil => rfl
  | append_singleton calls c ih =>
    simp only [List.forall_mem_append, List.forall_mem_singleton] at hcalls
    obtain ⟨i, hi⟩ := Option.isSome_iff_exists.1 hcalls.2
    obtain ⟨reply, ds, -, ⟨hreplies, -⟩, -⟩ :=
      Course.call_of_id? (x := runFrom t calls) hi rfl
    rw [runFrom_append_singleton, hreplies, List.length_append, List.length_append,
      ih hcalls.1]
    rfl

/-- The calls on an id with what they return, in order. -/
def returned (t : Table κ) (calls : List (Call κ)) (id : RequestId) : List (Call κ × Reply κ) :=
  (calls.zip (runFrom t calls).replies).filter fun a => a.1.id? = some id

/-- What is sent under an id, in order. -/
def sentUnder (t : Table κ) (calls : List (Call κ)) (id : RequestId) : List (Delivery κ) :=
  (runFrom t calls).sent.filter fun d => d.id? = some id

/-- The calls on an id leave, return and send the same there as they do alone. -/
theorem runFrom_on (hcalls : ∀ c ∈ calls, c.id?.isSome) (id : RequestId) :
    (runFrom t calls).table.get? id = (runFrom t (on id calls)).table.get? id ∧
      returned t calls id = (on id calls).zip (runFrom t (on id calls)).replies ∧
      sentUnder t calls id = (runFrom t (on id calls)).sent := by
  induction calls using List.reverseRecOn with
  | nil => exact ⟨rfl, rfl, rfl⟩
  | append_singleton calls c ih =>
    simp only [List.forall_mem_append, List.forall_mem_singleton] at hcalls
    obtain ⟨hget, hreturned, hsent⟩ := ih hcalls.1
    obtain ⟨i, hi⟩ := Option.isSome_iff_exists.1 hcalls.2
    have hon : ∀ c ∈ on id calls, c.id?.isSome := fun c hc => hcalls.1 c (List.mem_filter.1 hc).1
    by_cases h : i = id
    · -- The last call is on the id, and finds there what it finds after the calls on the id alone.
      subst h
      have happend : on i (calls ++ [c]) = on i calls ++ [c] := by
        simp [on, List.filter_append, hi]
      obtain ⟨reply, ds, hds, ⟨hx, hxsent⟩, ⟨hy, hysent⟩, hafter⟩ := Course.call_of_id? hi hget
      rw [happend, returned, sentUnder, runFrom_append_singleton, runFrom_append_singleton, hx, hy,
        hxsent, hysent]
      refine ⟨hafter, ?_, ?_⟩
      · rw [List.zip_append (length_replies hcalls.1).symm,
          List.zip_append (length_replies hon).symm, List.filter_append, ← hreturned, returned]
        simp [hi]
      · have hall : ds.filter (fun d => d.id? = some i) = ds :=
          List.filter_eq_self.2 fun d hd => by simp [hds d hd]
        rw [List.filter_append, hall, ← hsent, sentUnder]
    · -- The last call is on another id, and nothing of it shows under this one.
      have happend : on id (calls ++ [c]) = on id calls := by
        simp [on, List.filter_append, hi, h]
      obtain ⟨reply, ds, hds, ⟨hx, hxsent⟩, -⟩ :=
        Course.call_of_id? (x := runFrom t calls) hi rfl
      rw [happend, returned, sentUnder, runFrom_append_singleton, hx, hxsent]
      refine ⟨?_, ?_, ?_⟩
      · rw [Course.get?_call_of_ne hi (Ne.symm h), hget]
      · rw [List.zip_append (length_replies hcalls.1).symm, List.filter_append, ← hreturned,
          returned]
        simp [hi, h]
      · have hnone : ds.filter (fun d => d.id? = some id) = [] :=
          List.filter_eq_nil_iff.2 fun d hd => by simp [hds d hd, h]
        rw [List.filter_append, hnone, List.append_nil, ← hsent, sentUnder]

/-! ## Whose outcomes are sent -/

/-- What is pending has been in the table or has been registered, and so has what is answered, under
    the id of its response. -/
theorem offered_run (t : Table κ) (calls : List (Call κ)) :
    (∀ e ∈ (runFrom t calls).table.entries, Offered t calls e.1 e.2) ∧
      ∀ d ∈ (runFrom t calls).sent, ∀ id, d.id? = some id → Offered t calls id d.recipient := by
  induction calls using List.reverseRecOn with
  | nil => exact ⟨fun e he => .inl he, nofun⟩
  | append_singleton calls c ih =>
    obtain ⟨hentries, hsent⟩ := ih
    have hmono {id : RequestId} {k : κ} (h : Offered t calls id k) :
        Offered t (calls ++ [c]) id k :=
      h.imp_right (List.mem_append_left _)
    rw [runFrom_append_singleton, Course.entries_call, Course.sent_call]
    constructor
    · intro e he
      rcases List.mem_append.1 he with he | he
      · exact hmono (hentries e (List.mem_filter.1 he).1)
      · -- Only what the call registers is new.
        rcases c with ⟨i, k⟩ | _ | _ | _ | _
        case register =>
          rw [Course.entering] at he
          split at he
          · cases he
          · rw [List.mem_singleton.1 he]
            exact .inr (List.mem_append_right _ List.mem_cons_self)
        all_goals cases he
    · intro d hd id hid
      rcases List.mem_append.1 hd with hd | hd
      · exact hmono (hsent d hd id hid)
      · -- What is sent goes to a recipient that was pending under the id of the response.
        obtain ⟨e, hending, hde⟩ := List.mem_filterMap.1 hd
        obtain ⟨o, ho, rfl⟩ := Option.map_eq_some_iff.1 hde
        obtain ⟨he, hends⟩ := List.mem_filter.1 hending
        rcases c with _ | r | _ | _ | _
        case resolve =>
          obtain rfl := Option.some.inj ho
          obtain rfl : r.id = id := Option.some.inj hid
          have heid : e.1 = r.id := of_decide_eq_true hends
          exact hmono (heid ▸ hentries e he)
        case failAll =>
          obtain rfl := Option.some.inj ho
          cases hid
        all_goals cases ho

/-- Only responses are sent by the calls on ids. -/
theorem isSome_id?_of_mem_sent (hcalls : ∀ c ∈ calls, c.id?.isSome) :
    ∀ d ∈ (runFrom t calls).sent, d.id?.isSome := by
  induction calls using List.reverseRecOn with
  | nil => exact nofun
  | append_singleton calls c ih =>
    simp only [List.forall_mem_append, List.forall_mem_singleton] at hcalls
    obtain ⟨i, hi⟩ := Option.isSome_iff_exists.1 hcalls.2
    obtain ⟨reply, ds, hds, ⟨-, hsent⟩, -⟩ := Course.call_of_id? (x := runFrom t calls) hi rfl
    rw [runFrom_append_singleton, hsent, List.forall_mem_append]
    exact ⟨ih hcalls.1, fun d hd => by rw [hds d hd, Option.isSome_some]⟩

/-- A recipient that is offered under one id is sent what is sent under that id alone. -/
theorem filter_sent_eq (hcalls : ∀ c ∈ calls, c.id?.isSome)
    (hown : ∀ i j, Offered t calls i k → Offered t calls j k → i = j) (hk : Offered t calls id k) :
    (runFrom t calls).sent.filter (fun d => d.recipient = k) =
      (sentUnder t calls id).filter fun d => d.recipient = k := by
  rw [sentUnder, List.filter_filter]
  refine List.filter_congr fun d hd => ?_
  by_cases hdk : d.recipient = k
  · obtain ⟨i, hi⟩ := Option.isSome_iff_exists.1 (isSome_id?_of_mem_sent hcalls d hd)
    obtain rfl : i = id := hown i id (hdk ▸ (offered_run t calls).2 d hd i hi) hk
    simp [hdk, hi]
  · simp [hdk]

/-- A recipient that is not offered is sent nothing. -/
theorem filter_sent_eq_nil (hcalls : ∀ c ∈ calls, c.id?.isSome)
    (hk : ∀ id, ¬ Offered t calls id k) :
    (runFrom t calls).sent.filter (fun d => d.recipient = k) = [] := by
  refine List.filter_eq_nil_iff.2 fun d hd hdk => ?_
  obtain ⟨i, hi⟩ := Option.isSome_iff_exists.1 (isSome_id?_of_mem_sent hcalls d hd)
  exact hk i (of_decide_eq_true hdk ▸ (offered_run t calls).2 d hd i hi)

/-! ## Other orders -/

/-- Whether two orders of calls come to the same on the table: the same is pending under each id,
    the calls on each id return the same in turn, the same is sent under each id in turn, and each
    recipient is sent the same; also in the same order, if none is offered under two ids. -/
structure Agree (t : Table κ) (calls calls' : List (Call κ)) : Prop where
  get?_eq : ∀ id, (runFrom t calls).table.get? id = (runFrom t calls').table.get? id
  perm_entries : (runFrom t calls).table.entries.Perm (runFrom t calls').table.entries
  length_replies : (runFrom t calls).replies.length = calls.length ∧
    (runFrom t calls').replies.length = calls'.length
  returned_eq : ∀ id, returned t calls id = returned t calls' id
  sentUnder_eq : ∀ id, sentUnder t calls id = sentUnder t calls' id
  perm_sent : (runFrom t calls).sent.Perm (runFrom t calls').sent
  perm_outcomes : ∀ k, ((runFrom t calls).outcomes k).Perm ((runFrom t calls').outcomes k)
  outcomes_eq : (∀ k i j, Offered t calls i k → Offered t calls j k → i = j) →
    ∀ k, (runFrom t calls).outcomes k = (runFrom t calls').outcomes k

/-- Lists with the same elements under each key, in order, have the same elements. -/
theorem perm_of_filter_eq {α β : Type} [DecidableEq β] {f : α → Option β} {l l' : List α}
    (hl : ∀ a ∈ l, (f a).isSome) (hl' : ∀ a ∈ l', (f a).isSome)
    (h : ∀ b, (l.filter fun a => f a = some b) = l'.filter fun a => f a = some b) :
    l.Perm l' := by
  classical
  refine List.perm_iff_count.2 fun a => ?_
  rcases hf : f a with _ | b
  · have hnot {m : List α} (hm : ∀ a ∈ m, (f a).isSome) : a ∉ m := fun ha => by
      simpa [hf] using hm a ha
    rw [List.count_eq_zero_of_not_mem (hnot hl), List.count_eq_zero_of_not_mem (hnot hl')]
  · have hp : decide (f a = some b) = true := decide_eq_true hf
    rw [← List.count_filter (l := l) (p := fun a => decide (f a = some b)) hp, h,
      List.count_filter (p := fun a => decide (f a = some b)) hp]

theorem Reordering.agree (h : Reordering calls calls') (t : Table κ) : Agree t calls calls' := by
  have hcalls' : ∀ c ∈ calls', c.id?.isSome := fun c hc => h.isSome_id? c (h.perm.mem_iff.2 hc)
  -- Both orders come to the same as the calls on each id alone.
  have hview := runFrom_on (t := t) h.isSome_id?
  have hview' := runFrom_on (t := t) hcalls'
  have hget (id : RequestId) :
      (runFrom t calls).table.get? id = (runFrom t calls').table.get? id := by
    rw [(hview id).1, (hview' id).1, h.on_eq]
  have hsent (id : RequestId) : sentUnder t calls id = sentUnder t calls' id := by
    rw [(hview id).2.2, (hview' id).2.2, h.on_eq]
  have hperm : (runFrom t calls).sent.Perm (runFrom t calls').sent :=
    perm_of_filter_eq (isSome_id?_of_mem_sent h.isSome_id?) (isSome_id?_of_mem_sent hcalls') hsent
  refine ⟨hget, Table.perm_entries hget, ⟨length_replies h.isSome_id?, length_replies hcalls'⟩,
    fun id => ?_, hsent, hperm, fun k => (hperm.filter _).map _, fun hown k => ?_⟩
  · rw [(hview id).2.1, (hview' id).2.1, h.on_eq]
  · have hoffered (id : RequestId) : Offered t calls' id k ↔ Offered t calls id k :=
      or_congr_right h.perm.mem_iff.symm
    rw [Course.outcomes, Course.outcomes]
    congr 1
    by_cases hk : ∃ id, Offered t calls id k
    · obtain ⟨id, hk⟩ := hk
      rw [filter_sent_eq h.isSome_id? (hown k) hk, hsent,
        filter_sent_eq hcalls' (by simpa only [hoffered] using hown k) ((hoffered id).2 hk)]
    · rw [filter_sent_eq_nil h.isSome_id? (not_exists.1 hk),
        filter_sent_eq_nil hcalls' (by simpa only [hoffered] using not_exists.1 hk)]

/-- Calls that register requests, answer them or take them out come to the same in any order that
    keeps that of the calls on each id: the same is pending in the end, each call returns the same,
    and each recipient is sent the same. So it is with responses in any order whose ids all differ. -/
theorem reordering_run (t : Table κ) :
    (∀ calls calls', Reordering calls calls' → Agree t calls calls') ∧
      ∀ rs rs' : List Response, rs.Perm rs' → (rs.map Response.id).Nodup →
        Agree t (rs.map .resolve) (rs'.map .resolve) :=
  ⟨fun _ _ h => h.agree t, fun _ _ hperm hids => (Reordering.of_responses hperm hids).agree t⟩

/-- A table with one request. -/
def waiting : Table Nat := ⟨[(⟨"a"⟩, 0)], by simp⟩

/-- The request is answered, and its id is used again. -/
def answered : List (Call Nat) := [.resolve answer, .register ⟨"a"⟩ 2]

/-- Another request is registered, and removed. -/
def withdrawn : List (Call Nat) := [.register ⟨"b"⟩ 1, .remove ⟨"b"⟩]

/-- Whichever comes first, the request gets its response. -/
theorem outcomes_of_reordering :
    Reordering (answered ++ withdrawn) (withdrawn ++ answered) ∧
      (runFrom waiting (answered ++ withdrawn)).outcomes 0 = [.ok answer] ∧
      (runFrom waiting (withdrawn ++ answered)).outcomes 0 = [.ok answer] := by
  have hreordering : Reordering (answered ++ withdrawn) (withdrawn ++ answered) := by
    refine ⟨List.perm_append_comm, by decide, fun id => ?_⟩
    by_cases ha : id = ⟨"a"⟩
    · subst ha
      rfl
    · have hnone : on id answered = [] := by simp [on, answered, Call.id?, answer, Ne.symm ha]
      rw [on, on, List.filter_append, List.filter_append, ← on, ← on, hnone, List.append_nil]
      rfl
  have hown : ∀ k i j, Offered waiting (answered ++ withdrawn) i k →
      Offered waiting (answered ++ withdrawn) j k → i = j := by
    intro k i j hi hj
    grind [Offered, waiting, answered, withdrawn]
  have hfirst : (runFrom waiting (answered ++ withdrawn)).outcomes 0 = [.ok answer] := rfl
  exact ⟨hreordering, hfirst,
    (((reordering_run waiting).1 _ _ hreordering).outcomes_eq hown 0).symm.trans hfirst⟩

end Tether.Pending
