import Mathlib.Algebra.BigOperators.Group.List.Basic
import Mathlib.Algebra.GroupWithZero.Nat
import Mathlib.Data.List.Induction
import Tether.Proofs.Pending.Table

/-!
# What a table has come to

A table is nothing but what the calls on it have left. A request is pending from the call that
registers it up to the first call that ends it, which is a response with its id, its removal or
the failure of all; and the call that ends it tells what is sent to the recipient of its
outcome. Ids may come back once they are free, so this is said of registrations, which differ
in their recipients.

* `Call`, `Course`: the calls, and a table with all that has come of them;
* `Course.entries_call`, `Course.sent_call`: all that a call does, which is the same for every
  call: the entries that it ends go, and are sent an outcome if it has one;
* `Course.held_foldl`, `Course.outcomes_foldl`: what becomes of a registration;
* `history_run`: the table, the outcomes and the counts, by the history of calls.
-/

namespace Tether.Pending

variable {κ : Type}

/-! ## Calls -/

/-- A call on a table, or what a recipient does meanwhile. -/
inductive Call (κ : Type)
  | register (id : RequestId) (recipient : κ)
  | resolve (r : Response)
  | remove (id : RequestId)
  | failAll
  /-- A recipient does not wait for its outcome any more. -/
  | abandon (recipient : κ)

/-- What a call returns. -/
inductive Reply (κ : Type)
  | registered (result : Except Failure Unit)
  | resolved (found : Bool)
  | removed (recipient : Option κ)
  | failed (count : Nat)

namespace Call

/-- Whether a call ends a registration of the id. -/
def ends (id : RequestId) : Call κ → Bool
  | resolve r => id = r.id
  | remove i => id = i
  | failAll => true
  | _ => false

/-- What a call sends to the recipients of those that it ends. -/
def outcome? : Call κ → Option (Except Failure Response)
  | resolve r => some (.ok r)
  | failAll => some (.error .disconnected)
  | _ => none

/-- The recipient that a call registers. -/
def recipient? : Call κ → Option κ
  | register _ recipient => some recipient
  | _ => none

/-- Whether a recipient gives up. -/
def isAbandon : Call κ → Bool
  | abandon _ => true
  | _ => false

end Call

namespace Reply

/-- Whether a request has become pending. -/
def isRegistered : Reply κ → Bool
  | registered (.ok _) => true
  | _ => false

/-- Whether a response has found its request. -/
def isResolved : Reply κ → Bool
  | resolved found => found
  | _ => false

/-- Whether a request has been removed. -/
def isRemoved : Reply κ → Bool
  | removed recipient => recipient.isSome
  | _ => false

/-- How many requests have failed. -/
def failures : Reply κ → Nat
  | failed count => count
  | _ => 0

end Reply

/-- The recipients of the registrations, in order. -/
def recipients (calls : List (Call κ)) : List κ := calls.filterMap Call.recipient?

theorem recipients_append (calls more : List (Call κ)) :
    recipients (calls ++ more) = recipients calls ++ recipients more := List.filterMap_append

theorem not_mem_recipients_cons {c : Call κ} {calls : List (Call κ)} {k : κ} :
    k ∉ recipients (c :: calls) ↔ c.recipient? ≠ some k ∧ k ∉ recipients calls := by
  simp [recipients, List.mem_filterMap]

/-- Neither before its registration nor after it is a recipient registered. -/
theorem not_mem_recipients {before after : List (Call κ)} {id : RequestId} {k : κ}
    (hown : (recipients (before ++ .register id k :: after)).Nodup) :
    k ∉ recipients before ∧ k ∉ recipients after := by
  rw [recipients_append, List.nodup_append'] at hown
  obtain ⟨-, hafter, hdisjoint⟩ := hown
  exact ⟨fun h => hdisjoint h List.mem_cons_self, (List.nodup_cons.1 hafter).1⟩

/-- The outcome of a registration, by the calls after it: that of the first one that ends it. -/
def outcome? (id : RequestId) (calls : List (Call κ)) : Option (Except Failure Response) :=
  (calls.find? fun c => c.ends id).bind Call.outcome?

/-- A table, and what has come of the calls so far. -/
structure Course (κ : Type) where
  table : Table κ
  /-- What the calls have returned, in order. -/
  replies : List (Reply κ)
  /-- What has been sent, in order. -/
  sent : List (Delivery κ)
  /-- The recipients that do not wait any more. -/
  gone : List κ
  /-- What has been sent while its recipient was waiting. -/
  received : List (Delivery κ)

namespace Course

/-- The empty table, before any call. -/
def start : Course κ := ⟨.empty, [], [], [], []⟩

/-- The registrations that a call ends, of those that are pending. -/
def ending (x : Course κ) (c : Call κ) : List (RequestId × κ) :=
  x.table.entries.filter fun e => c.ends e.1

/-- The registration that becomes pending with a call. -/
def entering (x : Course κ) : Call κ → List (RequestId × κ)
  | .register id recipient => if x.table.contains id then [] else [(id, recipient)]
  | _ => []

theorem ending_resolve (x : Course κ) (r : Response) :
    x.ending (.resolve r) = ((x.table.get? r.id).map fun k => (r.id, k)).toList :=
  Table.filter_entries_eq_toList

theorem ending_remove (x : Course κ) (id : RequestId) :
    x.ending (.remove id) = ((x.table.get? id).map fun k => (id, k)).toList :=
  Table.filter_entries_eq_toList

variable [DecidableEq κ]

/-- Outcomes are sent, and lost if the recipient does not wait any more. -/
def send (x : Course κ) (ds : List (Delivery κ)) : Course κ :=
  { x with
    sent := x.sent ++ ds
    received := x.received ++ ds.filter fun d => d.recipient ∉ x.gone }

/-- Takes a call. -/
def call (x : Course κ) : Call κ → Course κ
  | .register id recipient =>
    match x.table.register id recipient with
    | .ok table => { x with table, replies := x.replies ++ [.registered (.ok ())] }
    | .error e => { x with replies := x.replies ++ [.registered (.error e)] }
  | .resolve r =>
    let (table, delivery) := x.table.resolve r
    { x.send delivery.toList with table, replies := x.replies ++ [.resolved delivery.isSome] }
  | .remove id =>
    let (table, recipient) := x.table.take id
    { x with table, replies := x.replies ++ [.removed recipient] }
  | .failAll =>
    let (table, deliveries) := x.table.failAll
    { x.send deliveries with table, replies := x.replies ++ [.failed deliveries.length] }
  | .abandon recipient => { x with gone := x.gone ++ [recipient] }

/-- The registrations of a recipient that are pending. -/
def held (x : Course κ) (k : κ) : List (RequestId × κ) := x.table.entries.filter fun e => e.2 = k

/-- The outcomes that have been sent to a recipient, in order. -/
def outcomes (x : Course κ) (k : κ) : List (Except Failure Response) :=
  (x.sent.filter fun d => d.recipient = k).map Delivery.outcome

end Course

variable [DecidableEq κ]

/-- The course of calls, from the empty table on. -/
def run (calls : List (Call κ)) : Course κ := calls.foldl Course.call .start

theorem run_append_singleton (calls : List (Call κ)) (c : Call κ) :
    run (calls ++ [c]) = (run calls).call c := List.foldl_append

theorem run_append (calls more : List (Call κ)) :
    run (calls ++ more) = more.foldl Course.call (run calls) := List.foldl_append

/-! ## What a call does -/

namespace Course

variable (x : Course κ) (c : Call κ)

/-- The entries that a call ends go, and what it registers comes last. -/
theorem entries_call :
    (x.call c).table.entries =
      (x.table.entries.filter fun e => !c.ends e.1) ++ x.entering c := by
  rcases c with ⟨id, k⟩ | r | id | _ | k
  · rcases h : x.table.register id k with e | t
    · simp [call, h, entering, Call.ends, Table.contains_of_register_error h]
    · obtain ⟨hcontains, hentries⟩ := Table.entries_of_register h
      simp [call, h, entering, Call.ends, hcontains, hentries]
  · simp [call, Table.resolve, Table.erase, entering, Call.ends]
  · simp [call, Table.take, Table.erase, entering, Call.ends]
  · simp [call, Table.failAll, Table.empty, entering, Call.ends]
  · simp [call, entering, Call.ends]

/-- What a call sends goes to those that it ends. -/
theorem sent_call :
    (x.call c).sent =
      x.sent ++ (x.ending c).filterMap fun e => c.outcome?.map fun o => ⟨e.2, o⟩ := by
  rcases c with ⟨id, k⟩ | r | id | _ | k
  · rcases h : x.table.register id k with e | t <;> simp [call, h, Call.outcome?]
  · rw [ending_resolve]
    rcases h : x.table.get? r.id with _ | k <;> simp [call, Table.resolve, h, send, Call.outcome?]
  · simp [call, Call.outcome?]
  · simp [call, Table.failAll, send, ending, Call.ends, Call.outcome?]
  · simp [call, Call.outcome?]

/-- What a call returns counts what it registers and what it ends. -/
theorem replies_call :
    (x.call c).replies = x.replies ∧ x.entering c = [] ∧ x.ending c = [] ∨
    ∃ reply, (x.call c).replies = x.replies ++ [reply] ∧
      (x.entering c).length = reply.isRegistered.toNat ∧
      (x.ending c).length =
        reply.isResolved.toNat + reply.isRemoved.toNat + reply.failures := by
  rcases c with ⟨id, k⟩ | r | id | _ | k
  · rcases h : x.table.register id k with e | t
    · refine .inr ⟨.registered (.error e), by simp [call, h], ?_, ?_⟩
      · simp [entering, Table.contains_of_register_error h, Reply.isRegistered]
      · simp [ending, Call.ends, Reply.isResolved, Reply.isRemoved, Reply.failures]
    · refine .inr ⟨.registered (.ok ()), by simp [call, h], ?_, ?_⟩
      · simp [entering, (Table.entries_of_register h).1, Reply.isRegistered]
      · simp [ending, Call.ends, Reply.isResolved, Reply.isRemoved, Reply.failures]
  · refine .inr ⟨.resolved (x.table.get? r.id).isSome, ?_, ?_, ?_⟩
    · simp [call, Table.resolve, send]
    · simp [entering, Reply.isRegistered]
    · rw [ending_resolve]
      rcases x.table.get? r.id with _ | k <;>
        simp [Reply.isResolved, Reply.isRemoved, Reply.failures]
  · refine .inr ⟨.removed (x.table.get? id), ?_, ?_, ?_⟩
    · simp [call, Table.take]
    · simp [entering, Reply.isRegistered]
    · rw [ending_remove]
      rcases x.table.get? id with _ | k <;>
        simp [Reply.isResolved, Reply.isRemoved, Reply.failures]
  · refine .inr ⟨.failed x.table.entries.length, ?_, ?_, ?_⟩
    · simp [call, Table.failAll, send]
    · simp [entering, Reply.isRegistered]
    · simp [ending, Call.ends, Reply.isResolved, Reply.isRemoved, Reply.failures]
  · exact .inl ⟨by simp [call], by simp [entering], by simp [ending, Call.ends]⟩

/-- A request whose id is pending is refused, and nothing else comes of it. -/
theorem call_register_of_contains {id : RequestId} (h : x.table.contains id = true) (k : κ) :
    x.call (.register id k) =
      { x with replies :=
          x.replies ++ [.registered (.error (.protocol s!"duplicate request id: {id.text}"))] } := by
  simp only [call, Table.register_eq_error_iff.2 ⟨h, rfl⟩]

/-- Who waits makes no difference to a call. -/
theorem call_congr {x y : Course κ}
    (h : x.table = y.table ∧ x.replies = y.replies ∧ x.sent = y.sent) (c : Call κ) :
    (x.call c).table = (y.call c).table ∧ (x.call c).replies = (y.call c).replies ∧
      (x.call c).sent = (y.call c).sent := by
  obtain ⟨htable, hreplies, hsent⟩ := h
  rcases c with ⟨id, k⟩ | r | id | _ | k
  · simp only [call, htable]
    split <;> exact ⟨rfl, by rw [hreplies], hsent⟩
  · simp [call, send, htable, hreplies, hsent]
  · simp [call, htable, hreplies, hsent]
  · simp [call, send, htable, hreplies, hsent]
  · exact ⟨htable, hreplies, hsent⟩

/-- What a recipient gets, unless it has given up, is what is sent to it. -/
theorem received_call :
    ∃ ds, (x.call c).sent = x.sent ++ ds ∧
      (x.call c).received = x.received ++ ds.filter (fun d => d.recipient ∉ x.gone) ∧
      x.gone ⊆ (x.call c).gone := by
  rcases c with ⟨id, k⟩ | r | id | _ | k
  · refine ⟨[], ?_⟩
    rcases h : x.table.register id k with e | t <;> simp [call, h]
  · exact ⟨_, rfl, rfl, List.Subset.refl _⟩
  · exact ⟨[], by simp [call]⟩
  · exact ⟨_, rfl, rfl, List.Subset.refl _⟩
  · exact ⟨[], by simp [call]⟩

end Course

/-! ## What becomes of a registration -/

namespace Course

variable {x : Course κ} {c : Call κ} {calls : List (Call κ)} {id : RequestId} {k : κ}

theorem held_call (hk : c.recipient? ≠ some k) :
    (x.call c).held k = (x.held k).filter fun e => !c.ends e.1 := by
  have hentering : (x.entering c).filter (fun e => e.2 = k) = [] := by
    rcases c with ⟨id, j⟩ | _ | _ | _ | _
    case register =>
      have hne : j ≠ k := fun h => hk (congrArg some h)
      rw [entering]
      split <;> simp [hne]
    all_goals rfl
  rw [held, entries_call, List.filter_append, hentering, List.append_nil, held,
    List.filter_comm]

/-- With the call that ends its registration, a recipient is sent the outcome. -/
theorem outcomes_call :
    (x.call c).outcomes k =
      x.outcomes k ++ ((x.held k).filter fun e => c.ends e.1).filterMap fun _ => c.outcome? := by
  rw [outcomes, sent_call, List.filter_append, List.map_append, ← outcomes, held, List.filter_comm,
    ending]
  rcases c.outcome? with _ | o
  · simp
  · simp only [Option.map_some, List.filterMap_eq_map', List.filter_map, List.map_map]
    rfl

/-- A recipient whose registration is over, or has been refused, is sent nothing more. -/
theorem foldl_of_held_eq_nil (hk : k ∉ recipients calls) (h : x.held k = []) :
    (calls.foldl call x).held k = [] ∧ (calls.foldl call x).outcomes k = x.outcomes k := by
  induction calls generalizing x with
  | nil => exact ⟨h, rfl⟩
  | cons c calls ih =>
    obtain ⟨hc, hcalls⟩ := not_mem_recipients_cons.1 hk
    have hheld : (x.call c).held k = [] := by rw [held_call hc, h, List.filter_nil]
    have houtcomes : (x.call c).outcomes k = x.outcomes k := by
      rw [outcomes_call, h, List.filter_nil, List.filterMap_nil, List.append_nil]
    obtain ⟨ihheld, ihoutcomes⟩ := ih hcalls hheld
    exact ⟨ihheld, ihoutcomes.trans houtcomes⟩

/-- A registration is pending up to the first call that ends it, and its recipient is sent the
    outcome of that call. -/
theorem foldl_of_held (hk : k ∉ recipients calls) (h : x.held k = [(id, k)]) :
    (calls.foldl call x).held k = (if calls.any fun c => c.ends id then [] else [(id, k)]) ∧
      (calls.foldl call x).outcomes k = x.outcomes k ++ (outcome? id calls).toList := by
  induction calls generalizing x with
  | nil => exact ⟨h, (List.append_nil _).symm⟩
  | cons c calls ih =>
    obtain ⟨hc, hcalls⟩ := not_mem_recipients_cons.1 hk
    rw [List.foldl_cons, List.any_cons, outcome?, List.find?_cons]
    rcases hends : c.ends id with _ | _
    · have hheld : (x.call c).held k = [(id, k)] := by rw [held_call hc, h]; simp [hends]
      have houtcomes : (x.call c).outcomes k = x.outcomes k := by
        rw [outcomes_call, h]
        simp [hends]
      rw [← houtcomes]
      exact ih hcalls hheld
    · have hheld : (x.call c).held k = [] := by rw [held_call hc, h]; simp [hends]
      have houtcomes : (x.call c).outcomes k = x.outcomes k ++ c.outcome?.toList := by
        rw [outcomes_call, h]
        rcases c.outcome? with _ | o <;> simp [hends]
      obtain ⟨ihheld, ihoutcomes⟩ := foldl_of_held_eq_nil hcalls hheld
      exact ⟨ihheld, ihoutcomes.trans houtcomes⟩

end Course

/-! ## Runs -/

variable {calls : List (Call κ)} {id : RequestId} {k : κ}

/-- Whether registering the id succeeds after the calls. -/
def Accepts (calls : List (Call κ)) (id : RequestId) (k : κ) : Prop :=
  ∃ t, (run calls).table.register id k = .ok t

/-- Whether the last successful registration of the id is that of `k`, with `after` the calls
    since then. -/
def LastRegistered (calls : List (Call κ)) (id : RequestId) (k : κ) (after : List (Call κ)) :
    Prop :=
  ∃ before, calls = before ++ .register id k :: after ∧ Accepts before id k ∧
    ∀ amid j rest, after = amid ++ .register id j :: rest →
      ¬ Accepts (before ++ .register id k :: amid) id j

theorem accepts_iff : Accepts calls id k ↔ (run calls).table.contains id = false := by
  rw [Accepts]
  rcases h : (run calls).table.register id k with e | t
  · simp [Table.contains_of_register_error h]
  · simp [(Table.entries_of_register h).1]

/-- A recipient that has not been registered is sent nothing. -/
theorem run_of_not_mem (hk : k ∉ recipients calls) :
    (run calls).held k = [] ∧ (run calls).outcomes k = [] :=
  Course.foldl_of_held_eq_nil (x := .start) hk rfl

theorem run_append_cons (before : List (Call κ)) (c : Call κ) (after : List (Call κ)) :
    run (before ++ c :: after) = after.foldl Course.call ((run before).call c) := by
  rw [run_append, List.foldl_cons]

/-- What becomes of a registration that has succeeded. -/
theorem run_of_accepts {before after : List (Call κ)}
    (hown : (recipients (before ++ .register id k :: after)).Nodup) (h : Accepts before id k) :
    (run (before ++ .register id k :: after)).held k =
        (if after.any fun c => c.ends id then [] else [(id, k)]) ∧
      (run (before ++ .register id k :: after)).outcomes k = (outcome? id after).toList := by
  obtain ⟨hbefore, hafter⟩ := not_mem_recipients hown
  obtain ⟨hheld, houtcomes⟩ := run_of_not_mem hbefore
  have hcontains := accepts_iff.1 h
  have hheld' : ((run before).call (.register id k)).held k = [(id, k)] := by
    rw [Course.held] at hheld ⊢
    rw [Course.entries_call, List.filter_append, List.filter_comm, hheld, Course.entering,
      hcontains]
    simp
  have houtcomes' : ((run before).call (.register id k)).outcomes k = [] := by
    rw [Course.outcomes_call, hheld, houtcomes]
    rfl
  rw [run_append_cons]
  obtain ⟨hend, hsent⟩ := Course.foldl_of_held hafter hheld'
  exact ⟨hend, by rw [hsent, houtcomes', List.nil_append]⟩

/-- The recipient of a registration that has been refused is sent nothing. -/
theorem run_of_not_accepts {before after : List (Call κ)}
    (hown : (recipients (before ++ .register id k :: after)).Nodup) (h : ¬ Accepts before id k) :
    (run (before ++ .register id k :: after)).outcomes k = [] := by
  obtain ⟨hbefore, hafter⟩ := not_mem_recipients hown
  obtain ⟨hheld, houtcomes⟩ := run_of_not_mem hbefore
  have hcontains : (run before).table.contains id = true := by simpa [accepts_iff] using h
  have hcall := (run before).call_register_of_contains hcontains k
  have hheld' : ((run before).call (.register id k)).held k = [] := by
    rw [hcall]
    exact hheld
  rw [run_append_cons, (Course.foldl_of_held_eq_nil hafter hheld').2, hcall]
  exact houtcomes

/-- A pending request has been registered. -/
theorem exists_of_mem_entries (h : (id, k) ∈ (run calls).table.entries) :
    ∃ before after, calls = before ++ .register id k :: after ∧ Accepts before id k := by
  induction calls using List.reverseRecOn with
  | nil => cases h
  | append_singleton calls c ih =>
    rw [run_append_singleton, Course.entries_call, List.mem_append] at h
    rcases h with h | h
    · obtain ⟨before, after, rfl, hsucceeds⟩ := ih (List.mem_filter.1 h).1
      exact ⟨before, after ++ [c], by simp, hsucceeds⟩
    · rcases c with ⟨i, j⟩ | _ | _ | _ | _
      case register =>
        rw [Course.entering] at h
        split at h
        · cases h
        · rename_i hcontains
          obtain ⟨rfl, rfl⟩ := Prod.mk.inj (List.mem_singleton.1 h)
          exact ⟨calls, [], rfl, accepts_iff.2 (by simpa using hcontains)⟩
      all_goals cases h

/-- What is pending under an id is its last successful registration, if no call since then has
    ended it. -/
theorem get?_run_iff (hown : (recipients calls).Nodup) :
    (run calls).table.get? id = some k ↔
      ∃ after, LastRegistered calls id k after ∧ ∀ c ∈ after, c.ends id = false := by
  rw [Table.get?_eq_some_iff]
  constructor
  · intro hmem
    obtain ⟨before, after, rfl, hsucceeds⟩ := exists_of_mem_entries hmem
    have hends : after.any (fun c => c.ends id) = false := by
      have hheld := (run_of_accepts hown hsucceeds).1
      have hmem' : (id, k) ∈ (run (before ++ .register id k :: after)).held k :=
        List.mem_filter.2 ⟨hmem, by simp⟩
      rw [hheld] at hmem'
      split at hmem'
      · cases hmem'
      · rename_i hany
        simpa using hany
    refine ⟨after, ⟨before, rfl, hsucceeds, ?_⟩, by simpa using hends⟩
    -- Up to any later registration of the id, it has stayed pending.
    rintro amid j rest rfl haccepts
    have hown' : (recipients (before ++ .register id k :: amid)).Nodup := by
      rw [← List.cons_append, ← List.append_assoc, recipients_append] at hown
      exact (List.nodup_append'.1 hown).1
    have hamid : amid.any (fun c => c.ends id) = false := by
      rw [List.any_append, Bool.or_eq_false_iff] at hends
      exact hends.1
    have hheld := (run_of_accepts hown' hsucceeds).1
    rw [hamid, if_neg Bool.false_ne_true] at hheld
    have hmem' : (id, k) ∈ (run (before ++ .register id k :: amid)).table.entries :=
      (List.mem_filter.1 (hheld ▸ List.mem_singleton_self (id, k))).1
    have hcontains := Table.contains_eq_true_iff.2 (List.mem_map_of_mem hmem')
    rw [accepts_iff.1 haccepts] at hcontains
    cases hcontains
  · rintro ⟨after, ⟨before, rfl, hsucceeds, -⟩, hends⟩
    have hheld := (run_of_accepts hown hsucceeds).1
    rw [if_neg (by simpa using hends)] at hheld
    exact (List.mem_filter.1 (hheld ▸ List.mem_singleton_self (id, k))).1

/-- Each registration that has succeeded is still pending, or has been ended by one of the calls
    that say so. -/
theorem countP_isRegistered_run (calls : List (Call κ)) :
    (run calls).replies.countP Reply.isRegistered =
      (run calls).replies.countP Reply.isResolved + (run calls).replies.countP Reply.isRemoved +
        ((run calls).replies.map Reply.failures).sum + (run calls).table.size := by
  induction calls using List.reverseRecOn with
  | nil => rfl
  | append_singleton calls c ih =>
    have hsize : ((run calls).call c).table.size + ((run calls).ending c).length =
        (run calls).table.size + ((run calls).entering c).length := by
      have hsplit := List.length_eq_length_filter_add (l := (run calls).table.entries)
        fun e => c.ends e.1
      rw [Table.size, Table.size, Course.entries_call, List.length_append, Course.ending]
      omega
    rw [run_append_singleton]
    rcases (run calls).replies_call c with ⟨hreplies, hentering, hending⟩ |
      ⟨reply, hreplies, hentering, hending⟩
    · rw [hentering, hending] at hsize
      rw [hreplies, ih]
      simpa using hsize.symm
    · have hone (p : Reply κ → Bool) : [reply].countP p = (p reply).toNat := by
        rcases h : p reply with _ | _ <;> simp [h]
      rw [hreplies, List.countP_append, List.countP_append, List.countP_append, List.map_append,
        List.sum_append, List.map_singleton, List.sum_singleton, hone, hone, hone]
      omega

/-- The table, the answers and what is sent depend on the calls alone, not on who waits. -/
theorem run_filter_isAbandon (calls : List (Call κ)) :
    let x := run calls
    let y := run (calls.filter fun c => !c.isAbandon)
    y.table = x.table ∧ y.replies = x.replies ∧ y.sent = x.sent := by
  induction calls using List.reverseRecOn with
  | nil => exact ⟨rfl, rfl, rfl⟩
  | append_singleton calls c ih =>
    rw [List.filter_append, run_append_singleton]
    rcases hc : c.isAbandon with _ | _
    · rw [List.filter_singleton, hc, Bool.not_false, cond_true, run_append_singleton]
      exact Course.call_congr ih c
    · rw [List.filter_singleton, hc, Bool.not_true, cond_false, List.append_nil]
      rcases c with _ | _ | _ | _ | k
      case abandon => exact ih
      all_goals cases hc

/-- Whoever waits gets all that is sent to it. -/
theorem received_run (calls : List (Call κ)) :
    (run calls).received.Sublist (run calls).sent ∧
      ∀ k ∉ (run calls).gone,
        (run calls).received.filter (fun d => d.recipient = k) =
          (run calls).sent.filter fun d => d.recipient = k := by
  induction calls using List.reverseRecOn with
  | nil => exact ⟨.refl _, fun _ _ => rfl⟩
  | append_singleton calls c ih =>
    obtain ⟨ds, hsent, hreceived, hgone⟩ := (run calls).received_call c
    rw [run_append_singleton, hsent, hreceived]
    refine ⟨ih.1.append List.filter_sublist, fun k hk => ?_⟩
    rw [List.filter_append, List.filter_append, ih.2 k fun h => hk (hgone h), List.filter_filter]
    congr 1
    refine List.filter_congr fun d _ => ?_
    by_cases hd : d.recipient = k
    · have hwaits : k ∉ (run calls).gone := fun h => hk (hgone h)
      simp [hd, hwaits]
    · simp [hd]

/-- The table and what is sent are those of the history. After any calls, each of whose
    registrations has a recipient of its own, an id is pending exactly if no call since its last
    successful registration has ended it, and it is then held with the recipient of that one; to
    register a pending id is refused and does nothing else. A recipient is sent one outcome at
    most: that of the first call that has ended its registration, and nothing if it was refused.
    The registrations that have succeeded are as many as those that have been answered, removed
    or failed and those that are pending. Whoever gives up makes no difference to all this, nor to
    what the others get. -/
theorem history_run {calls : List (Call κ)} (hown : (recipients calls).Nodup) :
    let x := run calls
    (∀ id k, x.table.get? id = some k ↔
      ∃ after, LastRegistered calls id k after ∧ ∀ c ∈ after, c.ends id = false) ∧
    (∀ id, x.table.contains id = true ↔
      ∃ k after, LastRegistered calls id k after ∧ ∀ c ∈ after, c.ends id = false) ∧
    (∀ id k, x.table.contains id = true → x.call (.register id k) =
      { x with replies :=
          x.replies ++ [.registered (.error (.protocol s!"duplicate request id: {id.text}"))] }) ∧
    (∀ before id k after, calls = before ++ .register id k :: after →
      (Accepts before id k → x.outcomes k = (outcome? id after).toList) ∧
      (¬ Accepts before id k → x.outcomes k = [])) ∧
    (∀ k, (x.outcomes k).length ≤ 1 ∧ (k ∉ recipients calls → x.outcomes k = [])) ∧
    x.replies.countP Reply.isRegistered =
      x.replies.countP Reply.isResolved + x.replies.countP Reply.isRemoved +
        (x.replies.map Reply.failures).sum + x.table.size ∧
    (let y := run (calls.filter fun c => !c.isAbandon)
     y.table = x.table ∧ y.replies = x.replies ∧ y.sent = x.sent) ∧
    x.received.Sublist x.sent ∧
    ∀ k ∉ x.gone, x.received.filter (fun d => d.recipient = k) =
      x.sent.filter fun d => d.recipient = k := by
  intro x
  have hheld (id : RequestId) (k : κ) : x.table.get? id = some k ↔
      ∃ after, LastRegistered calls id k after ∧ ∀ c ∈ after, c.ends id = false :=
    get?_run_iff hown
  refine ⟨hheld, fun id => ?_, fun id k h => x.call_register_of_contains h k, ?_, fun k => ?_,
    countP_isRegistered_run calls, run_filter_isAbandon calls, received_run calls⟩
  · rw [Table.contains_eq_isSome, Option.isSome_iff_exists]
    exact exists_congr (hheld id)
  · rintro before id k after rfl
    exact ⟨fun h => (run_of_accepts hown h).2, run_of_not_accepts hown⟩
  · refine ⟨?_, fun hk => (run_of_not_mem hk).2⟩
    by_cases hk : k ∈ recipients calls
    · obtain ⟨c, hc, hck⟩ := List.mem_filterMap.1 hk
      obtain ⟨id, rfl⟩ : ∃ id, c = .register id k := by
        rcases c with ⟨i, j⟩ | _ | _ | _ | _
        case register => exact ⟨i, by rw [Option.some.inj hck]⟩
        all_goals cases hck
      obtain ⟨before, after, rfl⟩ := List.append_of_mem hc
      by_cases h : Accepts before id k
      · rw [(run_of_accepts hown h).2]
        exact Option.length_toList_le
      · rw [run_of_not_accepts hown h]
        exact Nat.zero_le _
    · rw [(run_of_not_mem hk).2]
      exact Nat.zero_le _

/-- A response without a payload. -/
def answer : Response := ⟨⟨"a"⟩, true, none, none⟩

/-- Calls in which one id is registered four times, once while it is pending. The first recipient
    gives up before its response comes, the third one is removed, and the last one fails. -/
def reuse : List (Call Nat) :=
  [.register ⟨"a"⟩ 0, .abandon 0, .register ⟨"a"⟩ 1, .resolve answer, .register ⟨"a"⟩ 2,
    .remove ⟨"a"⟩, .register ⟨"a"⟩ 3, .failAll, .resolve answer]

/-- Each registration has an outcome of its own, or none. -/
theorem outcomes_of_reuse :
    (recipients reuse).Nodup ∧ (run reuse).outcomes 0 = [.ok answer] ∧
      (run reuse).outcomes 1 = [] ∧ (run reuse).outcomes 2 = [] ∧
      (run reuse).outcomes 3 = [.error .disconnected] := by
  have hown : (recipients reuse).Nodup := by decide
  have houtcomes := (history_run hown).2.2.2.1
  have hrefused : ¬ Accepts [.register ⟨"a"⟩ 0, .abandon 0] ⟨"a"⟩ 1 := by
    rw [accepts_iff]
    decide
  exact ⟨hown, (houtcomes [] _ 0 _ rfl).1 ⟨_, rfl⟩,
    (houtcomes [.register ⟨"a"⟩ 0, .abandon 0] _ 1 _ rfl).2 hrefused,
    (houtcomes (reuse.take 4) _ 2 _ rfl).1 ⟨_, rfl⟩,
    (houtcomes (reuse.take 6) _ 3 _ rfl).1 ⟨_, rfl⟩⟩

end Tether.Pending
