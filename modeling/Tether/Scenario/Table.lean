import Tether.Pending

/-!
# A table with receivers

A scenario for the table of pending requests. Each registration keeps its receiving
half in a slot with a name; a slot that is used again gives up the half it had.
The receiving half of a registration that was refused, or of a request that was
removed, gets no outcome any more.
-/

namespace Tether.Scenario.Table

open Pending

/-- A registration, counted from zero. -/
abbrev Ticket := Nat

/-- A step of a scenario. -/
inductive Step
  | register (id : RequestId) (slot : String)
  | resolve (text : String)
  | remove (id : RequestId)
  | contains (id : RequestId)
  | failAll
  | drop (slot : String)
  | poll (slot : String)
  deriving DecidableEq, Repr

/-- What a receiving half tells. -/
inductive Poll
  | waiting
  | ready (outcome : Except Failure Response)
  /-- There is no outcome, or it has been told. -/
  | closed

/-- What a step answers. -/
inductive Reply
  | registered (result : Except Failure Unit)
  | notResponse
  | flag (b : Bool)
  | count (n : Nat)
  | poll (p : Poll)
  | noSlot

/-- A table, with the receiving halves of its registrations. -/
structure State where
  table : Pending.Table Ticket
  /-- The number of registrations. -/
  issued : Nat
  slots : List (String × Ticket)
  /-- The outcomes that have been delivered and not told. -/
  outcomes : List (Delivery Ticket)

namespace State

/-- The empty table. -/
def start : State := ⟨.empty, 0, [], []⟩

/-- The slots without the one of this name. -/
def slotsWithout (s : State) (slot : String) : List (String × Ticket) :=
  s.slots.filter fun e => e.1 ≠ slot

/-- What the receiving half of a ticket tells. -/
def peek (s : State) (ticket : Ticket) : Poll :=
  match s.outcomes.find? fun d => d.recipient = ticket with
  | some d => .ready d.outcome
  | none =>
    if s.table.entries.any fun e => e.2 = ticket then .waiting else .closed

/-- Asks the receiving half of a ticket; an outcome is told once. -/
def poll (s : State) (ticket : Ticket) : State × Poll :=
  ({ s with outcomes := s.outcomes.filter fun d => d.recipient ≠ ticket }, s.peek ticket)

/-- Takes a step. -/
def step (s : State) : Step → State × Reply
  | .register id slot =>
    let s' := { s with
      issued := s.issued + 1
      slots := s.slotsWithout slot ++ [(slot, s.issued)] }
    match s.table.register id s.issued with
    | .ok table => ({ s' with table }, .registered (.ok ()))
    | .error e => (s', .registered (.error e))
  | .resolve text =>
    match Frame.decode text with
    | .ok (.response r) =>
      let (table, delivery) := s.table.resolve r
      ({ s with table, outcomes := s.outcomes ++ delivery.toList }, .flag delivery.isSome)
    | _ => (s, .notResponse)
  | .remove id =>
    let (table, taken) := s.table.take id
    ({ s with table }, .flag taken.isSome)
  | .contains id => (s, .flag (s.table.contains id))
  | .failAll =>
    let (table, deliveries) := s.table.failAll
    ({ s with table, outcomes := s.outcomes ++ deliveries }, .count deliveries.length)
  | .drop slot =>
    match s.slots.lookup slot with
    | none => (s, .flag false)
    | some _ => ({ s with slots := s.slotsWithout slot }, .flag true)
  | .poll slot =>
    match s.slots.lookup slot with
    | none => (s, .noSlot)
    | some ticket =>
      let (s, p) := s.poll ticket
      (s, .poll p)

/-- What a step tells the log. -/
def stepLog (s : State) : Step → List Log.Entry
  | .resolve text =>
    match Frame.decode text with
    | .ok (.response r) => s.table.resolveLog r
    | _ => []
  | .failAll => s.table.failAllLog
  | _ => []

end State

/-- What is seen of a step. -/
structure Report where
  reply : Reply
  size : Nat
  isEmpty : Bool
  log : List Log.Entry

/-- What is seen of the steps from a state on, and what the slots tell at the end. -/
def reports (s : State) : List Step → List Report × List (String × Poll)
  | [] => ([], s.slots.map fun e => (e.1, s.peek e.2))
  | step :: steps =>
    let (s', reply) := s.step step
    let (rest, slots) := reports s' steps
    (⟨reply, s'.table.size, s'.table.isEmpty, s.stepLog step⟩ :: rest, slots)

/-- What is seen of a scenario. -/
def play (steps : List Step) : List Report × List (String × Poll) := reports .start steps

end Tether.Scenario.Table
