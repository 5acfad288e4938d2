import Tether.Backoff.Scheduler

/-!
# A scheduler on a clock

A scenario for the retry timer: a scheduler, and a clock that only moves in steps
of its own. A retry notes its label when it runs, and may schedule itself again.

A timer fires at the first whole millisecond of the clock that is not before its
start plus its wait. One that is started by the firing of another counts from the
new time of the clock.
-/

namespace Tether.Scenario.Timer

open Backoff

/-- A retry that notes its label and schedules itself so many times again. -/
structure Retry where
  label : String
  again : Nat
  deriving DecidableEq, Repr

/-- A step of a scenario. -/
inductive Step
  | schedule (r : Retry)
  | force (r : Retry)
  | cancel
  | reset
  | tick (ms : Nat)
  | describe
  deriving DecidableEq, Repr

/-- What a step answers. -/
inductive Reply
  | nothing
  | started (b : Bool)
  | text (s : String)
  deriving DecidableEq, Repr

/-- A scheduler on a clock, with what has happened since the step began. -/
structure State where
  scheduler : Scheduler Retry
  /-- The time of the clock, in milliseconds. -/
  now : Nat
  /-- When the running timer fires. -/
  due : Nat
  fired : List String
  log : List Log.Entry

namespace State

/-- A scheduler at time zero. -/
def start (c : Config) : State := ⟨.start c, 0, 0, [], []⟩

/-- Schedules a retry, and tells whether its timer started. -/
def schedule (r : Retry) (s : State) : State × Bool :=
  let (scheduler, started) := s.scheduler.schedule r
  ({ s with
      scheduler
      due := if started then s.now + s.scheduler.current.ceilMillis else s.due
      log := s.log ++ s.scheduler.scheduleLog }, started)

/-- Runs a retry. -/
def run (r : Retry) (s : State) : State :=
  let s := { s with fired := s.fired ++ [r.label] }
  match r.again with
  | 0 => s
  | again + 1 =>
    let (s, started) := s.schedule ⟨r.label, again⟩
    if started then s else { s with fired := s.fired ++ [s!"{r.label} refused"] }

/-- Fires the timer if it is due. -/
def fire? (s : State) : Option State :=
  match s.scheduler.timer with
  | none => none
  | some t =>
    if s.now < s.due then none
    else
      match s.scheduler.expire t.generation with
      | (scheduler, none) => some { s with scheduler }
      | (scheduler, some r) => some (run r { s with scheduler })

/-- Fires timers while they are due, at most `fuel` times. -/
def fireWith : Nat → State → State
  | 0, s => s
  | fuel + 1, s =>
    match s.fire? with
    | none => s
    | some s => fireWith fuel s

/-- Fires timers while they are due: the running one, and those that it leads to. -/
def settle (s : State) : State :=
  fireWith ((s.scheduler.timer.map fun t => t.retry.again + 1).getD 0) s

/-- Takes a step. -/
def step (s : State) : Step → State × Reply
  | .schedule r =>
    let (s, started) := s.schedule r
    (s.settle, .started started)
  | .force r =>
    let s := { s with scheduler := s.scheduler.force, log := s.log ++ s.scheduler.forceLog }
    ((s.run r).settle, .nothing)
  | .cancel =>
    ({ s with scheduler := s.scheduler.cancel, log := s.log ++ s.scheduler.cancelLog }, .nothing)
  | .reset => ({ s with scheduler := s.scheduler.reset }, .nothing)
  | .tick ms => ({ s with now := s.now + ms }.settle, .nothing)
  | .describe => (s, .text s.scheduler.describe)

end State

/-- What is seen of a step. -/
structure Report where
  reply : Reply
  /-- The labels of the retries that ran, in order. -/
  fired : List String
  /-- The delay that the next timer waits. -/
  current : Duration
  isScheduled : Bool
  log : List Log.Entry

/-- What is seen of the steps from a state on. -/
def reports (s : State) : List Step → List Report
  | [] => []
  | step :: steps =>
    let (s, reply) := { s with fired := [], log := [] }.step step
    ⟨reply, s.fired, s.scheduler.current, s.scheduler.isScheduled, s.log⟩ :: reports s steps

/-- What is seen of a scenario. -/
def play (c : Config) (steps : List Step) : List Report := reports (.start c) steps

end Tether.Scenario.Timer
