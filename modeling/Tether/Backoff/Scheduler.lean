import Tether.Backoff.Config
import Tether.Log

/-!
# The retry timer

A scheduler has at most one timer, so attempts cannot pile up. The timer holds
what is to be done when it fires; firing makes the delay grow.

* `Scheduler.schedule`: starts the timer, unless it runs;
* `Scheduler.expire`: the timer of a generation has run down. Each start and each
  cancellation begins a new generation, so a timer that has been cancelled does
  nothing;
* `Scheduler.force`: clears the way for an attempt that is made at once;
* `scheduleLog`, `cancelLog`, `forceLog`: what these tell the log.
-/

namespace Tether.Backoff

variable {ρ : Type}

/-- A running timer. -/
structure Timer (ρ : Type) where
  generation : Nat
  /-- How long it runs. -/
  wait : Duration
  /-- What is to be done then. -/
  retry : ρ
  deriving DecidableEq

/-- The growing delay with its timer. -/
structure Scheduler (ρ : Type) where
  config : Config
  delay : Delay
  timer : Option (Timer ρ)
  /-- Grows with each start and each cancellation. A counter of 64 bits would not come round
      before 2 ^ 64 of them. -/
  generation : Nat
  deriving DecidableEq

namespace Scheduler

/-- A scheduler at the first delay, without a timer. -/
def start (c : Config) : Scheduler ρ := ⟨c, .start c, none, 0⟩

/-- Whether a timer runs. -/
def isScheduled (s : Scheduler ρ) : Bool := s.timer.isSome

/-- The delay that the next attempt waits. -/
def current (s : Scheduler ρ) : Duration := s.delay.current

/-- Starts the timer with the current delay; `false` if one runs already. -/
def schedule (retry : ρ) (s : Scheduler ρ) : Scheduler ρ × Bool :=
  match s.timer with
  | some _ => (s, false)
  | none =>
    ({ s with
        timer := some ⟨s.generation + 1, s.current, retry⟩
        generation := s.generation + 1 }, true)

/-- What `schedule` tells the log. -/
def scheduleLog (s : Scheduler ρ) : List Log.Entry :=
  match s.timer with
  | some _ => [.trace "Reconnect already scheduled" []]
  | none => [.debug "Scheduling reconnect" [("delay_ms", toString s.current.cappedMillis)]]

/-- Goes back to the first delay. -/
def reset (s : Scheduler ρ) : Scheduler ρ := { s with delay := .start s.config }

/-- Stops the timer. -/
def cancel (s : Scheduler ρ) : Scheduler ρ :=
  { s with timer := none, generation := s.generation + 1 }

/-- What `cancel` tells the log. -/
def cancelLog (s : Scheduler ρ) : List Log.Entry :=
  match s.timer with
  | some _ => [.trace "Cancelled reconnect timer" []]
  | none => []

/-- Stops the timer and goes back to the first delay, for an attempt at once. -/
def force (s : Scheduler ρ) : Scheduler ρ := s.cancel.reset

/-- What `force` tells the log. -/
def forceLog (s : Scheduler ρ) : List Log.Entry :=
  s.cancelLog ++ [.debug "Forcing immediate reconnect" []]

/-- The timer of the generation has run down: what is to be done, if it is the
    running one. -/
def expire (generation : Nat) (s : Scheduler ρ) : Scheduler ρ × Option ρ :=
  match s.timer with
  | some t =>
    if t.generation = generation then
      ({ s with timer := none, delay := (s.delay.advance s.config).2 }, some t.retry)
    else (s, none)
  | none => (s, none)

/-- The scheduler in words. -/
def describe (s : Scheduler ρ) : String :=
  s!"Backoff \x7b config: BackoffConfig \x7b initial: {s.config.initial.brief}, factor: " ++
    s!"{Decimal.Layout.record.render s.config.factor}, max: {s.config.max.brief} \x7d, current: " ++
    s!"{s.current.brief}, scheduled: {s.isScheduled} \x7d"

end Scheduler

end Tether.Backoff
