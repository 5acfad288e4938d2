import Tether.Decimal.Layout
import Tether.Duration

/-!
# Growing delays

After a failed attempt the next one waits, and each further one waits longer:
`initial`, then `factor` times as long each time, up to `max`.

* `Backoff.Config`: the settings, and `Backoff.Config.check` for their faults;
* `Backoff.Config.next`: the delay after a delay. It is never shorter, so that
  rounding cannot shrink a delay, and never above the maximum;
* `Backoff.Delay`: the current delay.
-/

namespace Tether.Backoff

/-- The settings of growing delays. -/
structure Config where
  /-- The first delay. -/
  initial : Duration
  /-- What a delay is multiplied by for the next one. -/
  factor : Float
  /-- The longest delay. -/
  max : Duration
  deriving DecidableEq

namespace Config

/-- From one second to five seconds, by half as much again. -/
def default : Config := ⟨.ofMillis 1000, 1.5, .ofMillis 5000⟩

/-- What is wrong with settings. -/
inductive Fault
  | zeroInitial
  | badFactor (factor : Float)
  | maxBelowInitial (max initial : Duration)
  deriving DecidableEq

/-- The words of a fault. -/
def Fault.message : Fault → String
  | zeroInitial => "backoff initial delay must be positive"
  | badFactor x =>
    s!"backoff factor must be a finite number >= 1, got {Decimal.Layout.plain.render x}"
  | maxBelowInitial max initial =>
    s!"backoff max delay ({max.millis}ms) is below the initial delay ({initial.millis}ms)"

/-- The first fault of the settings. -/
def check (c : Config) : Except Fault Unit :=
  if c.initial = .zero then .error .zeroInitial
  else if !c.factor.isFinite || c.factor < 1.0 then .error (.badFactor c.factor)
  else if c.max < c.initial then .error (.maxBelowInitial c.max c.initial)
  else .ok ()

/-- The delay after the delay `current`. -/
def next (c : Config) (current : Duration) : Duration :=
  match Duration.ofSeconds? (current.toSeconds * c.factor) with
  | some scaled => Min.min (Max.max scaled current) c.max
  | none => c.max

end Config

/-- The delay that the next attempt waits. -/
structure Delay where
  current : Duration
  deriving DecidableEq

namespace Delay

/-- The first delay. -/
def start (c : Config) : Delay := ⟨c.initial⟩

/-- The delay of this attempt, and the next one. -/
def advance (c : Config) (d : Delay) : Duration × Delay := (d.current, ⟨c.next d.current⟩)

end Delay

end Tether.Backoff
