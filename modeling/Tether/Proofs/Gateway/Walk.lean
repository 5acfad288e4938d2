import Tether.Proofs.Gateway.Run

/-!
# Walks

The step of a run that passes on a notice has several parts: the input, the calls of the
handler, and what follows them. While a handler is at work, others may call as well, and a
timer may run down. In a *walk* all these parts come one by one, in any order, so the points
of a walk are those in the midst of a step too. No call is disturbed by others here; see
`Tether.Proofs.Gateway.Threads` for calls that are.

* `Part`, `Course.walk`: the parts of steps, and the course after a list of them;
* `Course.walk_parts`, `run_eq_walk`: a step is the walk of its parts, and a run is a walk;
* `Course.walk_induction`: what every part keeps holds in the course of every walk.
-/

namespace Tether.Gateway

/-- What happens to a gateway at once. -/
inductive Part
  | call (c : Call)
  /-- An input reaches the channel with the index. -/
  | receive (i : Nat) (input : Channel.Input)
  /-- A notice has been passed on. -/
  | settle (notice : Channel.Notice)
  /-- The timer of the generation runs down. -/
  | expire (generation : Nat)
  deriving DecidableEq

namespace Course

/-- The course with the next part. -/
def part (x : Course) : Part → Course
  | .call c => x.call c
  | .receive i input => x.receive i input
  | .settle notice => x.settle notice
  | .expire generation => x.expire generation

/-- The course after the parts. -/
def walk (x : Course) (parts : List Part) : Course := parts.foldl part x

theorem walk_append (x : Course) (parts more : List Part) :
    x.walk (parts ++ more) = (x.walk parts).walk more :=
  List.foldl_append

/-- The parts of a step. -/
def parts (x : Course) : Move → List Part
  | .call c => [.call c]
  | .input i input calls =>
    match (x.gateway.receive i input).2.notice with
    | none => [.receive i input]
    | some notice => .receive i input :: calls.map .call ++ [.settle notice]
  | .expire generation => [.expire generation]

/-- A step is the walk of its parts. -/
theorem walk_parts (x : Course) (m : Move) : x.walk (x.parts m) = x.step m := by
  rcases m with c | ⟨i, input, calls⟩ | generation
  · rfl
  · rw [parts, step]
    rcases (x.gateway.receive i input).2.notice with _ | notice
    · rfl
    · have hcalls : (x.receive i input).walk (calls.map .call) =
          calls.foldl call (x.receive i input) := List.foldl_map
      show ((x.receive i input).walk (calls.map .call ++ [.settle notice])) = _
      rw [walk_append, hcalls]
      rfl
  · rfl

end Course

/-- A run is a walk. -/
theorem run_eq_walk (config : Config) (moves : List Move) :
    ∃ parts, run config moves = (Course.start config).walk parts := by
  refine Course.run_induction (P := fun x => ∃ parts, x = (Course.start config).walk parts)
    ⟨[], rfl⟩ ?_
  rintro x m - ⟨parts, rfl⟩
  exact ⟨parts ++ Course.parts _ m, by rw [Course.walk_append, Course.walk_parts]⟩

/-- What every part keeps holds in the course of every walk. -/
theorem Course.walk_induction {P : Course → Prop} {x : Course} (start : P x)
    (part : ∀ x p, P x → P (x.part p)) (parts : List Part) : P (x.walk parts) := by
  induction parts generalizing x with
  | nil => exact start
  | cons p parts ih => exact ih (part x p start)

end Tether.Gateway
