import Mathlib.Order.Defs.LinearOrder
import Mathlib.Order.Lattice
import Tether.Backoff.Config

/-!
# The range of the delays

The next delay is computed with floats, whose product may be anything: less than it should be,
too large for a duration, or no number. Whatever it is, a delay is taken that is not shorter than
the one before and not longer than the longest. So the range of the delays, and that they do not
shrink, follow from the settings alone.

* `Config.grow`: the next delay, whatever the product with the factor comes out as;
* `Delay.Step`, `Delay.run`: the attempts, each with its product, and the returns to the first
  delay;
* `Delay.inRange_run`, `Delay.pairwise_returned`: the range, and that delays do not shrink;
* `delays_in_range`: the delays of every run.
-/

namespace Tether

/-! ## The order of durations -/

instance : LinearOrder Duration where
  le := (· ≤ ·)
  lt := (· < ·)
  min := min
  max := max
  le_refl a := Nat.le_refl a.nanos
  le_trans _ _ _ := Nat.le_trans
  lt_iff_le_not_ge _ _ := Nat.lt_iff_le_and_not_ge
  le_antisymm _ _ h h' := Duration.ext (Nat.le_antisymm h h')
  le_total a b := Nat.le_total a.nanos b.nanos
  toDecidableLE := inferInstance
  min_def _ _ := rfl
  max_def _ _ := rfl

theorem Duration.zero_lt_iff {d : Duration} : zero < d ↔ d ≠ zero := by
  rw [lt_iff_le_and_ne, ne_comm]
  exact and_iff_right (Nat.zero_le d.nanos)

namespace Backoff

variable {c : Config} {d : Duration}

/-! ## The next delay -/

namespace Config

/-- The delay after the delay `current`, if its product with the factor has come out as
    `product`. -/
def grow (c : Config) (current : Duration) (product : Float) : Duration :=
  match Duration.ofSeconds? product with
  | some scaled => Min.min (Max.max scaled current) c.max
  | none => c.max

/-- What valid settings say about the range. -/
theorem range_of_check (h : c.check = .ok ()) : Duration.zero < c.initial ∧ c.initial ≤ c.max := by
  rw [check] at h
  split_ifs at h with hzero hfactor hmax
  exact ⟨Duration.zero_lt_iff.2 hzero, not_lt.1 hmax⟩

theorem grow_le_max (d : Duration) (product : Float) : c.grow d product ≤ c.max := by
  rw [grow]
  split
  · exact min_le_right ..
  · exact le_rfl

theorem le_grow (h : d ≤ c.max) (product : Float) : d ≤ c.grow d product := by
  rw [grow]
  split
  · exact le_min (le_max_right ..) h
  · exact h

/-- A product that no duration holds makes the longest delay. -/
theorem grow_of_eq_none {product : Float} (h : Duration.ofSeconds? product = none) :
    c.grow d product = c.max := by
  rw [grow, h]

/-- Any other one is taken as it is, as far as it is in range. -/
theorem grow_of_eq_some {product : Float} {scaled : Duration}
    (h : Duration.ofSeconds? product = some scaled) (hd : d ≤ scaled) (hmax : scaled ≤ c.max) :
    c.grow d product = scaled := by
  rw [grow, h]
  exact (congrArg (Min.min · c.max) (max_eq_left hd)).trans (min_eq_left hmax)

end Config

/-! ## Runs -/

namespace Delay

/-- What is done with a delay. -/
inductive Step
  /-- An attempt takes the delay, and its product with the factor comes out as `product`. -/
  | advance (product : Float)
  /-- The first delay comes back. -/
  | reset

/-- The delay after a step. -/
def step (c : Config) (d : Delay) : Step → Delay
  | .advance product => ⟨c.grow d.current product⟩
  | .reset => .start c

/-- The delay after steps, from the first one on. -/
def run (c : Config) (steps : List Step) : Delay := steps.foldl (step c) (.start c)

/-- The delays that the attempts among the steps take. -/
def returned (c : Config) (d : Delay) : List Step → List Duration
  | [] => []
  | .advance product :: steps => d.current :: (d.step c (.advance product)).returned c steps
  | .reset :: steps => (d.step c .reset).returned c steps

/-- An attempt is the step whose product is that of its delay and the factor. -/
theorem advance_eq (c : Config) (d : Delay) :
    d.advance c = (d.current, d.step c (.advance (d.current.toSeconds * c.factor))) := rfl

/-- Whether a delay is in the range of the settings. -/
structure InRange (c : Config) (d : Duration) : Prop where
  pos : Duration.zero < d
  initial_le : c.initial ≤ d
  le_max : d ≤ c.max

variable {x : Delay}

theorem inRange_start (hc : c.check = .ok ()) : InRange c (start c).current :=
  have ⟨hpos, hle⟩ := Config.range_of_check hc
  ⟨hpos, le_rfl, hle⟩

theorem InRange.step (hc : c.check = .ok ()) (hx : InRange c x.current) (s : Step) :
    InRange c (x.step c s).current := by
  cases s with
  | advance product =>
    have hle : x.current ≤ c.grow x.current product := Config.le_grow hx.le_max product
    exact ⟨hx.pos.trans_le hle, hx.initial_le.trans hle, Config.grow_le_max ..⟩
  | reset => exact inRange_start hc

theorem InRange.foldl (hc : c.check = .ok ()) (hx : InRange c x.current) (steps : List Step) :
    InRange c (steps.foldl (Delay.step c) x).current := by
  induction steps generalizing x with
  | nil => exact hx
  | cons s steps ih => exact ih (hx.step hc s)

theorem inRange_run (hc : c.check = .ok ()) (steps : List Step) :
    InRange c (run c steps).current :=
  (inRange_start hc).foldl hc steps

/-- What is returned is in range. -/
theorem InRange.returned (hc : c.check = .ok ()) (hx : InRange c x.current) (steps : List Step) :
    ∀ t ∈ x.returned c steps, InRange c t := by
  induction steps generalizing x with
  | nil => exact fun _ ht => absurd ht List.not_mem_nil
  | cons s steps ih =>
    intro t ht
    cases s with
    | advance product =>
      rcases List.mem_cons.1 ht with rfl | ht
      · exact hx
      · exact ih (hx.step hc _) t ht
    | reset => exact ih (hx.step hc _) t ht

/-- The delays of attempts one after the other do not shrink, nor fall below the current one. -/
theorem pairwise_returned (hx : x.current ≤ c.max) (products : List Float) :
    (x.returned c (products.map .advance)).Pairwise (· ≤ ·) ∧
      ∀ t ∈ x.returned c (products.map .advance), x.current ≤ t := by
  induction products generalizing x with
  | nil => exact ⟨.nil, fun _ ht => absurd ht List.not_mem_nil⟩
  | cons product products ih =>
    obtain ⟨hpairwise, hle⟩ := ih (x := x.step c (.advance product)) (Config.grow_le_max ..)
    have hgrow : x.current ≤ (x.step c (.advance product)).current := Config.le_grow hx product
    have hrest : ∀ t ∈ (x.step c (.advance product)).returned c (products.map .advance),
        x.current ≤ t := fun t ht => hgrow.trans (hle t ht)
    refine ⟨List.pairwise_cons.2 ⟨hrest, hpairwise⟩, fun t ht => ?_⟩
    rcases List.mem_cons.1 ht with rfl | ht
    · exact le_rfl
    · exact hrest t ht

/-- The longest delay stays until the first one comes back. -/
theorem foldl_advance_of_eq_max (hx : x.current = c.max) (products : List Float) :
    ((products.map Step.advance).foldl (step c) x).current = c.max := by
  induction products generalizing x with
  | nil => exact hx
  | cons product products ih =>
    exact ih (le_antisymm (Config.grow_le_max ..) (hx ▸ Config.le_grow hx.le product))

end Delay

/-- With valid settings every delay, as it is taken by an attempt or waits to be taken, is
    positive and between the first and the longest one, whatever the products with the factor
    have come out as. The first one is there at the start and after each return; from there on
    delays do not shrink, and once one is the longest so are all after it, until the next return.
    A product that no duration can hold makes the longest delay, and one between the current and
    the longest is taken as it is. -/
theorem delays_in_range {c : Config} (hc : c.check = .ok ()) (steps : List Delay.Step) :
    let x := Delay.run c steps
    (∀ d : Delay, d.advance c =
      (d.current, d.step c (.advance (d.current.toSeconds * c.factor)))) ∧
    Delay.InRange c x.current ∧
    (∀ t ∈ (Delay.start c).returned c steps, Delay.InRange c t) ∧
    ((Delay.run c []).current = c.initial ∧
      (Delay.run c (steps ++ [.reset])).current = c.initial) ∧
    (∀ products : List Float,
      (x.returned c (products.map .advance)).Pairwise (· ≤ ·) ∧
      (x.current = c.max →
        (∀ t ∈ x.returned c (products.map .advance), t = c.max) ∧
        (Delay.run c (steps ++ products.map .advance)).current = c.max)) ∧
    ∀ product : Float,
      (Duration.ofSeconds? product = none → (x.step c (.advance product)).current = c.max) ∧
      ∀ scaled, Duration.ofSeconds? product = some scaled → x.current ≤ scaled →
        scaled ≤ c.max → (x.step c (.advance product)).current = scaled := by
  intro x
  have hx : Delay.InRange c x.current := Delay.inRange_run hc steps
  refine ⟨Delay.advance_eq c, hx, (Delay.inRange_start hc).returned hc steps, ⟨rfl, ?_⟩,
    fun products => ⟨(Delay.pairwise_returned hx.le_max products).1, fun hmax => ⟨?_, ?_⟩⟩,
    fun product => ⟨Config.grow_of_eq_none, fun scaled => Config.grow_of_eq_some⟩⟩
  · rw [Delay.run, List.foldl_append]
    rfl
  · intro t ht
    have hle : t ≤ c.max := (hx.returned hc _ t ht).le_max
    have hge : x.current ≤ t := (Delay.pairwise_returned hx.le_max products).2 t ht
    exact le_antisymm hle (hmax ▸ hge)
  · rw [Delay.run, List.foldl_append]
    exact Delay.foldl_advance_of_eq_max hmax products

/-- After a product that is infinite, the delay is the longest one and stays so. -/
theorem current_of_infinite_product :
    Config.default.check = .ok () ∧ Duration.ofSeconds? (1.0 / 0.0) = none ∧
      (Delay.run .default [.advance (1.0 / 0.0)]).current = Config.default.max ∧
      ∀ products : List Float,
        (Delay.run .default (.advance (1.0 / 0.0) :: products.map .advance)).current =
          Config.default.max := by
  have hcheck : Config.default.check = .ok () := rfl
  have hproduct : Duration.ofSeconds? (1.0 / 0.0) = none := by decide
  obtain ⟨-, -, -, -, -, hgrow⟩ := delays_in_range hcheck []
  have hmax : (Delay.run .default [.advance (1.0 / 0.0)]).current = Config.default.max :=
    (hgrow (1.0 / 0.0)).1 hproduct
  obtain ⟨-, -, -, -, hstays, -⟩ := delays_in_range hcheck [.advance (1.0 / 0.0)]
  exact ⟨hcheck, hproduct, hmax, fun products => ((hstays products).2 hmax).2⟩

end Backoff

end Tether
