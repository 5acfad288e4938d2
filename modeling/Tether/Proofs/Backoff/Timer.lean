import Mathlib.Data.List.Induction
import Mathlib.Data.List.Nodup
import Tether.Backoff.Scheduler

/-!
# What becomes of a timer

A timer that was started runs until the first act that ends it: it expires, or it is stopped by
a cancellation or by a retry that is forced. A timer may be told to expire at any time, also
after it has been stopped or has expired before; generations are not used again, so this does
nothing unless it is the timer that runs.

* `Act`, `Course`: what is done with a scheduler, and the scheduler with the retries that have
  run;
* `fate`: what becomes of a timer, by the acts since its start;
* `Course.Step`: all that an act can do;
* `Course.foldl_of_timer`, `Course.Stale.foldl`, `Course.Absent.foldl`: while a timer runs, and
  afterwards;
* `timers_run`: the timers of every run.
-/

namespace Tether.Backoff

variable {ρ : Type}

/-! ## Acts -/

/-- What is done with a scheduler, or what its timers do. -/
inductive Act (ρ : Type)
  | schedule (retry : ρ)
  | reset
  | force (retry : ρ)
  | cancel
  /-- The timer of a generation has run down, whether it has been stopped or not. -/
  | expire (generation : Nat)

namespace Act

/-- Whether an act ends the timer of the generation, if it runs. -/
def ends (generation : Nat) : Act ρ → Bool
  | force _ => true
  | cancel => true
  | expire g => g = generation
  | _ => false

/-- The retry that comes with an act. -/
def retry? : Act ρ → Option ρ
  | schedule r => some r
  | force r => some r
  | _ => none

end Act

/-- The retries that come with acts, in order. -/
def retries (acts : List (Act ρ)) : List ρ := acts.filterMap Act.retry?

theorem retries_append (acts more : List (Act ρ)) :
    retries (acts ++ more) = retries acts ++ retries more := List.filterMap_append

theorem not_mem_retries_cons {a : Act ρ} {acts : List (Act ρ)} {r : ρ} :
    r ∉ retries (a :: acts) ↔ a.retry? ≠ some r ∧ r ∉ retries acts := by
  simp [retries, List.mem_filterMap]

/-- Neither before the act with which it comes nor after it does a retry come. -/
theorem not_mem_retries {before after : List (Act ρ)} {a : Act ρ} {r : ρ} (ha : a.retry? = some r)
    (hown : (retries (before ++ a :: after)).Nodup) : r ∉ retries before ∧ r ∉ retries after := by
  have hcons : retries (a :: after) = r :: retries after := by
    rw [retries, List.filterMap_cons, ha]
    rfl
  rw [retries_append, hcons, List.nodup_append'] at hown
  obtain ⟨-, hafter, hdisjoint⟩ := hown
  exact ⟨fun h => hdisjoint h List.mem_cons_self, (List.nodup_cons.1 hafter).1⟩

/-- What becomes of a timer. -/
inductive Fate
  /-- It still runs. -/
  | pending
  /-- It has run down, and its retry has run. -/
  | expired
  /-- It was cancelled, or another retry was forced. -/
  | stopped
  deriving DecidableEq

/-- What becomes of the timer of a generation, by the acts since its start. -/
def fate (generation : Nat) (acts : List (Act ρ)) : Fate :=
  match acts.find? fun a => a.ends generation with
  | none => .pending
  | some (.expire _) => .expired
  | some _ => .stopped

/-- A retry that has run. -/
structure Attempt (ρ : Type) where
  retry : ρ
  /-- The scheduler when the retry began. -/
  scheduler : Scheduler ρ

/-- A scheduler, and the retries that have run, in order. -/
structure Course (ρ : Type) where
  scheduler : Scheduler ρ
  ran : List (Attempt ρ)

namespace Course

/-- A scheduler before any act. -/
def start (c : Config) : Course ρ := ⟨.start c, []⟩

/-- Takes an act. -/
def act (x : Course ρ) : Act ρ → Course ρ
  | .schedule r => { x with scheduler := (x.scheduler.schedule r).1 }
  | .reset => { x with scheduler := x.scheduler.reset }
  | .force r => ⟨x.scheduler.force, x.ran ++ [⟨r, x.scheduler.force⟩]⟩
  | .cancel => { x with scheduler := x.scheduler.cancel }
  | .expire generation =>
    let (scheduler, retry) := x.scheduler.expire generation
    ⟨scheduler, x.ran ++ retry.toList.map fun r => ⟨r, scheduler⟩⟩

/-- The runs of a retry, in order. -/
def runs [DecidableEq ρ] (x : Course ρ) (r : ρ) : List (Attempt ρ) :=
  x.ran.filter fun a => a.retry = r

end Course

/-- The course of acts, from a scheduler at the first delay on. -/
def run (c : Config) (acts : List (Act ρ)) : Course ρ := acts.foldl Course.act (.start c)

theorem run_append (c : Config) (acts more : List (Act ρ)) :
    run c (acts ++ more) = more.foldl Course.act (run c acts) := List.foldl_append

/-! ## What an act does -/

/-- The scheduler after its timer has run down: the delay has grown once. -/
def Scheduler.grown (s : Scheduler ρ) : Scheduler ρ :=
  { s with timer := none, delay := (s.delay.advance s.config).2 }

/-- The scheduler after a timer has been started. -/
def Scheduler.started (s : Scheduler ρ) (r : ρ) : Scheduler ρ :=
  { s with
    timer := some ⟨s.generation + 1, s.current, r⟩
    generation := s.generation + 1 }

namespace Course

/-- All that an act can do. -/
inductive Step (x : Course ρ) : Act ρ → Course ρ → Prop
  | started {r : ρ} (htimer : x.scheduler.timer = none) :
      Step x (.schedule r) { x with scheduler := x.scheduler.started r }
  | refused {r : ρ} {t : Timer ρ} (htimer : x.scheduler.timer = some t) : Step x (.schedule r) x
  | reset : Step x .reset { x with scheduler := x.scheduler.reset }
  | forced {r : ρ} :
      Step x (.force r) ⟨x.scheduler.force, x.ran ++ [⟨r, x.scheduler.force⟩]⟩
  | cancelled : Step x .cancel { x with scheduler := x.scheduler.cancel }
  | fired {t : Timer ρ} (htimer : x.scheduler.timer = some t) :
      Step x (.expire t.generation) ⟨x.scheduler.grown, x.ran ++ [⟨t.retry, x.scheduler.grown⟩]⟩
  | missed {g : Nat} (hother : ∀ t, x.scheduler.timer = some t → t.generation ≠ g) :
      Step x (.expire g) x

variable {x y : Course ρ} {a : Act ρ} {t : Timer ρ} {g : Nat} {r : ρ}

theorem act_schedule_of_eq_none (h : x.scheduler.timer = none) (r : ρ) :
    x.act (.schedule r) = { x with scheduler := x.scheduler.started r } := by
  simp only [act, Scheduler.schedule, h]
  rfl

theorem act_schedule_of_eq_some (h : x.scheduler.timer = some t) (r : ρ) :
    x.act (.schedule r) = x := by
  simp only [act, Scheduler.schedule, h]

theorem act_expire_of_eq_some (h : x.scheduler.timer = some t) :
    x.act (.expire t.generation) =
      ⟨x.scheduler.grown, x.ran ++ [⟨t.retry, x.scheduler.grown⟩]⟩ := by
  simp only [act, Scheduler.expire, h, if_true]
  rfl

theorem act_expire_of_ne (h : ∀ t, x.scheduler.timer = some t → t.generation ≠ g) :
    x.act (.expire g) = x := by
  have hexpire : x.scheduler.expire g = (x.scheduler, none) := by
    rw [Scheduler.expire]
    split
    · rename_i t ht
      exact if_neg (h t ht)
    · rfl
  simp [act, hexpire]

/-- What `act` does is a step. -/
theorem step_act (x : Course ρ) (a : Act ρ) : x.Step a (x.act a) := by
  cases a with
  | schedule r =>
    rcases h : x.scheduler.timer with _ | t
    · exact act_schedule_of_eq_none h r ▸ .started h
    · exact (act_schedule_of_eq_some h r).symm ▸ .refused h
  | reset => exact .reset
  | force r => exact .forced
  | cancel => exact .cancelled
  | expire g =>
    by_cases h : ∀ t, x.scheduler.timer = some t → t.generation ≠ g
    · exact (act_expire_of_ne h).symm ▸ .missed h
    · push Not at h
      obtain ⟨t, htimer, rfl⟩ := h
      exact act_expire_of_eq_some htimer ▸ .fired htimer

theorem schedule_snd (s : Scheduler ρ) (r : ρ) : (s.schedule r).2 = true ↔ s.timer = none := by
  rcases h : s.timer with _ | t <;> simp [Scheduler.schedule, h]

theorem Step.generation_le (h : x.Step a y) :
    x.scheduler.generation ≤ y.scheduler.generation := by
  cases h with
  | started | forced | cancelled => exact Nat.le_succ _
  | refused | reset | fired | missed => exact Nat.le_refl _

theorem generation_le_foldl (x : Course ρ) (acts : List (Act ρ)) :
    x.scheduler.generation ≤ (acts.foldl act x).scheduler.generation := by
  induction acts generalizing x with
  | nil => exact Nat.le_refl _
  | cons a acts ih => exact Nat.le_trans (step_act x a).generation_le (ih (x.act a))

theorem Step.config_eq (h : x.Step a y) : y.scheduler.config = x.scheduler.config := by
  cases h <;> rfl

/-! ## While a timer runs -/

/-- A timer that a step does not end goes on, and no retry runs. -/
theorem Step.of_timer (h : x.Step a y) (htimer : x.scheduler.timer = some t)
    (hends : a.ends t.generation = false) :
    y.scheduler.timer = some t ∧ y.scheduler.generation = x.scheduler.generation ∧
      y.ran = x.ran := by
  cases h with
  | started hnone =>
    rw [hnone] at htimer
    cases htimer
  | refused | reset | missed => exact ⟨htimer, rfl, rfl⟩
  | forced | cancelled => cases hends
  | fired ht =>
    rw [htimer] at ht
    cases ht
    simp [Act.ends] at hends

/-- A timer runs on up to the first act that ends it. -/
theorem foldl_of_timer {acts : List (Act ρ)} (htimer : x.scheduler.timer = some t)
    (hends : ∀ a ∈ acts, a.ends t.generation = false) :
    (acts.foldl act x).scheduler.timer = some t ∧
      (acts.foldl act x).scheduler.generation = x.scheduler.generation ∧
      (acts.foldl act x).ran = x.ran := by
  induction acts generalizing x with
  | nil => exact ⟨htimer, rfl, rfl⟩
  | cons a acts ih =>
    obtain ⟨hact, hgeneration, hran⟩ :=
      (step_act x a).of_timer htimer (hends a List.mem_cons_self)
    obtain ⟨htimer', hgeneration', hran'⟩ := ih hact fun b hb => hends b (List.mem_cons_of_mem _ hb)
    exact ⟨htimer', hgeneration'.trans hgeneration, hran'.trans hran⟩

/-! ## After a timer -/

/-- Whether the timer of a generation is over. -/
structure Stale (g : Nat) (x : Course ρ) : Prop where
  le : g ≤ x.scheduler.generation
  ne : ∀ t, x.scheduler.timer = some t → t.generation ≠ g

theorem Step.stale (h : x.Step a y) (hx : x.Stale g) : y.Stale g := by
  have hsucc : g ≤ x.scheduler.generation + 1 := Nat.le_succ_of_le hx.le
  cases h with
  | started htimer =>
    refine ⟨hsucc, ?_⟩
    rintro t ⟨⟩
    exact Nat.ne_of_gt (Nat.lt_succ_of_le hx.le)
  | refused | reset | missed => exact ⟨hx.le, hx.ne⟩
  | forced | cancelled => exact ⟨hsucc, by rintro t ⟨⟩⟩
  | fired => exact ⟨hx.le, by rintro t ⟨⟩⟩

theorem Stale.foldl (hx : x.Stale g) (acts : List (Act ρ)) : (acts.foldl act x).Stale g := by
  induction acts generalizing x with
  | nil => exact hx
  | cons a acts ih => exact ih ((step_act x a).stale hx)

/-- Whether no timer waits for a retry. -/
def Absent (r : ρ) (x : Course ρ) : Prop := ∀ t, x.scheduler.timer = some t → t.retry ≠ r

variable [DecidableEq ρ]

theorem Step.absent (h : x.Step a y) (hx : x.Absent r) (hr : a.retry? ≠ some r) :
    y.Absent r ∧ y.runs r = x.runs r := by
  cases h with
  | started htimer =>
    refine ⟨?_, rfl⟩
    rintro t ⟨⟩ rfl
    exact hr rfl
  | refused | reset | missed => exact ⟨hx, rfl⟩
  | @forced r' =>
    have hne : r' ≠ r := fun h => hr (congrArg some h)
    exact ⟨by rintro t ⟨⟩, by simp [runs, hne]⟩
  | cancelled => exact ⟨by rintro t ⟨⟩, rfl⟩
  | fired htimer => exact ⟨by rintro t ⟨⟩, by simp [runs, hx _ htimer]⟩

/-- A retry that no timer waits for does not run any more. -/
theorem Absent.foldl {acts : List (Act ρ)} (hx : x.Absent r) (hr : r ∉ retries acts) :
    (acts.foldl act x).Absent r ∧ (acts.foldl act x).runs r = x.runs r := by
  induction acts generalizing x with
  | nil => exact ⟨hx, rfl⟩
  | cons a acts ih =>
    obtain ⟨ha, hacts⟩ := not_mem_retries_cons.1 hr
    obtain ⟨habsent, hruns⟩ := (step_act x a).absent hx ha
    obtain ⟨habsent', hruns'⟩ := ih habsent hacts
    exact ⟨habsent', hruns'.trans hruns⟩

end Course

/-! ## Fates -/

variable {g : Nat} {acts : List (Act ρ)}

/-- A timer is pending if no act has ended it; otherwise its fate is that of the first act that
    has. -/
theorem fate_cases (g : Nat) (acts : List (Act ρ)) :
    fate g acts = .pending ∧ (∀ a ∈ acts, a.ends g = false) ∨
    ∃ mid a rest, acts = mid ++ a :: rest ∧ (∀ b ∈ mid, b.ends g = false) ∧
      (fate g acts = .expired ∧ a = .expire g ∨
        fate g acts = .stopped ∧ (a = .cancel ∨ ∃ r, a = .force r)) := by
  rw [fate]
  rcases h : acts.find? fun a => a.ends g with _ | a
  · exact .inl ⟨by simp only [h], by simpa using h⟩
  · obtain ⟨hends, mid, rest, rfl, hmid⟩ := List.find?_eq_some_iff_append.1 h
    refine .inr ⟨mid, a, rest, rfl, by simpa using hmid, ?_⟩
    simp only [h]
    cases a with
    | schedule | reset => cases hends
    | force r => exact .inr ⟨rfl, .inr ⟨r, rfl⟩⟩
    | cancel => exact .inr ⟨rfl, .inl rfl⟩
    | expire g' =>
      obtain rfl : g' = g := of_decide_eq_true hends
      exact .inl ⟨rfl, rfl⟩

theorem fate_eq_pending_iff : fate g acts = .pending ↔ ∀ a ∈ acts, a.ends g = false := by
  rcases fate_cases g acts with ⟨h, hends⟩ | ⟨mid, a, rest, rfl, -, ha⟩
  · exact ⟨fun _ => hends, fun _ => h⟩
  · have hends : a.ends g = true := by
      rcases ha with ⟨-, rfl⟩ | ⟨-, rfl | ⟨r, rfl⟩⟩
      · exact decide_eq_true rfl
      · rfl
      · rfl
    constructor
    · intro h
      rcases ha with ⟨ha, -⟩ | ⟨ha, -⟩ <;> exact absurd (h.symm.trans ha) (by decide)
    · intro h
      rw [h a (by simp)] at hends
      cases hends

/-! ## Runs -/

/-- Whether a retry can be scheduled after the acts. -/
def Accepts (c : Config) (before : List (Act ρ)) (r : ρ) : Prop :=
  ((run c before).scheduler.schedule r).2 = true

/-- The timer of a retry that is scheduled after the acts: it waits for the delay there is. -/
def timerFor (c : Config) (before : List (Act ρ)) (r : ρ) : Timer ρ :=
  ⟨(run c before).scheduler.generation + 1, (run c before).scheduler.current, r⟩

/-- Whether a timer has been started and is pending, by the acts. -/
def Pends (c : Config) (acts : List (Act ρ)) (t : Timer ρ) : Prop :=
  ∃ before after, acts = before ++ .schedule t.retry :: after ∧ Accepts c before t.retry ∧
    t = timerFor c before t.retry ∧ fate t.generation after = .pending

variable {c : Config} {before after : List (Act ρ)} {t : Timer ρ} {r : ρ}

theorem config_run (c : Config) (acts : List (Act ρ)) : (run c acts).scheduler.config = c := by
  induction acts using List.reverseRecOn with
  | nil => rfl
  | append_singleton acts a ih =>
    rw [run_append]
    exact (Course.step_act (run c acts) a).config_eq.trans ih

theorem accepts_iff : Accepts c before r ↔ (run c before).scheduler.timer = none :=
  Course.schedule_snd _ r

/-- A timer that has been started runs on while no act ends it, and no retry runs meanwhile. -/
theorem run_of_accepts (h : Accepts c before r)
    (hafter : ∀ a ∈ after, a.ends (timerFor c before r).generation = false) :
    let x := run c (before ++ .schedule r :: after)
    x.scheduler.timer = some (timerFor c before r) ∧
      x.scheduler.generation = (timerFor c before r).generation ∧ x.ran = (run c before).ran := by
  intro x
  have hact := Course.act_schedule_of_eq_none (accepts_iff.1 h) r
  have htimer : ((run c before).act (.schedule r)).scheduler.timer =
      some (timerFor c before r) := by rw [hact]; rfl
  have hx : x = after.foldl Course.act ((run c before).act (.schedule r)) := run_append ..
  obtain ⟨htimer', hgeneration, hran⟩ := Course.foldl_of_timer htimer hafter
  rw [hx, hran]
  exact ⟨htimer', hgeneration.trans (by rw [hact]; rfl), by rw [hact]⟩

theorem Pends.append {a : Act ρ} (h : Pends c acts t) (ha : a.ends t.generation = false) :
    Pends c (acts ++ [a]) t := by
  obtain ⟨before, after, rfl, haccepts, ht, hfate⟩ := h
  refine ⟨before, after ++ [a], by simp, haccepts, ht, fate_eq_pending_iff.2 fun b hb => ?_⟩
  rcases List.mem_append.1 hb with hb | hb
  · exact fate_eq_pending_iff.1 hfate b hb
  · rw [List.mem_singleton.1 hb, ha]

/-- The timer that runs is the one that is pending by the acts. -/
theorem timer_run_iff : (run c acts).scheduler.timer = some t ↔ Pends c acts t := by
  constructor
  · intro ht
    induction acts using List.reverseRecOn with
    | nil => cases ht
    | append_singleton acts a ih =>
      have hstep := Course.step_act (run c acts) a
      rw [run_append, List.foldl_cons, List.foldl_nil] at ht
      generalize (run c acts).act a = y at hstep ht
      cases hstep with
      | @started r hnone =>
        cases ht
        exact ⟨acts, [], rfl, accepts_iff.2 hnone, rfl, rfl⟩
      | refused | reset => exact (ih ht).append rfl
      | missed hother => exact (ih ht).append (decide_eq_false (hother t ht).symm)
      | forced | cancelled | fired => cases ht
  · rintro ⟨before, after, rfl, haccepts, ht, hfate⟩
    have htimer := (run_of_accepts haccepts (ht ▸ fate_eq_pending_iff.1 hfate)).1
    rwa [← ht] at htimer

/-- A timer that is over: it does not run any more, and nothing comes of it. -/
structure IsOver (x : Course ρ) (t : Timer ρ) : Prop where
  timer_ne : x.scheduler.timer ≠ some t
  act_eq : x.act (.expire t.generation) = x

theorem Course.Stale.isOver {x : Course ρ} (h : x.Stale t.generation) : IsOver x t :=
  ⟨fun ht => h.ne t ht rfl, Course.act_expire_of_ne h.ne⟩

variable [DecidableEq ρ]

/-- A retry that does not come with the acts has not run, and no timer waits for it. -/
theorem run_of_not_mem (hr : r ∉ retries acts) :
    (run c acts).Absent r ∧ (run c acts).runs r = [] :=
  Course.Absent.foldl (x := .start c) (by rintro t ⟨⟩) hr

/-- A timer that is pending: it runs, and its retry has not run. -/
structure IsPending (x : Course ρ) (t : Timer ρ) : Prop where
  timer_eq : x.scheduler.timer = some t
  generation_eq : x.scheduler.generation = t.generation
  runs_eq : x.runs t.retry = []

/-- A timer that has expired after the course `y`, in which it was pending: the delay has grown
    once, and then its retry has run, once. -/
structure HasExpired (x : Course ρ) (t : Timer ρ) (y : Course ρ) : Prop extends IsOver x t where
  isPending : IsPending y t
  scheduler_eq : (y.act (.expire t.generation)).scheduler = y.scheduler.grown
  runs_eq : x.runs t.retry = [⟨t.retry, y.scheduler.grown⟩]

/-- A timer that has been stopped: its generation is over, and its retry has not run. -/
structure WasStopped (x : Course ρ) (t : Timer ρ) : Prop extends IsOver x t where
  generation_lt : t.generation < x.scheduler.generation
  runs_eq : x.runs t.retry = []

/-- A pending timer that expires has expired for good. -/
theorem IsPending.expire {y : Course ρ} (hy : IsPending y t) {rest : List (Act ρ)}
    (hrest : t.retry ∉ retries rest) :
    HasExpired (rest.foldl Course.act (y.act (.expire t.generation))) t y := by
  have hact := Course.act_expire_of_eq_some hy.timer_eq
  have hstale : (y.act (.expire t.generation)).Stale t.generation := by
    rw [hact]
    exact ⟨Nat.le_of_eq hy.generation_eq.symm, by rintro t ⟨⟩⟩
  have habsent : (y.act (.expire t.generation)).Absent t.retry := by
    rw [hact]
    rintro t ⟨⟩
  have hruns : (y.act (.expire t.generation)).runs t.retry =
      [⟨t.retry, y.scheduler.grown⟩] := by
    rw [hact, Course.runs, List.filter_append, ← Course.runs, hy.runs_eq]
    simp
  exact
    { toIsOver := (hstale.foldl rest).isOver
      isPending := hy
      scheduler_eq := by rw [hact]
      runs_eq := (habsent.foldl hrest).2.trans hruns }

/-- A pending timer that is stopped is stopped for good. -/
theorem IsPending.stop {y : Course ρ} (hy : IsPending y t) {a : Act ρ} {rest : List (Act ρ)}
    (ha : a = .cancel ∨ ∃ r, a = .force r) (hr : t.retry ∉ retries (a :: rest)) :
    WasStopped (rest.foldl Course.act (y.act a)) t := by
  have hlt : t.generation < (y.act a).scheduler.generation := by
    rw [← hy.generation_eq]
    rcases ha with rfl | ⟨r, rfl⟩ <;> exact Nat.lt_succ_self _
  have htimer : (y.act a).scheduler.timer = none := by
    rcases ha with rfl | ⟨r, rfl⟩ <;> rfl
  have hstale : (y.act a).Stale t.generation :=
    ⟨Nat.le_of_lt hlt, fun t' ht' => by rw [htimer] at ht'; cases ht'⟩
  have habsent : (y.act a).Absent t.retry := fun t' ht' => by rw [htimer] at ht'; cases ht'
  obtain ⟨har, hrest⟩ := not_mem_retries_cons.1 hr
  have hruns : (y.act a).runs t.retry = [] := by
    rcases ha with rfl | ⟨r, rfl⟩
    · exact hy.runs_eq
    · have hne : r ≠ t.retry := fun h => har (congrArg some h)
      rw [Course.act, Course.runs, List.filter_append, ← Course.runs, hy.runs_eq]
      simp [hne]
  exact
    { toIsOver := (hstale.foldl rest).isOver
      generation_lt := Nat.lt_of_lt_of_le hlt (Course.generation_le_foldl _ rest)
      runs_eq := (habsent.foldl hrest).2.trans hruns }

/-! ### What comes of each retry -/

theorem isPending_of_accepts (hr : r ∉ retries before) (h : Accepts c before r)
    (hafter : ∀ a ∈ after, a.ends (timerFor c before r).generation = false) :
    IsPending (run c (before ++ .schedule r :: after)) (timerFor c before r) := by
  obtain ⟨htimer, hgeneration, hran⟩ := run_of_accepts h hafter
  refine ⟨htimer, hgeneration, ?_⟩
  rw [Course.runs, hran]
  exact (run_of_not_mem hr).2

/-- What has become of a timer that was started. -/
def HasFate (c : Config) (before : List (Act ρ)) (r : ρ) (after : List (Act ρ)) : Fate → Prop
  | .pending => IsPending (run c (before ++ .schedule r :: after)) (timerFor c before r)
  | .expired => ∃ mid rest, after = mid ++ .expire (timerFor c before r).generation :: rest ∧
      HasExpired (run c (before ++ .schedule r :: after)) (timerFor c before r)
        (run c (before ++ .schedule r :: mid))
  | .stopped => WasStopped (run c (before ++ .schedule r :: after)) (timerFor c before r)

theorem hasFate_of_accepts (hown : (retries (before ++ .schedule r :: after)).Nodup)
    (h : Accepts c before r) :
    HasFate c before r after (fate (timerFor c before r).generation after) := by
  obtain ⟨hbefore, hafter⟩ := not_mem_retries rfl hown
  rcases fate_cases (timerFor c before r).generation after with
    ⟨hfate, hends⟩ | ⟨mid, a, rest, rfl, hmid, ha⟩
  · rw [hfate]
    exact isPending_of_accepts hbefore h hends
  · have hrest : r ∉ retries (a :: rest) := fun hmem => hafter (by
      rw [retries_append]
      exact List.mem_append_right _ hmem)
    have hpending := isPending_of_accepts hbefore h hmid
    have hrun : run c (before ++ .schedule r :: (mid ++ a :: rest)) =
        rest.foldl Course.act ((run c (before ++ .schedule r :: mid)).act a) := by
      rw [← List.foldl_cons, ← run_append, List.append_assoc, List.cons_append]
    rcases ha with ⟨hfate, rfl⟩ | ⟨hfate, ha⟩
    · rw [hfate]
      exact ⟨mid, rest, rfl, hrun ▸ hpending.expire (not_mem_retries_cons.1 hrest).2⟩
    · rw [hfate]
      show WasStopped (run c _) _
      rw [hrun]
      exact hpending.stop ha hrest

/-- A retry that cannot be scheduled never runs. -/
theorem runs_of_not_accepts (hown : (retries (before ++ .schedule r :: after)).Nodup)
    (h : ¬ Accepts c before r) : (run c (before ++ .schedule r :: after)).runs r = [] := by
  obtain ⟨hbefore, hafter⟩ := not_mem_retries rfl hown
  obtain ⟨habsent, hruns⟩ := run_of_not_mem (c := c) hbefore
  obtain ⟨t, htimer⟩ := Option.ne_none_iff_exists'.1 (mt accepts_iff.2 h)
  rw [run_append, List.foldl_cons, Course.act_schedule_of_eq_some htimer]
  exact (habsent.foldl hafter).2.trans hruns

/-- A retry that is forced runs once, at once, and after the delay has gone back. -/
theorem runs_of_force (hown : (retries (before ++ .force r :: after)).Nodup) :
    (run c (before ++ .force r :: after)).runs r = [⟨r, (run c before).scheduler.force⟩] := by
  obtain ⟨hbefore, hafter⟩ := not_mem_retries rfl hown
  have habsent : ((run c before).act (.force r)).Absent r := by rintro t ⟨⟩
  rw [run_append, List.foldl_cons, (habsent.foldl hafter).2, Course.act, Course.runs,
    List.filter_append, ← Course.runs, (run_of_not_mem hbefore).2]
  simp

/-- At most one timer is pending. A retry can be scheduled exactly if none is, and otherwise
    nothing comes of it. Each timer that is started is pending until it expires or is stopped, and
    its retry runs if it expires and then only; it waits for the delay there was at its start,
    also if the delay goes back while it is pending. A retry that is forced runs at once, and
    once, when no timer is pending and the delay has gone back to the first one. -/
theorem timers_run (c : Config) {acts : List (Act ρ)} (hown : (retries acts).Nodup) :
    let x := run c acts
    (x.scheduler.config = c ∧ ∀ t, x.scheduler.timer = some t ↔ Pends c acts t) ∧
    (∀ t t', Pends c acts t → Pends c acts t' → t = t') ∧
    (∀ r, ((x.scheduler.schedule r).2 = true ↔ ¬ ∃ t, Pends c acts t) ∧
      ((x.scheduler.schedule r).2 = false → x.act (.schedule r) = x)) ∧
    (∀ before r after, acts = before ++ .schedule r :: after →
      (¬ Accepts c before r → x.runs r = []) ∧
      (Accepts c before r →
        HasFate c before r after (fate (timerFor c before r).generation after))) ∧
    ∀ before r after, acts = before ++ .force r :: after →
      let s := (run c (before ++ [.force r])).scheduler
      s.timer = none ∧ s.current = c.initial ∧ x.runs r = [⟨r, s⟩] := by
  intro x
  have hone : ∀ t t', Pends c acts t → Pends c acts t' → t = t' := by
    intro t t' ht ht'
    have htimer := timer_run_iff.2 ht
    rw [timer_run_iff.2 ht'] at htimer
    exact (Option.some.inj htimer).symm
  refine ⟨⟨config_run c acts, fun t => timer_run_iff⟩, hone, fun r => ⟨?_, fun h => ?_⟩, ?_, ?_⟩
  · rw [Course.schedule_snd, ← Option.not_isSome_iff_eq_none, Option.isSome_iff_exists]
    exact not_congr (exists_congr fun t => timer_run_iff)
  · rcases htimer : x.scheduler.timer with _ | t
    · rw [(Course.schedule_snd _ r).2 htimer] at h
      cases h
    · exact Course.act_schedule_of_eq_some htimer r
  · rintro before r after rfl
    exact ⟨runs_of_not_accepts hown, hasFate_of_accepts hown⟩
  · rintro before r after rfl
    have hforce : (run c (before ++ [.force r])).scheduler = (run c before).scheduler.force := by
      rw [run_append]
      rfl
    rw [hforce]
    exact ⟨rfl, congrArg Config.initial (config_run c before), runs_of_force hown⟩

/-- Acts with six retries. The first timer expires after the delay has gone back, the second one is
    cancelled before it runs down, the third one is stopped by a retry that is forced, and the last
    one is pending. -/
def mixture : List (Act Nat) :=
  [.schedule 0, .schedule 1, .reset, .expire 1, .expire 1, .schedule 2, .cancel, .expire 2,
    .schedule 3, .force 4, .expire 4, .schedule 5]

/-- The retries run whose timers have expired, and the one that is forced. -/
theorem fates_of_mixture :
    (retries mixture).Nodup ∧
      HasFate .default [] 0 (mixture.drop 1) .expired ∧
      (run .default mixture).runs 1 = [] ∧
      HasFate .default (mixture.take 5) 2 (mixture.drop 6) .stopped ∧
      HasFate .default (mixture.take 8) 3 (mixture.drop 9) .stopped ∧
      (run .default mixture).runs 4 =
        [⟨4, (run .default (mixture.take 10)).scheduler⟩] ∧
      HasFate .default (mixture.take 11) 5 [] .pending := by
  have hown : (retries mixture).Nodup := by decide
  obtain ⟨-, -, -, hscheduled, hforced⟩ := timers_run .default hown
  have hrefused : ¬ Accepts .default (mixture.take 1) 1 := Bool.false_ne_true
  exact ⟨hown, (hscheduled [] 0 _ rfl).2 rfl, (hscheduled (mixture.take 1) 1 _ rfl).1 hrefused,
    (hscheduled (mixture.take 5) 2 _ rfl).2 rfl, (hscheduled (mixture.take 8) 3 _ rfl).2 rfl,
    (hforced (mixture.take 9) 4 _ rfl).2.2, (hscheduled (mixture.take 11) 5 _ rfl).2 rfl⟩

end Tether.Backoff
