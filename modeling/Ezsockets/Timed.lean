import Ezsockets.Lts

/-!
# Systems with a clock

A system whose steps can read a clock and go to sleep. Time passes by
itself, as far as it likes; an action that waits for the alarm is not
enabled before it, and may come late. A step that sleeps sets the alarm.
-/

structure Timed (σ : Type*) where
  state : σ
  now : Nat
  alarm : Nat

inductive TimedAct (α : Type*) where
  | advance (d : Nat)
  | act (a : α)

namespace Timed

variable {σ τ α : Type*}

def step (f : Nat → σ → α → Option (σ × Option Nat)) (waits : α → Bool) (s : Timed σ) :
    TimedAct α → Option (Timed σ)
  | .advance d => some { s with now := s.now + d }
  | .act a =>
    if waits a && s.now < s.alarm then none
    else (f s.now s.state a).map fun r => ⟨r.1, s.now, (r.2.map (s.now + ·)).getD s.alarm⟩

variable {f : Nat → σ → α → Option (σ × Option Nat)} {waits : α → Bool} {s t : Timed σ}

inductive Step (f : Nat → σ → α → Option (σ × Option Nat)) (waits : α → Bool) (s : Timed σ) :
    TimedAct α → Timed σ → Prop
  | advance (d : Nat) : Step f waits s (.advance d) { s with now := s.now + d }
  | act {a x} : (waits a = true → s.alarm ≤ s.now) → f s.now s.state a = some (x, none) →
      Step f waits s (.act a) { s with state := x }
  | sleep {a x d} : (waits a = true → s.alarm ≤ s.now) → f s.now s.state a = some (x, some d) →
      Step f waits s (.act a) ⟨x, s.now, s.now + d⟩

theorem step_cases {a : TimedAct α} (h : step f waits s a = some t) : Step f waits s a t := by
  cases a with
  | advance d => cases h; exact .advance d
  | act a =>
    simp only [step] at h
    split at h
    · cases h
    · rename_i hw
      have hw : waits a = true → s.alarm ≤ s.now := by
        intro ha
        rw [ha] at hw
        simpa using hw
      obtain ⟨⟨x, o⟩, hx, rfl⟩ := Option.map_eq_some_iff.mp h
      cases o with
      | none => exact .act hw hx
      | some d => exact .sleep hw hx

theorem step_act {a : α} {x : σ} {o : Option Nat} (hw : waits a = true → s.alarm ≤ s.now)
    (h : f s.now s.state a = some (x, o)) :
    step f waits s (.act a) = some ⟨x, s.now, (o.map (s.now + ·)).getD s.alarm⟩ := by
  have hn : ¬ (waits a && decide (s.now < s.alarm)) = true := by
    rw [Bool.and_eq_true, decide_eq_true_eq]
    intro ⟨ha, hlt⟩
    exact absurd hlt (Nat.not_lt.mpr (hw ha))
  simp only [step, if_neg hn, h]
  rfl

/-- Without its clock a run is a run of the system underneath. -/
theorem reach_state {g : τ → α → Option τ} {p : σ → τ}
    (hg : ∀ now x a y o, f now x a = some (y, o) → g (p x) a = some (p y)) (h : Lts.Reach (step f waits) s t) :
    Lts.Reach g (p s.state) (p t.state) := by
  refine Lts.reach_inv (I := fun t => Lts.Reach g (p s.state) (p t.state)) (.refl _) ?_ h
  intro u a v _ hu huv
  cases step_cases huv with
  | advance => exact hu
  | act _ hx | sleep _ hx => exact hu.tail (hg _ _ _ _ _ hx)

end Timed
