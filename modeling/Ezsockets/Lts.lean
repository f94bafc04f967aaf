import Mathlib.Algebra.GroupWithZero.Nat
import Mathlib.Data.List.Induction
import Mathlib.Tactic.TypeStar

/-!
# Executable transition systems

A system is a partial function `step`: `step s a = some t` when the action
`a` is enabled in `s` and leads to `t`. A run is the list of its actions.
Every induction over runs goes through `reach_inv` or `along_inv`.
-/

namespace Lts

variable {σ α : Type*}

def exec (step : σ → α → Option σ) : σ → List α → Option σ
  | s, [] => some s
  | s, a :: as => match step s a with
    | some t => exec step t as
    | none => none

def Reach (step : σ → α → Option σ) (s t : σ) : Prop := ∃ as, exec step s as = some t

/-- Every step of the run of `as` from `s` takes its action `a` in a state `t` with `C t a`. -/
def Along (step : σ → α → Option σ) (C : σ → α → Prop) : σ → List α → Prop
  | _, [] => True
  | s, a :: as => C s a ∧ ∀ t, step s a = some t → Along step C t as

/-- Some step of the run of `as` from `s` takes its action `a` in a state `t` with `C t a`. -/
def Once (step : σ → α → Option σ) (C : σ → α → Prop) : σ → List α → Prop
  | _, [] => False
  | s, a :: as => C s a ∨ ∃ t, step s a = some t ∧ Once step C t as

/-- What the steps of a run emit, in order. -/
def collect {β : Type*} (step : σ → α → Option σ) (f : σ → α → Option β) : σ → List α → List β
  | _, [] => []
  | s, a :: as => match step s a with
    | some t => (f s a).toList ++ collect step f t as
    | none => []

variable {step : σ → α → Option σ}

theorem exec_cons {s t u : σ} {a : α} {as : List α} (h : step s a = some t) (hu : exec step t as = some u) :
    exec step s (a :: as) = some u := by
  simp only [exec, h]; exact hu

theorem exec_cons_inv {s u : σ} {a : α} {as : List α} (h : exec step s (a :: as) = some u) :
    ∃ t, step s a = some t ∧ exec step t as = some u := by
  simp only [exec] at h
  split at h
  · rename_i t ht; exact ⟨t, ht, h⟩
  · cases h

theorem exec_append {s t u : σ} : ∀ {as bs : List α}, exec step s as = some t → exec step t bs = some u →
    exec step s (as ++ bs) = some u := by
  intro as
  induction as generalizing s with
  | nil => intro bs h hu; cases h; exact hu
  | cons a as ih =>
    intro bs h hu
    obtain ⟨v, hv, hr⟩ := exec_cons_inv h
    exact exec_cons hv (ih hr hu)

theorem exec_append_inv {s u : σ} : ∀ {as bs : List α}, exec step s (as ++ bs) = some u →
    ∃ t, exec step s as = some t ∧ exec step t bs = some u := by
  intro as
  induction as generalizing s with
  | nil => intro bs h; exact ⟨s, rfl, h⟩
  | cons a as ih =>
    intro bs h
    obtain ⟨v, hv, hr⟩ := exec_cons_inv h
    obtain ⟨t, ht, hu⟩ := ih hr
    exact ⟨t, exec_cons hv ht, hu⟩

theorem exec_snoc {s t u : σ} {as : List α} {a : α} (h : exec step s as = some t) (ha : step t a = some u) :
    exec step s (as ++ [a]) = some u := exec_append h (exec_cons ha rfl)

theorem exec_snoc_inv {s u : σ} {as : List α} {a : α} (h : exec step s (as ++ [a]) = some u) :
    ∃ t, exec step s as = some t ∧ step t a = some u := by
  obtain ⟨t, ht, hu⟩ := exec_append_inv h
  obtain ⟨v, hv, he⟩ := exec_cons_inv hu
  cases he
  exact ⟨t, ht, hv⟩

theorem Reach.refl (s : σ) : Reach step s s := ⟨[], rfl⟩

theorem Reach.trans {s t u : σ} (h : Reach step s t) (h' : Reach step t u) : Reach step s u := by
  obtain ⟨as, ha⟩ := h
  obtain ⟨bs, hb⟩ := h'
  exact ⟨as ++ bs, exec_append ha hb⟩

theorem Reach.single {s t : σ} {a : α} (h : step s a = some t) : Reach step s t := ⟨[a], exec_cons h rfl⟩

theorem Reach.tail {s t u : σ} {a : α} (h : Reach step s t) (h' : step t a = some u) : Reach step s u :=
  h.trans (.single h')

/-! ## Invariants -/

theorem reach_inv {I : σ → Prop} {s₀ : σ} (h₀ : I s₀)
    (hs : ∀ s a t, Reach step s₀ s → I s → step s a = some t → I t) {s : σ} (h : Reach step s₀ s) : I s := by
  obtain ⟨as, ha⟩ := h
  have run : ∀ (as : List α) (t : σ), Reach step s₀ t → I t → exec step t as = some s → I s := by
    intro as
    induction as with
    | nil => intro t _ ht h; cases h; exact ht
    | cons a as ih =>
      intro t hr ht h
      obtain ⟨u, hu, hx⟩ := exec_cons_inv h
      exact ih u (hr.tail hu) (hs t a u hr ht hu) hx
  exact run as s₀ (.refl s₀) h₀ ha

theorem run_inv {I : List α → σ → Prop} {s₀ : σ} (h₀ : I [] s₀)
    (hs : ∀ as s a t, exec step s₀ as = some s → I as s → step s a = some t → I (as ++ [a]) t) {as : List α} {s : σ}
    (h : exec step s₀ as = some s) : I as s := by
  induction as using List.reverseRecOn generalizing s with
  | nil => cases h; exact h₀
  | append_singleton as a ih =>
    obtain ⟨t, ht, hst⟩ := exec_snoc_inv h
    exact hs as t a s ht (ih ht) hst

theorem collect_snoc {β : Type*} {f : σ → α → Option β} {s t u : σ} {a : α} {as : List α}
    (h : exec step s as = some t) (hu : step t a = some u) :
    collect step f s (as ++ [a]) = collect step f s as ++ (f t a).toList := by
  induction as generalizing s with
  | nil => cases h; simp [collect, hu]
  | cons b as ih =>
    obtain ⟨v, hv, hr⟩ := exec_cons_inv h
    simp only [List.cons_append, collect, hv, ih hr, List.append_assoc]

/-- What does not depend on the states can be read off the actions. -/
theorem collect_filterMap {β : Type*} {f : α → Option β} {s t : σ} {as : List α} (h : exec step s as = some t) :
    collect step (fun _ => f) s as = as.filterMap f := by
  induction as generalizing s with
  | nil => rfl
  | cons a as ih =>
    obtain ⟨v, hv, hr⟩ := exec_cons_inv h
    simp only [collect, hv, ih hr]
    cases hf : f a <;> simp [hf]

/-! ## Conditions on the steps of a run -/

theorem along_cons {C : σ → α → Prop} {s t : σ} {a : α} {as : List α} (hc : C s a) (h : step s a = some t)
    (ht : Along step C t as) : Along step C s (a :: as) := by
  refine ⟨hc, fun u hu => ?_⟩
  cases h.symm.trans hu
  exact ht

theorem along_append {C : σ → α → Prop} {s t : σ} {as bs : List α} (ha : Along step C s as)
    (h : exec step s as = some t) (hb : Along step C t bs) : Along step C s (as ++ bs) := by
  induction as generalizing s with
  | nil => cases h; exact hb
  | cons a as ih =>
    obtain ⟨v, hv, hr⟩ := exec_cons_inv h
    exact along_cons ha.1 hv (ih (ha.2 v hv) hr)

theorem along_append_inv {C : σ → α → Prop} {s t : σ} {as bs : List α} (hc : Along step C s (as ++ bs))
    (h : exec step s as = some t) : Along step C s as ∧ Along step C t bs := by
  induction as generalizing s with
  | nil => cases h; exact ⟨trivial, hc⟩
  | cons a as ih =>
    obtain ⟨v, hv, hr⟩ := exec_cons_inv h
    obtain ⟨ha, hb⟩ := ih (hc.2 v hv) hr
    exact ⟨along_cons hc.1 hv ha, hb⟩

theorem along_of_forall {C : σ → α → Prop} {as : List α} (h : ∀ a ∈ as, ∀ s, C s a) (s : σ) :
    Along step C s as := by
  induction as generalizing s with
  | nil => trivial
  | cons a as ih =>
    refine ⟨h a List.mem_cons_self s, fun t _ => ih ?_ t⟩
    intro b hb
    exact h b (List.mem_cons_of_mem _ hb)

theorem along_inv {I : σ → Prop} {C : σ → α → Prop} {s₀ : σ} (h₀ : I s₀)
    (hs : ∀ s a t, Reach step s₀ s → I s → C s a → step s a = some t → I t) {as : List α} {s : σ}
    (hc : Along step C s₀ as) (h : exec step s₀ as = some s) : I s := by
  have run : ∀ (as : List α) (t : σ), Reach step s₀ t → I t → Along step C t as →
    exec step t as = some s → I s := by
    intro as
    induction as with
    | nil => intro t _ ht _ h; cases h; exact ht
    | cons a as ih =>
      intro t hr ht hc h
      obtain ⟨u, hu, hx⟩ := exec_cons_inv h
      exact ih u (hr.tail hu) (hs t a u hr ht hc.1 hu) (hc.2 u hu) hx
  exact run as s₀ (.refl s₀) h₀ hc h

theorem along_congr {C D : σ → α → Prop} {s₀ : σ} (hs : ∀ s a, Reach step s₀ s → (C s a ↔ D s a))
    (as : List α) : Along step C s₀ as ↔ Along step D s₀ as := by
  have run : ∀ (as : List α) (s : σ), Reach step s₀ s → (Along step C s as ↔ Along step D s as) := by
    intro as
    induction as with
    | nil => intro s _; exact Iff.rfl
    | cons a as ih =>
      intro s hr
      exact and_congr (hs s a hr) (forall_congr' fun t => imp_congr_right fun ht => ih t (hr.tail ht))
  exact run as s₀ (.refl s₀)

/-- If a step outside `C` breaks `I` for good, then a run that ends in `I` met `C` at every step it made. -/
theorem along_of_inv {I : σ → Prop} {C : σ → α → Prop} {s₀ : σ}
    (keep : ∀ s a t, Reach step s₀ s → ¬ I s → step s a = some t → ¬ I t)
    (brk : ∀ s a t, Reach step s₀ s → ¬ C s a → step s a = some t → ¬ I t) {as : List α} {s : σ}
    (h : exec step s₀ as = some s) (hi : I s) : Along step C s₀ as := by
  have run : ∀ (as : List α) (t : σ), Reach step s₀ t → exec step t as = some s → Along step C t as := by
    intro as
    induction as with
    | nil => intro t _ _; trivial
    | cons a as ih =>
      intro t hr h
      obtain ⟨u, hu, hx⟩ := exec_cons_inv h
      refine ⟨?_, fun v hv => ?_⟩
      · apply Classical.byContradiction
        intro hC
        have hbad : Reach step s₀ s ∧ ¬ I s :=
          reach_inv (I := fun v => Reach step s₀ v ∧ ¬ I v) ⟨hr.tail hu, brk t a u hr hC hu⟩
            (fun v b w _ hv hw => ⟨hv.1.tail hw, keep v b w hv.1 hv.2 hw⟩) ⟨as, hx⟩
        exact hbad.2 hi
      · cases hu.symm.trans hv; exact ih u (hr.tail hu) hx
  exact run as s₀ (.refl s₀) h

theorem Once.append {C : σ → α → Prop} {s : σ} {as : List α} (h : Once step C s as) (bs : List α) :
    Once step C s (as ++ bs) := by
  induction as generalizing s with
  | nil => cases h
  | cons a as ih =>
    rcases h with h | ⟨t, ht, h⟩
    · exact .inl h
    · exact .inr ⟨t, ht, ih h⟩

theorem once_snoc {C : σ → α → Prop} {s t : σ} {as : List α} {a : α} (h : exec step s as = some t) (hc : C t a) :
    Once step C s (as ++ [a]) := by
  induction as generalizing s with
  | nil => cases h; exact .inl hc
  | cons b as ih =>
    obtain ⟨v, hv, hr⟩ := exec_cons_inv h
    exact .inr ⟨v, hv, ih hr⟩

/-! ## Runs that end -/

/-- Each step that `P` picks lowers the rank and any other raises it by its cost at most, so those that raise it
bound the number of those that lower it. -/
theorem rank_bound {P : α → Bool} {rank : σ → Nat} {cost : α → Nat} {s₀ : σ}
    (down : ∀ s a t, Reach step s₀ s → P a = true → step s a = some t → rank t < rank s)
    (up : ∀ s a t, Reach step s₀ s → P a = false → step s a = some t → rank t ≤ rank s + cost a)
    {as : List α} {s : σ} (h : exec step s₀ as = some s) :
    as.countP P + rank s ≤ rank s₀ + (as.map fun a => if P a then 0 else cost a).sum := by
  refine run_inv (I := fun as s => as.countP P + rank s ≤ rank s₀ + (as.map fun a => if P a then 0 else cost a).sum)
    ?_ ?_ h
  · simp
  · intro as s a t hs hi ht
    rw [List.countP_append, List.countP_singleton, List.map_append, List.sum_append, List.map_singleton,
      List.sum_singleton]
    cases hp : P a with
    | true =>
      have hlt := down s a t ⟨as, hs⟩ hp ht
      simp only [if_true]
      omega
    | false =>
      have hle := up s a t ⟨as, hs⟩ hp ht
      simp only [Bool.false_eq_true, if_false]
      omega

/-! ## Refinement -/

variable {τ β : Type*}

/-- One step or none. -/
def stepOpt (astep : τ → β → Option τ) (t : τ) : Option β → Option τ
  | some b => astep t b
  | none => some t

/-- Each step is the step of the abstract system that `label` names, or it leaves the abstract state as it is. -/
def Refines (step : σ → α → Option σ) (s₀ : σ) (astep : τ → β → Option τ) (abs : σ → τ) (label : σ → α → Option β) :
    Prop :=
  ∀ s a t, Reach step s₀ s → step s a = some t → stepOpt astep (abs s) (label s a) = some (abs t)

variable {astep : τ → β → Option τ} {abs : σ → τ} {label : σ → α → Option β} {s₀ s : σ}

theorem Refines.exec (r : Refines step s₀ astep abs label) {as : List α} (h : exec step s₀ as = some s) :
    Lts.exec astep (abs s₀) (collect step label s₀ as) = some (abs s) := by
  refine run_inv (I := fun as s => Lts.exec astep (abs s₀) (collect step label s₀ as) = some (abs s)) rfl ?_ h
  intro as s a t hs hi ha
  rw [collect_snoc hs ha]
  have hr := r s a t ⟨as, hs⟩ ha
  cases hl : label s a with
  | none =>
    rw [hl] at hr
    rw [Option.toList_none, List.append_nil, ← Option.some.inj hr]
    exact hi
  | some b =>
    rw [hl] at hr
    exact exec_snoc hi hr

theorem Refines.reach (r : Refines step s₀ astep abs label) (h : Reach step s₀ s) :
    Reach astep (abs s₀) (abs s) := by
  obtain ⟨as, ha⟩ := h
  exact ⟨_, r.exec ha⟩

end Lts
