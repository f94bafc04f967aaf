import Mathlib.Algebra.GroupWithZero.Nat
import Mathlib.Data.List.Infix

/-! # Lists that are updated at one index -/

namespace List

variable {α : Type*}

theorem getElem?_set_of {l : List α} {i : Nat} {a : α} (h : l[i]? = some a) (b : α) (j : Nat) :
    (l.set i b)[j]? = if j = i then some b else l[j]? := by
  obtain ⟨hi, -⟩ := List.getElem?_eq_some_iff.mp h
  rw [List.getElem?_set]
  by_cases hj : j = i
  · subst hj; simp [hi]
  · simp [hj, Ne.symm hj]

theorem countP_set_of {l : List α} {i : Nat} {a : α} (h : l[i]? = some a) (b : α) (p : α → Bool) :
    (l.set i b).countP p + (if p a then 1 else 0) = l.countP p + (if p b then 1 else 0) := by
  obtain ⟨hi, rfl⟩ := List.getElem?_eq_some_iff.mp h
  rw [List.countP_set hi]
  have : (if p l[i] then 1 else 0) ≤ l.countP p := List.boole_getElem_le_countP hi
  omega

theorem sum_map_set_of {l : List α} {i : Nat} {a : α} (h : l[i]? = some a) (b : α) (f : α → Nat) :
    ((l.set i b).map f).sum + f a = (l.map f).sum + f b := by
  induction l generalizing i with
  | nil => cases h
  | cons c l ih =>
    cases i with
    | zero => cases h; simp only [List.set_cons_zero, List.map_cons, List.sum_cons]; omega
    | succ i =>
      have := ih h
      simp only [List.set_cons_succ, List.map_cons, List.sum_cons]; omega

theorem forall_set {l : List α} {i : Nat} {a b : α} (h : l[i]? = some a) {P : Nat → α → Prop}
    (hb : P i b) (hl : ∀ j c, j ≠ i → l[j]? = some c → P j c) : ∀ j c, (l.set i b)[j]? = some c → P j c := by
  intro j c hc
  rw [getElem?_set_of h] at hc
  split at hc
  · rename_i hj; cases hc; subst hj; exact hb
  · rename_i hj; exact hl j c hj hc

theorem forall_append_one {l : List α} {b : α} {P : Nat → α → Prop} (hb : P l.length b)
    (hl : ∀ j c, l[j]? = some c → P j c) : ∀ j c, (l ++ [b])[j]? = some c → P j c := by
  intro j c hc
  rcases Nat.lt_trichotomy j l.length with hj | hj | hj
  · rw [List.getElem?_append_left hj] at hc; exact hl j c hc
  · subst hj; simp at hc; subst hc; exact hb
  · rw [List.getElem?_eq_none (by simp; omega)] at hc; cases hc

theorem map_set_of {β : Type*} {l : List α} {i : Nat} {a b : α} {f : α → β} (h : l[i]? = some a) (hf : f b = f a) :
    (l.set i b).map f = l.map f := by
  apply List.ext_getElem?
  intro j
  rw [List.getElem?_map, List.getElem?_map, getElem?_set_of h]
  by_cases hj : j = i
  · subst hj; rw [if_pos rfl, h, Option.map_some, Option.map_some, hf]
  · rw [if_neg hj]

theorem map_modify_of {β : Type*} {l : List α} {i : Nat} {f : α → β} {g : α → α} (hf : ∀ a, f (g a) = f a) :
    (l.modify i g).map f = l.map f := by
  apply List.ext_getElem?
  intro j
  rw [List.getElem?_map, List.getElem?_map, List.getElem?_modify]
  cases l[j]? with
  | none => rfl
  | some a => by_cases hj : i = j <;> simp [hj, hf]

theorem countP_mapIdx {l : List α} {f : Nat → α → α} {p : α → Bool} (h : ∀ i a, p (f i a) = p a) :
    (l.mapIdx f).countP p = l.countP p := by
  induction l generalizing f with
  | nil => rfl
  | cons a l ih => rw [List.mapIdx_cons, List.countP_cons, List.countP_cons, h, ih fun i => h (i + 1)]

theorem map_mapIdx_of {β : Type*} {l : List α} {f : Nat → α → α} {g : α → β} (h : ∀ i a, g (f i a) = g a) :
    (l.mapIdx f).map g = l.map g := by
  induction l generalizing f with
  | nil => rfl
  | cons a l ih => rw [List.mapIdx_cons, List.map_cons, List.map_cons, h, ih fun i => h (i + 1)]

theorem forall_mapIdx {l : List α} {f : Nat → α → α} {P : Nat → α → Prop}
    (h : ∀ i a, l[i]? = some a → P i (f i a)) :
    ∀ i b, (l.mapIdx f)[i]? = some b → P i b := by
  intro i b hb
  rw [List.getElem?_mapIdx] at hb
  obtain ⟨a, ha, rfl⟩ := Option.map_eq_some_iff.mp hb
  exact h i a ha

theorem countP_range_of {l : List α} {p : α → Bool} {q : Nat → Bool} (h : ∀ i a, l[i]? = some a → p a = q i) :
    l.countP p = (List.range l.length).countP q := by
  induction l using List.reverseRecOn with
  | nil => rfl
  | append_singleton l a ih =>
    have hl : l.countP p = (List.range l.length).countP q := by
      refine ih fun i b hb => h i b ?_
      rw [List.getElem?_append_left (List.getElem?_eq_some_iff.mp hb).1]; exact hb
    have ha : p a = q l.length := h l.length a (by simp)
    simp [List.range_succ, hl, ha]

end List
