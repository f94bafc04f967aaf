import Mathlib.Data.List.DropRight
import Mathlib.Tactic.TypeStar

/-!
# The elements of a separated list

A text is split at a separator and blanks are trimmed from both ends of each
piece. `mem_elements` says which texts that yields, without a reference to
the functions that compute them.
-/

namespace Pieces

variable {α : Type*} {p : α → Bool}

/-! ## Trimming -/

def trim (p : α → Bool) (l : List α) : List α := (l.dropWhile p).rdropWhile p

/-- `t` is `l` without the blanks at its ends. -/
structure Trimmed (p : α → Bool) (l t : List α) : Prop where
  split : ∃ left right, l = left ++ t ++ right ∧ (∀ x ∈ left, p x) ∧ ∀ x ∈ right, p x
  head : ∀ x ∈ t.head?, ¬ p x
  last : ∀ x ∈ t.getLast?, ¬ p x

theorem rdropWhile_append {t right : List α} (h : ∀ x ∈ right, p x) :
    (t ++ right).rdropWhile p = t.rdropWhile p := by
  induction right using List.reverseRecOn with
  | nil => simp
  | append_singleton right x ih =>
    rw [← List.append_assoc, List.rdropWhile_concat_pos _ _ _ (h x (by simp))]
    apply ih
    intro y hy
    exact h y (by simp [hy])

theorem head?_dropWhile (l : List α) : ∀ x ∈ (l.dropWhile p).head?, ¬ p x := by
  induction l with
  | nil => simp
  | cons a l ih =>
    by_cases ha : p a
    · simpa [List.dropWhile, ha] using ih
    · simp [List.dropWhile, ha]

theorem trimmed_trim (l : List α) : Trimmed p l (trim p l) where
  split := by
    refine ⟨l.takeWhile p, (l.dropWhile p).rtakeWhile p, ?_, ?_, ?_⟩
    · rw [List.append_assoc, trim, List.rdropWhile_append_rtakeWhile, List.takeWhile_append_dropWhile]
    · intro x hx
      exact List.mem_takeWhile_imp hx
    · intro x hx
      exact List.mem_rtakeWhile_imp hx
  head := by
    intro x hx
    have hp : trim p l <+: l.dropWhile p := List.rdropWhile_prefix p _
    apply head?_dropWhile l x
    cases ht : trim p l with
    | nil => simp [ht] at hx
    | cons y t =>
      obtain ⟨after, ha⟩ := hp
      rw [← ha, ht]
      simpa [ht] using hx
  last := by
    intro x hx
    have hne : trim p l ≠ [] := by
      intro h
      simp [h] at hx
    rw [List.getLast?_eq_some_getLast hne] at hx
    cases hx
    exact List.rdropWhile_last_not p _ hne

theorem Trimmed.trim_eq {l t : List α} (h : Trimmed p l t) : trim p l = t := by
  obtain ⟨left, right, rfl, hl, hr⟩ := h.split
  rw [trim, List.append_assoc, List.dropWhile_append_of_pos hl]
  cases t with
  | nil =>
    have hd : right.dropWhile p = [] := List.dropWhile_eq_nil_iff.mpr hr
    simp [hd]
  | cons x t =>
    have hx : ¬ p x := h.head x (by simp)
    rw [List.cons_append, List.dropWhile_cons_of_neg hx, ← List.cons_append, rdropWhile_append hr,
      List.rdropWhile_eq_self_iff]
    intro hl
    exact h.last _ (List.getLast?_eq_some_getLast hl)

theorem trim_eq_iff {l t : List α} : trim p l = t ↔ Trimmed p l t := by
  constructor
  · intro h
    rw [← h]
    exact trimmed_trim l
  · exact Trimmed.trim_eq

/-! ## Splitting -/

/-- `piece` lies between two separators or ends of `l`. -/
structure IsPiece (a : α) (l piece : List α) : Prop where
  notMem : a ∉ piece
  split : ∃ before after, l = before ++ piece ++ after ∧ (∀ x ∈ before.getLast?, x = a) ∧ ∀ x ∈ after.head?, x = a

theorem first_separator {a : α} {xs ys l m : List α} (hx : a ∉ xs) (hy : a ∉ ys)
    (h : xs ++ a :: l = ys ++ a :: m) : xs = ys ∧ l = m := by
  induction xs generalizing ys with
  | nil =>
    cases ys with
    | nil => simpa using h
    | cons y ys =>
      simp only [List.nil_append, List.cons_append, List.cons.injEq] at h
      simp [h.1] at hy
  | cons x xs ih =>
    simp only [List.mem_cons, not_or] at hx
    cases ys with
    | nil =>
      simp only [List.nil_append, List.cons_append, List.cons.injEq] at h
      exact absurd h.1.symm hx.1
    | cons y ys =>
      simp only [List.mem_cons, not_or] at hy
      simp only [List.cons_append, List.cons.injEq] at h
      obtain ⟨h₁, h₂⟩ := ih hx.2 hy.2 h.2
      simp [h.1, h₁, h₂]

theorem isPiece_of_notMem {a : α} {l piece : List α} (h : a ∉ l) : IsPiece a l piece ↔ piece = l := by
  constructor
  · intro hp
    obtain ⟨before, after, rfl, hb, ha⟩ := hp.split
    have hbefore : before = [] := by
      cases hbl : before.getLast? with
      | none => simpa using hbl
      | some x =>
        have := List.mem_of_getLast? hbl
        simp [hb x hbl] at this
        simp [this] at h
    have hafter : after = [] := by
      cases after with
      | nil => rfl
      | cons x after => simp [ha x (by simp)] at h
    simp [hbefore, hafter]
  · intro hp
    subst hp
    exact ⟨h, [], [], by simp⟩

theorem isPiece_append_cons {a : α} {xs l piece : List α} (h : a ∉ xs) :
    IsPiece a (xs ++ a :: l) piece ↔ piece = xs ∨ IsPiece a l piece := by
  constructor
  · intro hp
    obtain ⟨before, after, he, hb, ha⟩ := hp.split
    cases before using List.reverseRecOn with
    | nil =>
      left
      cases after with
      | nil =>
        have : a ∈ piece := by
          simp only [List.nil_append, List.append_nil] at he
          simp [← he]
        exact absurd this hp.notMem
      | cons x after =>
        cases ha x (by simp)
        simp only [List.nil_append] at he
        exact (first_separator h hp.notMem he).1.symm
    | append_singleton before x _ =>
      right
      cases hb x (by simp)
      simp only [List.append_assoc, List.cons_append, List.nil_append] at he
      by_cases hm : a ∈ before
      · obtain ⟨ys, zs, rfl, hy⟩ := List.eq_append_cons_of_mem hm
        simp only [List.append_assoc, List.cons_append] at he
        have hl := (first_separator h hy he).2
        refine ⟨hp.notMem, zs ++ [a], after, ?_, by simp, ha⟩
        simp [hl]
      · have hl := (first_separator h hm he).2
        exact ⟨hp.notMem, [], after, by simp [hl], by simp, ha⟩
  · intro hp
    rcases hp with rfl | hp
    · exact ⟨h, [], a :: l, by simp⟩
    · obtain ⟨before, after, rfl, hb, ha⟩ := hp.split
      refine ⟨hp.notMem, xs ++ a :: before, after, by simp, ?_, ha⟩
      intro x hx
      cases before using List.reverseRecOn with
      | nil => simpa [eq_comm] using hx
      | append_singleton before y _ =>
        apply hb
        rw [List.getLast?_append, List.getLast?_cons] at hx
        simpa using hx

theorem mem_splitOn_iff [DecidableEq α] {a : α} {l piece : List α} : piece ∈ l.splitOn a ↔ IsPiece a l piece := by
  induction hn : l.length using Nat.strong_induction_on generalizing l with
  | _ n ih =>
    by_cases ha : a ∈ l
    · obtain ⟨xs, ys, rfl, hx⟩ := List.eq_append_cons_of_mem ha
      rw [List.splitOn_append_cons_self_of_not_mem hx, List.mem_cons, isPiece_append_cons hx,
        ih ys.length (by simp at hn; omega) rfl]
    · rw [List.splitOn_eq_singleton ha, isPiece_of_notMem ha, List.mem_singleton]

/-! ## Elements -/

def elements [DecidableEq α] (p : α → Bool) (a : α) (l : List α) : List (List α) := (l.splitOn a).map (trim p)

/-- `t` is an element of the list that `l` spells. -/
def IsElement (p : α → Bool) (a : α) (l t : List α) : Prop := ∃ piece, IsPiece a l piece ∧ Trimmed p piece t

theorem mem_elements [DecidableEq α] {a : α} {l t : List α} : t ∈ elements p a l ↔ IsElement p a l t := by
  simp only [elements, List.mem_map, mem_splitOn_iff, trim_eq_iff, IsElement]

theorem IsElement.isInfix {a : α} {l t : List α} (h : IsElement p a l t) : t <:+: l := by
  obtain ⟨piece, hp, ht⟩ := h
  obtain ⟨before, after, rfl, _⟩ := hp.split
  obtain ⟨left, right, rfl, _⟩ := ht.split
  exact ⟨before ++ left, right ++ after, by simp⟩

end Pieces
