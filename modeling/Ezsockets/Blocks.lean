import Mathlib.Data.List.Nodup

/-!
# Consecutive blocks

A cursor runs over a sequence, and what it passes goes to the last of a
growing list of blocks or to none. Each block is a half open interval of
indices; none reaches into the next, and none beyond the cursor.
-/

structure Block where
  start : Nat
  stop : Nat

def Block.indices (c : Block) : List Nat := List.range' c.start (c.stop - c.start)

structure Blocks where
  cursor : Nat
  cuts : List Block
  proper : ∀ c ∈ cuts, c.start ≤ c.stop
  ordered : cuts.Pairwise fun c d => c.stop ≤ d.start
  below : ∀ c ∈ cuts, c.stop ≤ cursor

theorem Block.mem_indices {c : Block} {n : Nat} : n ∈ c.indices ↔ c.start ≤ n ∧ n < c.stop := by
  rw [indices, List.mem_range'_1]
  omega

theorem Block.indices_empty (n : Nat) : (Block.mk n n).indices = [] := by simp [indices]

theorem Block.indices_succ {a n : Nat} (h : a ≤ n) :
    (Block.mk a (n + 1)).indices = (Block.mk a n).indices ++ [n] := by
  have hl : n + 1 - a = n - a + 1 := by omega
  have hn : a + (n - a) = n := by omega
  simp only [indices]
  rw [hl, List.range'_1_concat, hn]

theorem List.filterMap_range' {α : Type*} (l : List α) (a n : Nat) :
    (List.range' a n).filterMap (l[·]?) = (l.drop a).take n := by
  induction n generalizing a with
  | zero => simp
  | succ n ih =>
    rw [List.range'_succ, List.filterMap_cons, ih]
    cases h : l[a]? with
    | none =>
      have ha : l.length ≤ a := List.getElem?_eq_none_iff.mp h
      rw [List.drop_eq_nil_of_le ha, List.drop_eq_nil_of_le (by omega), List.take_nil, List.take_nil]
    | some x =>
      obtain ⟨ha, rfl⟩ := List.getElem?_eq_some_iff.mp h
      rw [List.drop_eq_getElem_cons ha, List.take_succ_cons]

namespace Blocks

def empty : Blocks where
  cursor := 0
  cuts := []
  proper _ h := by cases h
  ordered := .nil
  below _ h := by cases h

/-- The cursor passes an element that no block gets. -/
def skip (b : Blocks) : Blocks where
  cursor := b.cursor + 1
  cuts := b.cuts
  proper := b.proper
  ordered := b.ordered
  below c h := Nat.le_succ_of_le (b.below c h)

/-- A new block begins at the cursor. -/
def append (b : Blocks) : Blocks where
  cursor := b.cursor
  cuts := b.cuts ++ [⟨b.cursor, b.cursor⟩]
  proper c h := by
    rcases List.mem_append.mp h with h | h
    · exact b.proper c h
    · cases List.mem_singleton.mp h; exact Nat.le_refl _
  ordered := by
    refine List.pairwise_append.mpr ⟨b.ordered, List.pairwise_singleton _ _, fun c hc d hd => ?_⟩
    rw [List.mem_singleton.mp hd]
    exact b.below c hc
  below c h := by
    rcases List.mem_append.mp h with h | h
    · exact b.below c h
    · cases List.mem_singleton.mp h; exact Nat.le_refl _

/-- The last block is `[a, cursor)`, and `cs` are those before it. -/
def Last (b : Blocks) (cs : List Block) (a : Nat) : Prop := b.cuts = cs ++ [⟨a, b.cursor⟩]

theorem append_last (b : Blocks) : b.append.Last b.cuts b.cursor := rfl

theorem Last.start_le {b : Blocks} {cs : List Block} {a : Nat} (h : b.Last cs a) : a ≤ b.cursor :=
  b.proper ⟨a, b.cursor⟩ (by rw [h]; simp)

/-- The cursor passes an element that the last block gets. -/
def extend (b : Blocks) {cs : List Block} {a : Nat} (h : b.Last cs a) : Blocks where
  cursor := b.cursor + 1
  cuts := cs ++ [⟨a, b.cursor + 1⟩]
  proper c hc := by
    rcases List.mem_append.mp hc with hc | hc
    · exact b.proper c (by rw [h]; exact List.mem_append_left _ hc)
    · rw [List.mem_singleton.mp hc]
      exact Nat.le_succ_of_le h.start_le
  ordered := by
    have ho := b.ordered
    rw [h] at ho
    obtain ⟨hcs, -, hl⟩ := List.pairwise_append.mp ho
    refine List.pairwise_append.mpr ⟨hcs, List.pairwise_singleton _ _, fun c hc d hd => ?_⟩
    rw [List.mem_singleton.mp hd]
    exact hl c hc ⟨a, b.cursor⟩ (List.mem_singleton_self _)
  below c hc := by
    rcases List.mem_append.mp hc with hc | hc
    · exact Nat.le_succ_of_le (b.below c (by rw [h]; exact List.mem_append_left _ hc))
    · cases List.mem_singleton.mp hc; exact Nat.le_refl _

theorem extend_last (b : Blocks) {cs : List Block} {a : Nat} (h : b.Last cs a) : (b.extend h).Last cs a := rfl

/-- No index is in two blocks, or twice in one. -/
theorem nodup (b : Blocks) : (b.cuts.flatMap Block.indices).Nodup := by
  rw [List.nodup_flatMap]
  refine ⟨fun c _ => List.nodup_range', b.ordered.imp fun {c d} h n hc hd => ?_⟩
  have hc := Block.mem_indices.mp hc
  have hd := Block.mem_indices.mp hd
  omega

/-! ## The bounds of the `k`th block, or the cursor when it has not begun -/

def start (b : Blocks) (k : Nat) : Nat :=
  match b.cuts[k]? with
  | some c => c.start
  | none => b.cursor

def stop (b : Blocks) (k : Nat) : Nat :=
  match b.cuts[k]? with
  | some c => c.stop
  | none => b.cursor

theorem bounds_eq {b : Blocks} {k : Nat} {c : Block} (h : b.cuts[k]? = some c) : c = ⟨b.start k, b.stop k⟩ := by
  simp only [start, stop, h]

theorem start_le_stop (b : Blocks) (k : Nat) : b.start k ≤ b.stop k := by
  unfold start stop
  cases h : b.cuts[k]? with
  | none => exact Nat.le_refl _
  | some c => exact b.proper c (List.mem_of_getElem? h)

theorem stop_le (b : Blocks) (k : Nat) : b.stop k ≤ b.cursor := by
  unfold stop
  cases h : b.cuts[k]? with
  | none => exact Nat.le_refl _
  | some c => exact b.below c (List.mem_of_getElem? h)

theorem stop_le_start (b : Blocks) {i j : Nat} (hij : i < j) : b.stop i ≤ b.start j := by
  cases hj : b.cuts[j]? with
  | none => simp only [start, hj]; exact b.stop_le i
  | some d =>
    obtain ⟨hl, hd⟩ := List.getElem?_eq_some_iff.mp hj
    have hi : i < b.cuts.length := by omega
    simp only [start, stop, hj, List.getElem?_eq_getElem hi, ← hd]
    exact List.pairwise_iff_getElem.mp b.ordered i j hi hl hij

end Blocks
