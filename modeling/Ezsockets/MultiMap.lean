import Mathlib.Data.List.Nodup
import Mathlib.Data.List.Induction
import Mathlib.Tactic.TypeStar

/-!
# Maps with several values for a key

The keys of a `MultiMap` stand in the order of their first insertion, each
with one value or more. `getAll_insert` and `getAll_append` say what the two
operations do, `getAll_foldl_insert` what a sequence of insertions does.
-/

structure Bucket (κ α : Type*) where
  key : κ
  first : α
  rest : List α

namespace Bucket

variable {κ α : Type*}

def values (b : Bucket κ α) : List α := b.first :: b.rest

def replace (v : α) (b : Bucket κ α) : Bucket κ α := { b with first := v, rest := [] }

def push (v : α) (b : Bucket κ α) : Bucket κ α := { b with rest := b.rest ++ [v] }

@[simp] theorem replace_key (v : α) (b : Bucket κ α) : (b.replace v).key = b.key := rfl
@[simp] theorem replace_values (v : α) (b : Bucket κ α) : (b.replace v).values = [v] := rfl
@[simp] theorem push_key (v : α) (b : Bucket κ α) : (b.push v).key = b.key := rfl
@[simp] theorem push_values (v : α) (b : Bucket κ α) : (b.push v).values = b.values ++ [v] := rfl

section
variable [DecidableEq κ]

/-- Changes the bucket of `k`, or adds one with the value `v`. -/
def upsert (f : Bucket κ α → Bucket κ α) (k : κ) (v : α) : List (Bucket κ α) → List (Bucket κ α)
  | [] => [⟨k, v, []⟩]
  | b :: bs => if b.key = k then f b :: bs else b :: upsert f k v bs

variable {f : Bucket κ α → Bucket κ α}

theorem keys_upsert (hf : ∀ b, (f b).key = b.key) (k : κ) (v : α) (bs : List (Bucket κ α)) :
    (upsert f k v bs).map key = if k ∈ bs.map key then bs.map key else bs.map key ++ [k] := by
  induction bs with
  | nil => simp [upsert]
  | cons b bs ih =>
    by_cases hb : b.key = k
    · simp [upsert, hb, hf]
    · simp only [upsert, hb, ite_false, List.map_cons, ih]
      by_cases hk : k ∈ bs.map key
      · simp [hk]
      · simp [hk, Ne.symm hb]

theorem nodup_upsert (hf : ∀ b, (f b).key = b.key) (k : κ) (v : α) {bs : List (Bucket κ α)}
    (h : (bs.map key).Nodup) : ((upsert f k v bs).map key).Nodup := by
  rw [keys_upsert hf]
  by_cases hk : k ∈ bs.map key
  · simpa [hk] using h
  · simp only [hk, ite_false]
    apply h.append (List.nodup_singleton k)
    simpa using hk

theorem find?_upsert (hf : ∀ b, (f b).key = b.key) (k : κ) (v : α) (bs : List (Bucket κ α)) (j : κ) :
    (upsert f k v bs).find? (·.key = j) =
      if j = k then some (((bs.find? (·.key = k)).map f).getD ⟨k, v, []⟩) else bs.find? (·.key = j) := by
  induction bs with
  | nil => by_cases hj : j = k <;> simp [upsert, hj, eq_comm]
  | cons b bs ih =>
    by_cases hb : b.key = k
    · by_cases hj : j = k
      · simp [upsert, hb, hf, hj]
      · simp [upsert, hb, hf, hj, Ne.symm hj]
    · by_cases hbj : b.key = j
      · have hj : j ≠ k := by rw [← hbj]; exact hb
        simp [upsert, hbj, hj]
      · simp [upsert, hb, hbj, ih]

theorem upsert_absent {k : κ} {v : α} {bs : List (Bucket κ α)} (h : k ∉ bs.map key) :
    upsert f k v bs = bs ++ [⟨k, v, []⟩] := by
  induction bs with
  | nil => simp [upsert]
  | cons b bs ih =>
    simp only [List.map_cons, List.mem_cons, not_or] at h
    simp [upsert, Ne.symm h.1, ih h.2]

theorem upsert_last {b : Bucket κ α} {v : α} {bs : List (Bucket κ α)} (h : b.key ∉ bs.map key) :
    upsert f b.key v (bs ++ [b]) = bs ++ [f b] := by
  induction bs with
  | nil => simp [upsert]
  | cons c bs ih =>
    simp only [List.map_cons, List.mem_cons, not_or] at h
    simp [upsert, Ne.symm h.1, ih h.2]

theorem upsert_rest {k : κ} {v : α} {bs : List (Bucket κ α)} (h : ∀ b ∈ bs, b.rest = []) :
    ∀ b ∈ upsert (replace v) k v bs, b.rest = [] := by
  induction bs with
  | nil => simp [upsert]
  | cons b bs ih =>
    simp only [List.forall_mem_cons] at h
    by_cases hb : b.key = k
    · simp [upsert, hb, replace]
      exact h.2
    · simp [upsert, hb, h.1]
      exact ih h.2

end

end Bucket

structure MultiMap (κ α : Type*) where
  buckets : List (Bucket κ α)
  nodup : (buckets.map Bucket.key).Nodup

namespace MultiMap

variable {κ α : Type*}

@[ext] theorem ext {m n : MultiMap κ α} (h : m.buckets = n.buckets) : m = n := by
  cases m
  cases n
  simpa using h

def empty : MultiMap κ α := ⟨[], by simp⟩

def keys (m : MultiMap κ α) : List κ := m.buckets.map Bucket.key

/-- Every key with each of its values. -/
def iter (m : MultiMap κ α) : List (κ × α) := m.buckets.flatMap fun b => b.values.map (Prod.mk b.key)

/-- Names a key with the first of its values only. -/
def intoIter (m : MultiMap κ α) : List (Option κ × α) :=
  m.buckets.flatMap fun b => (some b.key, b.first) :: b.rest.map (Prod.mk none)

def Single (m : MultiMap κ α) : Prop := ∀ b ∈ m.buckets, b.rest = []

theorem single_empty : (empty : MultiMap κ α).Single := by simp [Single, empty]

theorem intoIter_single {m : MultiMap κ α} (h : m.Single) : m.intoIter = m.iter.map fun p => (some p.1, p.2) := by
  obtain ⟨bs, hn⟩ := m
  simp only [Single, intoIter, iter] at h ⊢
  clear hn
  induction bs with
  | nil => rfl
  | cons b bs ih =>
    simp only [List.forall_mem_cons] at h
    simp [Bucket.values, h.1, ih h.2]

section
variable [DecidableEq κ]

def bucket? (m : MultiMap κ α) (k : κ) : Option (Bucket κ α) := m.buckets.find? (·.key = k)

def get (m : MultiMap κ α) (k : κ) : Option α := (m.bucket? k).map Bucket.first

def getAll (m : MultiMap κ α) (k : κ) : List α := ((m.bucket? k).map Bucket.values).getD []

def insert (m : MultiMap κ α) (k : κ) (v : α) : MultiMap κ α :=
  ⟨Bucket.upsert (Bucket.replace v) k v m.buckets, Bucket.nodup_upsert (by simp) k v m.nodup⟩

def append (m : MultiMap κ α) (k : κ) (v : α) : MultiMap κ α :=
  ⟨Bucket.upsert (Bucket.push v) k v m.buckets, Bucket.nodup_upsert (by simp) k v m.nodup⟩

theorem get_eq_head? (m : MultiMap κ α) (k : κ) : m.get k = (m.getAll k).head? := by
  unfold get getAll
  cases m.bucket? k <;> simp [Bucket.values]

@[simp] theorem getAll_empty (k : κ) : (empty : MultiMap κ α).getAll k = [] := rfl

theorem getAll_insert (m : MultiMap κ α) (k : κ) (v : α) (j : κ) :
    (m.insert k v).getAll j = if j = k then [v] else m.getAll j := by
  simp only [getAll, bucket?, insert, Bucket.find?_upsert (Bucket.replace_key v)]
  by_cases hj : j = k
  · cases m.buckets.find? (·.key = k) <;> simp [hj, Bucket.values, Bucket.replace]
  · simp [hj]

theorem getAll_append (m : MultiMap κ α) (k : κ) (v : α) (j : κ) :
    (m.append k v).getAll j = if j = k then m.getAll k ++ [v] else m.getAll j := by
  simp only [getAll, bucket?, append, Bucket.find?_upsert (Bucket.push_key v)]
  by_cases hj : j = k
  · cases m.buckets.find? (·.key = k) <;> simp [hj, Bucket.values, Bucket.push]
  · simp [hj]

/-! ## Sequences of insertions -/

def insertAll (m : MultiMap κ α) (ps : List (κ × α)) : MultiMap κ α := ps.foldl (fun m p => m.insert p.1 p.2) m

def appendAll (m : MultiMap κ α) (ps : List (κ × α)) : MultiMap κ α := ps.foldl (fun m p => m.append p.1 p.2) m

def valuesOf (ps : List (κ × α)) (k : κ) : List α := (ps.filter (·.1 = k)).map Prod.snd

@[simp] theorem valuesOf_append (ps qs : List (κ × α)) (k : κ) :
    valuesOf (ps ++ qs) k = valuesOf ps k ++ valuesOf qs k := by
  simp [valuesOf]

theorem getAll_insertAll (m : MultiMap κ α) (ps : List (κ × α)) (k : κ) :
    (m.insertAll ps).getAll k = match (valuesOf ps k).getLast? with
      | some v => [v]
      | none => m.getAll k := by
  induction ps using List.reverseRecOn with
  | nil => rfl
  | append_singleton ps p ih =>
    simp only [insertAll, List.foldl_append, List.foldl_cons, List.foldl_nil, getAll_insert, valuesOf_append]
    by_cases hk : p.1 = k
    · simp [valuesOf, hk]
    · rw [if_neg (Ne.symm hk)]
      simpa [insertAll, valuesOf, hk] using ih

theorem single_insert {m : MultiMap κ α} (h : m.Single) (k : κ) (v : α) : (m.insert k v).Single :=
  Bucket.upsert_rest h

theorem single_insertAll {m : MultiMap κ α} (h : m.Single) (ps : List (κ × α)) : (m.insertAll ps).Single := by
  induction ps generalizing m with
  | nil => exact h
  | cons p ps ih => exact ih (single_insert h p.1 p.2)

theorem valuesOf_bucket (b : Bucket κ α) (k : κ) :
    valuesOf (b.values.map (Prod.mk b.key)) k = if b.key = k then b.values else [] := by
  by_cases hk : b.key = k
  · simp [valuesOf, hk, List.filter_map, Function.comp_def]
  · simp [valuesOf, hk, List.filter_map, Function.comp_def]

theorem valuesOf_iter (m : MultiMap κ α) (k : κ) : valuesOf m.iter k = m.getAll k := by
  obtain ⟨bs, hn⟩ := m
  simp only [iter, getAll, bucket?]
  induction bs with
  | nil => rfl
  | cons b bs ih =>
    simp only [List.map_cons, List.nodup_cons] at hn
    simp only [List.flatMap_cons, valuesOf_append, valuesOf_bucket, ih hn.2]
    by_cases hk : b.key = k
    · have hnone : bs.find? (·.key = k) = none := by
        rw [← hk]
        simpa [List.find?_eq_none] using hn.1
      simp [hk, hnone]
    · simp [hk]

theorem appendAll_values {m : MultiMap κ α} {b : Bucket κ α} (h : b.key ∉ m.keys) :
    (m.appendAll (b.values.map (Prod.mk b.key))).buckets = m.buckets ++ [b] := by
  obtain ⟨k, v, vs⟩ := b
  induction vs using List.reverseRecOn with
  | nil => exact Bucket.upsert_absent h
  | append_singleton vs w ih =>
    simp only [Bucket.values, appendAll, List.map_cons, List.map_append, List.map_nil, ← List.cons_append,
      List.foldl_append] at ih ⊢
    simp only [List.foldl_cons, List.foldl_nil, append] at ih ⊢
    rw [ih h]
    exact Bucket.upsert_last (f := Bucket.push w) (b := ⟨k, v, vs⟩) h

/-- Appending every value again rebuilds the map. -/
theorem appendAll_iter (m : MultiMap κ α) : empty.appendAll m.iter = m := by
  obtain ⟨bs, hn⟩ := m
  apply ext
  induction bs using List.reverseRecOn with
  | nil => rfl
  | append_singleton bs b ih =>
    simp only [List.map_append, List.map_cons, List.map_nil] at hn
    have hb : b.key ∉ bs.map Bucket.key := by
      have := List.disjoint_of_nodup_append hn
      simpa [List.disjoint_singleton] using this
    have hbs := ih hn.of_append_left
    simp only [iter, List.flatMap_append, List.flatMap_cons, List.flatMap_nil, List.append_nil, appendAll,
      List.foldl_append] at hbs ⊢
    have hk := appendAll_values (m := (bs.flatMap fun b => b.values.map (Prod.mk b.key)).foldl
      (fun m p => m.append p.1 p.2) empty) (b := b) (by simpa [keys, hbs] using hb)
    rw [hbs] at hk
    exact hk

end

end MultiMap
