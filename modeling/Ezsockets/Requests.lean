import Ezsockets.Lts
import Ezsockets.ListLemmas
import Mathlib.Data.List.Nodup

/-!
# Requests and their answers

A system reads requests from an inbox. A request is numbered by its caller
and carries a handle that one answer can be given to. The handle is in the
inbox, then with whoever took the request; it ends with an answer, or it is
dropped and the caller is told so (`settle`).
-/

/-- A system and what its callers see of it. `called` lists the requests that were handed to a handler. -/
structure Inbox (σ α Q : Type*) where
  step : σ → α → Option σ
  call : Q → Nat → α
  tickets : σ → List Nat
  called : σ → List Nat
  closed : σ → Bool
  takes : α → Bool
  -- the steps that put no request with a handle into the inbox
  plain : α → Bool
  -- a caller keeps the system within reach while it waits
  reachable : σ → Bool
  lastHandle : α → Bool

structure Inbox.Laws {σ α Q : Type*} (I : Inbox σ α Q) (s₀ : σ) : Prop where
  start : I.called s₀ ++ I.tickets s₀ = []
  accepted {s t : σ} {q : Q} {n : Nat} : Lts.Reach I.step s₀ s → I.reachable s = true →
    I.step s (I.call q n) = some t → I.tickets t = I.tickets s ++ if I.closed s then [] else [n]
  takes {s t : σ} {a : α} : Lts.Reach I.step s₀ s → I.plain a = true → I.takes a = true → I.step s a = some t →
    ∃ l, I.tickets s = l ++ I.tickets t ∧ I.called t = I.called s ++ l
  drops {s t : σ} {a : α} : Lts.Reach I.step s₀ s → I.plain a = true → I.takes a = false → I.step s a = some t →
    I.tickets t = I.tickets s ∨ I.tickets t = [] ∧ I.closed t = true
  keeps {s t : σ} {a : α} :
    Lts.Reach I.step s₀ s → I.takes a = false → I.step s a = some t → I.called t = I.called s
  stays {s t : σ} {a : α} : Lts.Reach I.step s₀ s → I.closed s = true → I.step s a = some t → I.closed t = true
  untaken (q : Q) (n : Nat) : I.takes (I.call q n) = false

inductive Answer (R : Type*) where
  | waiting
  | answered (res : Option R)
  | cancelled

def Answer.isWaiting {R : Type*} : Answer R → Bool
  | .waiting => true
  | _ => false

def Answer.settle {R : Type*} (res : Option R) : Answer R → Answer R
  | .waiting => .answered res
  | .answered r => .answered r
  | .cancelled => .cancelled

structure Requests (σ R : Type*) where
  system : σ
  callers : List (Answer R)
  held : List Nat
  answers : List (Nat × R)
  forgotten : List Nat

inductive RequestAct (α Q R : Type*) where
  | call (q : Q)
  | act (a : α)
  | answer (n : Nat) (r : R)
  | forget (n : Nat)
  | cancel (n : Nat)

namespace Requests

variable {σ α Q R : Type*}

def start (s : σ) : Requests σ R := ⟨s, [], [], [], []⟩

def settle (callers : List (Answer R)) (ns : List Nat) (res : Option R) : List (Answer R) :=
  callers.mapIdx fun n c => if n ∈ ns then c.settle res else c

def step (I : Inbox σ α Q) (s : Requests σ R) : RequestAct α Q R → Option (Requests σ R)
  | .call q =>
    if I.reachable s.system then
      match I.step s.system (I.call q s.callers.length) with
      | some t =>
        let caller := if I.closed s.system then .answered none else .waiting
        some { s with system := t, callers := s.callers ++ [caller] }
      | none => none
    else none
  | .act a =>
    if I.plain a && !(I.lastHandle a && s.callers.any (·.isWaiting)) then
      match I.step s.system a with
      | some t =>
        let left := (I.tickets s.system).take ((I.tickets s.system).length - (I.tickets t).length)
        if I.takes a then some { s with system := t, held := s.held ++ left }
        else some { s with system := t, callers := settle s.callers left none }
      | none => none
    else none
  | .answer n r =>
    if n ∈ s.held then
      some { s with
        held := s.held.erase n, callers := settle s.callers [n] (some r), answers := s.answers ++ [(n, r)] }
    else none
  | .forget n =>
    if n ∈ s.held then
      some { s with held := s.held.erase n, callers := settle s.callers [n] none, forgotten := s.forgotten ++ [n] }
    else none
  | .cancel n =>
    match s.callers[n]? with
    | some .waiting => some { s with callers := s.callers.set n .cancelled }
    | _ => none

/-- What a step can do while the system keeps its promises. -/
inductive Step (I : Inbox σ α Q) (s : Requests σ R) : RequestAct α Q R → Requests σ R → Prop
  | call {q u} : I.reachable s.system = true → I.step s.system (I.call q s.callers.length) = some u →
      Step I s (.call q) { s with
        system := u, callers := s.callers ++ [if I.closed s.system then .answered none else .waiting] }
  | take {a u left} : I.plain a = true → I.takes a = true → I.step s.system a = some u →
      I.tickets s.system = left ++ I.tickets u → I.called u = I.called s.system ++ left →
      (I.lastHandle a = true → ∀ c ∈ s.callers, c.isWaiting = false) →
      Step I s (.act a) { s with system := u, held := s.held ++ left }
  | drop {a u left} : I.plain a = true → I.takes a = false → I.step s.system a = some u →
      I.tickets s.system = left ++ I.tickets u → (left ≠ [] → I.closed u = true) →
      (I.lastHandle a = true → ∀ c ∈ s.callers, c.isWaiting = false) →
      Step I s (.act a) { s with system := u, callers := settle s.callers left none }
  | answer {n} (r : R) : n ∈ s.held → Step I s (.answer n r) { s with
      held := s.held.erase n, callers := settle s.callers [n] (some r), answers := s.answers ++ [(n, r)] }
  | forget {n} : n ∈ s.held → Step I s (.forget n) { s with
      held := s.held.erase n, callers := settle s.callers [n] none, forgotten := s.forgotten ++ [n] }
  | cancel {n} : s.callers[n]? = some .waiting →
      Step I s (.cancel n) { s with callers := s.callers.set n .cancelled }

/-! ## What every step keeps -/

def Fits (I : Inbox σ α Q) (s : Requests σ R) (n : Nat) : Answer R → Prop
  | .waiting => n ∈ s.held ∨ n ∈ I.tickets s.system
  | .answered (some r) => (n, r) ∈ s.answers
  | .answered none => n ∈ s.forgotten ∨
      n ∉ I.called s.system ∧ n ∉ I.tickets s.system ∧ I.closed s.system = true
  | .cancelled => True

/-- Requests are handled in the order they were made, and each handle that came out is held, used or forgotten. -/
structure Sound (I : Inbox σ α Q) (s₀ : σ) (s : Requests σ R) : Prop where
  reach : Lts.Reach I.step s₀ s.system
  order : (I.called s.system ++ I.tickets s.system).Pairwise (· < ·)
  known : ∀ n ∈ I.called s.system ++ I.tickets s.system, n < s.callers.length
  spent : (s.answers.map (·.1) ++ s.forgotten ++ s.held).Perm (I.called s.system)
  fits : ∀ n c, s.callers[n]? = some c → Fits I s n c

variable {I : Inbox σ α Q} {s₀ : σ} {s t : Requests σ R} {n : Nat}

theorem Sound.start (L : I.Laws s₀) : Sound I s₀ (.start s₀ : Requests σ R) := by
  obtain ⟨hc, ht⟩ := List.append_eq_nil_iff.mp L.start
  refine ⟨.refl s₀, ?_, ?_, ?_, fun n c hn => ?_⟩
  · simp [Requests.start, hc, ht]
  · simp [Requests.start, hc, ht]
  · simp [Requests.start, hc]
  · simp [Requests.start] at hn

theorem Sound.disjoint (p : Sound I s₀ s) (hn : n ∈ I.called s.system) : n ∉ I.tickets s.system := by
  intro hq
  exact absurd ((List.pairwise_append.mp p.order).2.2 n hn n hq) (Nat.lt_irrefl n)

theorem Sound.nodup (p : Sound I s₀ s) : (s.answers.map (·.1) ++ s.forgotten ++ s.held).Nodup :=
  p.spent.nodup_iff.mpr ((List.pairwise_append.mp p.order).1.imp Nat.ne_of_lt)

theorem forall_settle {callers : List (Answer R)} {ns : List Nat} {res : Option R} {P : Nat → Answer R → Prop}
    (hw : ∀ n ∈ ns, callers[n]? = some .waiting → P n (.answered res))
    (hl : ∀ n c, callers[n]? = some c → (n ∈ ns → c.isWaiting = false) → P n c) :
    ∀ n c, (settle callers ns res)[n]? = some c → P n c := by
  apply List.forall_mapIdx
  intro n c hc
  by_cases hn : n ∈ ns
  · rw [if_pos hn]
    cases c with
    | waiting => exact hw n hn hc
    | answered r => exact hl n _ hc fun _ => rfl
    | cancelled => exact hl n _ hc fun _ => rfl
  · rw [if_neg hn]
    exact hl n c hc fun h => absurd h hn

theorem settle_other {callers : List (Answer R)} {ns : List Nat} {res : Option R} (hn : n ∉ ns) :
    (settle callers ns res)[n]? = callers[n]? := by
  unfold settle
  rw [List.getElem?_mapIdx]
  simp only [if_neg hn, Option.map_id']

theorem settle_cancelled {callers : List (Answer R)} {ns : List Nat} {res : Option R}
    (h : callers[n]? = some .cancelled) : (settle callers ns res)[n]? = some .cancelled := by
  unfold settle
  rw [List.getElem?_mapIdx, h, Option.map_some]
  split <;> rfl

theorem Sound.call (L : I.Laws s₀) (p : Sound I s₀ s) {q : Q} {u : σ} (hr : I.reachable s.system = true)
    (h : I.step s.system (I.call q s.callers.length) = some u) : Sound I s₀ { s with
      system := u, callers := s.callers ++ [if I.closed s.system then .answered none else .waiting] } := by
  have ht := L.accepted p.reach hr h
  have hk := L.keeps p.reach (L.untaken ..) h
  have hlt : ∀ n ∈ (if I.closed s.system then [] else [s.callers.length]), n = s.callers.length := by
    intro n hn
    split at hn
    · cases hn
    · exact List.mem_singleton.mp hn
  have hnew : ∀ n ∈ I.called s.system ++ I.tickets s.system, n ≠ s.callers.length :=
    fun n hn => Nat.ne_of_lt (p.known n hn)
  rw [List.forall_mem_append] at hnew
  refine ⟨p.reach.tail h, ?_, ?_, ?_, List.forall_append_one ?_ fun n c hn => ?_⟩
  · rw [hk, ht, ← List.append_assoc, List.pairwise_append]
    refine ⟨p.order, ?_, fun n hn m hm => ?_⟩
    · split <;> simp
    · rw [hlt m hm]; exact p.known n hn
  · intro n hn
    rw [hk, ht, ← List.append_assoc] at hn
    rw [List.length_append, List.length_singleton]
    rcases List.mem_append.mp hn with hn | hn
    · exact Nat.lt_succ_of_lt (p.known n hn)
    · rw [hlt n hn]; exact Nat.lt_succ_self _
  · rw [hk]; exact p.spent
  · cases hc : I.closed s.system with
    | true =>
      simp only [Fits, if_true, hk, ht, hc, List.append_nil]
      exact .inr ⟨fun hn => hnew.1 _ hn rfl, fun hn => hnew.2 _ hn rfl, L.stays p.reach hc h⟩
    | false => simp [Fits, ht, hc]
  · have := p.fits n c hn
    rcases c with _ | (_ | r) | _ <;> simp only [Fits, hk, ht, List.mem_append] at this ⊢
    · exact this.imp_right .inl
    · rcases this with h₁ | ⟨h₁, h₂, hc⟩
      · exact .inl h₁
      · simp only [hc, if_true, List.not_mem_nil, or_false]
        exact .inr ⟨h₁, h₂, L.stays p.reach hc h⟩
    · exact this

theorem Sound.take (L : I.Laws s₀) (p : Sound I s₀ s) {a : α} {u : σ} {left : List Nat}
    (h : I.step s.system a = some u) (hl : I.tickets s.system = left ++ I.tickets u)
    (hc : I.called u = I.called s.system ++ left) : Sound I s₀ { s with system := u, held := s.held ++ left } := by
  have hall : I.called u ++ I.tickets u = I.called s.system ++ I.tickets s.system := by
    rw [hc, List.append_assoc, hl]
  refine ⟨p.reach.tail h, ?_, ?_, ?_, fun n c hn => ?_⟩
  · rw [hall]; exact p.order
  · rw [hall]; exact p.known
  · rw [hc, ← List.append_assoc]; exact p.spent.append_right left
  · have := p.fits n c hn
    rcases c with _ | (_ | r) | _ <;> simp only [Fits, hl, hc, List.mem_append] at this ⊢
    · tauto
    · have hs := L.stays (a := a) (t := u) p.reach
      tauto
    · exact this

theorem Sound.drop (L : I.Laws s₀) (p : Sound I s₀ s) {a : α} {u : σ} {left : List Nat} (ha : I.takes a = false)
    (h : I.step s.system a = some u) (hl : I.tickets s.system = left ++ I.tickets u)
    (hclosed : left ≠ [] → I.closed u = true) :
    Sound I s₀ { s with system := u, callers := settle s.callers left none } := by
  have hk := L.keeps p.reach ha h
  have hsub : (I.called u ++ I.tickets u).Sublist (I.called s.system ++ I.tickets s.system) := by
    rw [hk, hl]
    exact (List.sublist_append_right ..).append_left _
  have hpair : (left ++ I.tickets u).Pairwise (· < ·) := by
    rw [← hl]; exact (List.pairwise_append.mp p.order).2.1
  refine ⟨p.reach.tail h, p.order.sublist hsub, ?_, ?_, forall_settle ?_ fun n c hn hw => ?_⟩
  · intro n hn
    rw [settle, List.length_mapIdx]
    exact p.known n (hsub.mem hn)
  · rw [hk]; exact p.spent
  · intro n hn _
    have hq : n ∈ I.tickets s.system := by rw [hl]; exact List.mem_append_left _ hn
    refine .inr ⟨fun hc => ?_, fun hu => ?_, hclosed (List.ne_nil_of_mem hn)⟩
    · rw [hk] at hc; exact p.disjoint hc hq
    · exact absurd ((List.pairwise_append.mp hpair).2.2 n hn n hu) (Nat.lt_irrefl n)
  · have := p.fits n c hn
    rcases c with _ | (_ | r) | _ <;> simp only [Fits, hk, hl, List.mem_append, Answer.isWaiting] at this hw ⊢
    · tauto
    · have hs := L.stays (a := a) (t := u) p.reach
      tauto
    · exact this

/-- A handle that is held is used up. -/
theorem Sound.use (p : Sound I s₀ s) (hn : n ∈ s.held) {res : Option R} {answers : List (Nat × R)}
    {forgotten : List Nat} (hp : (answers.map (·.1) ++ forgotten).Perm (n :: (s.answers.map (·.1) ++ s.forgotten)))
    (ha : s.answers ⊆ answers) (hf : s.forgotten ⊆ forgotten) (hr : ∀ r, res = some r → (n, r) ∈ answers)
    (hnone : res = none → n ∈ forgotten) : Sound I s₀ { s with
      held := s.held.erase n, callers := settle s.callers [n] res, answers := answers,
      forgotten := forgotten } := by
  refine ⟨p.reach, p.order, ?_, ?_, forall_settle ?_ fun m c hm hw => ?_⟩
  · intro m hm
    rw [settle, List.length_mapIdx]
    exact p.known m hm
  · refine (hp.append_right _).trans (List.Perm.trans ?_ p.spent)
    exact List.perm_middle.symm.trans ((List.perm_cons_erase hn).symm.append_left _)
  · intro m hm _
    rw [List.mem_singleton.mp hm]
    cases res with
    | none => exact .inl (hnone rfl)
    | some r => exact hr r rfl
  · have := p.fits m c hm
    rcases c with _ | (_ | r) | _ <;> simp only [Fits, Answer.isWaiting, List.mem_singleton] at this hw ⊢
    · refine this.imp_left fun h => (List.mem_erase_of_ne ?_).mpr h
      rintro rfl; cases hw rfl
    · exact this.imp_left fun h => hf h
    · exact ha this

theorem Sound.answer (p : Sound I s₀ s) (hn : n ∈ s.held) (r : R) : Sound I s₀ { s with
    held := s.held.erase n, callers := settle s.callers [n] (some r), answers := s.answers ++ [(n, r)] } := by
  refine p.use hn ?_ (List.subset_append_left ..) (List.Subset.refl _) (fun r' h => ?_) nofun
  · simp only [List.map_append, List.map_cons, List.map_nil, List.append_assoc, List.singleton_append]
    exact List.perm_middle
  · cases h; simp

theorem Sound.forget (p : Sound I s₀ s) (hn : n ∈ s.held) : Sound I s₀ { s with
    held := s.held.erase n, callers := settle s.callers [n] none, forgotten := s.forgotten ++ [n] } := by
  refine p.use hn ?_ (List.Subset.refl _) (List.subset_append_left ..) nofun fun _ => by simp
  rw [← List.append_assoc]
  exact List.perm_append_singleton ..

theorem Sound.cancel (p : Sound I s₀ s) (hn : s.callers[n]? = some .waiting) :
    Sound I s₀ { s with callers := s.callers.set n .cancelled } := by
  refine ⟨p.reach, p.order, ?_, p.spent, List.forall_set hn trivial fun m c _ hm => ?_⟩
  · intro m hm
    rw [List.length_set]
    exact p.known m hm
  · have := p.fits m c hm
    rcases c with _ | (_ | r) | _ <;> exact this

theorem step_cases (L : I.Laws s₀) (hr : Lts.Reach I.step s₀ s.system) {a : RequestAct α Q R}
    (h : step I s a = some t) : Step I s a t := by
  cases a with
  | call q =>
    simp only [step] at h
    split at h
    · rename_i hreach
      split at h
      · rename_i hu; cases h; exact .call hreach hu
      · cases h
    · cases h
  | act a =>
    simp only [step, Bool.and_eq_true, Bool.not_eq_true', Bool.and_eq_false_iff, List.any_eq_false] at h
    split at h
    · rename_i ha
      have hlast : I.lastHandle a = true → ∀ c ∈ s.callers, c.isWaiting = false := by
        intro hl c hc
        rcases ha.2 with h | h
        · rw [hl] at h; cases h
        · simpa using h c hc
      split at h
      · rename_i u hu
        split at h
        · rename_i ht
          obtain ⟨l, hl, hc⟩ := L.takes hr ha.1 ht hu
          have he : (I.tickets s.system).take ((I.tickets s.system).length - (I.tickets u).length) = l := by
            simp [hl]
          rw [he] at h
          cases h; exact .take ha.1 ht hu hl hc hlast
        · rename_i ht
          have ht : I.takes a = false := by simpa using ht
          rcases L.drops hr ha.1 ht hu with he | ⟨he, hc⟩
          · rw [he, Nat.sub_self, List.take_zero] at h
            cases h; exact .drop ha.1 ht hu (by rw [he]; rfl) (fun h => absurd rfl h) hlast
          · rw [he, List.length_nil, Nat.sub_zero, List.take_length] at h
            cases h; exact .drop ha.1 ht hu (by rw [he, List.append_nil]) (fun _ => hc) hlast
      · cases h
    · cases h
  | answer n r =>
    simp only [step] at h
    split at h
    · rename_i hn; cases h; exact .answer r hn
    · cases h
  | forget n =>
    simp only [step] at h
    split at h
    · rename_i hn; cases h; exact .forget hn
    · cases h
  | cancel n =>
    simp only [step] at h
    split at h
    · rename_i hn; cases h; exact .cancel hn
    · cases h

theorem step_system {a : RequestAct α Q R} (h : step I s a = some t) :
    t.system = s.system ∨ ∃ b, I.step s.system b = some t.system := by
  cases a with
  | call q =>
    simp only [step] at h
    split at h
    · split at h
      · rename_i hu; cases h; exact .inr ⟨_, hu⟩
      · cases h
    · cases h
  | act a =>
    simp only [step] at h
    split at h
    · split at h
      · rename_i hu
        split at h <;> cases h <;> exact .inr ⟨_, hu⟩
      · cases h
    · cases h
  | answer n r | forget n | cancel n =>
    simp only [step] at h
    split at h
    · cases h; exact .inl rfl
    · cases h

theorem reach_system (h : Lts.Reach (step I) s t) : Lts.Reach I.step s.system t.system := by
  refine Lts.reach_inv (I := fun t => Lts.Reach I.step s.system t.system) (.refl _) ?_ h
  intro u a v _ hu hs
  rcases step_system hs with he | ⟨b, hb⟩
  · rw [he]; exact hu
  · exact hu.tail hb

theorem Sound.step (L : I.Laws s₀) (p : Sound I s₀ s) {a : RequestAct α Q R} (h : Requests.step I s a = some t) :
    Sound I s₀ t := by
  cases step_cases L p.reach h with
  | call hr hu => exact p.call L hr hu
  | take _ _ hu hl hc => exact p.take L hu hl hc
  | drop _ ht hu hl hc => exact p.drop L ht hu hl hc
  | answer r hn => exact p.answer hn r
  | forget hn => exact p.forget hn
  | cancel hn => exact p.cancel hn

theorem reach_sound (L : I.Laws s₀) (h : Lts.Reach (Requests.step I) (.start s₀) s) : Sound I s₀ s :=
  Lts.reach_inv (.start L) (fun _ _ _ _ p hs => p.step L hs) h

/-! ## What the callers can rely on -/

/-- A caller that has not gone away waits while its handle exists, has the answer that was given to its own handle,
or was told that none comes: a handler dropped its handle, or its request was not handled by the end. -/
structure Served (I : Inbox σ α Q) (s : Requests σ R) : Prop where
  order : (I.called s.system ++ I.tickets s.system).Pairwise (· < ·)
  spent : (s.answers.map (·.1) ++ s.forgotten ++ s.held).Perm (I.called s.system)
  waiting : ∀ n c, s.callers[n]? = some c → c ≠ .cancelled → (c = .waiting ↔ n ∈ s.held ∨ n ∈ I.tickets s.system)
  answered : ∀ n c, s.callers[n]? = some c → c ≠ .cancelled → ∀ r, c = .answered (some r) ↔ (n, r) ∈ s.answers
  refused : ∀ n, s.callers[n]? = some (.answered none) →
    n ∈ s.forgotten ∨ n ∉ I.called s.system ∧ I.closed s.system = true

theorem Sound.waiting_iff (p : Sound I s₀ s) {c : Answer R} (hc : s.callers[n]? = some c) (hn : c ≠ .cancelled) :
    c = .waiting ↔ n ∈ s.held ∨ n ∈ I.tickets s.system := by
  have hf := p.fits n c hc
  have hnd := List.nodup_append.mp p.nodup
  have used : n ∈ s.answers.map (·.1) ++ s.forgotten → ¬ (n ∈ s.held ∨ n ∈ I.tickets s.system) := by
    rintro hu (hh | hq)
    · exact hnd.2.2 n hu n hh rfl
    · exact p.disjoint (p.spent.subset (List.mem_append_left _ hu)) hq
  rcases c with _ | (_ | r) | _
  · exact iff_of_true rfl hf
  · refine iff_of_false nofun ?_
    rcases hf with h | ⟨h₁, h₂, -⟩
    · exact used (List.mem_append_right _ h)
    · rintro (hh | hq)
      · exact h₁ (p.spent.subset (List.mem_append_right _ hh))
      · exact h₂ hq
  · exact iff_of_false nofun (used (List.mem_append_left _ (List.mem_map_of_mem (f := Prod.fst) hf)))
  · exact absurd rfl hn

theorem Sound.answered_iff (p : Sound I s₀ s) {c : Answer R} (hc : s.callers[n]? = some c) (hn : c ≠ .cancelled)
    (r : R) : c = .answered (some r) ↔ (n, r) ∈ s.answers := by
  have hf := p.fits n c hc
  obtain ⟨hnd, -, hheld⟩ := List.nodup_append.mp p.nodup
  obtain ⟨hans, -, hforg⟩ := List.nodup_append.mp hnd
  refine ⟨?_, fun ha => ?_⟩
  · rintro rfl; exact hf
  · have hm : n ∈ s.answers.map (·.1) := List.mem_map_of_mem (f := Prod.fst) ha
    have hcalled : n ∈ I.called s.system :=
      p.spent.subset (List.mem_append_left _ (List.mem_append_left _ hm))
    rcases c with _ | (_ | r') | _
    · rcases hf with h | h
      · exact absurd rfl (hheld n (List.mem_append_left _ hm) n h)
      · exact absurd h (p.disjoint hcalled)
    · rcases hf with h | ⟨h, -⟩
      · exact absurd rfl (hforg n hm n h)
      · exact absurd hcalled h
    · have := List.inj_on_of_nodup_map hans hf ha rfl
      cases this; rfl
    · exact absurd rfl hn

theorem Sound.served (p : Sound I s₀ s) : Served I s where
  order := p.order
  spent := p.spent
  waiting _ _ hc hn := p.waiting_iff hc hn
  answered _ _ hc hn r := p.answered_iff hc hn r
  refused n hn := by
    rcases p.fits n _ hn with h | ⟨h, -, hx⟩
    · exact .inl h
    · exact .inr ⟨h, hx⟩

end Requests
