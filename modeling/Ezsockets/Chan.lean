import Mathlib.Data.List.Infix

/-!
# Channels

`Chan` is an unbounded queue with one receiver that remembers what it has
delivered, so what was put into it, in order, is `hist`.

`Watch` is a single value with a version, and a receiver keeps the version it
has seen. `send` stores nothing once every receiver is dropped; `changed`
answers with the version seen now, with an error, or not yet.
-/

structure Chan (α : Type*) where
  got : List α
  queue : List α

namespace Chan

variable {α β : Type*}

def empty : Chan α := ⟨[], []⟩

def hist (c : Chan α) : List α := c.got ++ c.queue

def push (c : Chan α) (x : α) : Chan α := { c with queue := c.queue ++ [x] }

def pop? (c : Chan α) : Option (α × Chan α) :=
  match c.queue with
  | [] => none
  | x :: q => some (x, ⟨c.got ++ [x], q⟩)

-- the receiver is dropped, and what it had not taken with it
def clear (c : Chan α) : Chan α := { c with queue := [] }

@[simp] theorem clear_queue (c : Chan α) : c.clear.queue = [] := rfl
@[simp] theorem empty_queue : (empty : Chan α).queue = [] := rfl
@[simp] theorem empty_got : (empty : Chan α).got = [] := rfl
@[simp] theorem empty_hist : (empty : Chan α).hist = [] := rfl
@[simp] theorem push_got (c : Chan α) (x : α) : (c.push x).got = c.got := rfl
@[simp] theorem push_queue (c : Chan α) (x : α) : (c.push x).queue = c.queue ++ [x] := rfl

@[simp] theorem push_hist (c : Chan α) (x : α) : (c.push x).hist = c.hist ++ [x] := by
  simp only [hist, push, List.append_assoc]

theorem pop?_some {c c' : Chan α} {x : α} :
    c.pop? = some (x, c') ↔ c.queue = x :: c'.queue ∧ c'.got = c.got ++ [x] := by
  obtain ⟨g, q⟩ := c
  obtain ⟨g', q'⟩ := c'
  cases q with
  | nil => simp [pop?]
  | cons y q =>
    simp only [pop?, Option.some.injEq, Prod.mk.injEq, mk.injEq, List.cons.injEq]
    constructor
    · rintro ⟨rfl, rfl, rfl⟩; exact ⟨⟨rfl, rfl⟩, rfl⟩
    · rintro ⟨⟨rfl, rfl⟩, rfl⟩; exact ⟨rfl, rfl, rfl⟩

theorem pop?_none {c : Chan α} : c.pop? = none ↔ c.queue = [] := by
  unfold pop?; split <;> simp_all

theorem pop?_hist {c c' : Chan α} {x : α} (h : c.pop? = some (x, c')) : c'.hist = c.hist := by
  obtain ⟨hq, hg⟩ := pop?_some.mp h
  simp only [hist, hq, hg, List.append_assoc, List.singleton_append]

theorem pop?_getElem {c c' : Chan α} {x : α} (h : c.pop? = some (x, c')) : c.hist[c.got.length]? = some x := by
  obtain ⟨hq, -⟩ := pop?_some.mp h
  rw [hist, hq, List.getElem?_append_right (Nat.le_refl _), Nat.sub_self]
  rfl

theorem pop?_length {c c' : Chan α} {x : α} (h : c.pop? = some (x, c')) : c'.got.length = c.got.length + 1 := by
  rw [(pop?_some.mp h).2, List.length_append]
  rfl

theorem got_hist (c : Chan α) : c.got <+: c.hist := List.prefix_append ..

theorem hist_eq_got {c : Chan α} (h : c.queue = []) : c.hist = c.got := by simp [hist, h]

end Chan

structure Watch (α : Type*) where
  value : α
  version : Nat
  receivers : Nat
  sender : Bool

namespace Watch

variable {α : Type*}

def send (w : Watch α) (v : α) : Watch α :=
  if w.receivers = 0 then w else { w with value := v, version := w.version + 1 }

def subscribe (w : Watch α) : Watch α := { w with receivers := w.receivers + 1 }

def dropReceiver (w : Watch α) : Watch α := { w with receivers := w.receivers - 1 }

def dropSender (w : Watch α) : Watch α := { w with sender := false }

def changed (w : Watch α) (seen : Nat) : Option (Except Unit Nat) :=
  if w.version ≠ seen then some (.ok w.version)
  else if w.sender then none
  else some (.error ())

theorem send_of_receiver {w : Watch α} (h : 0 < w.receivers) (v : α) :
    w.send v = { w with value := v, version := w.version + 1 } := if_neg (Nat.ne_of_gt h)

theorem changed_ok {w : Watch α} {seen v : Nat} (h : w.changed seen = some (.ok v)) :
    w.version ≠ seen ∧ v = w.version := by
  unfold changed at h
  split at h
  · rename_i hn; cases h; exact ⟨hn, rfl⟩
  · split at h <;> cases h

theorem changed_error {w : Watch α} {seen : Nat} (h : w.changed seen = some (.error ())) :
    w.version = seen ∧ w.sender = false := by
  unfold changed at h
  split at h
  · cases h
  · rename_i hn
    split at h
    · cases h
    · rename_i hs; exact ⟨not_not.mp hn, by simpa using hs⟩

end Watch
