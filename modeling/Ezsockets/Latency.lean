import Ezsockets.BigEndian
import Ezsockets.SocketLemmas
import Mathlib.Algebra.Group.Int.Defs

/-!
# The latency of a Pong

The stream actor takes the 16 bytes of a Pong for the time its Ping was sent,
in milliseconds, and adds them to the epoch. A sum that the platform's
`SystemTime` cannot hold is a panic of the stream actor. On Unix every sum
fits, on Windows those of a remote that answers what it was sent do
(`pong_harmless_iff`).
-/

namespace Ezsockets

structure Duration where
  secs : Nat
  nanos : Nat
  secs_lt : secs < 2 ^ 64
  nanos_lt : nanos < 1000000000

namespace Duration

def zero : Duration := ⟨0, 0, by decide, by decide⟩

def seconds (secs : Nat) (h : secs < 2 ^ 64) : Duration := ⟨secs, 0, h, by decide⟩

def toNanos (d : Duration) : Nat := d.secs * 1000000000 + d.nanos

def ofNanos (n : Nat) (h : n < 2 ^ 64 * 1000000000) : Duration where
  secs := n / 1000000000
  nanos := n % 1000000000
  secs_lt := by omega
  nanos_lt := by omega

def fromMillis (millis : UInt64) : Duration where
  secs := millis.toNat / 1000
  nanos := millis.toNat % 1000 * 1000000
  secs_lt := by
    have := millis.toNat_lt
    omega
  nanos_lt := by omega

@[simp] theorem fromMillis_secs (millis : UInt64) : (fromMillis millis).secs = millis.toNat / 1000 := rfl
@[simp] theorem fromMillis_nanos (millis : UInt64) : (fromMillis millis).nanos = millis.toNat % 1000 * 1000000 :=
  rfl

end Duration

/-- The time of a platform's clock: `UNIX_EPOCH`, `+`, which panics where there is no result, and
`duration_since`. -/
class SystemTime (T : Type) where
  unixEpoch : T
  checkedAdd : T → Duration → Option T
  durationSince : T → T → Except Duration Duration

abbrev FitsI64 (n : Int) : Prop := -2 ^ 63 ≤ n ∧ n < 2 ^ 63

/-! ## Unix -/

/-- Seconds since the epoch, in an `i64`, and nanoseconds. -/
structure Timespec where
  secs : Int
  nanos : Nat
  secs_fits : FitsI64 secs
  nanos_lt : nanos < 1000000000

namespace Timespec

def unixEpoch : Timespec := ⟨0, 0, by decide, by decide⟩

def toNanos (t : Timespec) : Int := t.secs * 1000000000 + t.nanos

def checkedAdd (t : Timespec) (d : Duration) : Option Timespec :=
  if h : FitsI64 (t.secs + d.secs + (t.nanos + d.nanos) / 1000000000) then
    some ⟨t.secs + d.secs + (t.nanos + d.nanos) / 1000000000, (t.nanos + d.nanos) % 1000000000, h, by omega⟩
  else none

def sub (a b : Timespec) : Duration := .ofNanos (a.toNanos - b.toNanos).toNat (by
  have := a.secs_fits
  have := b.secs_fits
  have := a.nanos_lt
  unfold toNanos
  omega)

instance : SystemTime Timespec where
  unixEpoch := unixEpoch
  checkedAdd := checkedAdd
  durationSince a b := if b.toNanos ≤ a.toNanos then .ok (a.sub b) else .error (b.sub a)

end Timespec

/-! ## Windows -/

/-- The number of intervals of 100 ns since 1601, in an `i64`. -/
structure FileTime where
  intervals : Int
  fits : FitsI64 intervals

namespace FileTime

def unixEpochIntervals : Nat := 11644473600 * 10000000

def unixEpoch : FileTime := ⟨unixEpochIntervals, by decide⟩

def checkedU64 (n : Nat) : Option Nat := if n < 2 ^ 64 then some n else none

-- `try_into` from an unsigned number
def checkedI64 (n : Nat) : Option Nat := if n < 2 ^ 63 then some n else none

def ofIntervals (n : Int) : Option FileTime := if h : FitsI64 n then some ⟨n, h⟩ else none

def checkedDur2Intervals (d : Duration) : Option Nat := do
  let secs ← checkedU64 (d.secs * 10000000)
  let n ← checkedU64 (secs + d.nanos / 100)
  checkedI64 n

def checkedAdd (t : FileTime) (d : Duration) : Option FileTime := do
  let n ← checkedDur2Intervals d
  ofIntervals (t.intervals + n)

def sub (a b : FileTime) : Duration := .ofNanos ((a.intervals - b.intervals).toNat * 100) (by
  have := a.fits
  have := b.fits
  omega)

instance : SystemTime FileTime where
  unixEpoch := unixEpoch
  checkedAdd := checkedAdd
  durationSince a b := if b.intervals ≤ a.intervals then .ok (a.sub b) else .error (b.sub a)

end FileTime

/-! ## The Pong -/

section
variable {T : Type} [SystemTime T]

-- `timestamp as u64` keeps the low 64 bits
def pongTimestamp (bytes : Bytes) : Option Duration :=
  if bytes.length = 16 then some (.fromMillis (UInt64.ofNat (BigEndian.ofBytes bytes))) else none

/-- The latency that is traced, if the payload has the length of a timestamp; nothing at all if `+` panics. -/
def latency (now : T) (bytes : Bytes) : Option (Option Duration) :=
  match pongTimestamp bytes with
  | none => some none
  | some timestamp => (SystemTime.checkedAdd (SystemTime.unixEpoch : T) timestamp).map fun t =>
    some ((SystemTime.durationSince now t).toOption.getD .zero)

def pongAct (now : T) (bytes : Bytes) : SocketAct :=
  match latency now bytes with
  | some _ => .streamNext (.ok (.pong bytes))
  | none => .streamPanic

/-- The stream actor goes on after the Pong, whatever the clock says. -/
def Harmless (T : Type) [SystemTime T] (bytes : Bytes) : Prop :=
  ∀ (now : T) (s : Socket), s.streaming = true → ∃ t, s.step (pongAct now bytes) = some t ∧ t.streaming = true

theorem latency_none {now : T} {bytes : Bytes} : latency now bytes = none ↔
    ∃ d, pongTimestamp bytes = some d ∧ SystemTime.checkedAdd (SystemTime.unixEpoch : T) d = none := by
  unfold latency
  split
  · rename_i hp
    simp [hp]
  · rename_i d hp
    simp [hp]

theorem harmless_iff {bytes : Bytes} : Harmless T bytes ↔
    ∀ d, pongTimestamp bytes = some d → SystemTime.checkedAdd (SystemTime.unixEpoch : T) d ≠ none := by
  constructor
  · intro h d hd hadd
    have hn : latency (SystemTime.unixEpoch : T) bytes = none := latency_none.mpr ⟨d, hd, hadd⟩
    obtain ⟨t, ht, hs⟩ := h SystemTime.unixEpoch (.new .default) rfl
    rw [pongAct, hn] at ht
    cases ht
    cases hs
  · intro h now s hs
    have hn : latency now bytes ≠ none := by
      intro hn
      obtain ⟨d, hd, hadd⟩ := latency_none.mp hn
      exact h d hd hadd
    obtain ⟨l, hl⟩ := Option.ne_none_iff_exists'.mp hn
    refine ⟨{ s with yielded := s.yielded ++ [.ok (.pong bytes)] }, ?_, hs⟩
    rw [pongAct, hl]
    exact if_pos hs

end

/-! ## What fits -/

theorem Timespec.checkedAdd_fits {t : Timespec} {d : Duration}
    (h : FitsI64 (t.secs + d.secs + (t.nanos + d.nanos) / 1000000000)) : t.checkedAdd d ≠ none := by
  rw [checkedAdd, dif_pos h]
  simp

theorem Timespec.epoch_fits (millis : UInt64) : unixEpoch.checkedAdd (.fromMillis millis) ≠ none := by
  have hm := millis.toNat_lt
  apply checkedAdd_fits
  simp only [FitsI64, Duration.fromMillis_secs, Duration.fromMillis_nanos, unixEpoch]
  omega

namespace FileTime

theorem checkedU64_some {n : Nat} (h : n < 2 ^ 64) : checkedU64 n = some n := if_pos h

theorem checkedU64_none {n : Nat} (h : 2 ^ 64 ≤ n) : checkedU64 n = none := if_neg (Nat.not_lt.mpr h)

theorem checkedI64_some {n : Nat} (h : n < 2 ^ 63) : checkedI64 n = some n := if_pos h

theorem checkedI64_none {n : Nat} (h : 2 ^ 63 ≤ n) : checkedI64 n = none := if_neg (Nat.not_lt.mpr h)

/-- A number of milliseconds fits as a whole if it fits at the end. -/
theorem dur2Intervals_millis (millis : UInt64) :
    checkedDur2Intervals (.fromMillis millis) = checkedI64 (millis.toNat * 10000) := by
  have hsum : millis.toNat / 1000 * 10000000 + millis.toNat % 1000 * 1000000 / 100 =
    millis.toNat * 10000 := by omega
  rw [checkedDur2Intervals, Duration.fromMillis_secs, Duration.fromMillis_nanos]
  rcases Nat.lt_or_ge (millis.toNat / 1000 * 10000000) (2 ^ 64) with hsecs | hsecs
  · rw [checkedU64_some hsecs, Option.bind_eq_bind, Option.bind_some, hsum]
    rcases Nat.lt_or_ge (millis.toNat * 10000) (2 ^ 64) with hn | hn
    · rw [checkedU64_some hn, Option.bind_some]
    · rw [checkedU64_none hn, checkedI64_none (Nat.le_trans (by decide) hn), Option.bind_none]
  · have hge : 2 ^ 63 ≤ millis.toNat * 10000 := by omega
    rw [checkedU64_none hsecs, checkedI64_none hge, Option.bind_eq_bind, Option.bind_none]

theorem epoch_fits (millis : UInt64) : unixEpoch.checkedAdd (.fromMillis millis) ≠ none ↔
    unixEpochIntervals + millis.toNat * 10000 < 2 ^ 63 := by
  rw [checkedAdd, dur2Intervals_millis, Option.bind_eq_bind]
  rcases Nat.lt_or_ge (millis.toNat * 10000) (2 ^ 63) with hn | hn
  · rw [checkedI64_some hn, Option.bind_some, ofIntervals]
    by_cases hfits : FitsI64 (unixEpoch.intervals + (millis.toNat * 10000 : Nat))
    · rw [dif_pos hfits]
      refine iff_of_true (by simp) ?_
      have hlt : (unixEpochIntervals : Int) + (millis.toNat * 10000 : Nat) < 2 ^ 63 := hfits.2
      omega
    · rw [dif_neg hfits]
      refine iff_of_false (by simp) fun hlt => hfits ?_
      simp only [FitsI64, unixEpoch]
      omega
  · have hge : 2 ^ 63 ≤ unixEpochIntervals + millis.toNat * 10000 := Nat.le_trans hn (Nat.le_add_left _ _)
    rw [checkedI64_none hn, Option.bind_none]
    exact iff_of_false (by simp) (Nat.not_lt.mpr hge)

end FileTime

inductive Platform where
  | unix
  | windows

namespace Platform

def Harmless : Platform → Bytes → Prop
  | .unix, bytes => Ezsockets.Harmless Timespec bytes
  | .windows, bytes => Ezsockets.Harmless FileTime bytes

/-- The platform's time can hold the epoch and the milliseconds that the payload is taken for. -/
def Holds : Platform → Bytes → Prop
  | .unix, _ => True
  | .windows, bytes => bytes.length = 16 →
    FileTime.unixEpochIntervals + BigEndian.ofBytes bytes % 2 ^ 64 * 10000 < 2 ^ 63

theorem harmless_iff_holds (p : Platform) (bytes : Bytes) : p.Harmless bytes ↔ p.Holds bytes := by
  cases p with
  | unix =>
    refine iff_of_true (Ezsockets.harmless_iff.mpr fun d hd => ?_) trivial
    unfold pongTimestamp at hd
    obtain ⟨-, hd⟩ := Option.ite_none_right_eq_some.mp hd
    cases hd
    exact Timespec.epoch_fits _
  | windows =>
    have hlow : (UInt64.ofNat (BigEndian.ofBytes bytes)).toNat = BigEndian.ofBytes bytes % 2 ^ 64 :=
      UInt64.toNat_ofNat'
    refine Ezsockets.harmless_iff.trans ?_
    unfold Holds pongTimestamp
    by_cases hlen : bytes.length = 16
    · have hfits := FileTime.epoch_fits (UInt64.ofNat (BigEndian.ofBytes bytes))
      rw [hlow] at hfits
      rw [if_pos hlen]
      constructor
      · intro h _
        exact hfits.mp (h _ rfl)
      · intro h d hd
        cases hd
        exact hfits.mpr (h hlen)
    · rw [if_neg hlen]
      exact iff_of_true nofun fun h => absurd h hlen

end Platform

/-- What the heartbeat sends by default is the time in milliseconds. -/
theorem pongTimestamp_ping {timestamp : Nat} {payload : Bytes} (h : timestamp / 1000000 < 2 ^ 64)
    (hp : SocketConfig.default.heartbeatPingMsgFn timestamp = .ping payload) :
    (pongTimestamp payload).map Duration.toNanos = some (timestamp / 1000000 * 1000000) := by
  have hbytes : toBeBytes (timestamp / 1000000) = payload := RawMessage.ping.inj hp
  have hbytes : BigEndian.toBytes 16 (timestamp / 1000000) = payload := hbytes
  have hread : BigEndian.ofBytes payload = timestamp / 1000000 := by
    rw [← hbytes, BigEndian.ofBytes_toBytes]
    exact Nat.mod_eq_of_lt (Nat.lt_trans h (by decide))
  have hlen : payload.length = 16 := by rw [← hbytes, BigEndian.toBytes_length]
  have hlow : (UInt64.ofNat (timestamp / 1000000)).toNat = timestamp / 1000000 := by
    rw [UInt64.toNat_ofNat']
    exact Nat.mod_eq_of_lt h
  have hmillis : timestamp / 1000000 / 1000 * 1000000000 + timestamp / 1000000 % 1000 * 1000000 =
      timestamp / 1000000 * 1000000 := by omega
  rw [pongTimestamp, if_pos hlen, hread, Option.map_some, Duration.toNanos, Duration.fromMillis_secs,
    Duration.fromMillis_nanos, hlow, hmillis]

/-- A Pong does not stop the stream actor if and only if the platform's time can hold what the payload is taken for.
The payload that the heartbeat sends by default is taken for the time it was sent, in milliseconds. -/
theorem pong_harmless_iff (p : Platform) (bytes : Bytes) :
    (p.Harmless bytes ↔ p.Holds bytes) ∧
    ∀ timestamp payload, timestamp / 1000000 < 2 ^ 64 →
      SocketConfig.default.heartbeatPingMsgFn timestamp = .ping payload →
        (pongTimestamp payload).map Duration.toNanos = some (timestamp / 1000000 * 1000000) :=
  ⟨p.harmless_iff_holds bytes, fun _ _ h hp => pongTimestamp_ping h hp⟩

/-- A Ping of 2023, answered. -/
theorem pong_harmless_answer : Platform.windows.Harmless (toBeBytes 1700000000123) ∧
    (pongTimestamp (toBeBytes 1700000000123)).map Duration.toNanos = some 1700000000123000000 := by
  obtain ⟨hharm, hread⟩ := pong_harmless_iff .windows (toBeBytes 1700000000123)
  have hms : 1700000000123456789 / 1000000 = 1700000000123 := by decide
  have hping : SocketConfig.default.heartbeatPingMsgFn 1700000000123456789 = .ping (toBeBytes 1700000000123) := by
    rw [← hms]
    rfl
  have hdecoded := hread 1700000000123456789 _ (by decide) hping
  rw [hms] at hdecoded
  exact ⟨hharm.mpr fun _ => (by decide), hdecoded⟩

/-- Sixteen bytes of all ones stop the stream actor on Windows. -/
theorem pong_crash : ¬ Platform.windows.Harmless (List.replicate 16 255) := by
  intro h
  have hlt := (Platform.harmless_iff_holds .windows _).mp h rfl
  exact absurd hlt (by decide)

end Ezsockets
