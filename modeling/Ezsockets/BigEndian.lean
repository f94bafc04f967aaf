import Mathlib.Algebra.Group.Nat.Defs
import Mathlib.Data.List.Induction

/-!
# Big-endian bytes

`toBytes k n` are the last `k` bytes of a number, the most significant one
first, and `ofBytes` reads bytes of any length: `k` bytes hold a number modulo
`256 ^ k`.
-/

namespace BigEndian

def toBytes (k n : Nat) : List UInt8 := (List.range k).map fun i => UInt8.ofNat (n >>> (8 * (k - 1 - i)))

def ofBytes (bytes : List UInt8) : Nat := bytes.foldl (fun n b => n * 256 + b.toNat) 0

@[simp] theorem toBytes_length (k n : Nat) : (toBytes k n).length = k := by simp [toBytes]

theorem ofBytes_snoc (bytes : List UInt8) (b : UInt8) : ofBytes (bytes ++ [b]) = ofBytes bytes * 256 + b.toNat := by
  simp [ofBytes]

theorem toBytes_succ (k n : Nat) : toBytes (k + 1) n = toBytes k (n / 256) ++ [UInt8.ofNat n] := by
  have hshift : ∀ i ∈ List.range k, UInt8.ofNat (n >>> (8 * (k + 1 - 1 - i))) =
      UInt8.ofNat ((n / 256) >>> (8 * (k - 1 - i))) := by
    intro i hi
    have hi : i < k := List.mem_range.mp hi
    have he : 8 * (k + 1 - 1 - i) = 8 + 8 * (k - 1 - i) := by omega
    rw [he, Nat.shiftRight_add, Nat.shiftRight_eq_div_pow n 8]
  rw [toBytes, List.range_succ, List.map_append, List.map_congr_left hshift]
  simp [toBytes]

theorem ofBytes_toBytes (k n : Nat) : ofBytes (toBytes k n) = n % 256 ^ k := by
  induction k generalizing n with
  | zero => simp [toBytes, ofBytes, Nat.mod_one]
  | succ k ih =>
    have hbyte : (UInt8.ofNat n).toNat = n % 256 := UInt8.toNat_ofNat'
    rw [toBytes_succ, ofBytes_snoc, ih, hbyte, Nat.pow_succ', Nat.mod_mul]
    omega

end BigEndian
