import Mathlib.Algebra.Group.Nat.Defs
import Mathlib.Data.List.Induction
import Fanout.Text.BigEndian

namespace Fanout.BigEndian

theorem decode_append_singleton (bytes : List UInt8) (b : UInt8) :
    decode (bytes ++ [b]) = decode bytes * 256 + b.toNat := by
  simp [decode]

theorem decode_lt (bytes : List UInt8) : decode bytes < 256 ^ bytes.length := by
  induction bytes using List.reverseRecOn with
  | nil => decide
  | append_singleton bytes b ih =>
    have byte : b.toNat < 256 := b.toNat_lt
    rw [decode_append_singleton, List.length_append, List.length_singleton, Nat.pow_succ]
    omega

/-- Decoding gives back what was not cut off. -/
theorem decode_encode (len n : Nat) : decode (encode len n) = n % 256 ^ len := by
  induction len generalizing n with
  | zero =>
    rw [Nat.pow_zero, Nat.mod_one]
    rfl
  | succ len ih =>
    have last : (UInt8.ofNat n).toNat = n % 256 := by simp
    have split : n % 256 ^ (len + 1) = n % 256 + 256 * (n / 256 % 256 ^ len) := by
      rw [Nat.pow_succ', Nat.mod_mul]
    rw [encode, decode_append_singleton, ih, last, split]
    omega

theorem decode_encode_of_lt {len n : Nat} (room : n < 256 ^ len) : decode (encode len n) = n := by
  rw [decode_encode, Nat.mod_eq_of_lt room]

end Fanout.BigEndian
