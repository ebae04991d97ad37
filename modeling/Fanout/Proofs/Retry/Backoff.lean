import Mathlib.Algebra.Group.Nat.Defs
import Mathlib.Order.Monotone.Basic
import Fanout.Retry.Config

namespace Fanout

namespace Word

theorem toNat_pred (n : UInt32) : (pred n).toNat = n.toNat - 1 := by
  unfold pred
  split
  next zero =>
    rw [zero]
    rfl
  next ne =>
    have pos : n.toNat ≠ 0 := fun zero => ne (UInt32.toNat_inj.mp zero)
    have one : 1 ≤ n := UInt32.le_iff_toNat_le.mpr (Nat.pos_of_ne_zero pos)
    exact UInt32.toNat_sub_of_le n 1 one

theorem powerOfTwo?_of_lt {places : UInt32} (room : places.toNat < 64) :
    ∃ power, powerOfTwo? places = some power ∧ power.toNat = 2 ^ places.toNat := by
  refine ⟨1 <<< places.toUInt64, if_pos (UInt32.lt_iff_toNat_lt.mpr room), ?_⟩
  have fits : 2 ^ places.toNat < 2 ^ 64 := Nat.pow_lt_pow_right Nat.one_lt_two room
  rw [UInt64.toNat_shiftLeft, UInt32.toNat_toUInt64, Nat.mod_eq_of_lt room, UInt64.toNat_one,
    Nat.one_shiftLeft, Nat.mod_eq_of_lt fits]

theorem toNat_boundedMul (a b : UInt64) :
    (boundedMul a b).toNat = min (a.toNat * b.toNat) Numeral.largestWord := by
  have largest : Numeral.largestWord + 1 = 2 ^ 64 := rfl
  unfold boundedMul
  split
  next outgrown =>
    have outgrown : 2 ^ 64 ≤ a.toNat * b.toNat := by simpa [BitVec.umulOverflow] using outgrown
    rw [min_eq_right (by omega)]
    rfl
  next fits =>
    have fits : a.toNat * b.toNat < 2 ^ 64 := by simpa [BitVec.umulOverflow] using fits
    rw [UInt64.toNat_mul, Nat.mod_eq_of_lt fits, min_eq_left (by omega)]

end Word

namespace RetryConfig

variable {c : RetryConfig} {attempt : Nat}

theorem delays_of_valid (valid : c.validate = .ok ()) :
    0 < c.baseDelayMs.toNat ∧ c.baseDelayMs.toNat ≤ c.maxDelayMs.toNat := by
  unfold validate at valid
  split at valid
  next => cases valid
  next sound =>
    obtain ⟨base, max⟩ := not_or.mp sound
    have positive : c.baseDelayMs.toNat ≠ 0 := fun zero => base (UInt64.toNat_inj.mp zero)
    exact ⟨Nat.pos_of_ne_zero positive, UInt64.le_iff_toNat_le.mp (UInt64.not_lt.mp max)⟩

theorem toNat_backoffInWords (c : RetryConfig) (attempt : UInt32) :
    (c.backoffInWords attempt).map UInt64.toNat = some (c.baseBackoff attempt.toNat) := by
  have doublings : (min (Word.pred attempt) 32).toNat = min (attempt.toNat - 1) 32 := by
    rw [UInt32.toNat_min, Word.toNat_pred]
    rfl
  have room : (min (Word.pred attempt) 32).toNat < 64 := by omega
  obtain ⟨factor, there, value⟩ := Word.powerOfTwo?_of_lt room
  rw [backoffInWords, there, Option.map_some, Option.map_some, UInt64.toNat_min,
    Word.toNat_boundedMul, value, doublings, baseBackoff, Nat.shiftLeft_eq]

/-- That a product is cut at the largest word never shows, as the largest delay is a word. -/
theorem baseBackoff_eq (c : RetryConfig) (attempt : Nat) :
    c.baseBackoff attempt =
      min (c.baseDelayMs.toNat * 2 ^ min (attempt - 1) 32) c.maxDelayMs.toNat := by
  have word : c.maxDelayMs.toNat ≤ Numeral.largestWord :=
    Nat.le_sub_one_of_lt c.maxDelayMs.toNat_lt_size
  rw [baseBackoff, Nat.shiftLeft_eq, min_assoc, min_eq_right word]

theorem baseBackoff_le (c : RetryConfig) (attempt : Nat) :
    c.baseBackoff attempt ≤ c.maxDelayMs.toNat :=
  min_le_right _ _

theorem le_baseBackoff (ordered : c.baseDelayMs.toNat ≤ c.maxDelayMs.toNat) (attempt : Nat) :
    c.baseDelayMs.toNat ≤ c.baseBackoff attempt := by
  rw [baseBackoff_eq]
  exact le_min (Nat.le_mul_of_pos_right _ (Nat.two_pow_pos _)) ordered

theorem monotone_baseBackoff (c : RetryConfig) : Monotone c.baseBackoff := by
  intro earlier later le
  have doublings : min (earlier - 1) 32 ≤ min (later - 1) 32 := by omega
  have product : c.baseDelayMs.toNat * 2 ^ min (earlier - 1) 32 ≤
      c.baseDelayMs.toNat * 2 ^ min (later - 1) 32 :=
    Nat.mul_le_mul_left _ (Nat.pow_le_pow_right Nat.two_pos doublings)
  rw [baseBackoff_eq, baseBackoff_eq]
  exact le_min ((min_le_left _ _).trans product) (min_le_right _ _)

/-- The delay that doubles with every attempt after the first, however many there are, and is cut at
the largest one. -/
def doubledDelay (c : RetryConfig) (attempt : Nat) : Nat :=
  min (c.baseDelayMs.toNat * 2 ^ (attempt - 1)) c.maxDelayMs.toNat

theorem baseBackoff_of_early (early : attempt ≤ 33) :
    c.baseBackoff attempt = c.doubledDelay attempt := by
  have doublings : min (attempt - 1) 32 = attempt - 1 := by omega
  rw [baseBackoff_eq, doublings, doubledDelay]

theorem baseBackoff_of_late (late : 33 < attempt) :
    c.baseBackoff attempt = min (c.baseDelayMs.toNat * 2 ^ 32) c.maxDelayMs.toNat := by
  have doublings : min (attempt - 1) 32 = 32 := by omega
  rw [baseBackoff_eq, doublings]

/-- After the 33rd attempt, what doubles on goes past the end of the doubling. That shows unless the
largest delay has cut both by then. -/
theorem baseBackoff_eq_doubledDelay_iff (positive : 0 < c.baseDelayMs.toNat) :
    c.baseBackoff attempt = c.doubledDelay attempt ↔
      attempt ≤ 33 ∨ c.maxDelayMs.toNat ≤ c.baseDelayMs.toNat * 2 ^ 32 := by
  rcases Nat.lt_or_ge 33 attempt with late | early
  · have power : 2 ^ 33 ≤ 2 ^ (attempt - 1) := Nat.pow_le_pow_right Nat.two_pos (by omega)
    have further : c.baseDelayMs.toNat * 2 ^ 33 ≤ c.baseDelayMs.toNat * 2 ^ (attempt - 1) :=
      Nat.mul_le_mul_left _ power
    -- twice a delay that is not none is past it, so the two agree only where both are cut
    rw [baseBackoff_of_late late, doubledDelay]
    omega
  · exact iff_of_true (baseBackoff_of_early early) (.inl early)

/-- Under settings that are accepted, no step on the way to a delay outgrows its word. The delay
lies between the first one and the largest one and never falls from attempt to attempt; with no
attempt made it is as after the first. It is what doubling over all naturals gives exactly up to the
33rd attempt, and for every attempt exactly if 32 doublings reach the largest delay. -/
theorem backoff_doubles_until_cut (valid : c.validate = .ok ()) :
    (∀ attempt : UInt32,
      (c.backoffInWords attempt).map UInt64.toNat = some (c.baseBackoff attempt.toNat)) ∧
    (∀ attempt, c.baseDelayMs.toNat ≤ c.baseBackoff attempt ∧
      c.baseBackoff attempt ≤ c.maxDelayMs.toNat) ∧
    Monotone c.baseBackoff ∧ c.baseBackoff 0 = c.baseBackoff 1 ∧
    ∀ attempt, c.baseBackoff attempt = c.doubledDelay attempt ↔
      attempt ≤ 33 ∨ c.maxDelayMs.toNat ≤ c.baseDelayMs.toNat * 2 ^ 32 := by
  obtain ⟨positive, ordered⟩ := delays_of_valid valid
  refine ⟨c.toNat_backoffInWords, fun attempt => ?_, c.monotone_baseBackoff, rfl, fun attempt => ?_⟩
  · exact ⟨le_baseBackoff ordered attempt, c.baseBackoff_le attempt⟩
  · exact baseBackoff_eq_doubledDelay_iff positive

/-- Settings under which nothing but the end of the doubling cuts a delay. -/
def uncut : RetryConfig :=
  { baseDelayMs := 1, maxDelayMs := 18446744073709551615, jitterRatio := 0 }

theorem uncut_doubles_up_to_33rd : uncut.validate = .ok () ∧
    uncut.baseBackoff 33 = 2 ^ 32 ∧ uncut.baseBackoff 34 ≠ 2 ^ 33 := by
  have valid : uncut.validate = .ok () := by decide
  obtain ⟨-, -, -, -, doubles⟩ := backoff_doubles_until_cut valid
  have at33 : uncut.doubledDelay 33 = 2 ^ 32 := by decide
  have at34 : uncut.doubledDelay 34 = 2 ^ 33 := by decide
  refine ⟨valid, at33 ▸ (doubles 33).mpr (.inl le_rfl), fun doubled => ?_⟩
  have later := (doubles 34).mp (doubled.trans at34.symm)
  exact absurd later (by decide)

end RetryConfig

end Fanout
