import Mathlib.Data.List.Induction
import Mathlib.Tactic.IntervalCases
import Fanout.Decimal.Reading

namespace Fanout.Numeral

theorem isDigit_of_mem_digits {n : Nat} {c : Char} (h : c ∈ digits n) : c.isDigit = true :=
  Nat.isDigit_of_mem_toDigits (by decide) (by decide) h

theorem digits_ne_nil (n : Nat) : digits n ≠ [] := Nat.toDigits_ne_nil

theorem digits_zero : digits 0 = ['0'] := Nat.toDigits_zero 10

theorem head?_digits_of_pos {n : Nat} (h : 0 < n) : (digits n).head? ≠ some '0' := by
  unfold digits
  induction n using Nat.strongRecOn with
  | _ n ih =>
    by_cases hn : n < 10
    · rw [Nat.toDigits_of_lt_base hn]
      intro hc
      have := Option.some.inj hc
      interval_cases n <;> simp [Nat.digitChar] at this
    · have hd := ih (n / 10) (by omega) (by omega)
      rw [Nat.toDigits_of_base_le (by decide) (by omega)]
      cases hq : Nat.toDigits 10 (n / 10) with
      | nil => exact absurd hq Nat.toDigits_ne_nil
      | cons c cs => simpa [hq] using hd

theorem eq_zero_of_head?_digits {n : Nat} (h : (digits n).head? = some '0') : n = 0 := by
  by_contra hn
  exact head?_digits_of_pos (Nat.pos_of_ne_zero hn) h

theorem value_append_singleton (ds : List Char) (c : Char) :
    value (ds ++ [c]) = 10 * value ds + (c.toNat - '0'.toNat) := by
  simp [value, Nat.ofDigitChars_append, Nat.ofDigitChars_cons]

theorem digitChar_of_isDigit {c : Char} (h : c.isDigit = true) :
    c.toNat - '0'.toNat < 10 ∧ Nat.digitChar (c.toNat - '0'.toNat) = c := by
  have range : 48 ≤ c.toNat ∧ c.toNat ≤ 57 := by
    simpa [Char.isDigit, UInt32.le_iff_toNat_le] using h
  have zero : '0'.toNat = 48 := rfl
  refine ⟨by omega, ?_⟩
  obtain ⟨low, high⟩ := range
  have back : Char.ofNat c.toNat = c := Char.ofNat_toNat c
  rw [zero, ← back]
  generalize c.toNat = n at low high
  interval_cases n <;> rfl

/-- Digits without a needless leading zero are those that write their number. -/
theorem digits_value {ds : List Char} (some_digit : ds ≠ [])
    (all : ∀ c ∈ ds, c.isDigit = true) (first : ds.head? ≠ some '0') : digits (value ds) = ds := by
  induction ds using List.reverseRecOn with
  | nil => exact absurd rfl some_digit
  | append_singleton ds c ih =>
    obtain ⟨small, same⟩ := digitChar_of_isDigit (all c (by simp))
    rw [value_append_singleton]
    cases ds with
    | nil =>
      have only : 10 * value [] + (c.toNat - '0'.toNat) = c.toNat - '0'.toNat := by
        simp [value]
      rw [only, digits, Nat.toDigits_of_lt_base small, same]
      rfl
    | cons d ds =>
      have before : digits (value (d :: ds)) = d :: ds :=
        ih (by simp) (fun e he => all e (List.mem_append_left _ he)) (by simpa using first)
      have positive : value (d :: ds) ≠ 0 := by
        intro zero
        rw [zero, digits_zero] at before
        obtain ⟨rfl, _⟩ := List.cons.inj before
        exact first rfl
      generalize value (d :: ds) = n at before positive
      have large : 10 ≤ 10 * n + (c.toNat - '0'.toNat) := by omega
      have quotient : (10 * n + (c.toNat - '0'.toNat)) / 10 = n := by omega
      have rest : (10 * n + (c.toNat - '0'.toNat)) % 10 = c.toNat - '0'.toNat := by omega
      rw [digits, Nat.toDigits_of_base_le (by decide) large, quotient, rest, same]
      exact congrArg (· ++ [c]) before

theorem value_ne_zero {ds : List Char} (some_digit : ds ≠ []) (all : ∀ c ∈ ds, c.isDigit = true)
    (first : ds.head? ≠ some '0') : value ds ≠ 0 := by
  intro zero
  have same := digits_value some_digit all first
  rw [zero, digits_zero] at same
  rw [← same] at first
  exact first rfl

theorem le_ofDigitChars (ds : List Char) (n : Nat) : n ≤ Nat.ofDigitChars 10 ds n := by
  rw [Nat.ofDigitChars_eq_ofDigitChars_zero]
  have := Nat.le_mul_of_pos_left n (Nat.pow_pos (n := ds.length) (by decide : 0 < 10))
  omega

theorem gather_of_le {ds : List Char} {n : Nat} (h : Nat.ofDigitChars 10 ds n ≤ largestWord) :
    gather n ds = (Nat.ofDigitChars 10 ds n, 0) := by
  induction ds generalizing n with
  | nil => simp [gather]
  | cons c ds ih =>
    rw [Nat.ofDigitChars_cons] at h ⊢
    have grow := le_ofDigitChars ds (10 * n + (c.toNat - '0'.toNat))
    have fits : n * 10 + (c.toNat - '0'.toNat) ≤ largestWord := by omega
    rw [gather, if_pos fits, Nat.mul_comm n 10]
    exact ih h

theorem isSome_toFloat?_ofNat {n : Nat} (h : n < UInt64.size) :
    (ofNat n).toFloat?.isSome = true := by
  have gathered : gather 0 (digits n) = (n, 0) := by
    have value : Nat.ofDigitChars 10 (digits n) 0 = n := value_digits n
    have fits : Nat.ofDigitChars 10 (digits n) 0 ≤ largestWord := by
      rw [value, largestWord]
      omega
    rw [gather_of_le fits, value]
  simp [toFloat?, ofNat, gathered, gather, scale?]

end Fanout.Numeral
