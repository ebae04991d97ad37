import Mathlib.Data.List.DropRight
import Fanout.Proofs.Json.RoundTrip

namespace Fanout

theorem dropTrailingZeros_eq (ds : List Char) :
    dropTrailingZeros ds = ['0'] ∧ (∀ c ∈ ds, c = '0') ∨
      dropTrailingZeros ds ≠ [] ∧ dropTrailingZeros ds <+: ds := by
  have shorter : (ds.reverse.dropWhile (· = '0')).reverse <+: ds :=
    List.rdropWhile_prefix (fun c => decide (c = '0')) ds
  unfold dropTrailingZeros
  split
  next empty =>
    refine .inl ⟨rfl, fun c hc => ?_⟩
    have all := List.dropWhile_eq_nil_iff.mp empty c (List.mem_reverse.mpr hc)
    exact of_decide_eq_true all
  next rest some => exact .inr ⟨by simpa using some, shorter⟩

theorem isDigit_of_mem_dropTrailingZeros {ds : List Char} (hd : ∀ c ∈ ds, c.isDigit = true)
    {c : Char} (h : c ∈ dropTrailingZeros ds) : c.isDigit = true := by
  rcases dropTrailingZeros_eq ds with ⟨zero, _⟩ | ⟨_, shorter⟩
  · rw [zero] at h
    obtain rfl := List.mem_singleton.mp h
    decide
  · exact hd c (shorter.subset h)

theorem dropTrailingZeros_ne_nil (ds : List Char) : dropTrailingZeros ds ≠ [] := by
  rcases dropTrailingZeros_eq ds with ⟨zero, _⟩ | ⟨some, _⟩
  · rw [zero]
    exact List.cons_ne_nil _ _
  · exact some

theorem head?_dropTrailingZeros {ds : List Char} (hne : ds ≠ []) (hd : ds.head? ≠ some '0') :
    (dropTrailingZeros ds).head? ≠ some '0' := by
  obtain ⟨c, cs, rfl⟩ := List.exists_cons_of_ne_nil hne
  rcases dropTrailingZeros_eq (c :: cs) with ⟨_, zeros⟩ | ⟨some, rest, joined⟩
  · exact absurd (congrArg some (zeros c List.mem_cons_self)) hd
  · obtain ⟨d, ds, kept⟩ := List.exists_cons_of_ne_nil some
    rw [kept] at joined ⊢
    rw [← joined] at hd
    exact hd

namespace Rounded

theorem denominator_pos (mantissa exponent : Nat) (narrowBelow : Bool) :
    0 < (ofParts mantissa exponent narrowBelow).denominator := by
  unfold ofParts
  simp only [Nat.shiftLeft_eq, Nat.one_mul]
  exact Nat.pow_pos (by decide)

theorem denominator_ofFloat_pos (x : Float) : 0 < (ofFloat x).denominator := by
  unfold ofFloat
  dsimp only
  split <;> exact denominator_pos _ _ _

theorem onGrid?_ne_zero {tie : Tie} {r : Rounded} {power : Int} {n : Nat}
    (h : r.onGrid? tie power = some n) : n ≠ 0 := by
  unfold onGrid? at h
  dsimp only at h
  split at h
  next both =>
    have positive := both.1.1
    split at h
    · cases h
      omega
    · cases h
      omega
  next =>
    split at h
    next lower =>
      have positive := lower.1
      cases h
      omega
    next =>
      split at h
      · cases h
        exact Nat.succ_ne_zero _
      · cases h

theorem length_toDigits_mono {m n : Nat} (h : m ≤ n) :
    (Nat.toDigits 10 m).length ≤ (Nat.toDigits 10 n).length := by
  have some : ∀ k, 0 < (Nat.toDigits 10 k).length :=
    fun _ => List.length_pos_of_ne_nil Nat.toDigits_ne_nil
  have bound := (Nat.length_toDigits_le_iff (by decide) (some n)).mp (le_refl _)
  exact (Nat.length_toDigits_le_iff (by decide) (some n)).mpr (h.trans_lt bound)

/-- A number below one has its first digit behind the point. -/
theorem magnitude_neg {r : Rounded} (h : r.value < r.denominator) : r.magnitude < 0 := by
  have shorter := length_toDigits_mono h.le
  unfold magnitude
  dsimp only
  split
  next => omega
  next large =>
    by_contra high
    have same : ((Nat.toDigits 10 r.value).length : Int) -
        (Nat.toDigits 10 r.denominator).length = 0 := by omega
    rw [same] at large
    simp at large
    omega

/-- Where every grid fails, what is left of a number below one stands behind the point. -/
theorem search_zero (tie : Tie) {r : Rounded} (hd : 0 < r.denominator) (fuel count : Nat)
    (h : (r.search tie r.magnitude fuel count).1 = 0) :
    (r.search tie r.magnitude fuel count).2 < 0 := by
  induction fuel generalizing count with
  | zero =>
    have small : r.value < r.denominator := (Nat.div_eq_zero_iff_lt hd).mp h
    have negative := magnitude_neg small
    change r.magnitude - count < 0
    omega
  | succ fuel ih =>
    unfold search at h ⊢
    dsimp only at h ⊢
    split at h
    next found => exact absurd h (onGrid?_ne_zero found)
    next => exact ih _ h

end Rounded

/-- There are digits, and a leading zero stands alone and not in front of the point. -/
structure Decimal.Regular (d : Decimal) : Prop where
  digits_ne_nil : d.digits ≠ []
  isDigit : ∀ c ∈ d.digits, c.isDigit = true
  head : d.digits.head? = some '0' → d.digits = ['0'] ∧ d.exponent ≤ 0

theorem Decimal.regular_ofFloat (tie : Tie) (x : Float) : (Decimal.ofFloat tie x).Regular := by
  unfold ofFloat
  split
  next => exact ⟨List.cons_ne_nil _ _, List.forall_mem_singleton.mpr rfl, fun _ => ⟨rfl, le_refl 0⟩⟩
  next =>
    have zero := Rounded.search_zero tie (Rounded.denominator_ofFloat_pos x) 17 1
    dsimp only
    generalize (Rounded.ofFloat x).search tie (Rounded.ofFloat x).magnitude 17 1 = found at zero ⊢
    obtain ⟨n, power⟩ := found
    refine ⟨dropTrailingZeros_ne_nil _, fun c hc => ?_, fun leads => ?_⟩
    · exact isDigit_of_mem_dropTrailingZeros (fun _ => Numeral.isDigit_of_mem_digits) hc
    · by_cases hn : n = 0
      · subst hn
        have behind : power < 0 := zero rfl
        have alone : Nat.toDigits 10 0 = ['0'] := Nat.toDigits_zero 10
        simp only [alone, List.length_singleton]
        exact ⟨by decide, by omega⟩
      · have first := Numeral.head?_digits_of_pos (Nat.pos_of_ne_zero hn)
        exact absurd leads (head?_dropTrailingZeros Nat.toDigits_ne_nil first)

theorem isDigit_of_mem_replicate {n : Nat} {c : Char} (h : c ∈ List.replicate n '0') :
    c.isDigit = true := by
  obtain rfl := List.eq_of_mem_replicate h
  decide

theorem Decimal.Regular.split {d : Decimal} (h : d.Regular) :
    d.split.1 ≠ [] ∧ (∀ c ∈ d.split.1, c.isDigit = true) ∧
      (d.split.1.head? = some '0' → d.split.1 = ['0']) ∧ ∀ c ∈ d.split.2, c.isDigit = true := by
  obtain ⟨digits, exponent⟩ := d
  obtain ⟨hne, hd, hz⟩ := h
  simp only at hne hd hz
  unfold Decimal.split
  split
  next =>
    refine ⟨List.cons_ne_nil _ _, fun c hc => ?_, fun _ => rfl, fun c hc => ?_⟩
    · obtain rfl := List.mem_singleton.mp hc
      decide
    rcases List.mem_append.mp hc with hc | hc
    · exact isDigit_of_mem_replicate hc
    · exact hd c hc
  next large =>
    simp only at large
    obtain ⟨c, cs, rfl⟩ := List.exists_cons_of_ne_nil hne
    simp only [List.take_succ_cons, List.drop_succ_cons, List.cons_append, List.head?_cons]
    refine ⟨List.cons_ne_nil _ _, fun e he => ?_, fun leads => ?_, fun e he => ?_⟩
    · rcases List.mem_cons.mp he with rfl | he
      · exact hd _ List.mem_cons_self
      · rcases List.mem_append.mp he with he | he
        · exact hd e (List.mem_cons_of_mem _ (List.mem_of_mem_take he))
        · exact isDigit_of_mem_replicate he
    · -- a leading zero is the number zero, which has one place before the point
      obtain ⟨alone, low⟩ := hz leads
      obtain ⟨rfl, rfl⟩ := List.cons.inj alone
      have none : exponent = 0 := by omega
      subst none
      rfl
    · exact hd e (List.mem_cons_of_mem _ (List.mem_of_mem_drop he))

theorem Layout.regular_numeral (l : Layout) (negative : Bool) {d : Decimal} (h : d.Regular) :
    (l.numeral negative d).Regular := by
  obtain ⟨split_ne, split_digit, split_head, split_fraction⟩ := h.split
  obtain ⟨digits, exponent⟩ := d
  obtain ⟨hne, hd, hz⟩ := h
  unfold Layout.numeral
  split
  next =>
    refine ⟨split_ne, split_digit, split_head, fun c hc => ?_⟩
    dsimp only at hc
    split at hc
    · obtain rfl := List.mem_singleton.mp hc
      decide
    · exact split_fraction c hc
  next =>
    obtain ⟨c, cs, rfl⟩ := List.exists_cons_of_ne_nil hne
    refine ⟨List.cons_ne_nil _ _, fun e he => ?_, fun leads => ?_, fun e he => ?_⟩
    · exact hd e (List.mem_of_mem_take he)
    · have alone := (hz leads).1
      dsimp only at alone ⊢
      rw [alone]
      rfl
    · exact hd e (List.mem_of_mem_drop he)

@[simp] theorem Json.regular_ofFloat (x : Float) : (Json.ofFloat x).Regular :=
  Layout.document.regular_numeral _ (Decimal.regular_ofFloat _ x)

end Fanout
