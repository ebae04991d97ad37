namespace Fanout

structure Numeral where
  negative : Bool
  whole : List Char
  /-- Digits after the point; without any, no point is written. -/
  fraction : List Char
  exponent : Option Int
deriving DecidableEq, Inhabited

namespace Numeral

def digits (n : Nat) : List Char := Nat.toDigits 10 n

def value (ds : List Char) : Nat := Nat.ofDigitChars 10 ds 0

theorem value_digits (n : Nat) : value (digits n) = n :=
  Nat.ofDigitChars_toDigits (by decide) (by decide)

def ofNat (n : Nat) : Numeral := ⟨false, digits n, [], none⟩

/-- A natural number is written without sign, point and exponent. -/
def toNat? (n : Numeral) : Option Nat :=
  if n.negative = false ∧ n.fraction = [] ∧ n.exponent = none then some (value n.whole) else none

theorem toNat?_ofNat (n : Nat) : (ofNat n).toNat? = some n := by
  simp [toNat?, ofNat, value_digits]

def exponentText (e : Int) : List Char :=
  'e' :: (if e < 0 then '-' else '+') :: digits e.natAbs

def text (n : Numeral) : List Char :=
  (if n.negative then ['-'] else []) ++ n.whole ++
    (if n.fraction = [] then [] else '.' :: n.fraction) ++
    (match n.exponent with
    | none => []
    | some e => exponentText e)

end Numeral

/-- An unsigned number in plain digits, with at most one plus sign before them. -/
def readUnsigned? (s : List Char) : Option Nat :=
  let ds := match s with
    | '+' :: ds => ds
    | ds => ds
  if ds ≠ [] ∧ ds.all Char.isDigit then some (Numeral.value ds) else none

end Fanout
