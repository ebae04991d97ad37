import Fanout.Decimal.Numeral

namespace Fanout.Numeral

def largestWord : Nat := UInt64.size - 1

/-- Appends digits to a number until one more would not fit; also counts the digits left over. -/
def gather : Nat → List Char → Nat × Nat
  | n, [] => (n, 0)
  | n, c :: rest =>
    let next := n * 10 + (c.toNat - '0'.toNat)
    if next ≤ largestWord then gather next rest else (n, rest.length + 1)

def powerOfTen (k : Nat) : Float := Float.ofScientific 1 false k

def ofWord (n : Nat) : Float := (UInt64.ofNat n).toFloat

/-- Divides by a power of ten that may exceed the largest one there is. -/
def divide (x : Float) : Nat → Nat → Float
  | 0, _ => 0
  | fuel + 1, k =>
    if k ≤ 308 then x / powerOfTen k
    else if x == 0 then x
    else divide (x / powerOfTen 308) fuel (k - 308)

/-- A number beyond the largest finite one is refused. -/
def scale? (n : Nat) (exponent : Int) : Option Float :=
  let x := ofWord n
  if exponent = 0 then some x
  else if exponent < 0 then some (divide x 4 exponent.natAbs)
  else if exponent ≤ 308 then
    let y := x * powerOfTen exponent.natAbs
    if y.isInf then none else some y
  else if n = 0 then some x
  else none

def toFloat? (n : Numeral) : Option Float := do
  let (gathered, skipped) := gather 0 n.whole
  let (gathered, dropped) := gather gathered n.fraction
  let places := n.fraction.length - dropped
  let x ← scale? gathered ((skipped : Int) - places + n.exponent.getD 0)
  return if n.negative then -x else x

end Fanout.Numeral
