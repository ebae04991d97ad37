namespace Fanout

/-- Which of two equally near neighbours is taken: the even one, or the one further from zero. -/
inductive Tie where
  | even
  | away
deriving DecidableEq

/-- Whether the lower one is taken. -/
def Tie.takesBelow : Tie → Nat → Bool
  | .even, below => below % 2 = 0
  | .away, _ => false

/-- The number d.ddd · 10 ^ exponent, its digits taken as one natural. -/
structure Decimal where
  digits : List Char
  exponent : Int
deriving DecidableEq, Inhabited

/-- A positive number and the bounds of the numbers that round to it, over one denominator. -/
structure Rounded where
  low : Nat
  value : Nat
  high : Nat
  denominator : Nat
  /-- Whether the bounds themselves round to the number. -/
  closed : Bool

namespace Rounded

/-- The number `mantissa · 2 ^ (exponent - 1075)`, where the next lower one may be half as far. -/
def ofParts (mantissa exponent : Nat) (narrowBelow : Bool) : Rounded :=
  let up := 1 <<< (exponent - 1077)
  let down := 1 <<< (1077 - exponent)
  { low := (4 * mantissa - if narrowBelow then 1 else 2) * up
    value := 4 * mantissa * up
    high := (4 * mantissa + 2) * up
    denominator := down
    closed := mantissa % 2 = 0 }

/-- What a written fraction leaves out: the leading bit of a number that is not tiny. -/
def hiddenBit : Nat := 1 <<< 52

/-- The parts of a finite number other than zero, its sign left out. -/
def ofFloat (x : Float) : Rounded :=
  let bits := x.toBits.toNat
  let exponent := (bits >>> 52) % 2048
  let low := bits % hiddenBit
  if exponent = 0 then ofParts low 1 false
  else ofParts (hiddenBit + low) exponent (low = 0 ∧ 1 < exponent)

def accepts (r : Rounded) (numerator denominator : Nat) : Bool :=
  if r.closed then
    r.low * denominator ≤ numerator * r.denominator ∧ numerator * r.denominator ≤ r.high * denominator
  else
    r.low * denominator < numerator * r.denominator ∧ numerator * r.denominator < r.high * denominator

/-- The power of ten of the first digit. -/
def magnitude (r : Rounded) : Int :=
  let guess : Int := (Nat.toDigits 10 r.value).length - (Nat.toDigits 10 r.denominator).length
  let scaled := r.value * Nat.pow 10 (-guess).toNat
  if scaled < r.denominator * Nat.pow 10 guess.toNat then guess - 1 else guess

/-- The multiple of `10 ^ power` just below the number and the one just above it that round to it,
the nearer one chosen. -/
def onGrid? (tie : Tie) (r : Rounded) (power : Int) : Option Nat :=
  let up := Nat.pow 10 power.toNat
  let down := Nat.pow 10 (-power).toNat
  let numerator := r.value * down
  let denominator := r.denominator * up
  let below := numerator / denominator
  let rest := numerator % denominator
  let takeBelow := 0 < below ∧ r.accepts (below * up) down
  let takeAbove := r.accepts ((below + 1) * up) down
  if takeBelow ∧ takeAbove then
    if 2 * rest < denominator ∨ (2 * rest = denominator ∧ tie.takesBelow below) then some below
    else some (below + 1)
  else if takeBelow then some below
  else if takeAbove then some (below + 1)
  else none

/-- Tries grids of more and more digits. -/
def search (tie : Tie) (r : Rounded) (top : Int) : Nat → Nat → Nat × Int
  | 0, count => (r.value / r.denominator, top - count)
  | fuel + 1, count =>
    let power := top + 1 - count
    match r.onGrid? tie power with
    | some n => (n, power)
    | none => search tie r top fuel (count + 1)

end Rounded

def dropTrailingZeros (ds : List Char) : List Char :=
  match ds.reverse.dropWhile (· = '0') with
  | [] => ['0']
  | rest => rest.reverse

/-- The shortest decimal of a finite number, its sign left out. -/
def Decimal.ofFloat (tie : Tie) (x : Float) : Decimal :=
  if x == 0 then ⟨['0'], 0⟩
  else
    let r := Rounded.ofFloat x
    let (n, power) := r.search tie r.magnitude 17 1
    let ds := Nat.toDigits 10 n
    ⟨dropTrailingZeros ds, power + ds.length - 1⟩

end Fanout
