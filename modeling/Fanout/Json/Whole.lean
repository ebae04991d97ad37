import Fanout.Json.Fields

namespace Fanout

namespace Numeral

/-- Whether a number is whole and fits 64 bits, with a sign if need be; a negative zero does not. -/
def isWord (n : Numeral) : Bool :=
  n.fraction = [] ∧ n.exponent = none ∧
    if n.negative then 0 < value n.whole ∧ value n.whole ≤ UInt64.size / 2
    else value n.whole < UInt64.size

/-- A number as it is kept: a word as it stands, any other in floating point. -/
def kept? (n : Numeral) : Option Numeral :=
  if n.isWord then some n else n.toFloat?.map Layout.document.ofFloat

end Numeral

namespace Json

mutual

def whole? : Json → Option Json
  | .number n => n.kept?.map .number
  | .string text => text.map ofString
  | .array items => (wholeItems? items).map .array
  | .object members => (wholeMembers? members).map fun es => ofMembers (Dict.ofList es).entries
  | v => some v

def wholeItems? : List Json → Option (List Json)
  | [] => some []
  | v :: rest => do return (← v.whole?) :: (← wholeItems? rest)

def wholeMembers? : List (Option String × Json) → Option (List (String × Json))
  | [] => some []
  | (name, v) :: rest => do return (← name, ← v.whole?) :: (← wholeMembers? rest)

end

def readWhole? (text : String) : Option Json := do
  let v ← parse? text
  if v.depth ≤ deepest then v.whole? else none

end Json

end Fanout
