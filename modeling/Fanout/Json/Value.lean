import Fanout.Decimal.Layout
import Fanout.Decimal.Reading

namespace Fanout

/-- A string or a member's name has no text when its escapes leave half of a surrogate pair. -/
inductive Json where
  | null
  | bool (b : Bool)
  | number (n : Numeral)
  | string (text : Option String)
  | array (items : List Json)
  | object (members : List (Option String × Json))
deriving Inhabited, BEq

namespace Json

def ofString (s : String) : Json := .string (some s)

def ofNat (n : Nat) : Json := .number (Numeral.ofNat n)

def ofFloat (x : Float) : Json := .number (Layout.document.ofFloat x)

def ofMembers (members : List (String × Json)) : Json :=
  .object (members.map fun m => (some m.1, m.2))

/-- A member that is left out when there is nothing to write. -/
def member? (name : String) : Option Json → List (String × Json)
  | some v => [(name, v)]
  | none => []

/-- Containers stand at most this deep in one another where a document is read in full. -/
def deepest : Nat := 127

mutual

/-- How many containers stand inside one another. -/
def depth : Json → Nat
  | .array items => depthItems items + 1
  | .object members => depthMembers members + 1
  | _ => 0

def depthItems : List Json → Nat
  | [] => 0
  | v :: rest => max v.depth (depthItems rest)

def depthMembers : List (Option String × Json) → Nat
  | [] => 0
  | (_, v) :: rest => max v.depth (depthMembers rest)

end

mutual

/-- Whether every string has a text and every number is within the range of floating point. -/
def sound : Json → Bool
  | .number n => n.toFloat?.isSome
  | .string text => text.isSome
  | .array items => soundItems items
  | .object members => soundMembers members
  | _ => true

def soundItems : List Json → Bool
  | [] => true
  | v :: rest => v.sound && soundItems rest

def soundMembers : List (Option String × Json) → Bool
  | [] => true
  | (name, v) :: rest => name.isSome && v.sound && soundMembers rest

end

end Json

end Fanout
