import Fanout.Json.Fields
import Fanout.Text.Hex

namespace Fanout.Json

def items : Json → List Json
  | .array items => items
  | _ => []

def members : Json → List (Option String × Json)
  | .object members => members
  | _ => []

def present? : Json → Option Json
  | .null => none
  | v => some v

def at? (v : Json) (name : String) : Option Json :=
  (v.members.reverse.find? fun m => m.1 = some name).bind fun m => m.2.present?

def text (v : Json) : String := v.asString?.getD ""

def nat (v : Json) : Nat := (asNat? UInt64.size v).getD 0

def int : Json → Int
  | .number n => if n.negative then -Numeral.value n.whole else Numeral.value n.whole
  | _ => 0

def textAt? (v : Json) (name : String) : Option String := (v.at? name).bind asString?

def textAt (v : Json) (name : String) : String := (v.textAt? name).getD ""

def natAt (v : Json) (name : String) : Nat := ((v.at? name).map nat).getD 0

def flagAt (v : Json) (name : String) : Bool := ((v.at? name).bind asBool?).getD false

def itemsAt (v : Json) (name : String) : List Json := ((v.at? name).map items).getD []

def textsAt (v : Json) (name : String) : List String := (v.itemsAt name).map text

/-- Bytes written in hexadecimal. -/
def bytesAt (v : Json) (name : String) : List UInt8 := (Hex.decode? (v.textAt name)).getD []

def ofBytes (bytes : List UInt8) : Json := ofString (Hex.encode bytes)

def ofInt (n : Int) : Json := .number ⟨n < 0, Numeral.digits n.natAbs, [], none⟩

def ofOption {α : Type} (write : α → Json) : Option α → Json
  | some a => write a
  | none => .null

def lastOfEach : List (Option String × Json) → List (Option String × Json)
  | [] => []
  | m :: rest =>
    let kept := lastOfEach rest
    if kept.any (·.1 = m.1) then kept else m :: kept

mutual

/-- Keeps the last of the members of one name, at every depth. -/
def settled : Json → Json
  | .array items => .array (settledItems items)
  | .object members => .object (lastOfEach (settledMembers members))
  | v => v

def settledItems : List Json → List Json
  | [] => []
  | v :: rest => v.settled :: settledItems rest

def settledMembers : List (Option String × Json) → List (Option String × Json)
  | [] => []
  | (name, v) :: rest => (name, v.settled) :: settledMembers rest

end

mutual

/-- Changes every string, names included. -/
def mapTexts (f : String → String) : Json → Json
  | .string text => .string (text.map f)
  | .array items => .array (mapTextsItems f items)
  | .object members => .object (mapTextsMembers f members)
  | v => v

def mapTextsItems (f : String → String) : List Json → List Json
  | [] => []
  | v :: rest => v.mapTexts f :: mapTextsItems f rest

def mapTextsMembers (f : String → String) :
    List (Option String × Json) → List (Option String × Json)
  | [] => []
  | (name, v) :: rest => (name.map f, v.mapTexts f) :: mapTextsMembers f rest

end

end Fanout.Json
