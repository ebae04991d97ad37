import Fanout.Json.Printer
import Fanout.Json.Parser
import Fanout.Dict

namespace Fanout.Json

/-- The member of a name, if any, and a refusal if there are two. -/
def member1? (name : String) (members : List (Option String × Json)) : Option (Option Json) :=
  match members.filter (fun m => m.1 = some name) with
  | [] => some none
  | [m] => some (some m.2)
  | _ => none

/-- One slot for each named field, in the order of the names. -/
def fields (names : List String) : Json → Option (List (Option Json))
  | .object members =>
    if members.all (fun m => m.1.isSome) then names.mapM (fun name => member1? name members)
    else none
  | .array items =>
    if items.length ≤ names.length then
      some (items.map some ++ List.replicate (names.length - items.length) none)
    else none
  | _ => none

def required {α : Type} (read : Json → Option α) (slot : Option Json) : Option α := slot.bind read

/-- An absent field and a null both mean that there is no value. -/
def optional {α : Type} (read : Json → Option α) : Option Json → Option (Option α)
  | none => some none
  | some .null => some none
  | some v => (read v).map some

/-- An absent field takes the default; a null is no value of it. -/
def withDefault {α : Type} (default : α) (read : Json → Option α) : Option Json → Option α
  | none => some default
  | some v => read v

def asString? : Json → Option String
  | .string text => text
  | _ => none

def asBool? : Json → Option Bool
  | .bool b => some b
  | _ => none

/-- A natural below a bound, written without a point or an exponent. -/
def asNat? (bound : Nat) : Json → Option Nat
  | .number n => n.toNat?.filter (· < bound)
  | _ => none

def asUInt16? (v : Json) : Option UInt16 := (asNat? UInt16.size v).map UInt16.ofNat

def asUInt32? (v : Json) : Option UInt32 := (asNat? UInt32.size v).map UInt32.ofNat

def asUInt64? (v : Json) : Option UInt64 := (asNat? UInt64.size v).map UInt64.ofNat

/-- Any number within range; a whole number need not have a point. -/
def asFloat? : Json → Option Float
  | .number n => n.toFloat?
  | _ => none

def asList? {α : Type} (read : Json → Option α) : Json → Option (List α)
  | .array items => items.mapM read
  | _ => none

/-- An object as a map; of members of one name the last one stays. -/
def asDict? {α : Type} (read : Json → Option α) : Json → Option (Dict String α)
  | .object members => do
    let entries ← members.mapM fun m => do return (← m.1, ← read m.2)
    return Dict.ofList entries
  | _ => none

/-- One of several words, alone or as the only name of an object whose member is null. -/
def asWord? {α : Type} (parse : String → Option α) : Json → Option α
  | .string text => text.bind parse
  | .object [(name, .null)] => name.bind parse
  | _ => none

end Fanout.Json
