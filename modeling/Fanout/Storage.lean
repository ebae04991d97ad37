import Fanout.Host
import Fanout.Json.Fields
import Fanout.Text.Base64

namespace Fanout.Storage

variable {ω α : Type} (host : Host ω)

/-- Asks whether a call goes through. -/
def allow (call : StorageCall) : Act (World ω) Unit := fun w =>
  match host.refuses call w.host with
  | (none, s) => .ok () { w with host := s }
  | (some e, s) => .error e { w with host := s }

def get (key : String) : Act (World ω) (Option String) := do
  allow host (.get key)
  return (← getThe (World ω)).documents.find? key

def put (key value : String) : Act (World ω) Unit := do
  allow host (.put key)
  modify fun w => { w with documents := w.documents.insert key value }

def del (key : String) : Act (World ω) Unit := do
  allow host (.del key)
  modify fun w => { w with documents := w.documents.erase key }

def startsWith (start key : String) : Bool := start.toList.isPrefixOf key.toList

/-- The keys from `start` on, as long as they begin with it. -/
def keysFrom (start : String) (documents : Documents) : List String :=
  (documents.keys.dropWhile (· < start)).takeWhile (startsWith start)

def list (start : String) : Act (World ω) (List String) := do
  allow host (.list start)
  return keysFrom start (← getThe (World ω)).documents

/-- The value of a document. -/
def load (read : Json → Option α) (key : String) : Act (World ω) (Option α) := do
  match ← get host key with
  | none => return none
  | some text =>
    match (Json.parse? text).bind read with
    | some a => return some a
    | none => throw (.serialization (key ++ ": unreadable document"))

def save (key : String) (v : Json) : Act (World ω) Unit := put host key v.compact

def bytesToJson (bytes : List UInt8) : Json := .ofString (Base64.encode bytes)

def bytesOfJson? (v : Json) : Option (List UInt8) := v.asString?.bind Base64.decode?

end Fanout.Storage
