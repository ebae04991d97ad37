import Fanout.Storage
import Fanout.Jid.Address

namespace Fanout

/-- Devices by their texts; only those flagged true are known to hold the key. -/
abbrev DeviceFlags := Dict String Bool

/-- The flags of the groups that were looked at so far. -/
abbrev SenderKeyMemory := Dict Jid DeviceFlags

namespace DeviceFlags

def toJson (flags : DeviceFlags) : Json :=
  .ofMembers (flags.mapValues Json.bool).entries

def ofJson? (v : Json) : Option DeviceFlags := Json.asDict? Json.asBool? v

def holds (flags : DeviceFlags) (jid : Jid) : Bool := (flags.find? jid.encode).getD false

def markAll (flags : DeviceFlags) (devices : List Jid) : DeviceFlags :=
  flags.insertAll (devices.map fun jid => (jid.encode, true))

end DeviceFlags

namespace SenderKeyMemory

variable {ω : Type} (host : Host ω)

def key (group : Jid) : String := "v1/sender-key-memory/" ++ group.encode

/-- The flags of a group, read from the store at the first look. -/
def flags (group : Jid) : Act (Held SenderKeyMemory ω) DeviceFlags := do
  match (← Held.getOwn).find? group with
  | some flags => return flags
  | none =>
    let stored ← Held.inWorld (Storage.load host DeviceFlags.ofJson? (key group))
    let flags : DeviceFlags := stored.getD ∅
    Held.setOwn ((← Held.getOwn).insert group flags)
    return flags

/-- The devices that do not hold the key yet, in the order given. -/
def missing (group : Jid) (devices : List Jid) : Act (Held SenderKeyMemory ω) (List Jid) := do
  let flags ← flags host group
  return devices.filter fun jid => !flags.holds jid

/-- Writes the flags before it believes them. -/
def mark (group : Jid) (devices : List Jid) : Act (Held SenderKeyMemory ω) Unit := do
  if devices = [] then return
  let next := (← flags host group).markAll devices
  Held.inWorld (Storage.save host (key group) next.toJson)
  Held.setOwn ((← Held.getOwn).insert group next)

/-- Forgets every device of a group. -/
def reset (group : Jid) : Act (Held SenderKeyMemory ω) Unit := do
  Held.setOwn ((← Held.getOwn).erase group)
  Held.inWorld (Storage.del host (key group))

end SenderKeyMemory

end Fanout
