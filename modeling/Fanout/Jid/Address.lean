import Fanout.Jid.Text

namespace Fanout

/-- What session records of a device are kept under. -/
structure ProtocolAddress where
  name : String
  device : UInt16
deriving DecidableEq, Inhabited

namespace ProtocolAddress

def order : ProtocolAddress → ProtocolAddress → Ordering :=
  compareLex (compareOn name) (compareOn device)

instance : Ord ProtocolAddress := ⟨order⟩

def text (a : ProtocolAddress) : String := a.name ++ "." ++ a.device.toNat.repr

end ProtocolAddress

/-- In the lid namespace the user name takes a mark. -/
def Jid.protocolAddress (j : Jid) : ProtocolAddress :=
  ⟨if j.server = .lid then j.user ++ "_1" else j.user, j.deviceId⟩

/-- A device as a device list gives it, before it is known to be an address. -/
structure DeviceEntry where
  user : String
  device : UInt16
  server : Server
deriving DecidableEq, Inhabited

namespace DeviceEntry

def toJid (d : DeviceEntry) : Except Error Jid := Jid.withDevice d.user d.server d.device

def toJson (d : DeviceEntry) : Json :=
  .ofMembers [("user", .ofString d.user), ("device", .ofNat d.device.toNat),
    ("server", .ofString d.server.word)]

def ofJson? (v : Json) : Option DeviceEntry := do
  match ← v.fields ["user", "device", "server"] with
  | [user, device, server] =>
    return {
      user := ← Json.required Json.asString? user
      device := ← Json.required Json.asUInt16? device
      server := ← Json.required (Json.asWord? Server.ofWord?) server }
  | _ => none

end DeviceEntry

end Fanout
