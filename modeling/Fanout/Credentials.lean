import Fanout.Storage
import Fanout.Jid.Address

namespace Fanout

structure Credentials where
  /-- Our device in the individual namespace. -/
  me : Jid
  meLid : Option Jid
  /-- Shown with every message that opens a session. -/
  signedDeviceIdentity : List UInt8
deriving DecidableEq, Inhabited

namespace Credentials

/-- Whether an address belongs to our account, in either namespace. -/
def isMe (c : Credentials) (jid : Jid) : Bool :=
  jid.isSameUser c.me || c.meLid.any jid.isSameUser

def isSameDevice (a b : Jid) : Bool := a.isSameUser b ∧ a.deviceId = b.deviceId

/-- Whether an address names this device. -/
def isOwnDevice (c : Credentials) (jid : Jid) : Bool :=
  isSameDevice jid c.me || c.meLid.any (isSameDevice jid)

/-- Our address in the namespace of a destination. -/
def identityFor (c : Credentials) (destination : Jid) : Jid :=
  match c.meLid, destination.isLid with
  | some lid, true => lid
  | _, _ => c.me

def toJson (c : Credentials) : Json :=
  .ofMembers ([("me", c.me.toJson)] ++ Json.member? "meLid" (c.meLid.map Jid.toJson) ++
    [("signedDeviceIdentity", Storage.bytesToJson c.signedDeviceIdentity)])

def ofJson? (v : Json) : Option Credentials := do
  match ← v.fields ["me", "meLid", "signedDeviceIdentity"] with
  | [me, meLid, identity] =>
    return {
      me := ← Json.required Jid.ofJson? me
      meLid := ← Json.optional Jid.ofJson? meLid
      signedDeviceIdentity := ← Json.required Storage.bytesOfJson? identity }
  | _ => none

def key : String := "v1/credentials"

variable {ω : Type} (host : Host ω)

/-- The credentials that were saved last, if any. -/
def load : Act (World ω) (Option Credentials) := Storage.load host ofJson? key

/-- Writes the current credentials; answers whether that went well. -/
def save : Act (Held Credentials ω) Bool := do
  let written ← Act.guarded do
    Held.inWorld (Storage.save host key (← Held.getOwn).toJson)
  return written.isSome

/-- Changes a copy and keeps it only if both the change and the write went well. -/
def update (change : Credentials → Except Error Credentials) : Act (Held Credentials ω) Bool := do
  let committed ← Act.guarded do
    let next ← Act.ofExcept (change (← Held.getOwn))
    Held.inWorld (Storage.save host key next.toJson)
    Held.setOwn next
  return committed.isSome

end Credentials

end Fanout
