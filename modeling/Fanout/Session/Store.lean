import Fanout.Storage

namespace Fanout

namespace SessionRecord

def toJson (r : SessionRecord) : Json := .ofMembers [("data", Storage.bytesToJson r.data)]

def ofJson? (v : Json) : Option SessionRecord := do
  match ← v.fields ["data"] with
  | [data] => return ⟨← Json.required Storage.bytesOfJson? data⟩
  | _ => none

end SessionRecord

namespace SenderKeyRecord

def toJson (r : SenderKeyRecord) : Json := .ofMembers [("data", Storage.bytesToJson r.data)]

def ofJson? (v : Json) : Option SenderKeyRecord := do
  match ← v.fields ["data"] with
  | [data] => return ⟨← Json.required Storage.bytesOfJson? data⟩
  | _ => none

def ofText? (text : String) : Option SenderKeyRecord := (Json.parse? text).bind ofJson?

end SenderKeyRecord

namespace SessionStore

variable {ω : Type} (host : Host ω)

def sessionKey (a : ProtocolAddress) : String := "v1/session/" ++ a.text

def senderKeyHome : String := "v1/sender-key/"

def senderKeyKey (n : SenderKeyName) : String := senderKeyHome ++ n.text

def loadSession (a : ProtocolAddress) : Act (World ω) (Option SessionRecord) :=
  Storage.load host SessionRecord.ofJson? (sessionKey a)

def storeSession (a : ProtocolAddress) (r : SessionRecord) : Act (World ω) Unit :=
  Storage.save host (sessionKey a) r.toJson

/-- Looks only whether there is a record, not whether it can be read. -/
def hasSession (a : ProtocolAddress) : Act (World ω) Bool := do
  return (← Storage.get host (sessionKey a)).isSome

def deleteSession (a : ProtocolAddress) : Act (World ω) Unit := Storage.del host (sessionKey a)

def loadSenderKey (n : SenderKeyName) : Act (World ω) (Option SenderKeyRecord) :=
  Storage.load host SenderKeyRecord.ofJson? (senderKeyKey n)

def storeSenderKey (n : SenderKeyName) (r : SenderKeyRecord) : Act (World ω) Unit :=
  Storage.save host (senderKeyKey n) r.toJson

def deleteSenderKey (n : SenderKeyName) : Act (World ω) Unit := Storage.del host (senderKeyKey n)

end SessionStore

end Fanout
