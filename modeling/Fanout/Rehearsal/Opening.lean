import Fanout.Cipher.Loopback
import Fanout.Message.Padding
import Fanout.Session.Store

namespace Fanout

structure Opened where
  nonce : List UInt8
  /-- Whose sender key the ciphertext is under, if it is for a group. -/
  sender : Option ProtocolAddress
  /-- The message and its text, unless they cannot be read. -/
  content : Option (Message × List UInt8)

namespace Opened

def unpadded? (padded : List UInt8) : Option (Message × List UInt8) := do
  let text ← (unpad padded).toOption
  return (← Message.ofBytes? text, text)

/-- The ciphertext of one device opens without its session. -/
def pairwise? (body : List UInt8) : Option Opened := do
  let (padded, _) ← (Loopback.decrypt none ⟨.msg, body⟩).toOption
  return ⟨body.take 8, none, unpadded? padded⟩

def senderKeyIn? (d : Documents) (name : SenderKeyName) : Option SenderKeyRecord :=
  (d.find? (SessionStore.senderKeyKey name)).bind SenderKeyRecord.ofText?

/-- The ciphertext of a group under a stored key of one sender. -/
def group? (d : Documents) (group : Jid) (body : List UInt8) (sender : Jid) : Option Opened := do
  let name := SenderKeyName.of group sender
  let (padded, _) ← (Loopback.groupDecrypt (← senderKeyIn? d name) body).toOption
  return ⟨body.take 4, some name.sender, some (← unpadded? padded)⟩

end Opened

end Fanout
