import Fanout.Session.Store

namespace Fanout.Repository

open SessionStore

variable {ω : Type} (host : Host ω)

def hasSession (jid : Jid) : Act (World ω) Bool := SessionStore.hasSession host jid.protocolAddress

def injectSession (jid : Jid) (bundle : PreKeyBundle) : Act (World ω) Unit := do
  let record ← World.inHost (host.cipher.initiate jid.protocolAddress bundle)
  storeSession host jid.protocolAddress record

def deleteSessions (jids : List Jid) : Act (World ω) Unit :=
  jids.forM fun jid => deleteSession host jid.protocolAddress

def encrypt (jid : Jid) (plaintext : List UInt8) : Act (World ω) Envelope := do
  let address := jid.protocolAddress
  match ← loadSession host address with
  | none => throw (.noSession address.text)
  | some session =>
    let (envelope, next) ← World.inHost (host.cipher.encrypt address session plaintext)
    if envelope.kind = .skmsg then
      throw (.crypto ("pairwise cipher produced skmsg for " ++ address.text))
    storeSession host address next
    return envelope

def decrypt (jid : Jid) (envelope : Envelope) : Act (World ω) (List UInt8) := do
  let address := jid.protocolAddress
  let existing ← loadSession host address
  if envelope.kind = .skmsg then throw (.crypto "skmsg is not a pairwise envelope")
  if envelope.kind = .msg ∧ existing = none then throw (.noSession address.text)
  let (plaintext, next) ← World.inHost (host.cipher.decrypt address existing envelope)
  storeSession host address next
  return plaintext

structure GroupCiphertext where
  ciphertext : List UInt8
  distribution : List UInt8
deriving DecidableEq

/-- Encrypts once for a whole group and says what devices need to read it. -/
def encryptGroup (group sender : Jid) (plaintext : List UInt8) : Act (World ω) GroupCiphertext := do
  let name := SenderKeyName.of group sender
  let record := (← loadSenderKey host name).getD .blank
  let (distribution, record) ← World.inHost (host.cipher.distribution name record)
  let (ciphertext, record) ← World.inHost (host.cipher.groupEncrypt name record plaintext)
  storeSenderKey host name record
  return ⟨ciphertext, distribution⟩

def acceptDistribution (group author : Jid) (distribution : List UInt8) : Act (World ω) Unit := do
  let name := SenderKeyName.of group author
  let record := (← loadSenderKey host name).getD .blank
  let record ← World.inHost (host.cipher.acceptDistribution name record distribution)
  storeSenderKey host name record

def decryptGroup (group author : Jid) (ciphertext : List UInt8) : Act (World ω) (List UInt8) := do
  let name := SenderKeyName.of group author
  match ← loadSenderKey host name with
  | none => throw (.noSession name.text)
  | some record =>
    let (plaintext, record) ← World.inHost (host.cipher.groupDecrypt name record ciphertext)
    storeSenderKey host name record
    return plaintext

end Fanout.Repository
