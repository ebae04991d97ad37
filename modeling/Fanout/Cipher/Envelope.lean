import Fanout.Jid.Text

namespace Fanout

inductive CiphertextKind where
  /-- Between two devices, with the handshake that opens the session. -/
  | pkmsg
  /-- Between two devices, on an established session. -/
  | msg
  /-- For a group, under the sender's key. -/
  | skmsg
deriving DecidableEq, Repr, Inhabited

namespace CiphertextKind

def all : List CiphertextKind := [.pkmsg, .msg, .skmsg]

def text : CiphertextKind → String
  | .pkmsg => "pkmsg"
  | .msg => "msg"
  | .skmsg => "skmsg"

def parse? (s : String) : Option CiphertextKind := all.find? (fun k => k.text = s)

end CiphertextKind

structure Envelope where
  kind : CiphertextKind
  body : List UInt8
deriving DecidableEq, Inhabited

/-- A ciphertext between two devices and the device it is for. -/
structure DeviceCiphertext where
  jid : Jid
  envelope : Envelope
deriving DecidableEq, Inhabited

structure SignedPreKey where
  keyId : UInt32
  publicKey : List UInt8
  signature : List UInt8
deriving DecidableEq, Inhabited

structure PreKey where
  keyId : UInt32
  publicKey : List UInt8
deriving DecidableEq, Inhabited

/-- Public keys that open a session with a device without asking it. -/
structure PreKeyBundle where
  registrationId : UInt32
  identityKey : List UInt8
  signedPreKey : SignedPreKey
  preKey : Option PreKey
deriving DecidableEq, Inhabited

end Fanout
