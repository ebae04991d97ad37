import Fanout.Act
import Fanout.Cipher.Envelope
import Fanout.Jid.Address

namespace Fanout

/-- State of a session between two devices, read by the cipher alone. -/
structure SessionRecord where
  data : List UInt8
deriving DecidableEq, Inhabited

/-- State of one sender's key in one group, read by the cipher alone. -/
structure SenderKeyRecord where
  data : List UInt8
deriving DecidableEq, Inhabited

/-- The record of a sender key that does not exist yet. -/
def SenderKeyRecord.blank : SenderKeyRecord := ⟨[]⟩

/-- Names a sender key by the group as a whole and the sending device. -/
structure SenderKeyName where
  group : Jid
  sender : ProtocolAddress
deriving DecidableEq, Inhabited

namespace SenderKeyName

def of (group sender : Jid) : SenderKeyName := ⟨group.withoutDevice, sender.protocolAddress⟩

def text (n : SenderKeyName) : String := n.group.encode ++ "::" ++ n.sender.text

end SenderKeyName

/-- A cipher sees only the records it is handed and gives back what is to be kept; it may keep a state
of its own beside them. -/
structure Cipher (ω : Type) where
  initiate : ProtocolAddress → PreKeyBundle → Act ω SessionRecord
  encrypt : ProtocolAddress → SessionRecord → List UInt8 → Act ω (Envelope × SessionRecord)
  decrypt : ProtocolAddress → Option SessionRecord → Envelope → Act ω (List UInt8 × SessionRecord)
  /-- Makes the sender key at its first use; gives what other devices need to read under it. -/
  distribution : SenderKeyName → SenderKeyRecord → Act ω (List UInt8 × SenderKeyRecord)
  groupEncrypt : SenderKeyName → SenderKeyRecord → List UInt8 → Act ω (List UInt8 × SenderKeyRecord)
  acceptDistribution : SenderKeyName → SenderKeyRecord → List UInt8 → Act ω SenderKeyRecord
  groupDecrypt : SenderKeyName → SenderKeyRecord → List UInt8 → Act ω (List UInt8 × SenderKeyRecord)

end Fanout
