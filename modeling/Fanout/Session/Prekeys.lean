import Fanout.Cipher.Envelope
import Fanout.Node

namespace Fanout.Prekeys

def xmlns : String := "encrypt"

def userNode (jid : Jid) : Node := (Node.named "user").withAttr "jid" jid.encode

def query (jids : List Jid) : Node :=
  ((((Node.named "iq").withAttr "xmlns" xmlns).withAttr "type" "get").withAttr "to"
    Jid.service.encode).withChildren [(Node.named "key").withChildren (jids.map userNode)]

def uintNode (tag : String) (n : UInt32) (len : Nat) : Node :=
  (Node.named tag).withBytes (BigEndian.encode len n.toNat)

def bytesNode (tag : String) (bytes : List UInt8) : Node := (Node.named tag).withBytes bytes

def signedPreKeyNode (k : SignedPreKey) : Node :=
  (Node.named "skey").withChildren
    [uintNode "id" k.keyId 3, bytesNode "value" k.publicKey, bytesNode "signature" k.signature]

def preKeyNode (k : PreKey) : Node :=
  (Node.named "key").withChildren [uintNode "id" k.keyId 3, bytesNode "value" k.publicKey]

def bundleNode (jid : Jid) (b : PreKeyBundle) : Node :=
  (userNode jid).withChildren
    ([uintNode "registration" b.registrationId 4, bytesNode "identity" b.identityKey,
      signedPreKeyNode b.signedPreKey] ++ (b.preKey.map preKeyNode).toList)

/-- The answer that gives these bundles. -/
def answer (bundles : List (Jid × PreKeyBundle)) : Node :=
  ((Node.named "iq").withAttr "type" "result").withChildren
    [(Node.named "list").withChildren (bundles.map fun b => bundleNode b.1 b.2)]

def readUInt (n : Node) (tag : String) (len : Nat) : Except Error UInt32 :=
  (n.childNat tag len).map UInt32.ofNat

def readSignedPreKey (n : Node) : Except Error SignedPreKey := do
  let keyId ← readUInt n "id" 3
  let publicKey ← n.childBytes "value"
  let signature ← n.childBytes "signature"
  return ⟨keyId, publicKey, signature⟩

def readPreKey (n : Node) : Except Error PreKey := do
  let keyId ← readUInt n "id" 3
  let publicKey ← n.childBytes "value"
  return ⟨keyId, publicKey⟩

def readIdentity (jid : Jid) (n : Node) : Except Error (List UInt8) :=
  match n.childBytes? "identity" with
  | some bytes => .ok bytes
  | none => .error (.protocol (jid.encode ++ ": missing identity"))

def readBundle (n : Node) : Except Error (Jid × PreKeyBundle) := do
  n.checkError
  let jid ← Jid.decode (← n.attr "jid")
  let registrationId ← readUInt n "registration" 4
  let identityKey ← readIdentity jid n
  let signedPreKey ← readSignedPreKey (← n.child "skey")
  let preKey ← (n.child? "key").mapM readPreKey
  return (jid, ⟨registrationId, identityKey, signedPreKey, preKey⟩)

/-- One device that cannot be read fails the whole answer. -/
def parse (answer : Node) : Except Error (List (Jid × PreKeyBundle)) := do
  answer.checkError
  let list ← answer.child "list"
  (list.childrenTagged "user").mapM readBundle

end Fanout.Prekeys
