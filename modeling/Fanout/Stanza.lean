import Fanout.Cipher.Envelope
import Fanout.Hash.Sha256
import Fanout.Node
import Fanout.Text.Base64
import Fanout.Text.Utf8

namespace Fanout

namespace Stanza

def withMediaType (mediaType : Option String) (n : Node) : Node :=
  match mediaType with
  | some mediaType => n.withAttr "mediatype" mediaType
  | none => n

def withCount (count : Option UInt32) (n : Node) : Node :=
  match count with
  | some count => n.withAttr "count" count.toNat.repr
  | none => n

def encNode (envelope : Envelope) (mediaType : Option String) (count : Option UInt32) : Node :=
  (withCount count (withMediaType mediaType
    (((Node.named "enc").withAttr "v" "2").withAttr "type" envelope.kind.text))).withBytes
      envelope.body

def toNode (mediaType : Option String) (count : Option UInt32) (c : DeviceCiphertext) : Node :=
  ((Node.named "to").withAttr "jid" c.jid.encode).withChildren [encNode c.envelope mediaType count]

def participantsNode (ciphertexts : List DeviceCiphertext) (mediaType : Option String)
    (count : Option UInt32) : Node :=
  (Node.named "participants").withChildren (ciphertexts.map (toNode mediaType count))

/-- What is hashed for a list of devices: their texts in order, one after another. -/
def hashedDevices (devices : List Jid) : List UInt8 :=
  Utf8.encode (String.join ((devices.map Jid.encode).mergeSort (fun a b => a ≤ b)))

/-- A short name for a set of devices. -/
def participantHash (devices : List Jid) : String :=
  "2:" ++ Base64.encode ((Sha256.digest (hashedDevices devices)).take 6)

/-- A part of a stanza's content. -/
inductive Part where
  | participants (ciphertexts : List DeviceCiphertext) (mediaType : Option String)
      (count : Option UInt32)
  /-- The only ciphertext of a stanza for one device. -/
  | direct (ciphertext : DeviceCiphertext) (mediaType : Option String) (count : Option UInt32)
  | group (ciphertext : List UInt8) (mediaType : Option String)
  | plaintext (body : List UInt8) (mediaType : Option String)

namespace Part

/-- Nobody to address makes no node. -/
def node? : Part → Option Node
  | participants [] _ _ => none
  | participants ciphertexts mediaType count => some (participantsNode ciphertexts mediaType count)
  | direct ciphertext mediaType count => some (encNode ciphertext.envelope mediaType count)
  | group ciphertext mediaType => some (encNode ⟨.skmsg, ciphertext⟩ mediaType none)
  | plaintext body mediaType =>
    some ((withMediaType mediaType (Node.named "plaintext")).withBytes body)

/-- Whether a ciphertext between two devices opens a session. -/
def opensSession : Part → Bool
  | participants ciphertexts _ _ => ciphertexts.any (·.envelope.kind = .pkmsg)
  | direct ciphertext _ _ => ciphertext.envelope.kind = .pkmsg
  | group _ _ => false
  | plaintext _ _ => false

end Part

/-- A message stanza in the making. -/
structure Draft where
  id : String
  recipient : Jid
  type : String
  attrs : Dict String String
  parts : List Part

namespace Draft

def new (id : String) (recipient : Jid) (type : String) : Draft := ⟨id, recipient, type, ∅, []⟩

def withAttr (d : Draft) (key value : String) : Draft :=
  { d with attrs := d.attrs.insert key value }

def withAttrs (d : Draft) (attrs : Dict String String) : Draft :=
  { d with attrs := d.attrs.insertAll attrs.entries }

def withPart (d : Draft) (part : Part) : Draft := { d with parts := d.parts ++ [part] }

/-- The draft's own id, type and addressee stand above all other attributes. -/
def finalAttrs (d : Draft) : Dict String String :=
  ((d.attrs.insert "id" d.id).insert "type" d.type).insert "to" d.recipient.encode

/-- A stanza that opens a session shows the identity of the sending device. -/
def build (d : Draft) (identity : List UInt8) : Node :=
  let content := d.parts.filterMap Part.node? ++
    if d.parts.any Part.opensSession then [(Node.named "device-identity").withBytes identity] else []
  .mk "message" d.finalAttrs (if content = [] then .empty else .nodes content)

end Draft

end Stanza

end Fanout
