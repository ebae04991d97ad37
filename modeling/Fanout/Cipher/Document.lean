import Fanout.Cipher.Envelope
import Fanout.Json.Lookup

namespace Fanout.PreKeyBundle

def toJson (b : PreKeyBundle) : Json :=
  .ofMembers [("registration_id", .ofNat b.registrationId.toNat), ("identity", .ofBytes b.identityKey),
    ("skey", .ofMembers [("id", .ofNat b.signedPreKey.keyId.toNat),
      ("value", .ofBytes b.signedPreKey.publicKey),
      ("signature", .ofBytes b.signedPreKey.signature)]),
    ("key", .ofOption (fun k =>
      .ofMembers [("id", .ofNat k.keyId.toNat), ("value", .ofBytes k.publicKey)]) b.preKey)]

def keyId (v : Json) : UInt32 := UInt32.ofNat (v.natAt "id")

def ofJson (v : Json) : PreKeyBundle :=
  let skey := (v.at? "skey").getD .null
  { registrationId := UInt32.ofNat (v.natAt "registration_id")
    identityKey := v.bytesAt "identity"
    signedPreKey := ⟨keyId skey, skey.bytesAt "value", skey.bytesAt "signature"⟩
    preKey := (v.at? "key").map fun key => ⟨keyId key, key.bytesAt "value"⟩ }

end Fanout.PreKeyBundle
