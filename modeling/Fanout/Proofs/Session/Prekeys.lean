import Fanout.Proofs.Except
import Fanout.Proofs.Jid.Text
import Fanout.Proofs.Node
import Fanout.Proofs.Text.BigEndian
import Fanout.Session.Prekeys

namespace Fanout

/-- Of a key number, what three bytes hold. -/
def Prekeys.shortId (id : UInt32) : UInt32 := UInt32.ofNat (id.toNat % 2 ^ 24)

theorem Prekeys.shortId_eq_iff (id : UInt32) : shortId id = id ↔ id.toNat < 2 ^ 24 := by
  have whole : (shortId id).toNat = id.toNat % 2 ^ 24 :=
    UInt32.toNat_ofNat_of_lt' ((Nat.mod_lt _ (by decide)).trans (by decide))
  rw [← UInt32.toNat_inj, whole]
  omega

def SignedPreKey.shortened (k : SignedPreKey) : SignedPreKey :=
  { k with keyId := Prekeys.shortId k.keyId }

theorem SignedPreKey.shortened_eq_iff (k : SignedPreKey) :
    k.shortened = k ↔ k.keyId.toNat < 2 ^ 24 := by
  rw [← Prekeys.shortId_eq_iff]
  obtain ⟨keyId, publicKey, signature⟩ := k
  simp [shortened]

def PreKey.shortened (k : PreKey) : PreKey := { k with keyId := Prekeys.shortId k.keyId }

theorem PreKey.shortened_eq_iff (k : PreKey) : k.shortened = k ↔ k.keyId.toNat < 2 ^ 24 := by
  rw [← Prekeys.shortId_eq_iff]
  obtain ⟨keyId, publicKey⟩ := k
  simp [shortened]

namespace PreKeyBundle

/-- A bundle as it comes out of an answer. -/
def shortened (b : PreKeyBundle) : PreKeyBundle :=
  { b with
    signedPreKey := b.signedPreKey.shortened
    preKey := b.preKey.map PreKey.shortened }

/-- The key numbers fit three bytes. -/
structure HasShortIds (b : PreKeyBundle) : Prop where
  signed : b.signedPreKey.keyId.toNat < 2 ^ 24
  oneTime : ∀ k, b.preKey = some k → k.keyId.toNat < 2 ^ 24

theorem shortened_eq_iff (b : PreKeyBundle) : b.shortened = b ↔ b.HasShortIds := by
  obtain ⟨registrationId, identityKey, signed, oneTime⟩ := b
  have parts : shortened ⟨registrationId, identityKey, signed, oneTime⟩ =
      ⟨registrationId, identityKey, signed, oneTime⟩ ↔
        signed.shortened = signed ∧ oneTime.map PreKey.shortened = oneTime := by
    simp [shortened]
  rw [parts, signed.shortened_eq_iff]
  constructor
  · rintro ⟨short, same⟩
    refine ⟨short, fun k given => k.shortened_eq_iff.mp ?_⟩
    obtain rfl : oneTime = some k := given
    exact Option.some.inj same
  · intro short
    refine ⟨short.signed, ?_⟩
    cases oneTime with
    | none => rfl
    | some k => exact congrArg some (k.shortened_eq_iff.mpr (short.oneTime k rfl))

end PreKeyBundle

namespace Prekeys

/-- The number in a child of up to four bytes, less the high bytes that were cut off. -/
theorem readUInt_of_child {n : Node} {tag : String} {id : UInt32} {len : Nat} (small : len ≤ 4)
    (h : n.child? tag = some (uintNode tag id len)) :
    readUInt n tag len = .ok (UInt32.ofNat (id.toNat % 256 ^ len)) := by
  have bytes : n.childBytes tag = .ok (BigEndian.encode len id.toNat) :=
    Node.childBytes_eq_ok_iff.mpr (by rw [Node.childBytes?, h]; rfl)
  have fits : ¬((BigEndian.encode len id.toNat).length ≠ len ∨ 4 < len) := by
    rw [BigEndian.length_encode]
    omega
  have number : n.childNat tag len = .ok (id.toNat % 256 ^ len) := by
    refine except_bind_eq_ok.mpr ⟨_, bytes, ?_⟩
    rw [if_neg fits, BigEndian.decode_encode]
    rfl
  rw [readUInt, number]
  rfl

theorem childBytes_of_child {n : Node} {tag : String} {bytes : List UInt8}
    (h : n.child? tag = some (bytesNode tag bytes)) : n.childBytes tag = .ok bytes :=
  Node.childBytes_eq_ok_iff.mpr (by rw [Node.childBytes?, h]; rfl)

theorem readSignedPreKey_node (k : SignedPreKey) :
    readSignedPreKey (signedPreKeyNode k) = .ok k.shortened := by
  have id : readUInt (signedPreKeyNode k) "id" 3 = .ok (shortId k.keyId) :=
    readUInt_of_child (by decide) rfl
  have value : (signedPreKeyNode k).childBytes "value" = .ok k.publicKey := childBytes_of_child rfl
  have signature : (signedPreKeyNode k).childBytes "signature" = .ok k.signature :=
    childBytes_of_child rfl
  exact except_bind_eq_ok.mpr ⟨_, id, except_bind_eq_ok.mpr ⟨_, value,
    except_bind_eq_ok.mpr ⟨_, signature, rfl⟩⟩⟩

theorem readPreKey_node (k : PreKey) : readPreKey (preKeyNode k) = .ok k.shortened := by
  have id : readUInt (preKeyNode k) "id" 3 = .ok (shortId k.keyId) :=
    readUInt_of_child (by decide) rfl
  have value : (preKeyNode k).childBytes "value" = .ok k.publicKey := childBytes_of_child rfl
  exact except_bind_eq_ok.mpr ⟨_, id, except_bind_eq_ok.mpr ⟨_, value, rfl⟩⟩

theorem attr?_bundleNode (jid : Jid) (b : PreKeyBundle) :
    (bundleNode jid b).attr? "jid" = some jid.encode := by
  rw [bundleNode, Node.attr?_withChildren, userNode, Node.attr?_withAttr, if_pos rfl]

/-- The children of a bundle have different tags, and only the last one may be missing. -/
theorem child?_bundleNode (jid : Jid) (b : PreKeyBundle) :
    (bundleNode jid b).child? "error" = none ∧
      (bundleNode jid b).child? "registration" = some (uintNode "registration" b.registrationId 4) ∧
      (bundleNode jid b).child? "identity" = some (bytesNode "identity" b.identityKey) ∧
      (bundleNode jid b).child? "skey" = some (signedPreKeyNode b.signedPreKey) ∧
      (bundleNode jid b).child? "key" = b.preKey.map preKeyNode := by
  obtain ⟨registrationId, identityKey, signed, oneTime⟩ := b
  cases oneTime <;> exact ⟨rfl, rfl, rfl, rfl, rfl⟩

theorem mapM_readPreKey (oneTime : Option PreKey) :
    (oneTime.map preKeyNode).mapM readPreKey = .ok (oneTime.map PreKey.shortened) := by
  cases oneTime with
  | none => rfl
  | some k =>
    have read := readPreKey_node k
    simp [read]

theorem readBundle_node (jid : Jid) (b : PreKeyBundle) :
    readBundle (bundleNode jid b) = .ok (jid, b.shortened) := by
  obtain ⟨error, registration, identity, skey, key⟩ := child?_bundleNode jid b
  have named : (bundleNode jid b).attr "jid" = .ok jid.encode :=
    Node.attr_eq_ok_iff.mpr (attr?_bundleNode jid b)
  have number : readUInt (bundleNode jid b) "registration" 4 = .ok b.registrationId := by
    have whole : b.registrationId.toNat % 256 ^ 4 = b.registrationId.toNat :=
      Nat.mod_eq_of_lt b.registrationId.toNat_lt
    rw [readUInt_of_child (by decide) registration, whole, UInt32.ofNat_toNat]
  have identified : readIdentity jid (bundleNode jid b) = .ok b.identityKey := by
    rw [readIdentity, Node.childBytes?, identity]
    rfl
  have signed := readSignedPreKey_node b.signedPreKey
  have oneTime : ((bundleNode jid b).child? "key").mapM readPreKey =
      .ok (b.preKey.map PreKey.shortened) := by
    rw [key, mapM_readPreKey]
  exact except_bind_eq_ok.mpr ⟨_, Node.checkError_eq_ok_iff.mpr error,
    except_bind_eq_ok.mpr ⟨_, named, except_bind_eq_ok.mpr ⟨_, jid.decode_encode,
    except_bind_eq_ok.mpr ⟨_, number, except_bind_eq_ok.mpr ⟨_, identified,
    except_bind_eq_ok.mpr ⟨_, Node.child_eq_ok_iff.mpr skey, except_bind_eq_ok.mpr ⟨_, signed,
    except_bind_eq_ok.mpr ⟨_, oneTime, rfl⟩⟩⟩⟩⟩⟩⟩⟩

theorem childrenTagged_userList (bundles : List (Jid × PreKeyBundle)) :
    ((Node.named "list").withChildren (bundles.map fun e => bundleNode e.1 e.2)).childrenTagged
      "user" = bundles.map fun e => bundleNode e.1 e.2 := by
  refine Node.childrenTagged_of_forall fun c hc => ?_
  obtain ⟨e, _, rfl⟩ := List.mem_map.mp hc
  rfl

theorem parse_answer (bundles : List (Jid × PreKeyBundle)) :
    parse (answer bundles) = .ok (bundles.map fun e => (e.1, e.2.shortened)) := by
  have sound : (answer bundles).child? "error" = none := rfl
  have listed : (answer bundles).child? "list" =
      some ((Node.named "list").withChildren (bundles.map fun e => bundleNode e.1 e.2)) := rfl
  refine except_bind_eq_ok.mpr ⟨(), Node.checkError_eq_ok_iff.mpr sound, ?_⟩
  refine except_bind_eq_ok.mpr ⟨_, Node.child_eq_ok_iff.mpr listed, ?_⟩
  rw [childrenTagged_userList]
  refine mapM_map_of_read (fun e => ?_) bundles
  exact readBundle_node e.1 e.2

/-- An answer gives back its bundles, in order and with the devices they are for, exactly if all
their key numbers fit three bytes. -/
theorem answer_reads_back_iff (bundles : List (Jid × PreKeyBundle)) :
    parse (answer bundles) = .ok bundles ↔ ∀ e ∈ bundles, e.2.HasShortIds := by
  have each : bundles.map (fun e => (e.1, e.2.shortened)) = bundles ↔
      ∀ e ∈ bundles, (e.1, e.2.shortened) = e := by
    conv_lhs => rw [← List.map_id' bundles, List.map_map]
    exact List.map_inj_left
  rw [parse_answer, Except.ok.injEq, each]
  refine forall₂_congr fun e _ => ?_
  rw [← e.2.shortened_eq_iff]
  exact ⟨fun same => (Prod.mk.inj same).2, fun same => Prod.ext rfl same⟩

end Prekeys

end Fanout
