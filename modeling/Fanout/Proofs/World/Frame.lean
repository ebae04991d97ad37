import Fanout.Proofs.Act
import Fanout.Session.Assertion

namespace Fanout

variable {ω α : Type}

structure Cipher.Keeps (cipher : Cipher ω) (R : ω → ω → Prop) : Prop where
  initiate : ∀ address bundle, (cipher.initiate address bundle).Keeps R
  encrypt : ∀ address session plaintext, (cipher.encrypt address session plaintext).Keeps R
  decrypt : ∀ address session envelope, (cipher.decrypt address session envelope).Keeps R
  distribution : ∀ name record, (cipher.distribution name record).Keeps R
  groupEncrypt : ∀ name record plaintext, (cipher.groupEncrypt name record plaintext).Keeps R
  acceptDistribution : ∀ name record distribution,
    (cipher.acceptDistribution name record distribution).Keeps R
  groupDecrypt : ∀ name record ciphertext, (cipher.groupDecrypt name record ciphertext).Keeps R

/-- What the host keeps whatever it does but sending stanzas. -/
structure Host.Keeps (host : Host ω) (R : ω → ω → Prop) : Prop where
  refuses : ∀ call s, R s (host.refuses call s).2
  query : ∀ n, (host.query n).Keeps R
  clock : ∀ s, R s (host.clock s).2
  noise : ∀ s, R s (host.noise s).2
  cipher : host.cipher.Keeps R

/-- However a delivery goes, its states stand in a relation to those before. -/
def Delivery.Keeps (R : ω → ω → Prop) : Delivery ω → ω → Prop
  | .settled _ t, s => R s t
  | .acknowledged _ t next, s => R s t ∧ ∀ answer u, (next answer u).Keeps R u

/-- Every host keeps the relation that holds of any two states. -/
theorem Host.keeps_true (host : Host ω) : host.Keeps (fun _ _ => True) := by
  constructor <;> intros
  case cipher => constructor <;> intros <;> intro s <;> trivial
  all_goals first | trivial | (intro s; trivial)

instance isPreorder_true : IsPreorder ω fun _ _ => True where
  refl _ := trivial
  trans _ _ _ _ _ := trivial

/-- The documents of some keys are as they were, those of others are not gone, and the host went on
by a relation. -/
structure World.Follows (R : ω → ω → Prop) (kept lasting : String → Prop) (v w : World ω) :
    Prop where
  host : R v.host w.host
  documents : ∀ key, kept key → w.documents.find? key = v.documents.find? key
  present : ∀ key, lasting key → w.documents.find? key = none → v.documents.find? key = none

namespace World

variable {R : ω → ω → Prop} {kept lasting : String → Prop}

instance [IsPreorder ω R] : IsPreorder (World ω) (World.Follows R kept lasting) where
  refl w := ⟨refl_of R w.host, fun _ _ => rfl, fun _ _ => id⟩
  trans _ _ _ h h' :=
    ⟨trans_of R h.host h'.host, fun key hk => (h'.documents key hk).trans (h.documents key hk),
      fun key hk gone => h.present key hk (h'.present key hk gone)⟩

theorem inHost_keeps {x : Act ω α} (hx : x.Keeps R) : (inHost x).Keeps (Follows R kept lasting) :=
  hx.zoom fun _ _ h => ⟨h, fun _ _ => rfl, fun _ _ => id⟩

variable {host : Host ω}

theorem query_keeps (hh : host.Keeps R) (n : Node) :
    (query host n).Keeps (Follows R kept lasting) :=
  inHost_keeps (hh.query n)

theorem now_keeps (hh : host.Keeps R) : (now host).Keeps (Follows R kept lasting) :=
  inHost_keeps hh.clock

theorem below_keeps (hh : host.Keeps R) (bound : Nat) :
    (below host bound).Keeps (Follows R kept lasting) :=
  inHost_keeps hh.noise

theorem noiseBytes_keeps [IsPreorder ω R] (hh : host.Keeps R) (n : Nat) :
    (noiseBytes host n).Keeps (Follows R kept lasting) := by
  induction n with
  | zero => exact Act.Keeps.pure []
  | succ n ih => exact (below_keeps hh 256).bind fun b => ih.bind fun rest => Act.Keeps.pure _

end World

variable {R : ω → ω → Prop} {kept lasting : String → Prop} {host : Host ω}

namespace Storage

theorem allow_keeps (hh : host.Keeps R) (call : StorageCall) :
    (allow host call).Keeps (World.Follows R kept lasting) := by
  intro w
  have h := hh.refuses call w.host
  unfold Act.after allow
  rcases hr : host.refuses call w.host with ⟨_ | e, s⟩ <;> rw [hr] at h <;>
    exact ⟨h, fun _ _ => rfl, fun _ _ => id⟩

theorem get_keeps [IsPreorder ω R] (hh : host.Keeps R) (key : String) :
    (get host key).Keeps (World.Follows R kept lasting) :=
  (allow_keeps hh _).bind fun _ => Act.Keeps.get.bind fun _ => Act.Keeps.pure _

theorem list_keeps [IsPreorder ω R] (hh : host.Keeps R) (start : String) :
    (list host start).Keeps (World.Follows R kept lasting) :=
  (allow_keeps hh _).bind fun _ => Act.Keeps.get.bind fun _ => Act.Keeps.pure _

theorem load_keeps [IsPreorder ω R] (hh : host.Keeps R) (read : Json → Option α) (key : String) :
    (load host read key).Keeps (World.Follows R kept lasting) := by
  refine (get_keeps hh key).bind fun text => ?_
  cases text with
  | none => exact Act.Keeps.pure none
  | some text =>
    dsimp only
    split
    · exact Act.Keeps.pure _
    · exact Act.Keeps.throw _

theorem put_keeps [IsPreorder ω R] (hh : host.Keeps R) {key : String} (hk : ¬kept key)
    (value : String) : (put host key value).Keeps (World.Follows R kept lasting) := by
  refine (allow_keeps hh _).bind fun _ => Act.Keeps.modify fun w =>
    ⟨refl_of R w.host, fun l hl => ?_, fun l _ gone => ?_⟩
  · have ne : key ≠ l := fun h => hk (h ▸ hl)
    rw [Dict.find?_insert, if_neg ne]
  · rw [Dict.find?_insert] at gone
    split at gone
    next => cases gone
    next => exact gone

theorem save_keeps [IsPreorder ω R] (hh : host.Keeps R) {key : String} (hk : ¬kept key) (v : Json) :
    (save host key v).Keeps (World.Follows R kept lasting) :=
  put_keeps hh hk _

theorem del_keeps [IsPreorder ω R] (hh : host.Keeps R) {key : String} (hk : ¬kept key)
    (hl : ¬lasting key) :
    (del host key).Keeps (World.Follows R kept lasting) := by
  refine (allow_keeps hh _).bind fun _ => Act.Keeps.modify fun w =>
    ⟨refl_of R w.host, fun l kept => ?_, fun l lasts gone => ?_⟩
  · have ne : key ≠ l := fun h => hk (h ▸ kept)
    rw [Dict.find?_erase, if_neg ne]
  · have ne : key ≠ l := fun h => hl (h ▸ lasts)
    rwa [Dict.find?_erase, if_neg ne] at gone

end Storage

namespace SessionStore

/-- Whether a document is the record of a session or of a sender key. -/
def isRecord (key : String) : Bool :=
  Storage.startsWith "v1/session/" key || Storage.startsWith senderKeyHome key

theorem isRecord_sessionKey (a : ProtocolAddress) : isRecord (sessionKey a) = true := by
  simp [isRecord, sessionKey, Storage.startsWith, String.toList_append]

theorem isRecord_senderKeyKey (n : SenderKeyName) : isRecord (senderKeyKey n) = true := by
  simp [isRecord, senderKeyKey, senderKeyHome, Storage.startsWith, String.toList_append]

theorem not_rest_sessionKey (a : ProtocolAddress) : ¬isRecord (sessionKey a) = false := by
  simp [isRecord_sessionKey]

theorem not_rest_senderKeyKey (n : SenderKeyName) : ¬isRecord (senderKeyKey n) = false := by
  simp [isRecord_senderKeyKey]

end SessionStore

/-- Everything but the records of sessions and sender keys is as it was, and no record is gone. -/
abbrev World.KeepsRest (R : ω → ω → Prop) : World ω → World ω → Prop :=
  World.Follows R (fun key => SessionStore.isRecord key = false) fun _ => True

namespace Repository

variable [IsPreorder ω R]

theorem hasSession_keeps (hh : host.Keeps R) (jid : Jid) :
    (hasSession host jid).Keeps (World.Follows R kept lasting) :=
  (Storage.get_keeps hh _).bind fun _ => Act.Keeps.pure _

theorem storeSession_keeps (hh : host.Keeps R) {a : ProtocolAddress}
    (other : ¬kept (SessionStore.sessionKey a)) (r : SessionRecord) :
    (SessionStore.storeSession host a r).Keeps (World.Follows R kept lasting) :=
  Storage.save_keeps hh other _

theorem storeSenderKey_keeps (hh : host.Keeps R) {n : SenderKeyName}
    (other : ¬kept (SessionStore.senderKeyKey n)) (r : SenderKeyRecord) :
    (SessionStore.storeSenderKey host n r).Keeps (World.Follows R kept lasting) :=
  Storage.save_keeps hh other _

theorem injectSession_keeps (hh : host.Keeps R) {jid : Jid}
    (other : ¬kept (SessionStore.sessionKey jid.protocolAddress)) (bundle : PreKeyBundle) :
    (injectSession host jid bundle).Keeps (World.Follows R kept lasting) :=
  (World.inHost_keeps (hh.cipher.initiate _ _)).bind fun _ => storeSession_keeps hh other _

theorem encrypt_keeps (hh : host.Keeps R) {jid : Jid}
    (other : ¬kept (SessionStore.sessionKey jid.protocolAddress)) (plaintext : List UInt8) :
    (encrypt host jid plaintext).Keeps (World.Follows R kept lasting) := by
  refine (Storage.load_keeps hh _ _).bind fun session => ?_
  cases session with
  | none => exact Act.Keeps.throw _
  | some session =>
    refine (World.inHost_keeps (hh.cipher.encrypt _ _ _)).bind fun out => ?_
    have stored : (do
        SessionStore.storeSession host jid.protocolAddress out.2
        return out.1).Keeps (World.Follows R kept lasting) :=
      (storeSession_keeps hh other _).bind fun _ => Act.Keeps.pure _
    dsimp only
    split
    · exact (Act.Keeps.throw _).bind fun _ => stored
    · exact stored

theorem decrypt_keeps (hh : host.Keeps R) {jid : Jid}
    (other : ¬kept (SessionStore.sessionKey jid.protocolAddress)) (envelope : Envelope) :
    (decrypt host jid envelope).Keeps (World.Follows R kept lasting) := by
  refine (Storage.load_keeps hh _ _).bind fun existing => ?_
  have opened : (do
      let out ← World.inHost (host.cipher.decrypt jid.protocolAddress existing envelope)
      SessionStore.storeSession host jid.protocolAddress out.2
      return out.1).Keeps (World.Follows R kept lasting) :=
    (World.inHost_keeps (hh.cipher.decrypt _ _ _)).bind fun out =>
      (storeSession_keeps hh other _).bind fun _ => Act.Keeps.pure _
  dsimp only
  split
  · exact (Act.Keeps.throw _).bind fun _ => Act.Keeps.ite (Act.Keeps.throw _) opened
  · refine Act.Keeps.ite ?_ opened
    exact (Act.Keeps.throw _).bind fun _ => opened

theorem deleteSessions_keeps (hh : host.Keeps R) {jids : List Jid}
    (others : ∀ jid ∈ jids, ¬kept (SessionStore.sessionKey jid.protocolAddress))
    (fleeting : ∀ jid ∈ jids, ¬lasting (SessionStore.sessionKey jid.protocolAddress)) :
    (deleteSessions host jids).Keeps (World.Follows R kept lasting) := by
  induction jids with
  | nil => exact Act.Keeps.pure _
  | cons jid jids ih =>
    have first := Storage.del_keeps hh (others jid List.mem_cons_self)
      (fleeting jid List.mem_cons_self)
    exact first.bind fun _ => ih (fun j hj => others j (List.mem_cons_of_mem jid hj))
      fun j hj => fleeting j (List.mem_cons_of_mem jid hj)

theorem encryptGroup_keeps (hh : host.Keeps R) {group sender : Jid}
    (other : ¬kept (SessionStore.senderKeyKey (.of group sender))) (plaintext : List UInt8) :
    (encryptGroup host group sender plaintext).Keeps (World.Follows R kept lasting) := by
  refine (Storage.load_keeps hh _ _).bind fun record => ?_
  refine (World.inHost_keeps (hh.cipher.distribution _ _)).bind fun told => ?_
  refine (World.inHost_keeps (hh.cipher.groupEncrypt _ _ _)).bind fun out => ?_
  exact (storeSenderKey_keeps hh other _).bind fun _ => Act.Keeps.pure _

end Repository

namespace Sessions

variable [IsPreorder ω R]

theorem missing_keeps (hh : host.Keeps R) (jids : List Jid) (force : Bool) :
    (missing host jids force).Keeps (World.Follows R kept lasting) := by
  refine (Act.Keeps.filterM (fun jid => ?_) jids).bind fun wanted => Act.Keeps.pure _
  unfold isMissing
  split
  · exact Act.Keeps.pure true
  · exact (Repository.hasSession_keeps hh jid).bind fun _ => Act.Keeps.pure _

theorem inject_keeps (hh : host.Keeps R) {wanted : List Jid}
    (others : ∀ jid ∈ wanted, ¬kept (SessionStore.sessionKey jid.protocolAddress))
    (bundles : List (Jid × PreKeyBundle)) :
    (inject host wanted bundles).Keeps (World.Follows R kept lasting) := by
  induction bundles with
  | nil => exact Act.Keeps.pure 0
  | cons b rest ih =>
    obtain ⟨jid, bundle⟩ := b
    unfold inject
    split
    next listed =>
      exact (Repository.injectSession_keeps hh (others jid listed) bundle).bind fun _ =>
        ih.bind fun _ => Act.Keeps.pure _
    next => exact ih

theorem ensure_follows (hh : host.Keeps R)
    (others : ∀ jid : Jid, ¬kept (SessionStore.sessionKey jid.protocolAddress)) (jids : List Jid)
    (force : Bool) : (ensure host jids force).Keeps (World.Follows R kept lasting) := by
  refine (missing_keeps hh jids force).bind fun wanted => ?_
  have asked : (do
      let answer ← World.query host (Prekeys.query wanted)
      let bundles ← Act.ofExcept (Prekeys.parse answer)
      return 0 < (← inject host wanted bundles) :
        Act (World ω) Bool).Keeps (World.Follows R kept lasting) :=
    (World.query_keeps hh _).bind fun answer => (Act.Keeps.ofExcept _).bind fun bundles =>
      (inject_keeps hh (fun jid _ => others jid) bundles).bind fun _ => Act.Keeps.pure _
  split
  · exact Act.Keeps.pure false
  · exact asked

theorem ensure_keeps (hh : host.Keeps R) (jids : List Jid) (force : Bool) :
    (ensure host jids force).Keeps (World.KeepsRest R) :=
  ensure_follows hh (fun _ => SessionStore.not_rest_sessionKey _) jids force

end Sessions

end Fanout
