import Fanout.Proofs.Cipher.States
import Fanout.Proofs.Session.Isolation
import Fanout.Proofs.Session.Operation

namespace Fanout.Repository

open SessionStore

variable {ω : Type} {host : Host ω} {noise : ω → Nat × ω} {w w' : World ω} {documents : Documents}

section Work

variable {data : Option (List UInt8)} {next : List UInt8} {s s' : ω}

theorem initiate_of_work {cipher : Cipher ω} (rehearses : cipher.Rehearses) {jid : Jid}
    {bundle : PreKeyBundle} {answer : Unit}
    (h : (Operation.inject jid bundle).work cipher data s = .ok (answer, next) s') :
    ∃ r, Loopback.initiate bundle = .ok r ∧ next = r.data := by
  obtain ⟨r, t, made, h⟩ := Act.bind_eq_ok.mp h
  cases h
  exact ⟨r, rehearses.initiate made, rfl⟩

theorem encrypt_of_work {cipher : Cipher ω} (rehearses : cipher.Rehearses) {jid : Jid}
    {plaintext : List UInt8} {envelope : Envelope}
    (h : (Operation.encrypt jid plaintext).work cipher data s = .ok (envelope, next) s') :
    ∃ session r, data = some session ∧ envelope.kind ≠ .skmsg ∧
      Loopback.encrypt ⟨session⟩ plaintext = .ok (envelope, r) ∧ next = r.data := by
  cases data with
  | none => cases h
  | some session =>
    obtain ⟨⟨made, r⟩, t, encrypted, h⟩ := Act.bind_eq_ok.mp h
    dsimp only at h
    split at h
    next => cases h
    next pairwise =>
      cases h
      exact ⟨session, r, rfl, pairwise, rehearses.encrypt encrypted, rfl⟩

theorem decrypt_of_work {jid : Jid} {envelope : Envelope} {plaintext : List UInt8}
    (h : (Operation.decrypt jid envelope).work (Loopback.cipher noise) data s =
      .ok (plaintext, next) s') :
    ∃ r, Loopback.decrypt (data.map .mk) envelope = .ok (plaintext, r) ∧ next = r.data := by
  by_cases group : envelope.kind = .skmsg
  · simp only [Operation.work, if_pos group] at h
    cases h
  by_cases unopened : envelope.kind = .msg ∧ data = none
  · simp only [Operation.work, if_neg group, if_pos unopened] at h
    cases h
  simp only [Operation.work, if_neg group, if_neg unopened] at h
  obtain ⟨⟨read, r⟩, t, decrypted, h⟩ := Act.bind_eq_ok.mp h
  cases h
  exact ⟨r, (Act.ofExcept_eq_ok.mp decrypted).1, rfl⟩

theorem work_of_decrypt {jid : Jid} {envelope : Envelope} {plaintext : List UInt8}
    {r : SessionRecord} (pairwise : envelope.kind ≠ .skmsg)
    (opened : envelope.kind = .pkmsg ∨ data ≠ none)
    (h : Loopback.decrypt (data.map .mk) envelope = .ok (plaintext, r)) (s : ω) :
    (Operation.decrypt jid envelope).work (Loopback.cipher noise) data s =
      .ok (plaintext, r.data) s := by
  have known : ¬(envelope.kind = .msg ∧ data = none) := by
    rintro ⟨kind, absent⟩
    rcases opened with first | held
    · rw [first] at kind
      cases kind
    · exact held absent
  simp only [Operation.work, if_neg pairwise, if_neg known]
  exact Act.ofExcept_bind_of_ok h s

theorem groupEncrypt_of_work {group sender : Jid} {plaintext : List UInt8} {out : GroupCiphertext}
    (h : (Operation.encryptGroup group sender plaintext).work (Loopback.cipher noise) data s =
      .ok (out, next) s') :
    ∃ record r, Loopback.groupEncrypt record plaintext = .ok (out.ciphertext, r) ∧
      out.distribution = record.data ∧ next = r.data ∧
      ∀ held, data = some held → held ≠ [] → record.data = held := by
  obtain ⟨⟨distribution, record⟩, t, told, h⟩ := Act.bind_eq_ok.mp h
  obtain ⟨rfl, kept⟩ := Loopback.distribution_eq_ok told
  obtain ⟨⟨ciphertext, r⟩, u, encrypted, h⟩ := Act.bind_eq_ok.mp h
  cases h
  refine ⟨record, r, (Act.ofExcept_eq_ok.mp encrypted).1, rfl, rfl, ?_⟩
  rintro held rfl filled
  rw [kept filled]
  rfl

theorem acceptDistribution_of_work {group author : Jid} {distribution : List UInt8} {answer : Unit}
    (h : (Operation.acceptDistribution group author distribution).work (Loopback.cipher noise) data
      s = .ok (answer, next) s') :
    next = distribution ∧ ∃ key, Loopback.keyOf? distribution = some key := by
  obtain ⟨r, t, accepted, h⟩ := Act.bind_eq_ok.mp h
  cases h
  obtain ⟨k, read, made⟩ := except_bind_eq_ok.mp (Act.ofExcept_eq_ok.mp accepted).1
  cases made
  exact ⟨rfl, k.key, Loopback.keyOf?_eq_some.mpr ⟨k.iteration, read⟩⟩

theorem groupDecrypt_of_work {group author : Jid} {ciphertext plaintext : List UInt8}
    (h : (Operation.decryptGroup group author ciphertext).work (Loopback.cipher noise) data s =
      .ok (plaintext, next) s') :
    ∃ held r, data = some held ∧ Loopback.groupDecrypt ⟨held⟩ ciphertext = .ok (plaintext, r) ∧
      next = r.data := by
  cases data with
  | none => cases h
  | some held =>
    obtain ⟨⟨read, r⟩, t, decrypted, h⟩ := Act.bind_eq_ok.mp h
    cases h
    exact ⟨held, r, rfl, (Act.ofExcept_eq_ok.mp decrypted).1, rfl⟩

end Work

/-- What happens in a repository. -/
inductive Deed where
  | operation (op : Operation)
  | delete (jids : List Jid)

/-- The world after a deed, whichever way it ends. -/
def Deed.after (host : Host ω) (w : World ω) : Deed → World ω
  | operation op => (op.run host).after w
  | delete jids => (deleteSessions host jids).after w

/-- A deed that writes finds room to count its message. One that does not would not return. -/
def Deed.HasRoom (documents : Documents) : Deed → Prop
  | operation (.encrypt jid _) => ∀ data state,
    (Place.session jid.protocolAddress).stored? documents = some (some data) →
    Loopback.readState Loopback.Session.ofJson? data = .ok state →
    state.counter + 1 < UInt64.size
  | operation (.encryptGroup group sender _) => ∀ data state,
    (Place.senderKey (.of group sender)).stored? documents = some (some data) →
    Loopback.readState Loopback.SenderKey.ofJson? data = .ok state →
    state.iteration + 1 < UInt32.size
  | _ => True

/-- Every session that is stored can be read. -/
def LegibleSessions (documents : Documents) : Prop :=
  ∀ address, ∃ stored, (Place.session address).stored? documents = some stored ∧
    ∀ data, stored = some data → Loopback.Legible data

/-- The record of a sender key can be read, and this is the key. -/
def HoldsKey (name : SenderKeyName) (key : List UInt8) (documents : Documents) : Prop :=
  ∃ data, (Place.senderKey name).stored? documents = some (some data) ∧
    Loopback.keyOf? data = some key

theorem LegibleSessions.empty : LegibleSessions ∅ :=
  fun _ => ⟨none, rfl, fun _ absent => (nomatch absent)⟩

/-- Only sessions go, and what does not go stays as it is. -/
def Deletes (w w' : World ω) : Prop :=
  ∀ key, w'.documents.find? key = w.documents.find? key ∨
    w'.documents.find? key = none ∧ ∃ address, key = sessionKey address

instance : IsPreorder (World ω) Deletes where
  refl _ _ := .inl rfl
  trans u v w first second key := by
    rcases second key with same | gone
    · rw [same]
      exact first key
    · exact .inr gone

theorem deleteSessions_deletes (host : Host ω) (jids : List Jid) :
    (deleteSessions host jids).Keeps Deletes := by
  induction jids with
  | nil => exact Act.Keeps.pure _
  | cons jid jids ih =>
    have first : (deleteSession host jid.protocolAddress).Keeps Deletes := by
      intro w key
      rcases Storage.del_cases host (sessionKey jid.protocolAddress) w with
        ⟨w', done, gone⟩ | ⟨e, w', done, same, _⟩
      · rw [deleteSession, Act.after_of_ok done, gone, Dict.find?_erase]
        split
        next here => exact .inr ⟨rfl, _, here.symm⟩
        next => exact .inl rfl
      · rw [deleteSession, Act.after_of_error done, same]
        exact .inl rfl
    exact first.bind fun _ => ih

section Progress

variable {group author jid : Jid} {data key : List UInt8}

theorem acceptDistribution_goes_through (cipher : host.cipher = Loopback.cipher noise)
    (reliable : host.Reliable) {k : Loopback.SenderKey} {held : Option (List UInt8)}
    (stored : (Place.senderKey (.of group author)).stored? w.documents = some held)
    (read : Loopback.readState Loopback.SenderKey.ofJson? data = .ok k) :
    ∃ w', acceptDistribution host group author data w = .ok () w' ∧
      (Place.senderKey (.of group author)).stored? w'.documents = some (some data) := by
  let op := Operation.acceptDistribution group author data
  have accepted : Loopback.acceptDistribution data = .ok ⟨data⟩ :=
    except_bind_eq_ok.mpr ⟨k, read, rfl⟩
  have worked : ∀ s, op.work host.cipher held s = .ok ((), data) s := by
    intro s
    rw [cipher]
    exact Act.ofExcept_bind_of_ok accepted s
  obtain ⟨w', ran, wrote⟩ := op.run_of_stored reliable rfl stored worked
  refine ⟨w', ran, ?_⟩
  rw [wrote, Place.stored?_insert]
  exact if_pos rfl

theorem encryptGroup_goes_through (cipher : host.cipher = Loopback.cipher noise)
    (reliable : host.Reliable) {k : Loopback.SenderKey}
    (stored : (Place.senderKey (.of group author)).stored? w.documents = some (some data))
    (read : Loopback.readState Loopback.SenderKey.ofJson? data = .ok k) (plaintext : List UInt8) :
    let nonce := BigEndian.encode 4 (k.iteration + 1)
    ∃ w', encryptGroup host group author plaintext w =
      .ok ⟨nonce ++ Loopback.mask k.key nonce plaintext, data⟩ w' := by
  intro nonce
  let op := Operation.encryptGroup group author plaintext
  have told : ∀ s : ω, (Loopback.cipher noise).distribution (.of group author) ⟨data⟩ s =
      .ok (data, ⟨data⟩) s :=
    Loopback.distribution_of_keyOf? (Loopback.keyOf?_eq_some.mpr ⟨k.iteration, read⟩)
  obtain ⟨next, encrypted⟩ := Loopback.groupEncrypt_of_readState read plaintext
  have worked : ∀ s, op.work host.cipher (some data) s =
      .ok (⟨nonce ++ Loopback.mask k.key nonce plaintext, data⟩, next.data) s := by
    intro s
    rw [cipher]
    refine (Act.bind_of_ok (told s)).trans ?_
    exact Act.ofExcept_bind_of_ok encrypted s
  obtain ⟨w', ran, _⟩ := op.run_of_stored reliable rfl stored worked
  exact ⟨w', ran⟩

theorem encrypt_goes_through (cipher : host.cipher = Loopback.cipher noise)
    (reliable : host.Reliable) {state : Loopback.Session}
    (stored : (Place.session jid.protocolAddress).stored? w.documents = some (some data))
    (read : Loopback.readState Loopback.Session.ofJson? data = .ok state)
    (plaintext : List UInt8) :
    ∃ envelope w', encrypt host jid plaintext w = .ok envelope w' ∧
      envelope.kind = if state.pending then .pkmsg else .msg := by
  let op := Operation.encrypt jid plaintext
  obtain ⟨envelope, next, encrypted, kind⟩ := Loopback.encrypt_of_readState read plaintext
  have pairwise : envelope.kind ≠ .skmsg := by
    rw [kind]
    split <;> decide
  have worked : ∀ s, op.work host.cipher (some data) s = .ok (envelope, next.data) s := by
    intro s
    rw [cipher]
    refine (Act.ofExcept_bind_of_ok encrypted s).trans ?_
    dsimp only
    rw [if_neg pairwise]
    rfl
  obtain ⟨w', ran, _⟩ := op.run_of_stored reliable rfl stored worked
  exact ⟨envelope, w', ran, kind⟩

/-- Whoever holds a key reads with it whatever comes for the group. -/
theorem decryptGroup_append (cipher : host.cipher = Loopback.cipher noise)
    (reliable : host.Reliable) {nonce : List UInt8}
    (holds : HoldsKey (.of group author) key w.documents) (len : nonce.length = 4)
    (body : List UInt8) :
    ∃ w', decryptGroup host group author (nonce ++ body) w =
      .ok (Loopback.mask key nonce body) w' := by
  obtain ⟨data, stored, held⟩ := holds
  have held : Loopback.keyOf? (SenderKeyRecord.mk data).data = some key := held
  obtain ⟨next, decrypted⟩ := Loopback.groupDecrypt_append held len body
  let op := Operation.decryptGroup group author (nonce ++ body)
  have worked : ∀ s, op.work host.cipher (some data) s =
      .ok (Loopback.mask key nonce body, next.data) s := by
    intro s
    rw [cipher]
    exact Act.ofExcept_bind_of_ok decrypted s
  obtain ⟨w', ran, _⟩ := op.run_of_stored reliable rfl stored worked
  exact ⟨w', ran⟩

end Progress

section Deeds

variable {key : List UInt8} {group author : Jid}

/-- A new session record can be read. -/
theorem legible_of_work (cipher : host.cipher = Loopback.cipher noise) {op : Operation}
    {address : ProtocolAddress} {answer : op.Answer} {data : Option (List UInt8)}
    {next : List UInt8} {s s' : ω} (here : op.place.key = sessionKey address)
    (legible : LegibleSessions w.documents) (room : (Deed.operation op).HasRoom w.documents)
    (fetched : op.fetch host w = .ok data ⟨w.documents, s⟩)
    (worked : op.work host.cipher data s = .ok (answer, next) s') : Loopback.Legible next := by
  rw [cipher] at worked
  cases op with
  | inject jid bundle =>
    obtain ⟨r, made, rfl⟩ := initiate_of_work (Loopback.cipher_rehearses noise) worked
    exact Loopback.legible_of_initiate made
  | encrypt jid plaintext =>
    obtain ⟨session, r, rfl, _, encrypted, rfl⟩ :=
      encrypt_of_work (Loopback.cipher_rehearses noise) worked
    have loaded : (Place.session jid.protocolAddress).load host w = .ok _ _ := fetched
    have stored := (Place.load_eq_ok loaded).2
    exact Loopback.legible_of_encrypt encrypted fun state read => room session state stored read
  | decrypt jid envelope =>
    obtain ⟨r, decrypted, rfl⟩ := decrypt_of_work worked
    have loaded : (Place.session jid.protocolAddress).load host w = .ok _ _ := fetched
    obtain ⟨found, stored, readable⟩ := legible jid.protocolAddress
    obtain rfl := Place.data_of_load stored loaded
    exact Loopback.legible_of_decrypt readable decrypted
  | encryptGroup group sender plaintext => exact absurd here.symm (sessionKey_ne_senderKeyKey _ _)
  | acceptDistribution group author given =>
    exact absurd here.symm (sessionKey_ne_senderKeyKey _ _)
  | decryptGroup group author ciphertext =>
    exact absurd here.symm (sessionKey_ne_senderKeyKey _ _)

theorem Deed.legible (cipher : host.cipher = Loopback.cipher noise) (deed : Deed)
    (legible : LegibleSessions w.documents) (room : deed.HasRoom w.documents) :
    LegibleSessions (deed.after host w).documents := by
  intro address
  cases deed with
  | operation op =>
    change ∃ stored, (Place.session address).stored? ((op.run host).after w).documents =
      some stored ∧ _
    rcases op.documents_after host w with same | ⟨_, _, _, next, _, _, _, fetched, worked, wrote⟩
    · rw [same]
      exact legible address
    · rw [wrote, Place.stored?_insert]
      split
      next here =>
        have readable := legible_of_work cipher here legible room fetched worked
        exact ⟨some next, rfl, fun data same => Option.some.inj same ▸ readable⟩
      next => exact legible address
  | delete jids =>
    change ∃ stored, (Place.session address).stored?
      ((deleteSessions host jids).after w).documents = some stored ∧ _
    rcases deleteSessions_deletes host jids w (sessionKey address) with same | ⟨gone, _⟩
    · rw [Place.stored?_congr same]
      exact legible address
    · rw [Place.stored?_of_none gone]
      exact ⟨none, rfl, fun _ absent => (nomatch absent)⟩

/-- A deed, and the world that it found. -/
structure Event (ω : Type) where
  deed : Deed
  found : World ω

/-- A distribution is accepted under a name. -/
def Event.Accepts (host : Host ω) (name : SenderKeyName) (distribution : List UInt8)
    (e : Event ω) : Prop :=
  ∃ group author w', e.deed = .operation (.acceptDistribution group author distribution) ∧
    SenderKeyName.of group author = name ∧
    acceptDistribution host group author distribution e.found = .ok () w'

/-- Writing and reading go on under the key that is held. -/
theorem keyOf?_of_work (cipher : host.cipher = Loopback.cipher noise) {op : Operation}
    {answer : op.Answer} {data : Option (List UInt8)} {next : List UInt8} {s s' : ω}
    (here : op.place.key = senderKeyKey (.of group author))
    (holds : HoldsKey (.of group author) key w.documents)
    (room : (Deed.operation op).HasRoom w.documents)
    (ran : op.run host w = .ok answer w')
    (others : ∀ d, (Event.mk (.operation op) w).Accepts host (.of group author) d →
      Loopback.keyOf? d = some key)
    (fetched : op.fetch host w = .ok data ⟨w.documents, s⟩)
    (worked : op.work host.cipher data s = .ok (answer, next) s') :
    Loopback.keyOf? next = some key := by
  rw [cipher] at worked
  obtain ⟨held, stored, holds⟩ := holds
  cases op with
  | inject jid bundle => exact absurd here (sessionKey_ne_senderKeyKey _ _)
  | encrypt jid plaintext => exact absurd here (sessionKey_ne_senderKeyKey _ _)
  | decrypt jid envelope => exact absurd here (sessionKey_ne_senderKeyKey _ _)
  | encryptGroup group' sender plaintext =>
    have name := of_eq_of_senderKeyKey_eq here
    rw [← name] at stored
    have loaded : (Place.senderKey (.of group' sender)).load host w = .ok _ _ := fetched
    obtain rfl := Place.data_of_load stored loaded
    obtain ⟨record, r, encrypted, _, rfl, kept⟩ := groupEncrypt_of_work worked
    have filled : held ≠ [] := by
      rintro rfl
      rw [Loopback.keyOf?_nil] at holds
      cases holds
    have same : record.data = held := kept held rfl filled
    rw [← same] at stored
    rw [Loopback.keyOf?_groupEncrypt encrypted fun k read => room record.data k stored read, same]
    exact holds
  | acceptDistribution group' author' distribution =>
    have name := of_eq_of_senderKeyKey_eq here
    obtain ⟨rfl, _⟩ := acceptDistribution_of_work worked
    exact others _ ⟨group', author', w', rfl, name, ran⟩
  | decryptGroup group' author' ciphertext =>
    have name := of_eq_of_senderKeyKey_eq here
    rw [← name] at stored
    have loaded : (Place.senderKey (.of group' author')).load host w = .ok _ _ := fetched
    obtain rfl := Place.data_of_load stored loaded
    obtain ⟨held', r, same, decrypted, rfl⟩ := groupDecrypt_of_work worked
    obtain rfl := Option.some.inj same
    rw [Loopback.keyOf?_groupDecrypt decrypted]
    exact holds

theorem Deed.holdsKey (cipher : host.cipher = Loopback.cipher noise) (deed : Deed)
    (holds : HoldsKey (.of group author) key w.documents) (room : deed.HasRoom w.documents)
    (others : ∀ d, (Event.mk deed w).Accepts host (.of group author) d →
      Loopback.keyOf? d = some key) :
    HoldsKey (.of group author) key (deed.after host w).documents := by
  cases deed with
  | operation op =>
    change HoldsKey _ _ ((op.run host).after w).documents
    rcases op.documents_after host w with
      same | ⟨_, w', _, next, _, _, ran, fetched, worked, wrote⟩
    · rwa [same]
    · rw [wrote, HoldsKey, Place.stored?_insert]
      split
      next here =>
        exact ⟨next, rfl, keyOf?_of_work cipher here holds room ran others fetched worked⟩
      next => exact holds
  | delete jids =>
    change HoldsKey _ _ ((deleteSessions host jids).after w).documents
    have same := deleteSessions_deletes host jids w (senderKeyKey (.of group author))
    rcases same with same | ⟨_, address, session⟩
    · rwa [HoldsKey, Place.stored?_congr same]
    · exact absurd session.symm (sessionKey_ne_senderKeyKey _ _)

theorem holdsKey_of_accepts (cipher : host.cipher = Loopback.cipher noise) {d : List UInt8}
    {e : Event ω} (accepts : e.Accepts host (.of group author) d)
    (told : Loopback.keyOf? d = some key) :
    HoldsKey (.of group author) key (e.deed.after host e.found).documents := by
  obtain ⟨group', author', w', deed, name, ran⟩ := accepts
  have ran' : (Operation.acceptDistribution group' author' d).run host e.found = .ok () w' := ran
  obtain ⟨_, next, _, _, _, worked, wrote⟩ := Operation.run_eq_ok ran'
  rw [cipher] at worked
  obtain ⟨rfl, _⟩ := acceptDistribution_of_work worked
  rw [deed, ← name]
  change HoldsKey _ _ ((acceptDistribution host group' author' next).after e.found).documents
  rw [Act.after_of_ok ran, wrote, HoldsKey, Place.stored?_insert]
  exact ⟨next, if_pos rfl, told⟩

end Deeds

/-- What happened in a repository, the latest first, and the documents it has now. It began with
none that it cannot read. What else the host does between two deeds is open. -/
inductive History (host : Host ω) : List (Event ω) → Documents → Prop
  | start {documents : Documents} (legible : LegibleSessions documents) : History host [] documents
  | deed {events : List (Event ω)} {documents : Documents}
    (before : History host events documents) (deed : Deed) (room : deed.HasRoom documents) (s : ω) :
    History host (⟨deed, documents, s⟩ :: events) (deed.after host ⟨documents, s⟩).documents

section History

variable {events later earlier : List (Event ω)} {key : List UInt8} {group author : Jid}

theorem History.legible (cipher : host.cipher = Loopback.cipher noise)
    (history : History host events documents) : LegibleSessions documents := by
  induction history with
  | start legible => exact legible
  | deed before deed room s ih => exact deed.legible cipher ih room

/-- The key that was accepted is held until another one is accepted under its name. -/
theorem History.holdsKey (cipher : host.cipher = Loopback.cipher noise) {accepted : Event ω}
    {d : List UInt8} (history : History host (later ++ accepted :: earlier) documents)
    (accepts : accepted.Accepts host (.of group author) d)
    (told : Loopback.keyOf? d = some key)
    (others : ∀ e ∈ later, ∀ d', e.Accepts host (.of group author) d' →
      Loopback.keyOf? d' = some key) :
    HoldsKey (.of group author) key documents := by
  -- Events stand the latest first, so what was accepted is the end of the induction.
  induction later generalizing documents with
  | nil =>
    cases history with
    | deed before deed room s => exact holdsKey_of_accepts cipher accepts told
  | cons e later ih =>
    cases history with
    | deed before deed room s =>
      have held := ih before fun e' mem => others e' (List.mem_cons_of_mem _ mem)
      exact deed.holdsKey cipher (w := ⟨_, s⟩) held room (others _ List.mem_cons_self)

/-- A session is there, and it can be read. -/
theorem History.session_of_hasSession (cipher : host.cipher = Loopback.cipher noise) {them : Jid}
    {s : ω} (history : History host events documents)
    (opened : hasSession host them ⟨documents, s⟩ = .ok true w') :
    ∃ data, (Place.session them.protocolAddress).stored? documents = some (some data) := by
  obtain ⟨stored, found, _⟩ := history.legible cipher them.protocolAddress
  cases stored with
  | none =>
    have absent : documents.find? (sessionKey them.protocolAddress) = none :=
      Place.find?_of_stored?_none found
    have present := hasSession_eq_ok opened
    rw [absent] at present
    cases present
  | some data => exact ⟨data, found⟩

section Reading

variable {ω' : Type} {writer : Host ω'} {noise' : ω' → Nat × ω'} {a a' : World ω'}
  {plaintext : List UInt8}

theorem History.reads_envelope (cipher' : writer.cipher = Loopback.cipher noise')
    (cipher : host.cipher = Loopback.cipher noise) (reliable : host.Reliable)
    (history : History host events documents) {us them : Jid} {envelope : Envelope}
    (wrote : encrypt writer us plaintext a = .ok envelope a') {s : ω}
    (opened : envelope.kind = .pkmsg ∨ ∃ w', hasSession host them ⟨documents, s⟩ = .ok true w') :
    ∃ w', decrypt host them envelope ⟨documents, s⟩ = .ok plaintext w' := by
  have ran : (Operation.encrypt us plaintext).run writer a = .ok envelope a' := wrote
  obtain ⟨_, _, _, _, _, wrote, _⟩ := Operation.run_eq_ok ran
  rw [cipher'] at wrote
  obtain ⟨session, r, _, pairwise, encrypted, _⟩ :=
    encrypt_of_work (Loopback.cipher_rehearses _) wrote
  have holds := Loopback.holds_of_encrypt encrypted
  obtain ⟨stored, found, readable⟩ := history.legible cipher them.protocolAddress
  have known : envelope.kind = .pkmsg ∨ stored ≠ none := by
    refine opened.imp_right ?_
    rintro ⟨w', opened⟩
    obtain ⟨data, there⟩ := history.session_of_hasSession cipher opened
    obtain rfl := Option.some.inj (found.symm.trans there)
    simp
  -- Any state will do: the stream is drawn from the secret that all share, and from the nonce.
  obtain ⟨state, read, _⟩ := Loopback.sessionState_of_legible readable
  obtain ⟨next, decrypted⟩ := holds (stored.map .mk) state read
  let op := Operation.decrypt them envelope
  have worked : ∀ s, op.work host.cipher stored s = .ok (plaintext, next.data) s := by
    rw [cipher]
    exact work_of_decrypt pairwise known decrypted
  have there : op.place.stored? (World.mk documents s).documents = some stored := found
  obtain ⟨w', read, _⟩ := op.run_of_stored reliable rfl there worked
  exact ⟨w', read⟩

theorem History.reads_ciphertext (cipher' : writer.cipher = Loopback.cipher noise')
    (cipher : host.cipher = Loopback.cipher noise) (reliable : host.Reliable)
    {accepted : Event ω} {d : List UInt8} {out : GroupCiphertext}
    (history : History host (later ++ accepted :: earlier) documents)
    (accepts : accepted.Accepts host (.of group author) d)
    (others : ∀ e ∈ later, ∀ d', e.Accepts host (.of group author) d' →
      Loopback.keyOf? d' = Loopback.keyOf? d)
    (wrote : encryptGroup writer group author plaintext a = .ok out a')
    (under : Loopback.keyOf? out.distribution = Loopback.keyOf? d) (s : ω) :
    ∃ w', decryptGroup host group author out.ciphertext ⟨documents, s⟩ = .ok plaintext w' := by
  have ran : (Operation.encryptGroup group author plaintext).run writer a = .ok out a' := wrote
  obtain ⟨_, _, _, _, _, worked, _⟩ := Operation.run_eq_ok ran
  rw [cipher'] at worked
  obtain ⟨record, r, encrypted, distributed, _⟩ := groupEncrypt_of_work worked
  obtain ⟨k, read, ⟨nonce, len, sealed⟩, _⟩ := Loopback.groupEncrypt_eq_ok encrypted
  have told : Loopback.keyOf? d = some k.key := by
    rw [← under, distributed]
    exact Loopback.keyOf?_eq_some.mpr ⟨k.iteration, read⟩
  have holds : HoldsKey (.of group author) k.key (World.mk documents s).documents :=
    history.holdsKey cipher accepts told fun e mem d' other => (others e mem d' other).trans told
  rw [sealed]
  have reads := decryptGroup_append cipher reliable holds len (Loopback.mask k.key nonce plaintext)
  rwa [Loopback.mask_mask] at reads

/-- Whatever two repositories did before, one of them reads what the other one wrote: the envelopes
of a session that it has, or that they open themselves; and, once it accepted a distribution, all
that its author writes for the group under that key, until another key is accepted where this one is
kept. It reads them after any number of other messages, these messages among them, so in every order
and as often as they come. -/
theorem History.reads_what_was_written (cipher' : writer.cipher = Loopback.cipher noise')
    (cipher : host.cipher = Loopback.cipher noise) (reliable : host.Reliable)
    (history : History host events documents) :
    (∀ us them plaintext envelope a a', encrypt writer us plaintext a = .ok envelope a' →
      ∀ s, (envelope.kind = .pkmsg ∨ ∃ w', hasSession host them ⟨documents, s⟩ = .ok true w') →
        ∃ w', decrypt host them envelope ⟨documents, s⟩ = .ok plaintext w') ∧
    ∀ group author d later accepted earlier, events = later ++ accepted :: earlier →
      accepted.Accepts host (.of group author) d →
      (∀ e ∈ later, ∀ d', e.Accepts host (.of group author) d' →
        Loopback.keyOf? d' = Loopback.keyOf? d) →
      ∀ plaintext out a a', encryptGroup writer group author plaintext a = .ok out a' →
        Loopback.keyOf? out.distribution = Loopback.keyOf? d →
        ∀ s, ∃ w',
          decryptGroup host group author out.ciphertext ⟨documents, s⟩ = .ok plaintext w' := by
  constructor
  · intro us them plaintext envelope a a' wrote s opened
    exact history.reads_envelope cipher' cipher reliable wrote opened
  · rintro group author d later accepted earlier rfl accepts others plaintext out a a' wrote under s
    exact history.reads_ciphertext cipher' cipher reliable accepts others wrote under s

end Reading

end History

section Rehearsed

/-- The distribution of a key that nothing was written under yet. -/
def firstDistribution (b : UInt8) : List UInt8 :=
  (Loopback.senderKeyRecord ⟨List.replicate 32 b, 0⟩).data

theorem readState_firstDistribution (b : UInt8) :
    Loopback.readState Loopback.SenderKey.ofJson? (firstDistribution b) =
      .ok ⟨List.replicate 32 b, 0⟩ := by
  have room : 0 < UInt32.size := by decide
  exact Loopback.readState_senderKeyRecord room

theorem friend_reads_what_own_wrote :
    ∃ events documents, History Stage.smooth events documents ∧
      (∃ envelope a a', encrypt Stage.smooth Stage.friend [104, 105] a = .ok envelope a' ∧
        ∀ s, ∃ w', decrypt Stage.smooth Stage.own envelope ⟨documents, s⟩ = .ok [104, 105] w') ∧
      ∃ out a a', encryptGroup Stage.smooth Stage.chat Stage.ownLid [104, 105] a = .ok out a' ∧
        ∀ s, ∃ w', decryptGroup Stage.smooth Stage.chat Stage.ownLid out.ciphertext ⟨documents, s⟩ =
          .ok [104, 105] w' := by
  have cipher : Stage.smooth.cipher = Loopback.cipher Stage.nextNoise := rfl
  have reliable : Stage.smooth.Reliable := fun _ _ => rfl
  have unread : (Place.senderKey (.of Stage.chat Stage.ownLid)).stored? ∅ = some none := rfl
  have read := readState_firstDistribution 1
  obtain ⟨w, accepted, kept⟩ := acceptDistribution_goes_through (w := ⟨∅, Stage.opening⟩) cipher
    reliable unread read
  let accept := Operation.acceptDistribution Stage.chat Stage.ownLid (firstDistribution 1)
  have history : History Stage.smooth [⟨.operation accept, ∅, Stage.opening⟩] _ :=
    .deed (.start .empty) (.operation accept) trivial Stage.opening
  obtain ⟨reads_envelope, reads_ciphertext⟩ :=
    History.reads_what_was_written cipher cipher reliable history
  refine ⟨_, _, history, ?_, ?_⟩
  · let opened := Loopback.sessionRecord ⟨0, true⟩
    let a : World Stage :=
      ⟨Dict.insert ∅ (sessionKey Stage.friend.protocolAddress) (Place.text opened.data),
        Stage.opening⟩
    have stored : (Place.session Stage.friend.protocolAddress).stored? a.documents =
        some (some opened.data) := by
      rw [Place.stored?_insert]
      exact if_pos rfl
    obtain ⟨envelope, a', wrote, kind⟩ := encrypt_goes_through cipher reliable stored
      (Loopback.readState_sessionRecord (by decide)) [104, 105]
    exact ⟨envelope, a, a', wrote, fun s => reads_envelope _ _ _ _ _ _ wrote s (.inl kind)⟩
  · obtain ⟨w', wrote⟩ := encryptGroup_goes_through cipher reliable kept read [104, 105]
    refine ⟨_, w, w', wrote, fun s => ?_⟩
    exact reads_ciphertext _ _ _ [] _ [] rfl ⟨_, _, w, rfl, rfl, accepted⟩ (by simp) _ _ _ _ wrote
      rfl s

/-- What our lid writes for the chat is not read as it was written once its namesake has brought a
key of its own. -/
theorem ownLid_misread_after_namesake :
    Stage.ownLid.server.supportsDevices = true ∧ namesake.server.supportsDevices = true ∧
      Stage.ownLid ≠ namesake ∧
      ∃ out a read b,
        (do
          acceptDistribution Stage.smooth Stage.chat Stage.ownLid (firstDistribution 1)
          encryptGroup Stage.smooth Stage.chat Stage.ownLid [104, 105]) ⟨∅, Stage.opening⟩ =
            .ok out a ∧
        out.distribution = firstDistribution 1 ∧
        (do
          acceptDistribution Stage.smooth Stage.chat Stage.ownLid out.distribution
          acceptDistribution Stage.smooth Stage.chat namesake (firstDistribution 2)
          decryptGroup Stage.smooth Stage.chat Stage.ownLid out.ciphertext) ⟨∅, Stage.opening⟩ =
            .ok read b ∧
        read ≠ [104, 105] := by
  have cipher : Stage.smooth.cipher = Loopback.cipher Stage.nextNoise := rfl
  have reliable : Stage.smooth.Reliable := fun _ _ => rfl
  have unread : (Place.senderKey (.of Stage.chat Stage.ownLid)).stored? ∅ = some none := rfl
  have name : SenderKeyName.of Stage.chat namesake = .of Stage.chat Stage.ownLid := rfl
  have read := readState_firstDistribution 1
  obtain ⟨w, accepted, kept⟩ := acceptDistribution_goes_through (w := ⟨∅, Stage.opening⟩) cipher
    reliable unread read
  obtain ⟨a, wrote⟩ := encryptGroup_goes_through cipher reliable kept read [104, 105]
  have read' := readState_firstDistribution 2
  obtain ⟨w', heard, held⟩ :=
    acceptDistribution_goes_through cipher reliable (name ▸ kept) read'
  have holds : HoldsKey (.of Stage.chat Stage.ownLid) (List.replicate 32 2) w'.documents :=
    ⟨firstDistribution 2, name ▸ held, Loopback.keyOf?_eq_some.mpr ⟨0, read'⟩⟩
  obtain ⟨b, misread⟩ := decryptGroup_append cipher reliable holds (BigEndian.length_encode 4 1)
    (Loopback.mask (List.replicate 32 1) (BigEndian.encode 4 1) [104, 105])
  refine ⟨by decide, by decide, by decide, _, a, _, b, (Act.bind_of_ok accepted).trans wrote, rfl,
    (Act.bind_of_ok accepted).trans ((Act.bind_of_ok heard).trans misread), ?_⟩
  decide +kernel

end Rehearsed

end Fanout.Repository
