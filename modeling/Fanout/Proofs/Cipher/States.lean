import Fanout.Proofs.Act
import Fanout.Proofs.Cipher.Loopback
import Fanout.Proofs.Except
import Fanout.Proofs.Json.Fields
import Fanout.Proofs.Json.RoundTrip
import Fanout.Proofs.Text.Base64
import Fanout.Proofs.Text.BigEndian

namespace Fanout

theorem Json.lt_of_asNat? {bound n : Nat} {v : Json} (h : asNat? bound v = some n) : n < bound := by
  unfold asNat? at h
  split at h
  next => exact of_decide_eq_true (Option.filter_eq_some_iff.mp h).2
  next => cases h

namespace Loopback

theorem readState_eq_ok {α : Type} {read : Json → Option α} {data : List UInt8} {a : α} :
    readState read data = .ok a ↔ (Json.parseBytes? data).bind read = some a := by
  unfold readState
  cases (Json.parseBytes? data).bind read <;> simp

theorem parseBytes?_stateBytes {v : Json} (regular : v.Regular) :
    Json.parseBytes? (stateBytes v) = some v := by
  rw [Json.parseBytes?, stateBytes, Utf8.decodeWith_encode, Json.parse?_compact regular]

theorem readState_stateBytes {α : Type} {read : Json → Option α} {v : Json} {a : α}
    (regular : v.Regular) (h : read v = some a) : readState read (stateBytes v) = .ok a := by
  rw [readState_eq_ok, parseBytes?_stateBytes regular]
  exact h

theorem length_of_splitNonce {len : Nat} {body nonce rest : List UInt8}
    (h : splitNonce len body = .ok (nonce, rest)) : nonce.length = len := by
  unfold splitNonce at h
  split at h
  · cases h
  · have cut : body.splitAt len = (nonce, rest) := Except.ok.inj h
    rw [List.splitAt_eq] at cut
    rw [← (Prod.mk.inj cut).1, List.length_take]
    omega

/-- A record that holds the state of a session. -/
def Legible (data : List UInt8) : Prop := ∃ state, readState Session.ofJson? data = .ok state

section Session

variable {s : Session} {session : SessionRecord} {data : List UInt8}

theorem Session.slots_toJson (s : Session) : s.toJson.fields ["counter", "pending_prekey"] =
    some [some (.ofNat s.counter), some (.bool s.pending)] :=
  @Json.fields_filled [("counter", some (.ofNat s.counter)),
    ("pending_prekey", some (.bool s.pending))] (by simp)

theorem Session.ofJson?_toJson (room : s.counter < UInt64.size) : ofJson? s.toJson = some s := by
  simp [ofJson?, s.slots_toJson, Json.asNat?_ofNat room]

theorem Session.regular_toJson (s : Session) : s.toJson.Regular := by
  rw [Session.toJson, Json.regular_ofMembers]
  simp

theorem data_sessionRecord (s : Session) : (sessionRecord s).data = stateBytes s.toJson := by
  rw [sessionRecord]

theorem readState_sessionRecord (room : s.counter < UInt64.size) :
    readState Session.ofJson? (sessionRecord s).data = .ok s := by
  rw [data_sessionRecord]
  exact readState_stateBytes s.regular_toJson (Session.ofJson?_toJson room)

/-- What is read from the record of a session, if anything can be, is that session. -/
theorem eq_of_readState_sessionRecord {found : Session}
    (h : readState Session.ofJson? (sessionRecord s).data = .ok found) : found = s := by
  rw [data_sessionRecord, readState_eq_ok, parseBytes?_stateBytes s.regular_toJson] at h
  simp only [Option.bind_some, Session.ofJson?, s.slots_toJson, Option.bind_eq_bind] at h
  obtain ⟨n, counted, h⟩ := Option.bind_eq_some_iff.mp h
  cases h
  rw [← Json.eq_of_asNat?_ofNat counted]

theorem counter_lt_of_readState (h : readState Session.ofJson? data = .ok s) :
    s.counter < UInt64.size := by
  obtain ⟨v, _, read⟩ := Option.bind_eq_some_iff.mp (readState_eq_ok.mp h)
  obtain ⟨slots, _, read⟩ := Option.bind_eq_some_iff.mp read
  split at read
  next counter pending =>
    obtain ⟨n, counted, read⟩ := Option.bind_eq_some_iff.mp read
    obtain ⟨b, _, read⟩ := Option.bind_eq_some_iff.mp read
    cases read
    obtain ⟨v, _, number⟩ := Option.bind_eq_some_iff.mp counted
    exact Json.lt_of_asNat? number
  next => cases read

theorem legible_sessionRecord (room : s.counter < UInt64.size) : Legible (sessionRecord s).data :=
  ⟨s, readState_sessionRecord room⟩

theorem initiate_eq_ok {bundle : PreKeyBundle} (h : initiate bundle = .ok session) :
    session = sessionRecord ⟨0, true⟩ := by
  unfold initiate at h
  split at h
  · cases h
  · exact (Except.ok.inj h).symm

/-- An envelope bears its number, and the handshake as long as that is not answered. -/
theorem encrypt_eq_ok {plaintext : List UInt8} {envelope : Envelope} {next : SessionRecord}
    (read : readState Session.ofJson? data = .ok s)
    (h : encrypt ⟨data⟩ plaintext = .ok (envelope, next)) :
    envelope.body.take 8 = BigEndian.encode 8 (s.counter + 1) ∧
      next = sessionRecord { s with counter := s.counter + 1 } := by
  obtain ⟨s', read', h⟩ := except_bind_eq_ok.mp h
  obtain rfl : s = s' := Except.ok.inj (read.symm.trans read')
  cases h
  exact ⟨List.take_left' (BigEndian.length_encode 8 _), rfl⟩

theorem decrypt_eq_ok {stored : Option SessionRecord} {envelope : Envelope}
    {plaintext : List UInt8} {next : SessionRecord} (known : sessionState stored = .ok s)
    (h : decrypt stored envelope = .ok (plaintext, next)) :
    next = sessionRecord { s with pending := false } := by
  obtain ⟨s', known', h⟩ := except_bind_eq_ok.mp h
  obtain rfl : s = s' := Except.ok.inj (known.symm.trans known')
  obtain ⟨split, _, h⟩ := except_bind_eq_ok.mp h
  cases h
  rfl

theorem decrypt_of_sessionState {stored : Option SessionRecord} {envelope : Envelope}
    (known : sessionState stored = .ok s) (long : 8 ≤ envelope.body.length) :
    ∃ plaintext next, decrypt stored envelope = .ok (plaintext, next) := by
  have cut : splitNonce 8 envelope.body = .ok (envelope.body.splitAt 8) :=
    if_neg (Nat.not_lt.mpr long)
  exact ⟨_, _, except_bind_eq_ok.mpr ⟨s, known, except_bind_eq_ok.mpr ⟨_, cut, rfl⟩⟩⟩

theorem legible_of_initiate {bundle : PreKeyBundle} (h : initiate bundle = .ok session) :
    Legible session.data := by
  rw [initiate_eq_ok h]
  exact legible_sessionRecord (by decide)

theorem encrypt_of_readState (h : readState Session.ofJson? data = .ok s)
    (plaintext : List UInt8) :
    ∃ envelope next, encrypt ⟨data⟩ plaintext = .ok (envelope, next) ∧
      envelope.kind = if s.pending then .pkmsg else .msg :=
  ⟨_, _, except_bind_eq_ok.mpr ⟨s, h, rfl⟩, rfl⟩

theorem legible_of_encrypt {plaintext : List UInt8} {envelope : Envelope} {next : SessionRecord}
    (h : encrypt session plaintext = .ok (envelope, next))
    (room : ∀ s, readState Session.ofJson? session.data = .ok s → s.counter + 1 < UInt64.size) :
    Legible next.data := by
  obtain ⟨s, read, _⟩ := except_bind_eq_ok.mp h
  rw [(encrypt_eq_ok read h).2]
  exact legible_sessionRecord (room s read)

theorem sessionState_of_legible {stored : Option (List UInt8)}
    (legible : ∀ data, stored = some data → Legible data) :
    ∃ s, sessionState (stored.map .mk) = .ok s ∧ s.counter < UInt64.size := by
  cases stored with
  | none => exact ⟨⟨0, false⟩, rfl, by decide⟩
  | some data =>
    obtain ⟨s, read⟩ := legible data rfl
    exact ⟨s, read, counter_lt_of_readState read⟩

theorem legible_of_decrypt {stored : Option (List UInt8)} {envelope : Envelope}
    {plaintext : List UInt8} {next : SessionRecord}
    (legible : ∀ data, stored = some data → Legible data)
    (h : decrypt (stored.map .mk) envelope = .ok (plaintext, next)) : Legible next.data := by
  obtain ⟨s, known, bounded⟩ := sessionState_of_legible legible
  rw [decrypt_eq_ok known h]
  exact legible_sessionRecord bounded

end Session

section SenderKey

variable {k : SenderKey} {record next : SenderKeyRecord}
  {data key ciphertext plaintext : List UInt8}

theorem SenderKey.ofJson?_toJson (room : k.iteration < UInt32.size) :
    ofJson? k.toJson = some k := by
  have slots : k.toJson.fields ["key", "iteration"] =
      some [some (.ofString (Base64.encode k.key)), some (.ofNat k.iteration)] :=
    @Json.fields_filled [("key", some (.ofString (Base64.encode k.key))),
      ("iteration", some (.ofNat k.iteration))] (by simp)
  simp [ofJson?, slots, Base64.decode?_encode, Json.asNat?_ofNat room]

theorem data_senderKeyRecord (k : SenderKey) :
    (senderKeyRecord k).data = stateBytes k.toJson := by
  rw [senderKeyRecord]

theorem readState_senderKeyRecord (room : k.iteration < UInt32.size) :
    readState SenderKey.ofJson? (senderKeyRecord k).data = .ok k := by
  have regular : k.toJson.Regular := by
    rw [SenderKey.toJson, Json.regular_ofMembers]
    simp
  rw [data_senderKeyRecord]
  exact readState_stateBytes regular (SenderKey.ofJson?_toJson room)

theorem iteration_lt_of_readState (h : readState SenderKey.ofJson? data = .ok k) :
    k.iteration < UInt32.size := by
  obtain ⟨v, _, read⟩ := Option.bind_eq_some_iff.mp (readState_eq_ok.mp h)
  obtain ⟨slots, _, read⟩ := Option.bind_eq_some_iff.mp read
  split at read
  next key iteration =>
    obtain ⟨text, _, read⟩ := Option.bind_eq_some_iff.mp read
    obtain ⟨bytes, _, read⟩ := Option.bind_eq_some_iff.mp read
    obtain ⟨n, counted, read⟩ := Option.bind_eq_some_iff.mp read
    cases read
    obtain ⟨v, _, number⟩ := Option.bind_eq_some_iff.mp counted
    exact Json.lt_of_asNat? number
  next => cases read

/-- The key that a record or a distribution holds. -/
def keyOf? (data : List UInt8) : Option (List UInt8) :=
  (readState SenderKey.ofJson? data).toOption.map (·.key)

theorem keyOf?_eq_some :
    keyOf? data = some key ↔ ∃ n, readState SenderKey.ofJson? data = .ok ⟨key, n⟩ := by
  simp only [keyOf?, Option.map_eq_some_iff, toOption_eq_some]
  constructor
  · rintro ⟨k, read, rfl⟩
    exact ⟨k.iteration, read⟩
  · rintro ⟨n, read⟩
    exact ⟨⟨key, n⟩, read, rfl⟩

theorem keyOf?_nil : keyOf? [] = none := by
  decide +kernel

theorem keyOf?_senderKeyRecord (room : k.iteration < UInt32.size) :
    keyOf? (senderKeyRecord k).data = some k.key :=
  keyOf?_eq_some.mpr ⟨k.iteration, readState_senderKeyRecord room⟩

/-- A ciphertext reads as a plaintext under a key. -/
def Reads (key ciphertext plaintext : List UInt8) : Prop :=
  ∃ nonce, nonce.length = 4 ∧ ciphertext = nonce ++ mask key nonce plaintext

theorem groupEncrypt_eq_ok (h : groupEncrypt record plaintext = .ok (ciphertext, next)) :
    ∃ k, readState SenderKey.ofJson? record.data = .ok k ∧ Reads k.key ciphertext plaintext ∧
      next = senderKeyRecord { k with iteration := k.iteration + 1 } := by
  obtain ⟨k, read, h⟩ := except_bind_eq_ok.mp h
  cases h
  exact ⟨k, read, ⟨_, BigEndian.length_encode 4 _, rfl⟩, rfl⟩

theorem groupEncrypt_of_readState (h : readState SenderKey.ofJson? data = .ok k)
    (plaintext : List UInt8) :
    let nonce := BigEndian.encode 4 (k.iteration + 1)
    ∃ next, groupEncrypt ⟨data⟩ plaintext = .ok (nonce ++ mask k.key nonce plaintext, next) :=
  ⟨_, except_bind_eq_ok.mpr ⟨k, h, rfl⟩⟩

/-- Whoever holds a key reads with it whatever comes. -/
theorem groupDecrypt_append {nonce : List UInt8} (holds : keyOf? record.data = some key)
    (len : nonce.length = 4) (body : List UInt8) :
    ∃ next, groupDecrypt record (nonce ++ body) = .ok (mask key nonce body, next) := by
  obtain ⟨n, read⟩ := keyOf?_eq_some.mp holds
  refine ⟨senderKeyRecord ⟨key, max n (BigEndian.decode nonce)⟩, ?_⟩
  simp [groupDecrypt, read, splitNonce_append len, bind, Except.bind, pure, Except.pure]

/-- To read a message keeps the key. -/
theorem keyOf?_groupDecrypt (h : groupDecrypt record ciphertext = .ok (plaintext, next)) :
    keyOf? next.data = keyOf? record.data := by
  obtain ⟨k, read, h⟩ := except_bind_eq_ok.mp h
  obtain ⟨⟨nonce, body⟩, cut, h⟩ := except_bind_eq_ok.mp h
  obtain ⟨_, rfl⟩ := Prod.mk.inj (Except.ok.inj h)
  have len : nonce.length = 4 := length_of_splitNonce cut
  have nonce_lt : BigEndian.decode nonce < UInt32.size := by
    have bounded := BigEndian.decode_lt nonce
    rwa [len] at bounded
  have bounded := iteration_lt_of_readState read
  have room : max k.iteration (BigEndian.decode nonce) < UInt32.size :=
    Nat.max_lt.mpr ⟨bounded, nonce_lt⟩
  rw [keyOf?_senderKeyRecord room]
  exact (keyOf?_eq_some.mpr ⟨k.iteration, read⟩).symm

/-- What is distributed is the record under which the next message is written. -/
theorem distribution_eq_ok {ω : Type} {noise : ω → Nat × ω} {name : SenderKeyName}
    {given : SenderKeyRecord} {distribution : List UInt8} {s s' : ω}
    (h : (cipher noise).distribution name given s = .ok (distribution, record) s') :
    distribution = record.data ∧ (given.data ≠ [] → record = given) := by
  dsimp only [cipher] at h
  split at h
  next blank =>
    cases h
    exact ⟨rfl, fun filled => absurd blank filled⟩
  next filled =>
    rw [Loopback.distribution, if_neg filled] at h
    cases h
    exact ⟨rfl, fun _ => rfl⟩

theorem distribution_of_keyOf? {ω : Type} {noise : ω → Nat × ω} {name : SenderKeyName}
    (holds : keyOf? data = some key) (s : ω) :
    (cipher noise).distribution name ⟨data⟩ s = .ok (data, ⟨data⟩) s := by
  have filled : data ≠ [] := by
    rintro rfl
    rw [keyOf?_nil] at holds
    cases holds
  dsimp only [cipher]
  rw [if_neg filled, Loopback.distribution, if_neg filled]

theorem keyOf?_groupEncrypt (h : groupEncrypt record plaintext = .ok (ciphertext, next))
    (room : ∀ k, readState SenderKey.ofJson? record.data = .ok k →
      k.iteration + 1 < UInt32.size) :
    keyOf? next.data = keyOf? record.data := by
  obtain ⟨k, read, _, rfl⟩ := groupEncrypt_eq_ok h
  rw [keyOf?_senderKeyRecord (room k read)]
  exact (keyOf?_eq_some.mpr ⟨k.iteration, read⟩).symm

end SenderKey

end Loopback

/-- The sessions of a cipher are those of the rehearsal cipher. -/
structure Cipher.Rehearses {ω : Type} (cipher : Cipher ω) : Prop where
  initiate : ∀ {address bundle session s t}, cipher.initiate address bundle s = .ok session t →
    Loopback.initiate bundle = .ok session
  encrypt : ∀ {address session plaintext out s t},
    cipher.encrypt address session plaintext s = .ok out t →
      Loopback.encrypt session plaintext = .ok out

theorem Loopback.cipher_rehearses {ω : Type} (noise : ω → Nat × ω) :
    (cipher noise).Rehearses where
  initiate made := (Act.ofExcept_eq_ok.mp made).1
  encrypt written := (Act.ofExcept_eq_ok.mp written).1

end Fanout
