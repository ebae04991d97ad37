import Fanout.Proofs.Session.Assertion
import Fanout.Proofs.Session.Store

namespace Fanout

theorem World.inHost_pure {ω α : Type} (a : α) : inHost (pure a : Act ω α) = pure a := rfl

theorem World.inHost_bind {ω α β : Type} (x : Act ω α) (f : α → Act ω β) :
    inHost (x >>= f) = inHost x >>= fun a => inHost (f a) := by
  funext w
  cases h : x w.host with
  | ok a s =>
    have here : inHost x w = .ok a { w with host := s } := Act.zoom_eq_ok.mpr ⟨s, h, rfl⟩
    rw [Act.bind_of_ok here, inHost, Act.zoom, Act.bind_of_ok h]
    rfl
  | error e s =>
    have here : inHost x w = .error e { w with host := s } := Act.zoom_eq_error.mpr ⟨s, h, rfl⟩
    rw [Act.bind_of_error here, inHost, Act.zoom, Act.bind_of_error h]

/-- The documents of both kinds of records look alike. -/
theorem SenderKeyRecord.ofJson?_eq (v : Json) :
    ofJson? v = (SessionRecord.ofJson? v).map fun r => ⟨r.data⟩ := by
  unfold ofJson? SessionRecord.ofJson?
  rcases v.fields ["data"] with _ | _ | ⟨data, _ | _⟩ <;> try rfl
  cases h : Json.required Storage.bytesOfJson? data <;> simp [h]

theorem SenderKeyRecord.regular_toJson (r : SenderKeyRecord) : r.toJson.Regular :=
  SessionRecord.regular_toJson ⟨r.data⟩

theorem SenderKeyRecord.ofJson?_toJson (r : SenderKeyRecord) : ofJson? r.toJson = some r := by
  have read : SessionRecord.ofJson? r.toJson = some ⟨r.data⟩ :=
    SessionRecord.ofJson?_toJson ⟨r.data⟩
  rw [ofJson?_eq, read]
  rfl

theorem SessionRecord.map_mk_data (r : Option SessionRecord) :
    (r.map (·.data)).map SessionRecord.mk = r := by
  cases r <;> rfl

theorem SenderKeyRecord.map_mk_data (r : Option SenderKeyRecord) :
    (r.map (·.data)).map SenderKeyRecord.mk = r := by
  cases r <;> rfl

namespace Repository

open SessionStore

variable {ω : Type} {host : Host ω} {w w' : World ω}

/-- Where a record is kept. -/
inductive Place where
  | session (address : ProtocolAddress)
  | senderKey (name : SenderKeyName)

namespace Place

def key : Place → String
  | session address => sessionKey address
  | senderKey name => senderKeyKey name

/-- What the cipher put into the record of a place; none if the document cannot be read. -/
def stored? (documents : Documents) : Place → Option (Option (List UInt8))
  | session address => (Storage.peek? SessionRecord.ofJson? documents (sessionKey address)).map
      (·.map (·.data))
  | senderKey name => (Storage.peek? SenderKeyRecord.ofJson? documents (senderKeyKey name)).map
      (·.map (·.data))

def load (host : Host ω) : Place → Act (World ω) (Option (List UInt8))
  | session address => do return (← loadSession host address).map (·.data)
  | senderKey name => do return (← loadSenderKey host name).map (·.data)

def save (host : Host ω) (data : List UInt8) : Place → Act (World ω) Unit
  | session address => storeSession host address ⟨data⟩
  | senderKey name => storeSenderKey host name ⟨data⟩

/-- The text of a record with what the cipher put into it. -/
def text (data : List UInt8) : String := (SessionRecord.toJson ⟨data⟩).compact

theorem save_eq_put (host : Host ω) (data : List UInt8) (place : Place) :
    place.save host data = Storage.put host place.key (text data) := by
  cases place <;> rfl

theorem session_of_text (data : List UInt8) :
    (Json.parse? (text data)).bind SessionRecord.ofJson? = some ⟨data⟩ := by
  rw [text, Json.parse?_compact (SessionRecord.regular_toJson _)]
  exact SessionRecord.ofJson?_toJson _

theorem senderKey_of_text (data : List UInt8) :
    (Json.parse? (text data)).bind SenderKeyRecord.ofJson? = some ⟨data⟩ := by
  have same : text data = (SenderKeyRecord.toJson ⟨data⟩).compact := rfl
  rw [same, Json.parse?_compact (SenderKeyRecord.regular_toJson _)]
  exact SenderKeyRecord.ofJson?_toJson _

theorem peek?_of_document {α : Type} {read : Json → Option α} {make : List UInt8 → α}
    {documents : Documents} {key : String} {held : Option (List UInt8)}
    (reads : ∀ data, (Json.parse? (text data)).bind read = some (make data))
    (there : documents.find? key = held.map text) :
    Storage.peek? read documents key = some (held.map make) := by
  cases held with
  | none => simp [Storage.peek?, there]
  | some data => simp [Storage.peek?, there, reads]

theorem stored?_of_document {documents : Documents} {place : Place} {held : Option (List UInt8)}
    (there : documents.find? place.key = held.map text) :
    place.stored? documents = some held := by
  cases place with
  | session address =>
    have there : documents.find? (sessionKey address) = held.map text := there
    rw [stored?, peek?_of_document session_of_text there]
    cases held <;> rfl
  | senderKey name =>
    have there : documents.find? (senderKeyKey name) = held.map text := there
    rw [stored?, peek?_of_document senderKey_of_text there]
    cases held <;> rfl

theorem stored?_of_text {documents : Documents} {place : Place} {data : List UInt8}
    (h : documents.find? place.key = some (text data)) :
    place.stored? documents = some (some data) :=
  stored?_of_document h

theorem stored?_of_none {documents : Documents} {place : Place}
    (absent : documents.find? place.key = none) : place.stored? documents = some none :=
  stored?_of_document absent

theorem stored?_congr {documents documents' : Documents} {place : Place}
    (same : documents'.find? place.key = documents.find? place.key) :
    place.stored? documents' = place.stored? documents := by
  cases place with
  | session address =>
    have same : documents'.find? (sessionKey address) = documents.find? (sessionKey address) := same
    rw [stored?, stored?, Storage.peek?, Storage.peek?, same]
  | senderKey name =>
    have same : documents'.find? (senderKeyKey name) = documents.find? (senderKeyKey name) := same
    rw [stored?, stored?, Storage.peek?, Storage.peek?, same]

theorem find?_of_stored?_none {documents : Documents} {place : Place}
    (absent : place.stored? documents = some none) : documents.find? place.key = none := by
  have unread : ∀ {α : Type} (read : Json → Option α) (f : α → List UInt8) (key : String),
      (Storage.peek? read documents key).map (·.map f) = some none →
        documents.find? key = none := by
    intro α read f key h
    obtain ⟨found, peeked, empty⟩ := Option.map_eq_some_iff.mp h
    obtain rfl := Option.map_eq_none_iff.mp empty
    unfold Storage.peek? at peeked
    split at peeked
    next gone => exact gone
    next text there =>
      obtain ⟨v, _, some_none⟩ := Option.map_eq_some_iff.mp peeked
      cases some_none
  cases place with
  | session address => exact unread _ _ _ absent
  | senderKey name => exact unread _ _ _ absent

theorem stored?_insert (documents : Documents) {key : String} {place : Place}
    (data : List UInt8) :
    place.stored? (documents.insert key (text data)) =
      if key = place.key then some (some data) else place.stored? documents := by
  split
  next here =>
    apply stored?_of_text
    rw [Dict.find?_insert, if_pos here]
  next elsewhere =>
    apply stored?_congr
    rw [Dict.find?_insert, if_neg elsewhere]

theorem loadAs_eq_ok {α β : Type} {read : Json → Option α} {key : String} {f : α → β}
    {b : Option β} (h : (do return (← Storage.load host read key).map f) w = .ok b w') :
    w'.documents = w.documents ∧
      (Storage.peek? read w.documents key).map (·.map f) = some b := by
  obtain ⟨a, v, loaded, done⟩ := Act.bind_eq_ok.mp h
  obtain ⟨allowed, found⟩ := Storage.load_eq_ok loaded
  obtain ⟨_, rfl⟩ := Storage.allow_eq_ok.mp allowed
  cases done
  exact ⟨rfl, congrArg (Option.map _) found⟩

theorem load_eq_ok {place : Place} {data : Option (List UInt8)}
    (h : place.load host w = .ok data w') :
    w'.documents = w.documents ∧ place.stored? w.documents = some data := by
  cases place with
  | session address => exact loadAs_eq_ok h
  | senderKey name => exact loadAs_eq_ok h

theorem data_of_load {place : Place} {data held : Option (List UInt8)}
    (stored : place.stored? w.documents = some held) (h : place.load host w = .ok data w') :
    held = data :=
  Option.some.inj (stored.symm.trans (load_eq_ok h).2)

theorem load_of_stored (reads : host.Reads) {place : Place} {data : Option (List UInt8)}
    (h : place.stored? w.documents = some data) :
    ∃ s, place.load host w = .ok data ⟨w.documents, s⟩ := by
  cases place with
  | session address =>
    obtain ⟨session, found, rfl⟩ := Option.map_eq_some_iff.mp h
    obtain ⟨s, loaded⟩ := Storage.load_of_reads reads found
    exact ⟨s, Act.bind_of_ok loaded⟩
  | senderKey name =>
    obtain ⟨record, found, rfl⟩ := Option.map_eq_some_iff.mp h
    obtain ⟨s, loaded⟩ := Storage.load_of_reads reads found
    exact ⟨s, Act.bind_of_ok loaded⟩

theorem load_eq_error {place : Place} {e : Error} (h : place.load host w = .error e w') :
    w'.documents = w.documents := by
  have keeps : (place.load host).Keeps
      (World.Follows (fun _ _ => True) (fun _ => True) fun _ => False) := by
    cases place with
    | session address =>
      exact (Storage.load_keeps host.keeps_true _ _).bind fun _ => Act.Keeps.pure _
    | senderKey name =>
      exact (Storage.load_keeps host.keeps_true _ _).bind fun _ => Act.Keeps.pure _
  exact Dict.ext_find? fun key => (keeps.of_error h).documents key trivial

end Place

/-- A call that works on a stored record. -/
inductive Operation where
  | inject (jid : Jid) (bundle : PreKeyBundle)
  | encrypt (jid : Jid) (plaintext : List UInt8)
  | decrypt (jid : Jid) (envelope : Envelope)
  | encryptGroup (group sender : Jid) (plaintext : List UInt8)
  | acceptDistribution (group author : Jid) (distribution : List UInt8)
  | decryptGroup (group author : Jid) (ciphertext : List UInt8)

namespace Operation

def Answer : Operation → Type
  | inject .. => Unit
  | encrypt .. => Envelope
  | decrypt .. => List UInt8
  | encryptGroup .. => GroupCiphertext
  | acceptDistribution .. => Unit
  | decryptGroup .. => List UInt8

def run (host : Host ω) : (op : Operation) → Act (World ω) op.Answer
  | inject jid bundle => injectSession host jid bundle
  | encrypt jid plaintext => Repository.encrypt host jid plaintext
  | decrypt jid envelope => Repository.decrypt host jid envelope
  | encryptGroup group sender plaintext => Repository.encryptGroup host group sender plaintext
  | acceptDistribution group author given => Repository.acceptDistribution host group author given
  | decryptGroup group author ciphertext => Repository.decryptGroup host group author ciphertext

/-- The place of the record that a call works on. -/
def place : Operation → Place
  | inject jid _ => .session jid.protocolAddress
  | encrypt jid _ => .session jid.protocolAddress
  | decrypt jid _ => .session jid.protocolAddress
  | encryptGroup group sender _ => .senderKey (.of group sender)
  | acceptDistribution group author _ => .senderKey (.of group author)
  | decryptGroup group author _ => .senderKey (.of group author)

/-- What a call reads before the cipher works: a new session takes nothing from an old one. -/
def fetch (host : Host ω) : Operation → Act (World ω) (Option (List UInt8))
  | inject .. => pure none
  | op => op.place.load host

/-- The cipher's part in a call: from what is stored, if anything is, it makes the answer and what
is to be stored. -/
def work (cipher : Cipher ω) :
    (op : Operation) → Option (List UInt8) → Act ω (op.Answer × List UInt8)
  | inject jid bundle, _ => do
    let record ← cipher.initiate jid.protocolAddress bundle
    return ((), record.data)
  | encrypt jid _, none => throw (.noSession jid.protocolAddress.text)
  | encrypt jid plaintext, some data => do
    let (envelope, next) ← cipher.encrypt jid.protocolAddress ⟨data⟩ plaintext
    if envelope.kind = .skmsg then
      throw (.crypto ("pairwise cipher produced skmsg for " ++ jid.protocolAddress.text))
    return (envelope, next.data)
  | decrypt jid envelope, data => do
    if envelope.kind = .skmsg then throw (.crypto "skmsg is not a pairwise envelope")
    if envelope.kind = .msg ∧ data = none then throw (.noSession jid.protocolAddress.text)
    let (plaintext, next) ← cipher.decrypt jid.protocolAddress (data.map .mk) envelope
    return (plaintext, next.data)
  | encryptGroup group sender plaintext, data => do
    let name := SenderKeyName.of group sender
    let (distribution, record) ← cipher.distribution name ((data.map .mk).getD .blank)
    let (ciphertext, record) ← cipher.groupEncrypt name record plaintext
    return (⟨ciphertext, distribution⟩, record.data)
  | acceptDistribution group author given, data => do
    let name := SenderKeyName.of group author
    let record ← cipher.acceptDistribution name ((data.map .mk).getD .blank) given
    return ((), record.data)
  | decryptGroup group author _, none => throw (.noSession (SenderKeyName.of group author).text)
  | decryptGroup group author ciphertext, some data => do
    let (plaintext, record) ← cipher.groupDecrypt (.of group author) ⟨data⟩ ciphertext
    return (plaintext, record.data)

/-- Every call is of one shape. -/
theorem run_eq (host : Host ω) (op : Operation) : op.run host = (do
    let data ← op.fetch host
    let (answer, next) ← World.inHost (op.work host.cipher data)
    op.place.save host next
    return answer) := by
  cases op with
  | inject jid bundle =>
    simp only [run, injectSession, fetch, work, place, Place.save, World.inHost_bind,
      World.inHost_pure, bind_assoc, pure_bind]
    exact bind_congr fun record => bind_pure_unit.symm
  | encrypt jid plaintext =>
    simp only [run, Repository.encrypt, fetch, place, Place.load, Place.save, bind_assoc, pure_bind]
    congr 1
    funext session
    cases session with
    | none => rfl
    | some session =>
      simp only [Option.map_some, work, World.inHost_bind, bind_assoc]
      congr 1
      funext made
      split
      · rfl
      · rfl
  | decrypt jid envelope =>
    simp only [run, Repository.decrypt, fetch, place, Place.load, Place.save, bind_assoc, pure_bind]
    congr 1
    funext session
    by_cases group : envelope.kind = .skmsg
    · simp only [work, group, if_true]
      rfl
    · simp only [work, group, if_false]
      by_cases unopened : envelope.kind = .msg ∧ session = none
      · have unopened' : envelope.kind = .msg ∧ session.map (·.data) = none :=
          ⟨unopened.1, by rw [unopened.2]; rfl⟩
        simp only [if_pos unopened, if_pos unopened']
        rfl
      · have opened : ¬(envelope.kind = .msg ∧ session.map (·.data) = none) := by
          rintro ⟨kind, none⟩
          exact unopened ⟨kind, Option.map_eq_none_iff.mp none⟩
        simp only [if_neg unopened, if_neg opened, SessionRecord.map_mk_data, World.inHost_bind,
          bind_assoc]
        rfl
  | encryptGroup group sender plaintext =>
    simp only [run, Repository.encryptGroup, fetch, place, work, Place.load, Place.save,
      SenderKeyRecord.map_mk_data, World.inHost_bind, bind_assoc, pure_bind]
    rfl
  | acceptDistribution group author given =>
    simp only [run, Repository.acceptDistribution, fetch, place, work, Place.load, Place.save,
      SenderKeyRecord.map_mk_data, World.inHost_bind, World.inHost_pure, bind_assoc, pure_bind]
    exact bind_congr fun record => bind_congr fun next => bind_pure_unit.symm
  | decryptGroup group author ciphertext =>
    simp only [run, Repository.decryptGroup, fetch, place, Place.load, Place.save, bind_assoc,
      pure_bind]
    congr 1
    funext record
    cases record with
    | none => rfl
    | some record =>
      simp only [Option.map_some, work, World.inHost_bind, bind_assoc]
      rfl

theorem fetch_eq (host : Host ω) (op : Operation) :
    op.fetch host = pure none ∨ op.fetch host = op.place.load host := by
  cases op with
  | inject jid bundle => exact .inl rfl
  | _ => exact .inr rfl

theorem fetch_eq_ok {op : Operation} {data : Option (List UInt8)}
    (h : op.fetch host w = .ok data w') : w'.documents = w.documents := by
  rcases op.fetch_eq host with new | loads
  · rw [new] at h
    cases h
    rfl
  · rw [loads] at h
    exact (Place.load_eq_ok h).1

theorem fetch_eq_error {op : Operation} {e : Error} (h : op.fetch host w = .error e w') :
    w'.documents = w.documents := by
  rcases op.fetch_eq host with new | loads
  · rw [new] at h
    cases h
  · rw [loads] at h
    exact Place.load_eq_error h

theorem run_eq_error {op : Operation} {e : Error} (h : op.run host w = .error e w') :
    w'.documents = w.documents := by
  rw [op.run_eq host] at h
  rcases Act.bind_eq_error.mp h with unread | ⟨data, v, fetched, h⟩
  · exact fetch_eq_error unread
  have same : v.documents = w.documents := fetch_eq_ok fetched
  rcases Act.bind_eq_error.mp h with unmade | ⟨⟨answer, next⟩, u, made, h⟩
  · obtain ⟨s, _, rfl⟩ := Act.zoom_eq_error.mp unmade
    exact same
  obtain ⟨s, _, rfl⟩ := Act.zoom_eq_ok.mp made
  rcases Act.bind_eq_error.mp h with unsaved | ⟨_, t, _, returned⟩
  · rw [Place.save_eq_put] at unsaved
    rw [(Storage.put_eq_error unsaved).2]
    exact same
  · cases returned

theorem run_eq_ok {op : Operation} {answer : op.Answer} (h : op.run host w = .ok answer w') :
    ∃ data next s s', op.fetch host w = .ok data ⟨w.documents, s⟩ ∧
      op.work host.cipher data s = .ok (answer, next) s' ∧
      w'.documents = w.documents.insert op.place.key (Place.text next) := by
  rw [op.run_eq host] at h
  obtain ⟨data, ⟨documents, s⟩, fetched, h⟩ := Act.bind_eq_ok.mp h
  obtain rfl : documents = w.documents := fetch_eq_ok fetched
  obtain ⟨⟨answer', next⟩, u, made, h⟩ := Act.bind_eq_ok.mp h
  obtain ⟨s', worked, rfl⟩ := Act.zoom_eq_ok.mp made
  obtain ⟨_, t, saved, returned⟩ := Act.bind_eq_ok.mp h
  cases returned
  rw [Place.save_eq_put] at saved
  obtain ⟨_, rfl⟩ := Storage.put_eq_ok saved
  exact ⟨data, next, s, s', fetched, worked, rfl⟩

/-- What a call did to the documents, whichever way it ended. -/
theorem documents_after (host : Host ω) (op : Operation) (w : World ω) :
    ((op.run host).after w).documents = w.documents ∨
      ∃ answer w' data next s s', op.run host w = .ok answer w' ∧
        op.fetch host w = .ok data ⟨w.documents, s⟩ ∧
        op.work host.cipher data s = .ok (answer, next) s' ∧
        ((op.run host).after w).documents = w.documents.insert op.place.key (Place.text next) := by
  cases done : op.run host w with
  | ok answer w' =>
    obtain ⟨data, next, s, s', fetched, worked, wrote⟩ := run_eq_ok done
    refine .inr ⟨answer, w', data, next, s, s', rfl, fetched, worked, ?_⟩
    rw [Act.after_of_ok done, wrote]
  | error e w' =>
    left
    rw [Act.after_of_error done, run_eq_error done]

/-- Where nothing is refused, a call goes through as soon as the cipher does its part. -/
theorem run_of_stored (reliable : host.Reliable) {op : Operation} {data : Option (List UInt8)}
    {answer : op.Answer} {next : List UInt8} (loads : op.fetch host = op.place.load host)
    (stored : op.place.stored? w.documents = some data)
    (worked : ∀ s, op.work host.cipher data s = .ok (answer, next) s) :
    ∃ w', op.run host w = .ok answer w' ∧
      w'.documents = w.documents.insert op.place.key (Place.text next) := by
  obtain ⟨s, loaded⟩ := Place.load_of_stored reliable.reads stored
  have made : World.inHost (op.work host.cipher data) ⟨w.documents, s⟩ =
      .ok (answer, next) ⟨w.documents, s⟩ := Act.zoom_eq_ok.mpr ⟨s, worked s, rfl⟩
  rcases Storage.put_cases host op.place.key (Place.text next) ⟨w.documents, s⟩ with
    ⟨w', saved, wrote⟩ | ⟨_, _, _, _, refused⟩
  · refine ⟨w', ?_, wrote⟩
    rw [← Place.save_eq_put] at saved
    rw [op.run_eq host, loads, Act.bind_of_ok loaded, Act.bind_of_ok made]
    exact Act.bind_of_ok saved
  · exact absurd reliable refused

/-- Whatever the cipher does and whatever the store refuses: a call that fails leaves every document
as it was, and after one that goes through, the record that it is about is what the cipher handed
back for what had been there, and every other document is as it was. -/
theorem atomic (host : Host ω) (op : Operation) (w : World ω) :
    match op.run host w with
    | .error _ w' => w'.documents = w.documents
    | .ok answer w' => ∃ data next s s',
      op.fetch host w = .ok data ⟨w.documents, s⟩ ∧
      op.work host.cipher data s = .ok (answer, next) s' ∧
      op.place.stored? w'.documents = some (some next) ∧
      ∀ key, key ≠ op.place.key → w'.documents.find? key = w.documents.find? key := by
  split
  next e w' failed => exact run_eq_error failed
  next answer w' done =>
    obtain ⟨data, next, s, s', fetched, worked, wrote⟩ := run_eq_ok done
    refine ⟨data, next, s, s', fetched, worked, ?_, fun key other => ?_⟩
    · rw [wrote, Place.stored?_insert, if_pos rfl]
    · rw [wrote, Dict.find?_insert, if_neg other.symm]

end Operation

end Repository

end Fanout
