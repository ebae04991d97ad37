import Fanout.Proofs.Session.Conversation

namespace Fanout.Repository

open SessionStore

variable {ω : Type} {host : Host ω} {noise : ω → Nat × ω} {w w' : World ω} {documents : Documents}

/-- What a call that went through did to a session. -/
inductive Turn where
  | injected
  | read
  | wrote (envelope : Envelope)
  | deleted
deriving DecidableEq

namespace Turn

/-- There is a session after it, whether there was one before or not. -/
def opens : Turn → Bool
  | injected | read => true
  | wrote _ | deleted => false

/-- The injections and the readings since the last deletion. The latest turn stands first. -/
def openings (turns : List Turn) : List Turn := (turns.takeWhile (· ≠ deleted)).filter opens

/-- The envelopes that were written since the session was made, the latest first. An injection makes
a session anew, and a reading makes one where there is none. -/
def written : List Turn → List Envelope
  | [] => []
  | injected :: _ => []
  | read :: past => if openings past = [] then [] else written past
  | wrote envelope :: past => envelope :: written past
  | deleted :: _ => []

/-- The session that is left. -/
def standing (turns : List Turn) : Option Loopback.Session :=
  if openings turns = [] then none
  else some ⟨(written turns).length, decide ((openings turns).head? = some injected)⟩

/-- The record of the session that is left. -/
def record (turns : List Turn) : Option (List UInt8) :=
  (standing turns).map fun s => (Loopback.sessionRecord s).data

variable {turns : List Turn} {envelope : Envelope} {s : Loopback.Session}

theorem openings_injected : openings (injected :: turns) = injected :: openings turns := rfl

theorem openings_read : openings (read :: turns) = read :: openings turns := rfl

theorem openings_wrote : openings (wrote envelope :: turns) = openings turns := by
  simp [openings, opens]

theorem openings_deleted : openings (deleted :: turns) = [] := by
  simp [openings]

theorem standing_eq_none_iff : standing turns = none ↔ openings turns = [] := by
  unfold standing
  split
  next absent => exact iff_of_true rfl absent
  next there => exact iff_of_false (Option.some_ne_none _) there

theorem counter_of_standing (h : standing turns = some s) : s.counter = (written turns).length := by
  unfold standing at h
  split at h
  next => cases h
  next => cases h; rfl

theorem pending_of_standing (h : standing turns = some s) :
    s.pending = true ↔ (openings turns).head? = some injected := by
  unfold standing at h
  split at h
  next => cases h
  next =>
    cases h
    exact decide_eq_true_iff

theorem standing_injected : standing (injected :: turns) = some ⟨0, true⟩ := by
  simp [standing, openings_injected, written]

theorem standing_read :
    standing (read :: turns) = some { (standing turns).getD ⟨0, false⟩ with pending := false } := by
  by_cases absent : openings turns = [] <;> simp [standing, openings_read, written, absent]

theorem standing_wrote (h : standing turns = some s) :
    standing (wrote envelope :: turns) = some { s with counter := s.counter + 1 } := by
  unfold standing at *
  rw [openings_wrote]
  split at h
  next => cases h
  next there =>
    cases h
    rw [if_neg there]
    rfl

theorem standing_deleted : standing (deleted :: turns) = none :=
  standing_eq_none_iff.mpr openings_deleted

end Turn

open Turn

/-- The number that an envelope bears. -/
def number (envelope : Envelope) : Nat := BigEndian.decode (envelope.body.take 8)

/-- What is stored under an address is the session that its turns left, and the envelopes of that
session are numbered from one on. -/
structure Stands (documents : Documents) (address : ProtocolAddress) (turns : List Turn) :
    Prop where
  stored : (Place.session address).stored? documents = some (record turns)
  room : (written turns).length < UInt64.size
  numbered : (written turns).reverse.map number = List.range' 1 (written turns).length
  whole : ∀ envelope ∈ written turns, (envelope.body.take 8).length = 8

namespace Stands

variable {address : ProtocolAddress} {turns : List Turn} {jid : Jid}

/-- A session without envelopes. -/
theorem of_fresh (stored : (Place.session address).stored? documents = some (record turns))
    (fresh : written turns = []) : Stands documents address turns where
  stored := stored
  room := by
    rw [fresh]
    decide
  numbered := by
    rw [fresh]
    rfl
  whole := by
    rw [fresh]
    exact fun _ none => (nomatch none)

theorem congr {documents' : Documents} (stands : Stands documents address turns)
    (same : documents'.find? (sessionKey address) = documents.find? (sessionKey address)) :
    Stands documents' address turns := by
  have same : documents'.find? (Place.session address).key =
    documents.find? (Place.session address).key := same
  exact { stands with stored := (Place.stored?_congr same).trans stands.stored }

theorem readable (stands : Stands documents address turns) {s : Loopback.Session}
    (standing : standing turns = some s) :
    Loopback.readState Loopback.Session.ofJson? (Loopback.sessionRecord s).data = .ok s := by
  apply Loopback.readState_sessionRecord
  rw [counter_of_standing standing]
  exact stands.room

theorem sessionState_record (stands : Stands documents address turns) :
    Loopback.sessionState ((record turns).map .mk) = .ok ((standing turns).getD ⟨0, false⟩) := by
  unfold record
  cases stood : standing turns with
  | none => rfl
  | some s =>
    have whole : ∀ record : SessionRecord, SessionRecord.mk record.data = record := fun _ => rfl
    rw [Option.map_some, Option.map_some, whole, Option.getD_some, Loopback.sessionState]
    exact stands.readable stood

theorem work_of_run {op : Operation} {answer : op.Answer} (place : op.place = .session address)
    (loads : op.fetch host = op.place.load host) (stands : Stands w.documents address turns)
    (ran : op.run host w = .ok answer w') :
    ∃ next s s', op.work host.cipher (record turns) s = .ok (answer, next) s' ∧
      (Place.session address).stored? w'.documents = some (some next) := by
  obtain ⟨data, next, s, s', fetched, worked, wrote⟩ := Operation.run_eq_ok ran
  rw [loads, place] at fetched
  obtain rfl := Place.data_of_load stands.stored fetched
  refine ⟨next, s, s', worked, ?_⟩
  rw [wrote, Place.stored?_insert, place, if_pos rfl]

theorem injected (cipher : host.cipher = Loopback.cipher noise) {bundle : PreKeyBundle}
    (done : injectSession host jid bundle w = .ok () w') :
    Stands w'.documents jid.protocolAddress (.injected :: turns) := by
  have ran : (Operation.inject jid bundle).run host w = .ok () w' := done
  obtain ⟨data, next, s, s', _, worked, wrote⟩ := Operation.run_eq_ok ran
  rw [cipher] at worked
  obtain ⟨r, made, rfl⟩ := initiate_of_work (Loopback.cipher_rehearses noise) worked
  refine .of_fresh ?_ rfl
  rw [wrote, Place.stored?_insert, record, standing_injected, Loopback.initiate_eq_ok made]
  exact if_pos rfl

theorem wrote (cipher : host.cipher = Loopback.cipher noise) {plaintext : List UInt8}
    {envelope : Envelope} (stands : Stands w.documents jid.protocolAddress turns)
    (room : (written turns).length + 1 < UInt64.size)
    (done : encrypt host jid plaintext w = .ok envelope w') :
    Stands w'.documents jid.protocolAddress (.wrote envelope :: turns) := by
  have ran : (Operation.encrypt jid plaintext).run host w = .ok envelope w' := done
  obtain ⟨next, s, s', worked, stored⟩ := stands.work_of_run rfl rfl ran
  rw [cipher] at worked
  obtain ⟨session, r, held, _, encrypted, rfl⟩ :=
    encrypt_of_work (Loopback.cipher_rehearses noise) worked
  obtain ⟨state, stood, rfl⟩ := Option.map_eq_some_iff.mp held
  obtain ⟨head, rfl⟩ := Loopback.encrypt_eq_ok (stands.readable stood) encrypted
  have numbered : number envelope = (written turns).length + 1 := by
    rw [number, head, counter_of_standing stood]
    exact BigEndian.decode_encode_of_lt room
  refine ⟨?_, room, ?_, ?_⟩
  · rw [stored, record, standing_wrote stood]
    rfl
  · rw [written, List.reverse_cons, List.map_append, stands.numbered, List.length_cons,
      List.range'_1_concat, List.map_singleton, numbered, Nat.add_comm 1]
  · intro other member
    rcases List.mem_cons.mp member with rfl | before
    · rw [head]
      exact BigEndian.length_encode 8 _
    · exact stands.whole other before

theorem read (cipher : host.cipher = Loopback.cipher noise) {plaintext : List UInt8}
    {envelope : Envelope} (stands : Stands w.documents jid.protocolAddress turns)
    (done : decrypt host jid envelope w = .ok plaintext w') :
    Stands w'.documents jid.protocolAddress (.read :: turns) := by
  have ran : (Operation.decrypt jid envelope).run host w = .ok plaintext w' := done
  obtain ⟨next, s, s', worked, stored⟩ := stands.work_of_run rfl rfl ran
  rw [cipher] at worked
  obtain ⟨r, decrypted, rfl⟩ := decrypt_of_work worked
  obtain rfl := Loopback.decrypt_eq_ok stands.sessionState_record decrypted
  have stored : (Place.session jid.protocolAddress).stored? w'.documents =
      some (record (.read :: turns)) := by
    rw [stored, record, standing_read]
    rfl
  -- Where there is no session, the reading makes one that has no envelopes yet.
  by_cases absent : openings turns = []
  · exact .of_fresh stored (if_pos absent)
  · have kept : written (.read :: turns) = written turns := if_neg absent
    exact ⟨stored, kept ▸ stands.room, kept ▸ stands.numbered, kept ▸ stands.whole⟩

theorem deleted (gone : documents.find? (sessionKey address) = none) :
    Stands documents address (.deleted :: turns) := by
  have gone : documents.find? (Place.session address).key = none := gone
  refine .of_fresh ?_ rfl
  rw [Place.stored?_of_none gone, record, standing_deleted]
  rfl

end Stands

theorem deleteSessions_eq_ok {jids : List Jid} (h : deleteSessions host jids w = .ok () w')
    (address : ProtocolAddress) :
    w'.documents.find? (sessionKey address) =
      if address ∈ jids.map Jid.protocolAddress then none
      else w.documents.find? (sessionKey address) := by
  induction jids generalizing w with
  | nil =>
    cases h
    rfl
  | cons jid jids ih =>
    obtain ⟨_, u, first, rest⟩ := Act.bind_eq_ok.mp h
    obtain ⟨_, rfl⟩ := Storage.del_eq_ok first
    rw [ih rest, Dict.find?_erase]
    simp only [List.map_cons, List.mem_cons, sessionKey_injective.eq_iff]
    by_cases later : address ∈ jids.map Jid.protocolAddress
    · simp [later]
    · simp [later, eq_comm]

/-- A call that went through, and the addresses that it was about. -/
structure Entry where
  addresses : List ProtocolAddress
  turn : Turn

/-- The turns of the session with an address. -/
def turnsOf (address : ProtocolAddress) : List Entry → List Turn
  | [] => []
  | entry :: past =>
    if address ∈ entry.addresses then entry.turn :: turnsOf address past else turnsOf address past

/-- What goes through in a repository that has no session at first, the latest first. A call that
fails is not noted, and the host and all that is not a session may change at any time. A call that
writes finds room to count its envelope: it would not return otherwise. -/
inductive Log (host : Host ω) : List Entry → Documents → Prop
  | start {documents : Documents}
    (bare : ∀ address, documents.find? (sessionKey address) = none) : Log host [] documents
  | injected {past : List Entry} {documents : Documents} {jid : Jid} {bundle : PreKeyBundle} {s : ω}
    {w : World ω} (log : Log host past documents)
    (done : injectSession host jid bundle ⟨documents, s⟩ = .ok () w) :
    Log host (⟨[jid.protocolAddress], .injected⟩ :: past) w.documents
  | wrote {past : List Entry} {documents : Documents} {jid : Jid} {plaintext : List UInt8}
    {envelope : Envelope} {s : ω} {w : World ω} (log : Log host past documents)
    (room : (written (turnsOf jid.protocolAddress past)).length + 1 < UInt64.size)
    (done : encrypt host jid plaintext ⟨documents, s⟩ = .ok envelope w) :
    Log host (⟨[jid.protocolAddress], .wrote envelope⟩ :: past) w.documents
  | read {past : List Entry} {documents : Documents} {jid : Jid} {envelope : Envelope}
    {plaintext : List UInt8} {s : ω} {w : World ω} (log : Log host past documents)
    (done : decrypt host jid envelope ⟨documents, s⟩ = .ok plaintext w) :
    Log host (⟨[jid.protocolAddress], .read⟩ :: past) w.documents
  | failed {past : List Entry} {documents : Documents} {op : Operation} {e : Error} {s : ω}
    {w : World ω} (log : Log host past documents)
    (failed : op.run host ⟨documents, s⟩ = .error e w) : Log host past w.documents
  | deleted {past : List Entry} {documents : Documents} {jids : List Jid} {s : ω} {w : World ω}
    (log : Log host past documents)
    (done : deleteSessions host jids ⟨documents, s⟩ = .ok () w) :
    Log host (⟨jids.map Jid.protocolAddress, .deleted⟩ :: past) w.documents
  | aside {past : List Entry} {documents documents' : Documents} (log : Log host past documents)
    (away : ∀ address,
      documents'.find? (sessionKey address) = documents.find? (sessionKey address)) :
    Log host past documents'

variable {past : List Entry}

/-- A call for one address is a turn of the session there and leaves the others as they stood. -/
theorem stands_of_call {op : Operation} {answer : op.Answer} {jid : Jid} {turn : Turn}
    (place : op.place = .session jid.protocolAddress)
    (stands : ∀ address, Stands w.documents address (turnsOf address past))
    (done : op.run host w = .ok answer w')
    (here : Stands w'.documents jid.protocolAddress (turn :: turnsOf jid.protocolAddress past))
    (address : ProtocolAddress) :
    Stands w'.documents address (turnsOf address (⟨[jid.protocolAddress], turn⟩ :: past)) := by
  by_cases same : address = jid.protocolAddress
  · subst same
    rwa [turnsOf, if_pos (List.mem_singleton_self _)]
  · obtain ⟨_, _, _, _, _, _, wrote⟩ := Operation.run_eq_ok done
    rw [turnsOf, if_neg (fun only => same (List.mem_singleton.mp only))]
    refine (stands address).congr ?_
    have other : op.place.key ≠ sessionKey address := by
      rw [place]
      exact sessionKey_injective.ne (Ne.symm same)
    rw [wrote, Dict.find?_insert, if_neg other]

theorem Log.stands (cipher : host.cipher = Loopback.cipher noise) (log : Log host past documents) :
    ∀ address, Stands documents address (turnsOf address past) := by
  induction log with
  | start bare =>
    intro address
    have bare : Dict.find? _ (Place.session address).key = none := bare address
    exact .of_fresh (Place.stored?_of_none bare) rfl
  | injected log done ih =>
    have ran : (Operation.inject _ _).run host _ = .ok () _ := done
    exact stands_of_call rfl ih ran (.injected cipher done)
  | wrote log room done ih =>
    have ran : (Operation.encrypt _ _).run host _ = .ok _ _ := done
    exact stands_of_call rfl ih ran (.wrote cipher (ih _) room done)
  | read log done ih =>
    have ran : (Operation.decrypt _ _).run host _ = .ok _ _ := done
    exact stands_of_call rfl ih ran (.read cipher (ih _) done)
  | failed log failed ih =>
    rw [Operation.run_eq_error failed]
    exact ih
  | deleted log done ih =>
    intro address
    have found := deleteSessions_eq_ok done address
    rw [turnsOf]
    split
    next gone => exact .deleted (found.trans (if_pos gone))
    next kept => exact (ih address).congr (found.trans (if_neg kept))
  | aside log away ih => exact fun address => (ih address).congr (away address)

section Asking

variable {jid : Jid}

theorem encrypt_of_absent (reliable : host.Reliable)
    (absent : (Place.session jid.protocolAddress).stored? w.documents = some none)
    (plaintext : List UInt8) :
    ∃ w', encrypt host jid plaintext w = .error (.noSession jid.protocolAddress.text) w' := by
  obtain ⟨s, loaded⟩ := Place.load_of_stored reliable.reads absent
  let op := Operation.encrypt jid plaintext
  have fetched : op.fetch host w = .ok none ⟨w.documents, s⟩ := loaded
  have refused : World.inHost (op.work host.cipher none) ⟨w.documents, s⟩ =
      .error (.noSession jid.protocolAddress.text) ⟨w.documents, s⟩ := rfl
  refine ⟨⟨w.documents, s⟩, ?_⟩
  change op.run host w = _
  rw [op.run_eq host, Act.bind_of_ok fetched, Act.bind_of_error refused]
  rfl

/-- An envelope that is long enough is read where there is a session, and elsewhere if it bears the
handshake. -/
theorem decrypt_of_stands (cipher : host.cipher = Loopback.cipher noise) (reliable : host.Reliable)
    {turns : List Turn} {envelope : Envelope}
    (stands : Stands w.documents jid.protocolAddress turns) (pairwise : envelope.kind ≠ .skmsg)
    (opened : envelope.kind = .pkmsg ∨ openings turns ≠ []) (long : 8 ≤ envelope.body.length) :
    ∃ plaintext w', decrypt host jid envelope w = .ok plaintext w' := by
  have known : envelope.kind = .pkmsg ∨ record turns ≠ none :=
    opened.imp_right fun there absent =>
      there (standing_eq_none_iff.mp (Option.map_eq_none_iff.mp absent))
  obtain ⟨plaintext, next, decrypted⟩ :=
    Loopback.decrypt_of_sessionState stands.sessionState_record long
  let op := Operation.decrypt jid envelope
  have worked : ∀ s, op.work host.cipher (record turns) s = .ok (plaintext, next.data) s := by
    rw [cipher]
    exact work_of_decrypt pairwise known decrypted
  obtain ⟨w', read, _⟩ := op.run_of_stored reliable rfl stands.stored worked
  exact ⟨plaintext, w', read⟩

/-- Whatever went through before, on a store that never refuses: nothing is written to an address
without a session, and there is one if a session was injected or a message was read since the last
deletion. What is written bears the handshake if the last of these was an injection, and the
envelopes of a session are numbered from one on, none left out and none twice. -/
theorem handshake_until_answered (cipher : host.cipher = Loopback.cipher noise)
    (reliable : host.Reliable) (log : Log host past documents) (jid : Jid) (plaintext : List UInt8)
    (s : ω) :
    let turns := turnsOf jid.protocolAddress past
    ((∃ w', encrypt host jid plaintext ⟨documents, s⟩ =
        .error (.noSession jid.protocolAddress.text) w') ↔ openings turns = []) ∧
      (openings turns ≠ [] → ∃ envelope w',
        encrypt host jid plaintext ⟨documents, s⟩ = .ok envelope w' ∧
          envelope.kind = if (openings turns).head? = some .injected then .pkmsg else .msg) ∧
      (∀ envelope ∈ written turns, (envelope.body.take 8).length = 8) ∧
      (written turns).reverse.map number = List.range' 1 (written turns).length := by
  intro turns
  have stands : Stands documents jid.protocolAddress turns := log.stands cipher jid.protocolAddress
  have goes_through : openings turns ≠ [] → ∃ envelope w',
      encrypt host jid plaintext ⟨documents, s⟩ = .ok envelope w' ∧
        envelope.kind = if (openings turns).head? = some .injected then .pkmsg else .msg := by
    intro opened
    obtain ⟨state, stood⟩ := Option.ne_none_iff_exists'.mp (mt standing_eq_none_iff.mp opened)
    have stored := stands.stored
    rw [record, stood] at stored
    obtain ⟨envelope, w', wrote, kind⟩ := encrypt_goes_through (w := ⟨documents, s⟩) cipher reliable
      stored (stands.readable stood) plaintext
    refine ⟨envelope, w', wrote, ?_⟩
    simp only [kind, pending_of_standing stood]
  refine ⟨⟨fun failed => ?_, fun absent => ?_⟩, goes_through, stands.whole, stands.numbered⟩
  · by_contra opened
    obtain ⟨w', failed⟩ := failed
    obtain ⟨envelope, u, wrote, _⟩ := goes_through opened
    rw [failed] at wrote
    cases wrote
  · have stored := stands.stored
    rw [record, standing_eq_none_iff.mpr absent] at stored
    exact encrypt_of_absent reliable stored plaintext

/-- The bundle of a device that can be written to. -/
def friendBundle : PreKeyBundle := ⟨0, [1], ⟨0, [1], [1]⟩, none⟩

/-- Our friend is written to twice with the handshake, under the numbers one and two, and without it
once a message is read. -/
theorem friend_handshake_until_answered :
    let friend := [Stage.friend.protocolAddress]
    ∃ first second documents documents',
      Log Stage.smooth [⟨friend, .wrote second⟩, ⟨friend, .wrote first⟩, ⟨friend, .injected⟩]
        documents ∧
      Log Stage.smooth [⟨friend, .read⟩, ⟨friend, .wrote second⟩, ⟨friend, .wrote first⟩,
        ⟨friend, .injected⟩] documents' ∧
      first.kind = .pkmsg ∧ second.kind = .pkmsg ∧ [first, second].map number = [1, 2] ∧
      ∀ s, ∃ third w', encrypt Stage.smooth Stage.friend [104, 105] ⟨documents', s⟩ =
        .ok third w' ∧ third.kind = .msg := by
  have cipher : Stage.smooth.cipher = Loopback.cipher Stage.nextNoise := rfl
  have reliable : Stage.smooth.Reliable := fun _ _ => rfl
  obtain ⟨w, opened⟩ : ∃ w, injectSession Stage.smooth Stage.friend friendBundle
      ⟨∅, Stage.opening⟩ = .ok () w := ⟨_, rfl⟩
  have start : Log Stage.smooth [] ∅ := .start fun _ => rfl
  have injected : Log Stage.smooth _ w.documents := start.injected opened
  obtain ⟨_, there, _⟩ :=
    handshake_until_answered cipher reliable injected Stage.friend [104, 105] w.host
  obtain ⟨first, w₁, wrote, kind⟩ := there (by decide)
  have once : Log Stage.smooth _ w₁.documents := injected.wrote (by decide) wrote
  obtain ⟨_, there, _⟩ :=
    handshake_until_answered cipher reliable once Stage.friend [104, 105] w₁.host
  obtain ⟨second, w₂, wrote', kind'⟩ := there (List.cons_ne_nil _ _)
  have room : 2 < UInt64.size := by decide
  have twice : Log Stage.smooth _ w₂.documents := once.wrote (by exact room) wrote'
  obtain ⟨_, _, _, numbered⟩ :=
    handshake_until_answered cipher reliable twice Stage.friend [104, 105] w₂.host
  let answer : Envelope := ⟨.msg, List.replicate 8 0⟩
  have stands := twice.stands cipher Stage.friend.protocolAddress
  obtain ⟨plaintext, w₃, read⟩ : ∃ plaintext w',
      decrypt Stage.smooth Stage.friend answer w₂ = .ok plaintext w' :=
    decrypt_of_stands cipher reliable stands (by decide) (.inr (List.cons_ne_nil _ _)) (by decide)
  have answered : Log Stage.smooth _ w₃.documents := twice.read read
  refine ⟨first, second, w₂.documents, w₃.documents, twice, answered, kind, kind', numbered,
    fun s => ?_⟩
  obtain ⟨_, there, _⟩ :=
    handshake_until_answered cipher reliable answered Stage.friend [104, 105] s
  exact there (List.cons_ne_nil _ _)

end Asking

end Fanout.Repository
