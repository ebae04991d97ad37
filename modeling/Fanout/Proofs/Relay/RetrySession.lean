import Fanout.Proofs.Relay.GroupFanout
import Fanout.Proofs.Relay.History
import Fanout.Proofs.Relay.PairwiseFanout
import Fanout.Proofs.Session.Assertion

namespace Fanout

variable {ω : Type} {host : Host ω} {log : ω → List Observation} {jid : Jid}

/-- The ciphertexts of a stanza that are for one device each. -/
def Node.deviceCiphertexts (n : Node) : List Node :=
  (n.findAll "enc").filter fun enc => enc.attr? "type" ≠ some "skmsg"

/-- A node of a stanza shows an envelope. -/
structure Node.Shows (n : Node) (envelope : Envelope) : Prop where
  kind : n.attr? "type" = some envelope.kind.text
  body : n.bytes? = some envelope.body

theorem Stanza.shows_encNode (envelope : Envelope) (mediaType : Option String)
    (count : Option UInt32) : (encNode envelope mediaType count).Shows envelope :=
  ⟨attr?_encNode_type _ _ _, bytes?_encNode _ _ _⟩

theorem SessionStore.not_holdsSession_senderKeyKey (jid : Jid) (n : SenderKeyName) :
    ¬Repository.HoldsSession jid (senderKeyKey n) := by
  have other : Storage.startsWith senderKeyHome (sessionKey jid.protocolAddress) = false := by
    unfold senderKeyHome sessionKey
    rw [Storage.startsWith_append]
    simp [List.isPrefixOf]
  exact Storage.append_ne other

def Recorded.observations (s : Recorded (Watched ω)) : List Observation := s.inner.log

namespace Directories

/-- The log grows, and the session of a device stays what it was. -/
def KeepsSession (log : ω → List Observation) (jid : Jid) (d d' : Directories ω) : Prop :=
  Repository.KeepsSession log jid d.world d'.world

instance : IsPreorder (Directories ω) (KeepsSession log jid) where
  refl d := refl_of (Repository.KeepsSession log jid) d.world
  trans _ _ _ h h' := trans_of (Repository.KeepsSession log jid) h h'

theorem inWorld_keeps_session {α : Type} {x : Act (World ω) α}
    (hx : x.Keeps (Repository.KeepsSession log jid)) : (inWorld x).Keeps (KeepsSession log jid) :=
  hx.zoom fun _ _ h => h

theorem inGroups_keeps_session {α : Type} {x : Act (Held GroupCache ω) α}
    (hx : x.Keeps (Held.Follows (Saw log []) (Repository.HoldsSession jid) fun _ => False)) :
    (inGroups x).Keeps (KeepsSession log jid) :=
  hx.zoom fun _ _ h => h

end Directories

namespace Preparation

variable {credentials : Credentials} {o : Outgoing} {d d' : Directories ω}

theorem plaintext_keeps_session (hl : host.Logs log) (m : Message) :
    (plaintext host m).Keeps (Directories.KeepsSession log jid) :=
  (Directories.inWorld_keeps_session (World.below_keeps hl.keeps 16)).bind fun _ => Act.Keeps.pure _

theorem members_keeps_session (hl : host.Logs log) :
    (members host credentials o).Keeps (Directories.KeepsSession log jid) :=
  .ite ((Directories.inGroups_keeps_session (GroupDirectory.metadata_keeps hl.keeps _ _)).bind
    fun _ => Act.Keeps.pure _) (Act.Keeps.pure _)

theorem encryptGroup_keeps_session (hl : host.Logs log) (group sender : Jid)
    (bytes : List UInt8) :
    (Directories.inWorld (Repository.encryptGroup host group sender bytes)).Keeps
      (Directories.KeepsSession log jid) :=
  Directories.inWorld_keeps_session (Repository.encryptGroup_keeps hl.keeps
    (SessionStore.not_holdsSession_senderKeyKey jid _) bytes)

/-- A message that is encrypted for one device is written on the session that is stored for it. -/
theorem encryptAll_single_eq_ok (hl : host.Logs log) {m : Message}
    {ciphertexts : List DeviceCiphertext}
    (h : encryptAll host m [jid] d = .ok ciphertexts d') :
    ∃ envelope, ciphertexts = [⟨jid, envelope⟩] ∧ envelope.kind ≠ .skmsg ∧
      Repository.WroteOnStored log jid envelope d.world d'.world := by
  obtain ⟨bytes, u, hb, h⟩ := Act.bind_eq_ok.mp h
  obtain ⟨c, v, rest, hc, hr, rfl⟩ := Act.mapM_cons_eq_ok.mp h
  cases hr
  obtain ⟨envelope, x, he, hc⟩ := Act.bind_eq_ok.mp hc
  cases hc
  obtain ⟨w, written, rfl⟩ := Act.zoom_eq_ok.mp he
  have kept : Repository.KeepsSession log jid d.world u.world :=
    (plaintext_keeps_session hl m).of_ok hb
  exact ⟨envelope, rfl, (Repository.encrypt_eq_ok written).1,
    kept.wroteOnStored (Repository.wrote_of_encrypt hl written)⟩

theorem ensureSessions_eq_ok {jids : List Jid} (h : ensureSessions host jids d = .ok () d') :
    ∃ found, Sessions.ensure host jids false d.world = .ok found d'.world := by
  obtain ⟨found, u, looked, h⟩ := Act.bind_eq_ok.mp h
  obtain ⟨w, ensured, rfl⟩ := Act.zoom_eq_ok.mp looked
  cases h
  exact ⟨found, ensured⟩

/-- The sender key is written for devices as any other message is. -/
theorem distribute_eq (group : Jid) (distribution : List UInt8) (jids : List Jid) :
    distribute host group distribution jids = (do
      ensureSessions host jids
      encryptAll host (.senderKeyDistribution group (Base64.encode distribution)) jids) := by
  cases jids <;> rfl

theorem group_for_participant (hl : host.Logs log) {f : GroupFanout}
    (one : o.participant = some jid) (h : gather host credentials o d = .ok f d') :
    ∃ envelope, f.ciphertexts = [⟨jid, envelope⟩] ∧ envelope.kind ≠ .skmsg ∧
      Sessions.WroteAssured log jid envelope d.world d'.world := by
  have informed := (gather_of_participant one h).2
  obtain ⟨jids, d₁, d₂, bytes, d₃, d₄, d₅, hm, ht, hb, _, he, hi, hc⟩ := gather_eq_ok h
  simp only [groupTargets, uninformed, one] at ht hi
  obtain ⟨_, rfl⟩ := EStateM.Result.ok.inj ht
  obtain ⟨_, rfl⟩ := EStateM.Result.ok.inj hi
  rw [informed, distribute_eq] at hc
  obtain ⟨_, d₆, ensured, written⟩ := Act.bind_eq_ok.mp hc
  obtain ⟨found, ensured⟩ := ensureSessions_eq_ok ensured
  obtain ⟨envelope, single, kind, wrote⟩ := encryptAll_single_eq_ok hl written
  refine ⟨envelope, single, kind, ?_⟩
  have kept : Directories.KeepsSession log jid d d₄ :=
    trans_of _ ((members_keeps_session hl).of_ok hm) (trans_of _
      ((plaintext_keeps_session hl _).of_ok hb) ((encryptGroup_keeps_session hl _ _ _).of_ok he))
  exact Sessions.wroteAssured_after kept (Sessions.wroteAssured_of_ensure hl ensured wrote)

theorem deviceCiphertexts_group {f : GroupFanout} {envelope : Envelope}
    (single : f.ciphertexts = [⟨jid, envelope⟩]) (kind : envelope.kind ≠ .skmsg) :
    (f.node credentials o).deviceCiphertexts =
      [Stanza.encNode envelope o.message.mediaType o.count] := by
  rw [Node.deviceCiphertexts, findAll_node, single]
  simp [Stanza.attr?_encNode_type_eq_skmsg, kind]

theorem pairwise_for_participant (hl : host.Logs log) {prepared : Prepared}
    (one : o.participant = some jid) (h : pairwise host credentials o d = .ok prepared d') :
    ∃ envelope, prepared.node.deviceCiphertexts =
        [Stanza.encNode envelope o.message.mediaType o.count] ∧
      Sessions.WroteAssured log jid envelope d.world d'.world := by
  obtain ⟨d₁, ciphertexts, ensured, encrypted, node⟩ := pairwise_single one h
  obtain ⟨found, ensured⟩ := ensureSessions_eq_ok ensured
  obtain ⟨envelope, rfl, kind, wrote⟩ := encryptAll_single_eq_ok hl encrypted
  refine ⟨envelope, ?_, Sessions.wroteAssured_of_ensure hl ensured wrote⟩
  have parts : ((o.header credentials).withPart (pairwisePart o [⟨jid, envelope⟩])).parts =
      [.direct ⟨jid, envelope⟩ o.message.mediaType o.count] := by
    simp [Stanza.Draft.withPart, o.parts_header credentials, pairwisePart, one]
  rw [Node.deviceCiphertexts, node, Stanza.Draft.findAll_build, parts]
  simp [Stanza.Part.node?, Stanza.findAll_encNode, Stanza.attr?_encNode_type_eq_skmsg, kind]

theorem findAll_newsletter (credentials : Credentials) (o : Outgoing) :
    (newsletter credentials o).node.findAll "enc" = [] := by
  rw [newsletter, Stanza.Draft.findAll_build, Stanza.Draft.withPart, o.parts_header credentials]
  cases o.message.mediaType <;> rfl

end Preparation

/-- A stanza for one device has one ciphertext for it, unless it is for a channel. -/
theorem Outgoing.prepare_for_participant (hl : host.Logs log) {credentials : Credentials}
    {o : Outgoing} {d d' : Directories ω} {prepared : Prepared}
    (one : o.participant = some jid) (h : o.prepare host credentials d = .ok prepared d') :
    if o.kind = .newsletter then prepared.node.findAll "enc" = []
    else ∃ enc envelope, prepared.node.deviceCiphertexts = [enc] ∧ enc.Shows envelope ∧
      Sessions.WroteAssured log jid envelope d.world d'.world := by
  rcases o.prepare_cases host credentials with ⟨keyed, way⟩ | ⟨kind, way⟩ | ⟨kind, way⟩ <;>
    rw [way] at h
  · obtain ⟨f, _, hf, h⟩ := Act.bind_eq_ok.mp h
    cases h
    obtain ⟨envelope, single, kind, wrote⟩ := Preparation.group_for_participant hl one hf
    have other : o.kind ≠ .newsletter := by
      intro kind
      rw [kind] at keyed
      cases keyed
    rw [if_neg other]
    exact ⟨_, envelope, Preparation.deviceCiphertexts_group single kind,
      Stanza.shows_encNode _ _ _, wrote⟩
  · cases h
    rw [if_pos kind]
    exact Preparation.findAll_newsletter credentials o
  · obtain ⟨envelope, single, wrote⟩ := Preparation.pairwise_for_participant hl one h
    rw [if_neg (by rcases kind with kind | kind <;> simp [kind])]
    exact ⟨_, envelope, single, Stanza.shows_encNode _ _ _, wrote⟩

namespace Relay

variable {R : ω → ω → Prop} {r : Relay ω}

/-- A message that is relayed to one device only is written on the session with it, and on a fresh
one if there is none. -/
theorem relay_for_participant (hl : host.Logs log) {chat : Jid} {message : Message}
    {options : RelayOptions} {id given : String} {r r' : Relay (Recorded ω)}
    (named : options.messageId = some given) (one : options.participant = some jid)
    (h : relay host.recording chat message options r = .ok id r') :
    Saw (fun s => log s.inner) [] r.world.host r'.world.host ∧
      ∃ n, r'.handed = r.handed ++ [⟨n, true⟩] ∧
        if DestinationKind.classify chat = .newsletter then n.findAll "enc" = []
        else ∃ enc envelope, n.deviceCiphertexts = [enc] ∧ enc.Shows envelope ∧
          Sessions.WroteAssured (fun s => log s.inner) jid envelope r.world r'.world := by
  have hl' := hl.recording
  have grown := relay_keeps_host hl'.keeps hl'.send h
  obtain ⟨r₁, prepared, d, r₂, hid, hp, ht, rfl⟩ := relay_eq_ok h
  have handed := handed_of_taken (prepares_of_ok host.recording_keeps hid hp) ht
    chat.withoutDevice id message prepared.informed
  have later := taken_keeps_host hl'.keeps hl'.send ht chat.withoutDevice id message
    prepared.informed
  refine ⟨grown, prepared.node, handed, ?_⟩
  rw [chooseId, named] at hid
  cases hid
  have prep := Outgoing.prepare_for_participant hl' (o := ⟨chat.withoutDevice, message, id,
    options⟩) one hp
  have kind : (⟨chat.withoutDevice, message, id, options⟩ : Outgoing).kind = .classify chat := rfl
  rw [kind] at prep
  split at prep
  next kind => rwa [if_pos kind]
  next kind =>
    rw [if_neg kind]
    obtain ⟨enc, envelope, single, shows, wrote⟩ := prep
    exact ⟨enc, envelope, single, shows, wrote.later later⟩

/-- The calls that sending a message once more is made of. -/
theorem handleRetryReceipt_eq_true {receipt : RetryReceipt} {r' : Relay ω}
    (h : handleRetryReceipt host receipt r = .ok true r') :
    ∃ (r₁ : Relay ω) (message : Message) (found : Bool) (w : World ω) (id : String),
      r₁.world = ⟨r.world.documents, (host.clock r.world.host).2⟩ ∧
      Sessions.ensure host [receipt.requester] true r₁.world = .ok found w ∧
      relay host receipt.remoteJid message receipt.options (r₁.withWorld w) = .ok id r' := by
  obtain ⟨_, message, found, w, id, _, ensured, relayed⟩ := handleRetryReceipt_calls h
  exact ⟨counted host receipt r, message, found, w, id, rfl, ensured, relayed⟩

/-- What a stanza says that was sent once more after an answer about the keys of the device. -/
structure Resent (receipt : RetryReceipt) (answer : Node) (r r' : Relay (Recorded (Watched ω)))
    (enc : Node) (envelope : Envelope) : Prop where
  shows : enc.Shows envelope
  session :
    if Prekeys.names answer receipt.requester = true ∨
        Repository.document? receipt.requester r.world = none then
      Repository.WroteOnFresh Recorded.observations receipt.requester envelope r.world r'.world
    else
      Repository.WroteOnStored Recorded.observations receipt.requester envelope r.world r'.world

/-- If the service gives a bundle of the asking device, or there was no session with the device, the
message is written on a session that is opened for this from a bundle of the device. Else it is
written on the session that there was. -/
theorem handleRetryReceipt_resends (host : Host ω) {receipt : RetryReceipt}
    {r r' : Relay (Recorded (Watched ω))}
    (h : handleRetryReceipt host.watching.recording receipt r = .ok true r') :
    ∃ n answer, r'.handed = r.handed ++ [⟨n, true⟩] ∧
      Saw Recorded.observations [.answered (Prekeys.query [receipt.requester]) answer]
        r.world.host r'.world.host ∧
      if DestinationKind.classify receipt.remoteJid = .newsletter then n.findAll "enc" = []
      else ∃ enc envelope, n.deviceCiphertexts = [enc] ∧
        Resent receipt answer r r' enc envelope := by
  have hl : host.watching.recording.Logs Recorded.observations := host.watching_logs.recording
  obtain ⟨r₁, message, found, w, id, timed, ensured, relayed⟩ := handleRetryReceipt_eq_true h
  have waited : Repository.KeepsSession Recorded.observations receipt.requester r.world
      r₁.world := by
    rw [timed]
    exact ⟨hl.keeps.clock _, fun _ _ => rfl, fun _ never _ => never.elim⟩
  have unsent : (r₁.withWorld w).handed = r.handed := by
    have quiet := (Sessions.ensure_keeps host.watching.recording_keeps _ _).of_ok ensured
    rw [timed] at quiet
    exact quiet.host
  have outcome := Sessions.ensure_eq_ok hl ensured
  rw [if_pos (.inl rfl)] at outcome
  obtain ⟨answer, asked⟩ := outcome
  replace asked := Sessions.asked_after waited asked
  obtain ⟨later, n, handed, sent⟩ := relay_for_participant host.watching_logs rfl rfl relayed
  refine ⟨n, answer, unsent ▸ handed, asked.saw.trans later, ?_⟩
  split at sent
  next kind => rwa [if_pos kind]
  next kind =>
    rw [if_neg kind]
    obtain ⟨enc, envelope, single, shows, wrote⟩ := sent
    exact ⟨enc, envelope, single, shows, asked.wrote wrote⟩

/-- Our friend is sent a message on a watched host, and something happens meanwhile. -/
def greet (meanwhile : Act (Relay (Recorded (Watched Stage))) Unit) :
    Act (Relay (Recorded (Watched Stage))) Unit := do
  let _ ← relay Stage.plain.watching.recording Stage.friend (.text "hi") { messageId := some "1" }
  meanwhile

def watchedOpening : Relay (Recorded (Watched Stage)) :=
  { config := {}
    credentials := ⟨Stage.own, none, []⟩
    directories := { devices := ∅, groups := ∅, memory := ∅, world := ⟨∅, ⟨Stage.opening, []⟩, []⟩ }
    retry := .new {}
    trackers := .new {}
    running := false }

/-- Our friend could not read the message. -/
def friendReceipt : RetryReceipt :=
  { messageId := "1", remoteJid := Stage.friend, participant := none, retryCount := 1 }

def forgetFriend : Act (Relay (Recorded (Watched Stage))) Unit :=
  inWorld (Repository.deleteSessions Stage.plain.watching.recording [Stage.friend])

theorem greeting_resent_on_new_session : ∃ r r' n enc envelope,
    greet forgetFriend watchedOpening = .ok () r ∧
      handleRetryReceipt Stage.plain.watching.recording friendReceipt r = .ok true r' ∧
      r'.handed = r.handed ++ [⟨n, true⟩] ∧ n.deviceCiphertexts = [enc] ∧ enc.Shows envelope ∧
      Repository.WroteOnFresh Recorded.observations Stage.friend envelope r.world r'.world := by
  obtain ⟨_, r, greeted, again⟩ : ∃ a r, greet forgetFriend watchedOpening = .ok a r ∧
      (decide (Repository.document? Stage.friend r.world = none) &&
        (handleRetryReceipt Stage.plain.watching.recording friendReceipt).yields r
          fun again _ => again) = true :=
    Act.yields_iff.mp (by decide +kernel)
  obtain ⟨absent, again⟩ := Bool.and_eq_true_iff.mp again
  obtain ⟨_, r', resent, rfl⟩ := Act.yields_iff.mp again
  obtain ⟨n, answer, handed, _, outcome⟩ := handleRetryReceipt_resends Stage.plain resent
  rw [if_neg (by decide)] at outcome
  obtain ⟨enc, envelope, single, shows, session⟩ := outcome
  rw [if_pos (.inr (of_decide_eq_true absent))] at session
  exact ⟨r, r', n, enc, envelope, greeted, resent, handed, single, shows, session⟩

/-- The service has no keys to give when it is asked next. -/
def withholdKeys : Act (Relay (Recorded (Watched Stage))) Unit := modify fun r =>
  let ⟨⟨stage, log⟩, handed⟩ := r.world.host
  r.withHost ⟨⟨{ stage with script := { stage.script with answers := [.ok (Prekeys.answer [])] } },
    log⟩, handed⟩

/-- Without keys of the device the message goes out on the session that it could not read. -/
theorem greeting_resent_on_old_session : ∃ r r',
    greet withholdKeys watchedOpening = .ok () r ∧
      handleRetryReceipt Stage.plain.watching.recording friendReceipt r = .ok true r' ∧
      (r'.handed.drop r.handed.length).map (fun h => h.stanza.deviceCiphertexts.length) = [1] ∧
      ∀ envelope, ¬Repository.WroteOnFresh Recorded.observations Stage.friend envelope
        r.world r'.world := by
  obtain ⟨_, r, greeted, again⟩ : ∃ a r, greet withholdKeys watchedOpening = .ok a r ∧
      (handleRetryReceipt Stage.plain.watching.recording friendReceipt).yields r (fun again r' =>
        again && decide ((r'.handed.drop r.handed.length).map
            (fun h => h.stanza.deviceCiphertexts.length) = [1]) &&
          (r'.world.host.observations.drop r.world.host.observations.length).all
            fun o => !o.isOpening) = true :=
    Act.yields_iff.mp (by decide +kernel)
  obtain ⟨_, r', resent, passed⟩ := Act.yields_iff.mp again
  simp only [Bool.and_eq_true, decide_eq_true_eq] at passed
  obtain ⟨⟨rfl, handed⟩, unopened⟩ := passed
  refine ⟨r, r', greeted, resent, handed, fun envelope fresh => ?_⟩
  obtain ⟨answer, bundle, session, plaintext, _, events, grown, among⟩ := fresh
  rw [grown, List.drop_left, List.all_eq_true] at unopened
  have opened : Observation.opened Stage.friend.protocolAddress bundle session ∈ events :=
    among.subset (by simp)
  exact absurd (unopened _ opened) (by simp [Observation.isOpening])

end Relay

end Fanout
