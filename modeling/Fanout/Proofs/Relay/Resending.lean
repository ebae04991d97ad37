import Fanout.Proofs.Relay.Attributes
import Fanout.Proofs.Relay.RetrySession
import Fanout.Proofs.Tracker.Table

namespace Fanout

open TrackerTable

variable {ω : Type} {host : Host ω}

/-- A message that was relayed to a chat. -/
structure Mailing where
  chat : Jid
  id : String
  message : Message
  time : Nat

namespace Mailing

def key (m : Mailing) : ChatMessage := ⟨m.chat.withoutDevice, m.id⟩

/-- What the note of a message writes. -/
def deed (m : Mailing) : Deed ChatMessage Message := .wrote m.key m.message m.time

/-- The last one of a chat under an id, of a list with the latest first. -/
def last? (key : ChatMessage) (mailings : List Mailing) : Option Mailing :=
  mailings.find? fun m => m.key = key

theorem lastWrite_deeds (key : ChatMessage) (mailings : List Mailing) :
    lastWrite key (mailings.map deed) =
      (last? key mailings).map fun m => (m.message, m.time) := by
  induction mailings with
  | nil => rfl
  | cons m mailings ih =>
    by_cases same : m.key = key
    · simp [last?, deed, lastWrite, same]
    · simpa [last?, deed, lastWrite, same] using ih

/-- A message is known of which the last mailing has not ended. -/
theorem valueAt_deeds (ttl now : Nat) (mailings : List Mailing) (key : ChatMessage) :
    valueAt ttl (mailings.map deed) key now =
      ((last? key mailings).filter fun m => now < m.time + ttl).map message := by
  rw [valueAt, lastWrite_deeds]
  cases last? key mailings with
  | none => rfl
  | some m =>
    by_cases lasts : now < m.time + ttl
    · simp [lasts]
    · simp [lasts, Nat.le_of_not_lt lasts]

end Mailing

namespace Relay

/-- What changes the table of recent messages. -/
inductive MailEvent where
  | mailed (m : Mailing)
  | swept (now : Nat)

namespace MailEvent

def time : MailEvent → Nat
  | mailed m => m.time
  | swept now => now

def mailing? : MailEvent → Option Mailing
  | mailed m => some m
  | swept _ => none

inductive Changes (host : Host ω) : MailEvent → Relay ω → Relay ω → Prop
  | mailed {jid : Jid} {message : Message} {options : RelayOptions} {id : String}
      {r r' : Relay ω} (relayed : relay host jid message options r = .ok id r') (now : Nat)
      (noted : r'.trackers = r.trackers.note jid.withoutDevice id message now) :
    Changes host (mailed ⟨jid.withoutDevice, id, message, now⟩) r r'
  | swept {r r' : Relay ω} (now : Nat) (config : r'.config = r.config)
      (recent : r'.trackers.recent = r.trackers.recent.swept now) : Changes host (swept now) r r'

end MailEvent

/-- The messages that were relayed since a relay was created, and the sweeps, the latest first. -/
abbrev MailHistory (host : Host ω) : List MailEvent → Relay ω → Prop :=
  History host Trackers.recent (MailEvent.Changes host)

def mailings (events : List MailEvent) : List Mailing := events.filterMap MailEvent.mailing?

/-- A history of messages goes on through all calls; those among them that relay a message, in a
first attempt or a later one, add it. -/
theorem continues_mail (host : Host ω) :
    KeptByCalls host (Continues host Trackers.recent (MailEvent.Changes host)) := by
  have kept : KeptBesides host (Continues host Trackers.recent (MailEvent.Changes host)) := by
    refine Continues.besides fun h => ?_
    obtain ⟨_, now, noted⟩ := noted_of_relay h
    exact .of_change (.mailed h now noted)
  refine ⟨kept.relay, kept.sendMessage, kept.tick fun now r => ?_, fun receipt => ?_,
    kept.acknowledge⟩
  · rcases r.trackers.recent_sweep now with kept | swept
    · exact .of_same rfl kept
    · exact .of_change (.swept now rfl swept)
  · exact kept.handleRetryReceipt receipt fun now r => .of_same rfl rfl

/-- The table tells of the last mailings, whatever was swept. -/
theorem MailHistory.tracks {events : List MailEvent} {r : Relay ω}
    (history : MailHistory host events r) {now : Nat}
    (ordered : (now :: events.map MailEvent.time).Pairwise (· ≥ ·)) :
    r.trackers.recent.ttl = r.config.recentMessageTtlMs.toNat ∧
      Tracks r.trackers.recent ((mailings events).map Mailing.deed) now := by
  refine History.holds (fun events c t now => t.ttl = c.recentMessageTtlMs.toNat ∧
    Tracks t ((mailings events).map Mailing.deed) now) (fun _ => ⟨rfl, Tracks.new _⟩)
    (fun later => And.imp_right (Tracks.wait · later)) ?_ history ordered
  rintro events _ r r' ⟨ttl, tracks⟩ change
  cases change with
  | mailed relayed time noted =>
    rw [noted, (noted_of_relay relayed).1]
    exact ⟨(ttl_sweepIfDue _ time).trans ttl, tracks.sweepIfDue.write _ _⟩
  | swept time config recent =>
    rw [recent, config]
    exact ⟨ttl, tracks.swept⟩

/-- At any time of a relay's life, what it knows of recent messages is the last one that it relayed
to each chat under each id, unless that was too long ago. -/
theorem Course.knows_last {r : Relay ω} (course : Course host r) :
    ∃ events, MailHistory host events r ∧
      ∀ now, (now :: events.map MailEvent.time).Pairwise (· ≥ ·) → ∀ chat id,
        r.trackers.recent.message? chat id now =
          ((Mailing.last? ⟨chat.withoutDevice, id⟩ (mailings events)).filter fun last =>
            now < last.time + r.config.recentMessageTtlMs.toNat).map Mailing.message := by
  obtain ⟨events, history⟩ : ∃ events, MailHistory host events r :=
    course.history (continues_mail host)
  refine ⟨events, history, fun now ordered chat id => ?_⟩
  obtain ⟨ttl, tracks⟩ := history.tracks ordered
  rw [RecentMessages.message?, tracks.get?, ttl, Mailing.valueAt_deeds]

end Relay

/-- A stanza answers a receipt: it bears the id of the message, goes to the asking device alone, and
holds one ciphertext, in which the device reads its copy. -/
structure Node.Answers (n : Node) (receipt : RetryReceipt) (copy : Message) : Prop where
  id : n.attr? "id" = some receipt.messageId
  addressee : n.attr? "to" = some receipt.requester.encode
  alone : n.attr? "device_fanout" = some "false"
  single : ∃ enc, n.findAll "enc" = [enc] ∧ n.childrenTagged "enc" = [enc] ∧
    enc.attr? "count" = some (max receipt.retryCount.toNat 1).repr
  reads : n.Reads copy

/-- A stanza for one device has its ciphertext as a child, and no other one anywhere. -/
theorem Stanza.Draft.enc_of_direct {d : Stanza.Draft} {c : DeviceCiphertext}
    {mediaType : Option String} {count : Option UInt32} (identity : List UInt8)
    (parts : d.parts = [.direct c mediaType count]) :
    (d.build identity).findAll "enc" = [encNode c.envelope mediaType count] ∧
      (d.build identity).childrenTagged "enc" = [encNode c.envelope mediaType count] := by
  refine ⟨?_, ?_⟩
  · rw [findAll_build, parts]
    simp [Part.node?, findAll_encNode]
  · have other : ((Node.named "device-identity").withBytes identity).tag ≠ "enc" := by
      simp [Node.withBytes, Node.withContent, Node.named, Node.tag]
    rw [Node.childrenTagged, children_build, parts, List.filter_append]
    split <;> simp [Part.node?, tag_encNode, other]

namespace Outgoing

variable {o : Outgoing} {participant : Jid}

theorem ownAttrs_of_participant (one : o.participant = some participant)
    (keyless : o.kind.usesSenderKey = false) (credentials : Credentials) :
    ("id", o.messageId) ∈ o.ownAttrs credentials ∧
      ("to", participant.encode) ∈ o.ownAttrs credentials ∧
      ("device_fanout", "false") ∈ o.ownAttrs credentials := by
  simp [ownAttrs, participantAttrs, addressee, one, keyless]

end Outgoing

namespace RetryReceipt

/-- The message of a receipt as it goes out again. -/
def outgoing (receipt : RetryReceipt) (message : Message) : Outgoing :=
  ⟨receipt.remoteJid.withoutDevice, message, receipt.messageId, receipt.options⟩

variable {receipt : RetryReceipt} {message : Message}

/-- The ciphertext shows the count of the receipt, and one for none. -/
theorem count_outgoing : ((receipt.outgoing message).count.map fun count => count.toNat.repr) =
    some (max receipt.retryCount.toNat 1).repr := by
  have shown : (receipt.outgoing message).options.retryCount =
      if receipt.retryCount = 0 then 1 else receipt.retryCount := rfl
  rw [Outgoing.count, shown]
  by_cases none : receipt.retryCount = 0
  · simp [none]
  · have pos : 0 < receipt.retryCount.toNat := by
      rw [Nat.pos_iff_ne_zero]
      exact fun zero => none (UInt32.toNat.inj zero)
    have pos' : 0 < receipt.retryCount := pos
    rw [if_neg none, if_pos pos', Nat.max_eq_left pos]
    rfl

end RetryReceipt

/-- What is prepared for the device of a receipt answers the receipt. -/
theorem RetryReceipt.answers_of_prepare {noise : ω → Nat × ω}
    (hc : host.cipher = Loopback.cipher noise) {receipt : RetryReceipt} {message : Message}
    (kind : DestinationKind.classify receipt.remoteJid = .individual ∨
      DestinationKind.classify receipt.remoteJid = .lid)
    (plain : message.hasLocation = false) (shallow : message.toJson.depth ≤ 126)
    {credentials : Credentials} {d d' : Directories (Recorded ω)} {prepared : Prepared}
    (h : (receipt.outgoing message).prepare host.recording credentials d = .ok prepared d') :
    prepared.node.Answers receipt
      (Preparation.copyFor credentials (receipt.outgoing message) receipt.requester) := by
  have kind' : (receipt.outgoing message).kind = .individual ∨
      (receipt.outgoing message).kind = .lid := kind
  have one : (receipt.outgoing message).participant = some receipt.requester := rfl
  have keyless : (receipt.outgoing message).kind.usesSenderKey = false := by
    rcases kind' with kind | kind <;> rw [kind] <;> rfl
  rw [Outgoing.prepare_of_pairwise kind'] at h
  obtain ⟨_, ciphertexts, _, encrypted, node⟩ := Preparation.pairwise_single one h
  obtain ⟨count, pos, le, wrote⟩ := Preparation.encryptAll_eq_ok encrypted
  obtain ⟨c, rfl, jid⟩ := List.map_eq_singleton_iff.mp wrote.jids
  have parts : (((receipt.outgoing message).header credentials).withPart
      (Preparation.pairwisePart (receipt.outgoing message) [c])).parts =
      [.direct c message.mediaType (receipt.outgoing message).count] := by
    rw [Stanza.Draft.withPart, Outgoing.parts_header]
    rfl
  obtain ⟨all, children⟩ := Stanza.Draft.enc_of_direct credentials.signedDeviceIdentity parts
  have has := Outgoing.hasOver_build (receipt.outgoing message) credentials
    (Preparation.pairwisePart (receipt.outgoing message) [c]) credentials.signedDeviceIdentity
  rw [← node] at all children has
  obtain ⟨id, addressee, alone⟩ := Outgoing.ownAttrs_of_participant one keyless credentials
  have holds := (wrote.envelopes c (List.mem_singleton_self c)).2.holds hc
  have decoded := Preparation.decode_copyFor credentials receipt.requester plain shallow pos le
    (o := receipt.outgoing message)
  exact {
    id := has.attr?_own id
    addressee := has.attr?_own addressee
    alone := has.attr?_own alone
    single := ⟨_, all, children, (Stanza.attr?_encNode_count _ _ _).trans count_outgoing⟩
    reads := Stanza.reads_encNode children holds decoded }

namespace Relay

/-- A receipt that is answered has one stanza sent, which goes to the device that asks: the message
that was relayed to the chat last under that id, not too long ago, or the copy of it for a device of
our own. -/
theorem receipt_answered_with_last {noise : ω → Nat × ω} (hc : host.cipher = Loopback.cipher noise)
    {events : List MailEvent} {r r' : Relay (Recorded ω)}
    (history : MailHistory host.recording events r)
    (ordered : ((host.recording.clock r.world.host).1 :: events.map MailEvent.time).Pairwise (· ≥ ·))
    (legible : ∀ m ∈ mailings events, m.message.hasLocation = false ∧ m.message.toJson.depth ≤ 126)
    {receipt : RetryReceipt}
    (kind : DestinationKind.classify receipt.remoteJid = .individual ∨
      DestinationKind.classify receipt.remoteJid = .lid)
    (h : handleRetryReceipt host.recording receipt r = .ok true r') :
    ∃ last n, Mailing.last? ⟨receipt.remoteJid.withoutDevice, receipt.messageId⟩
        (mailings events) = some last ∧
      (host.recording.clock r.world.host).1 < last.time + r.config.recentMessageTtlMs.toNat ∧
      r'.handed = r.handed ++ [⟨n, true⟩] ∧
      n.Answers receipt (if r.credentials.isMe receipt.requester then
        .deviceSent receipt.remoteJid.withoutDevice last.message else last.message) := by
  have hh := host.recording_keeps
  obtain ⟨_, message, found, w, id, kept, ensured, relayed⟩ := handleRetryReceipt_calls h
  obtain ⟨ttl, tracks⟩ := history.tracks ordered
  rw [RecentMessages.message?, tracks.get?, ttl, Mailing.valueAt_deeds] at kept
  obtain ⟨last, lasting, rfl⟩ := Option.map_eq_some_iff.mp kept
  obtain ⟨is_last, lasts⟩ := Option.filter_eq_some_iff.mp lasting
  have lasts := of_decide_eq_true lasts
  obtain ⟨plain, shallow⟩ := legible last (List.mem_of_find?_eq_some is_last)
  obtain ⟨r₁, prepared, d, r₂, hid, hp, ht, rfl⟩ := relay_eq_ok relayed
  have unsent : ((counted host.recording receipt r).withWorld w).handed = r.handed :=
    ((Sessions.ensure_keeps hh _ _).of_ok ensured).host
  have handed := handed_of_taken (prepares_of_ok hh hid hp) ht receipt.remoteJid.withoutDevice id
    last.message prepared.informed
  cases hid
  exact ⟨last, prepared.node, is_last, lasts, unsent ▸ handed,
    RetryReceipt.answers_of_prepare hc kind plain shallow hp⟩

/-- Our friend could not read a message and is sent it again. -/
theorem greeting_sent_again : ∃ (r r₁ r₂ : Relay (Recorded Stage)) (w : World (Recorded Stage))
    (n : Node),
    create Stage.smooth.recording {} ⟨Stage.own, none, []⟩ ⟨∅, Stage.opening, []⟩ = .ok r w ∧
      relay Stage.smooth.recording Stage.friend (.text "hi") { messageId := some "1" } r =
        .ok "1" r₁ ∧
      handleRetryReceipt Stage.smooth.recording friendReceipt r₁ = .ok true r₂ ∧
      r₂.handed = r₁.handed ++ [⟨n, true⟩] ∧ n.Answers friendReceipt (.text "hi") := by
  let host := Stage.smooth.recording
  obtain ⟨r, w, created, sent⟩ : ∃ r w, create host {} ⟨Stage.own, none, []⟩
      ⟨∅, Stage.opening, []⟩ = .ok r w ∧ (decide (r.trackers.recent.ttl = 86400000) &&
        (relay host Stage.friend (.text "hi") { messageId := some "1" }).yields r (fun id r₁ =>
          decide (id = "1") && decide ((host.clock r₁.world.host).1 = 0) &&
          decide ((r₁.trackers.recent.entries.find? ⟨Stage.friend, "1"⟩).map (·.2) =
            some 86400000) && !r₁.credentials.isMe Stage.friend &&
          (handleRetryReceipt host friendReceipt).yields r₁ fun again _ => again)) = true :=
    Act.yields_iff.mp (by decide +kernel)
  obtain ⟨ttl, sent⟩ := Bool.and_eq_true_iff.mp sent
  obtain ⟨_, r₁, sent, passed⟩ := Act.yields_iff.mp sent
  simp only [Bool.and_eq_true, decide_eq_true_eq, Bool.not_eq_true'] at ttl passed
  obtain ⟨⟨⟨⟨rfl, clock⟩, expiry⟩, foreign⟩, again⟩ := passed
  obtain ⟨_, r₂, again, rfl⟩ := Act.yields_iff.mp again
  obtain ⟨_, now, noted⟩ := noted_of_relay sent
  -- the time of the note is read off the entry
  have entry : r₁.trackers.recent.entries.find? ⟨Stage.friend, "1"⟩ =
      some (.text "hi", now + r.trackers.recent.ttl) := by
    rw [noted]
    exact r.trackers.find?_recent_note Stage.friend "1" (.text "hi") now
  rw [entry, ttl, Option.map_some, Option.some.injEq] at expiry
  obtain rfl : now = 0 := by omega
  have history : MailHistory host [.mailed ⟨Stage.friend, "1", .text "hi", 0⟩] r₁ :=
    (History.created created).changed (.mailed sent 0 noted)
  have cipher : Stage.smooth.cipher = Loopback.cipher Stage.nextNoise := rfl
  obtain ⟨last, n, is_last, _, handed, answers⟩ := receipt_answered_with_last cipher history
    (List.pairwise_pair.mpr (Nat.zero_le _)) (fun m mem => by
      obtain rfl := List.mem_singleton.mp mem
      exact ⟨rfl, by decide⟩) (.inl rfl) again
  obtain rfl := Option.some.inj is_last
  have other : r₁.credentials.isMe friendReceipt.requester = false := foreign
  rw [other, if_neg Bool.false_ne_true] at answers
  exact ⟨r, r₁, r₂, w, n, created, sent, again, handed, answers⟩

end Relay

end Fanout
