import Fanout.Proofs.Credentials
import Fanout.Proofs.Devices.Directory
import Fanout.Proofs.Relay.Atomicity
import Fanout.Proofs.Relay.Encryption

namespace Fanout

variable {ω : Type} {host : Host ω}

namespace Preparation

theorem mem_distinct {target : Jid} {jids : List Jid} : target ∈ distinct jids ↔ target ∈ jids := by
  induction jids with
  | nil => rfl
  | cons jid jids ih =>
    rw [distinct, List.mem_cons, List.mem_cons, List.mem_filter, ih]
    by_cases h : target = jid <;> simp [h]

theorem nodup_distinct (jids : List Jid) : (distinct jids).Nodup := by
  induction jids with
  | nil => exact List.nodup_nil
  | cons jid jids ih =>
    rw [distinct, List.nodup_cons]
    exact ⟨by simp, ih.filter _⟩

variable {credentials : Credentials} {o : Outgoing} {d d' : Directories ω} {targets : List Jid}

/-- A look-up that leaves out primary devices lists linked ones only. -/
theorem deviceId_of_linked {jids linked : List Jid} {useCache : Bool} {s t : Held DeviceCache ω}
    {entries : List DeviceEntry}
    (listed : DeviceDirectory.resolve host credentials jids useCache true s = .ok entries t)
    (named : entries.mapM DeviceEntry.toJid = .ok linked) {jid : Jid} (hj : jid ∈ linked) :
    jid.deviceId ≠ 0 := by
  rw [filterMap_of_mapM_eq_ok named] at hj
  obtain ⟨e, mem, same⟩ := List.mem_filterMap.mp hj
  obtain ⟨lists, _, rfl⟩ := DeviceDirectory.resolve_eq_ok listed
  have kept := DeviceDirectory.keep_eq_true.mp (of_decide_eq_true (List.mem_filter.mp mem).2)
  rw [DeviceEntry.deviceId_of_toJid (toOption_eq_some.mp same)]
  exact fun zero => kept.1 ⟨rfl, zero⟩

/-- The addresses that a stanza for an account is made for, given its linked devices. -/
theorem pairwiseTargets_eq_ok (hd : o.destination.device = none) (hp : o.participant = none)
    (h : pairwiseTargets host credentials o d = .ok targets d') :
    ∃ entries t linked, DeviceDirectory.resolve host credentials
        [(credentials.identityFor o.destination).withoutDevice, o.destination]
        o.options.useUserDevicesCache true ⟨d.devices, d.world⟩ = .ok entries t ∧
      entries.mapM DeviceEntry.toJid = .ok linked ∧
      targets.Nodup ∧ ∀ target, target ∈ targets ↔
        (target = o.destination ∨ target = (credentials.identityFor o.destination).withoutDevice ∨
          target ∈ linked) ∧ credentials.isOwnDevice target = false := by
  simp only [pairwiseTargets, hp] at h
  obtain ⟨linked, _, hl, h⟩ := Act.bind_eq_ok.mp h
  cases h
  obtain ⟨entries, t, listed, named⟩ := resolve_eq_ok hl
  refine ⟨entries, t, linked, listed, named, nodup_distinct _, fun target => ?_⟩
  rw [mem_distinct, List.mem_filter, List.mem_append]
  have primaries : target ∈ (if o.destination.isSameUser
      (credentials.identityFor o.destination).withoutDevice then [o.destination]
        else [o.destination, (credentials.identityFor o.destination).withoutDevice]) ↔
      target = o.destination ∨
        target = (credentials.identityFor o.destination).withoutDevice := by
    split
    next same =>
      have one : o.destination = (credentials.identityFor o.destination).withoutDevice := by
        obtain ⟨user, server⟩ := of_decide_eq_true same
        exact Jid.ext' user server hd
      simp [← one]
    next => simp
  rw [primaries]
  simp [or_assoc]

variable {prepared : Prepared}

/-- The calls that a fan-out to an account is made of, one after another. -/
theorem pairwise_eq_ok (h : pairwise host credentials o d = .ok prepared d') :
    ∃ targets d₁ d₂ own d₃ foreign, pairwiseTargets host credentials o d = .ok targets d₁ ∧
      ensureSessions host targets d₁ = .ok () d₂ ∧
      encryptAll host (.deviceSent o.destination o.message) (targets.filter credentials.isMe) d₂ =
        .ok own d₃ ∧
      encryptAll host o.message (targets.filter (not ∘ credentials.isMe)) d₃ = .ok foreign d' ∧
      prepared.node = ((o.header credentials).withPart (pairwisePart o (own ++ foreign))).build
        credentials.signedDeviceIdentity := by
  simp only [pairwise, List.partition_eq_filter_filter] at h
  obtain ⟨targets, d₁, ht, h⟩ := Act.bind_eq_ok.mp h
  obtain ⟨_, d₂, he, h⟩ := Act.bind_eq_ok.mp h
  obtain ⟨own, d₃, ho, h⟩ := Act.bind_eq_ok.mp h
  obtain ⟨foreign, d₄, hf, h⟩ := Act.bind_eq_ok.mp h
  cases h
  exact ⟨targets, d₁, d₂, own, d₃, foreign, ht, he, ho, hf, rfl⟩

/-- What a device is written: one of our own the copy of a sent message. -/
def copyFor (credentials : Credentials) (o : Outgoing) (jid : Jid) : Message :=
  if credentials.isMe jid then .deviceSent o.destination o.message else o.message

/-- The copy of a sent message is one container deeper than the message. -/
theorem decode_deviceSent (destination : Jid) {m : Message} (plain : m.hasLocation = false)
    (shallow : m.toJson.depth ≤ 126) {count : Nat} (pos : 0 < count) (le : count ≤ 16) :
    Message.decode ((Message.deviceSent destination m).encode count) =
      .ok (.deviceSent destination m) := by
  have wrapped : (Message.deviceSent destination m).toJson.depth ≤ Json.deepest := by
    simp [Message.toJson, Message.tagged, Json.ofMembers, Json.depth, Json.depthMembers,
      Jid.toJson, Json.ofString, Json.deepest]
    omega
  have placeless : (Message.deviceSent destination m).hasLocation = false := plain
  exact Message.decode_encode placeless wrapped pos (by omega)

theorem decode_copyFor (credentials : Credentials) (jid : Jid)
    (plain : o.message.hasLocation = false) (shallow : o.message.toJson.depth ≤ 126) {count : Nat}
    (pos : 0 < count) (le : count ≤ 16) :
    Message.decode ((copyFor credentials o jid).encode count) = .ok (copyFor credentials o jid) := by
  unfold copyFor
  split
  · exact decode_deviceSent o.destination plain shallow pos le
  · exact Message.decode_encode plain (by simp [Json.deepest]; omega) pos (by omega)

/-- Whether a device is ours or not, nothing is written for the other side. -/
theorem pairwise_single {jid : Jid} (one : o.participant = some jid)
    (h : pairwise host credentials o d = .ok prepared d') :
    ∃ d₁ ciphertexts, ensureSessions host [jid] d = .ok () d₁ ∧
      encryptAll host (copyFor credentials o jid) [jid] d₁ = .ok ciphertexts d' ∧
      prepared.node = ((o.header credentials).withPart (pairwisePart o ciphertexts)).build
        credentials.signedDeviceIdentity := by
  obtain ⟨targets, d₁, d₂, own, d₃, foreign, ht, ensured, ho, hf, node⟩ := pairwise_eq_ok h
  simp only [pairwiseTargets, one] at ht
  cases ht
  unfold copyFor
  cases mine : credentials.isMe jid with
  | true =>
    rw [List.filter_cons_of_pos mine] at ho
    rw [List.filter_cons_of_neg (by simp [mine])] at hf
    cases hf
    exact ⟨d₂, own, ensured, ho, List.append_nil own ▸ node⟩
  | false =>
    rw [List.filter_cons_of_neg (by simp [mine])] at ho
    rw [List.filter_cons_of_pos (by simp [mine])] at hf
    cases ho
    exact ⟨d₂, foreign, ensured, hf, node⟩

/-- A stanza lists devices of accounts, and each of them reads what is meant for it. -/
structure Addresses (credentials : Credentials) (o : Outgoing) (listed : List Jid) (n : Node) :
    Prop where
  jids : n.recipients.map (·.attr? "jid") = listed.map fun jid => some jid.encode
  reads : ∀ recipient ∈ n.recipients, ∃ jid ∈ listed, recipient.attr? "jid" = some jid.encode ∧
    recipient.Reads
      (if credentials.Owns jid then .deviceSent o.destination o.message else o.message)

/-- Ciphertexts of one message for devices that are ours, or that are not. -/
theorem encryptAll_reads {mine : Bool} {m : Message} {bytes : List UInt8} {jids : List Jid}
    {ciphertexts : List DeviceCiphertext} (hw : Wrote host bytes jids ciphertexts)
    (hc : ∀ envelope, host.Wrote bytes envelope → Loopback.Holds envelope bytes)
    (hm : Message.decode bytes = .ok m) (hj : ∀ jid ∈ jids, credentials.isMe jid = mine)
    (mediaType : Option String) (count : Option UInt32) {c : DeviceCiphertext}
    (h : c ∈ ciphertexts) :
    credentials.isMe c.jid = mine ∧ (Stanza.toNode mediaType count c).Reads m := by
  have listed : c.jid ∈ jids := by
    rw [← hw.jids]
    exact List.mem_map_of_mem h
  exact ⟨hj _ listed, Stanza.reads_toNode (hc _ (hw.envelopes c h).2) hm _ _⟩

theorem recipients_pairwise (credentials : Credentials) (hp : o.participant = none)
    (ciphertexts : List DeviceCiphertext) (identity : List UInt8) :
    (((o.header credentials).withPart (pairwisePart o ciphertexts)).build identity).recipients =
      ciphertexts.map (Stanza.toNode o.message.mediaType o.count) := by
  have parts : ((o.header credentials).withPart (pairwisePart o ciphertexts)).parts =
      [.participants ciphertexts o.message.mediaType o.count] := by
    simp [Stanza.Draft.withPart, o.parts_header credentials, pairwisePart, hp]
  exact Stanza.Draft.recipients_build identity parts (by simp)

theorem addresses_of_pairwise {noise : ω → Nat × ω} (hc : host.cipher = Loopback.cipher noise)
    (hd : o.destination.device = none) (hp : o.participant = none)
    (plain : o.message.hasLocation = false) (shallow : o.message.toJson.depth ≤ 126)
    {d d' : Directories (Recorded ω)}
    (h : pairwise host.recording credentials o d = .ok prepared d') :
    ∃ entries t linked listed, DeviceDirectory.resolve host.recording credentials
        [(credentials.identityFor o.destination).withoutDevice, o.destination]
        o.options.useUserDevicesCache true ⟨d.devices, d.world⟩ = .ok entries t ∧
      entries.mapM DeviceEntry.toJid = .ok linked ∧
      Addresses credentials o listed prepared.node ∧ listed.Nodup ∧ ∀ target, target ∈ listed ↔
        (target = o.destination ∨ target = (credentials.identityFor o.destination).withoutDevice ∨
          target ∈ linked) ∧ credentials.isOwnDevice target = false := by
  obtain ⟨targets, d₁, d₂, own, d₃, foreign, ht, _, ho, hf, node⟩ := pairwise_eq_ok h
  obtain ⟨entries, t, linked, resolved, named, nodup, mem⟩ := pairwiseTargets_eq_ok hd hp ht
  obtain ⟨count, pos, le, wrote⟩ := encryptAll_eq_ok ho
  obtain ⟨count', pos', le', wrote'⟩ := encryptAll_eq_ok hf
  have mine := decode_deviceSent o.destination plain shallow pos le
  have theirs := Message.decode_encode plain (by simp [Json.deepest]; omega) pos' (by omega)
  -- our own devices come first, so the order is not that of the targets
  have split : (targets.filter credentials.isMe ++ targets.filter (not ∘ credentials.isMe)).Perm
      targets := List.filter_append_perm _ _
  have recipients := recipients_pairwise credentials hp (own ++ foreign)
    credentials.signedDeviceIdentity
  rw [← node] at recipients
  refine ⟨entries, t, linked, _, resolved, named, ⟨?_, fun recipient hr => ?_⟩,
    split.nodup_iff.mpr nodup, fun target => split.mem_iff.trans (mem target)⟩
  · rw [recipients, ← wrote.jids, ← wrote'.jids]
    simp [Function.comp_def, Stanza.attr?_toNode]
  · rw [recipients] at hr
    obtain ⟨c, hmem, rfl⟩ := List.mem_map.mp hr
    refine ⟨c.jid, ?_, Stanza.attr?_toNode _ _ c, ?_⟩
    · rw [← wrote.jids, ← wrote'.jids, ← List.map_append]
      exact List.mem_map_of_mem hmem
    · rcases List.mem_append.mp hmem with own | foreign
      · obtain ⟨is_mine, reads⟩ := encryptAll_reads wrote (fun _ => Host.Wrote.holds hc) mine
          (fun _ h => (List.mem_filter.mp h).2) o.message.mediaType o.count own
        rwa [if_pos (Credentials.isMe_iff.mp is_mine)]
      · obtain ⟨not_mine, reads⟩ := encryptAll_reads wrote' (fun _ => Host.Wrote.holds hc) theirs
          (fun _ h => by simpa using (List.mem_filter.mp h).2) o.message.mediaType o.count foreign
        rwa [if_neg fun owned => by simp [Credentials.isMe_iff.mpr owned] at not_mine]

end Preparation

namespace Relay

/-- A relay to an account makes its stanza for the primary devices of both sides and all the linked
ones that are found for them, but for this device; our own devices read the copy of a sent
message. -/
theorem relay_addresses_all {noise : ω → Nat × ω} (hc : host.cipher = Loopback.cipher noise)
    {jid : Jid} {message : Message} {options : RelayOptions} {r r' : Relay (Recorded ω)}
    {id : String}
    (kind : DestinationKind.classify jid = .individual ∨ DestinationKind.classify jid = .lid)
    (all : options.participant = none) (plain : message.hasLocation = false)
    (shallow : message.toJson.depth ≤ 126)
    (h : relay host.recording jid message options r = .ok id r') :
    ∃ (r₁ : Relay (Recorded ω)) (entries : List DeviceEntry)
      (t : Held DeviceCache (Recorded ω)) (linked listed : List Jid) (n : Node),
      let o : Outgoing := ⟨jid.withoutDevice, message, id, options⟩
      let me := (if jid.server = .lid then r.credentials.meLid.getD r.credentials.me
        else r.credentials.me).withoutDevice
      chooseId host.recording r.credentials options r = .ok id r₁ ∧
      DeviceDirectory.resolve host.recording r.credentials [me, jid.withoutDevice]
        options.useUserDevicesCache true ⟨r₁.directories.devices, r₁.world⟩ = .ok entries t ∧
      entries.mapM DeviceEntry.toJid = .ok linked ∧
      (∀ device ∈ linked, device.deviceId ≠ 0) ∧
      r'.handed = r.handed ++ [⟨n, true⟩] ∧
      Preparation.Addresses r.credentials o listed n ∧ listed.Nodup ∧
      ∀ target, target ∈ listed ↔
        (target = jid.withoutDevice ∨ target = me ∨ target ∈ linked) ∧
          ¬r.credentials.IsHere target := by
  have hh := host.recording_keeps
  obtain ⟨r₁, prepared, d, r₂, hid, hp, ht, rfl⟩ := relay_eq_ok h
  have made := prepares_of_ok hh hid hp
  rw [Outgoing.prepare_of_pairwise (o := ⟨jid.withoutDevice, message, id, options⟩) kind] at hp
  obtain ⟨entries, t, linked, listed, resolved, named, addresses, nodup, mem⟩ :=
    Preparation.addresses_of_pairwise (o := ⟨jid.withoutDevice, message, id, options⟩) hc rfl all
      plain shallow hp
  have handed := handed_of_taken made ht jid.withoutDevice id message prepared.informed
  have identity : r.credentials.identityFor jid.withoutDevice =
      if jid.server = .lid then r.credentials.meLid.getD r.credentials.me else r.credentials.me :=
    r.credentials.identityFor_eq jid.withoutDevice
  rw [identity] at resolved mem
  refine ⟨r₁, entries, t, linked, listed, prepared.node, hid, resolved, named,
    fun _ => Preparation.deviceId_of_linked resolved named, handed, addresses, nodup,
    fun target => ?_⟩
  rw [mem target, ← Credentials.isOwnDevice_iff, Bool.not_eq_true]

theorem relay_addresses_friend : ∃ r' n listed, relay Stage.smooth.recording Stage.friend
      (.text "hi") { messageId := some "1" }
      (atOpening ⟨Stage.ownLinked, none, []⟩) = .ok "1" r' ∧
    r'.handed = [⟨n, true⟩] ∧
    Preparation.Addresses ⟨Stage.ownLinked, none, []⟩ (.hello Stage.friend "1") listed n ∧
    n.recipients.map (·.attr? "jid") =
      [some "3@s.whatsapp.net", some "2@s.whatsapp.net", some "2:7@s.whatsapp.net"] ∧
    Stage.friend ∈ listed ∧ Stage.own ∈ listed ∧ Stage.ownLinked ∉ listed := by
  obtain ⟨_, r', h, seen⟩ := Act.yields_iff.mp (by decide +kernel : (relay Stage.smooth.recording
    Stage.friend (.text "hi") { messageId := some "1" }).yields
      (atOpening ⟨Stage.ownLinked, none, []⟩) (fun id r' => id = "1" &&
        r'.handed.map (·.stanza.recipients.map (·.attr? "jid")) =
          [[some "3@s.whatsapp.net", some "2@s.whatsapp.net", some "2:7@s.whatsapp.net"]]) = true)
  simp only [Bool.and_eq_true, decide_eq_true_eq] at seen
  obtain ⟨rfl, shown⟩ := seen
  have cipher : Stage.smooth.cipher = Loopback.cipher Stage.nextNoise := rfl
  obtain ⟨_, _, _, linked, listed, n, _, _, _, _, handed, addresses, _, mem⟩ :=
    relay_addresses_all cipher (.inl rfl) rfl rfl (by decide) h
  have jids : n.recipients.map (·.attr? "jid") =
      [some "3@s.whatsapp.net", some "2@s.whatsapp.net", some "2:7@s.whatsapp.net"] := by
    rw [handed] at shown
    exact List.singleton_inj.mp shown
  exact ⟨r', n, listed, h, handed, addresses, jids, (mem _).mpr ⟨.inl rfl, by decide⟩,
    (mem _).mpr ⟨.inr (.inl rfl), by decide⟩, fun own => ((mem _).mp own).2 (by decide)⟩

end Relay

end Fanout
