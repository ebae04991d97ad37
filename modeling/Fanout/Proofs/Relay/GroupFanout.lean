import Fanout.Proofs.Relay.Atomicity
import Fanout.Proofs.Relay.Encryption
import Fanout.Proofs.Text.Base64

namespace Fanout

variable {ω : Type} {host : Host ω}

namespace Directories

/-- Actions on the world leave the flags that are remembered as they are. -/
def SameMemory (d d' : Directories ω) : Prop := d'.memory = d.memory

instance : IsPreorder (Directories ω) SameMemory where
  refl _ := rfl
  trans _ _ _ h h' := Eq.trans h' h

theorem SameMemory.inWorld : KeptInWorld host (fun _ _ => True) SameMemory where
  keeps := host.keeps_true
  world _ d := by
    rw [Directories.inWorld, Act.after_zoom]
    rfl

end Directories

namespace Preparation

variable {credentials : Credentials} {o : Outgoing} {d d' : Directories ω} {f : GroupFanout}

/-- The calls that a fan-out to a group is made of, one after another. -/
theorem gather_eq_ok (h : gather host credentials o d = .ok f d') :
    ∃ jids d₁ d₂ bytes d₃ d₄ d₅, members host credentials o d = .ok (jids, f.mode) d₁ ∧
      groupTargets host credentials o jids d₁ = .ok f.targets d₂ ∧
      plaintext host o.message d₂ = .ok bytes d₃ ∧ f.sender = senderAmong credentials f.mode ∧
      Directories.inWorld (Repository.encryptGroup host o.destination f.sender bytes) d₃ =
        .ok f.encrypted d₄ ∧
      uninformed host o f.targets d₄ = .ok f.informed d₅ ∧
      distribute host o.destination f.encrypted.distribution f.informed d₅ =
        .ok f.ciphertexts d' := by
  obtain ⟨⟨jids, mode⟩, d₁, hm, h⟩ := Act.bind_eq_ok.mp h
  obtain ⟨targets, d₂, ht, h⟩ := Act.bind_eq_ok.mp h
  obtain ⟨bytes, d₃, hb, h⟩ := Act.bind_eq_ok.mp h
  obtain ⟨encrypted, d₄, he, h⟩ := Act.bind_eq_ok.mp h
  obtain ⟨informed, d₅, hi, h⟩ := Act.bind_eq_ok.mp h
  obtain ⟨ciphertexts, d₆, hc, h⟩ := Act.bind_eq_ok.mp h
  cases h
  exact ⟨jids, d₁, d₂, bytes, d₃, d₄, d₅, hm, ht, hb, rfl, he, hi, hc⟩

theorem gather_of_participant {participant : Jid} (hp : o.participant = some participant)
    (h : gather host credentials o d = .ok f d') :
    f.targets = [participant] ∧ f.informed = [participant] := by
  obtain ⟨jids, d₁, d₂, bytes, d₃, d₄, d₅, _, ht, _, _, _, hi, _⟩ := gather_eq_ok h
  simp only [groupTargets, uninformed, hp] at ht hi
  have targets := (EStateM.Result.ok.inj ht).1
  have informed := (EStateM.Result.ok.inj hi).1
  exact ⟨targets.symm, informed.symm.trans targets.symm⟩

theorem gather_informed (hp : o.participant = none)
    (h : gather host credentials o d = .ok f d') :
    ∃ fs, SenderKeyMemory.snapshot? d.memory d.world.documents o.destination = some fs ∧
      f.informed = (f.targets.filter fun jid => !fs.holds jid) ∧
      d'.memory.find? o.destination = some fs := by
  obtain ⟨jids, d₁, d₂, bytes, d₃, d₄, d₅, hm, ht, hb, _, he, hi, hc⟩ := gather_eq_ok h
  have hk := Directories.Steady.inParts host.keeps_true
  have looked := trans_of (Directories.Steady fun _ _ => True)
    (trans_of _ ((members_keeps hk _ _).of_ok hm) ((groupTargets_keeps hk _ _ _).of_ok ht))
    (trans_of _ ((plaintext_keeps hk.toKeptInWorld _).of_ok hb) ((hk.world
      (Repository.encryptGroup_keeps hk.keeps (SessionStore.not_rest_senderKeyKey _) _)).of_ok he))
  simp only [uninformed, hp] at hi
  obtain ⟨s, missed, rfl⟩ := Act.zoom_eq_ok.mp hi
  obtain ⟨fs, before, found, informed⟩ := SenderKeyMemory.missing_eq_ok missed
  have same : d'.memory = s.own := (distribute_keeps Directories.SameMemory.inWorld _ _ _).of_ok hc
  exact ⟨fs, (looked.snapshot o.destination).symm.trans before, informed, same ▸ found⟩

/-- Whom a message for many goes to: the members of its group, as that is described, or else those
that a status post names, and our own account. -/
inductive Members (host : Host ω) (credentials : Credentials) (o : Outgoing) (d : Directories ω) :
    List Jid → Option AddressingMode → Directories ω → Prop
  | group {metadata : GroupMetadata} {t : Held GroupCache ω} (kind : o.kind = .group)
      (found : GroupDirectory.metadata host o.destination o.options.useCachedGroupMetadata
        ⟨d.groups, d.world⟩ = .ok metadata t) :
    Members host credentials o d (metadata.participants.map (·.jid)) (some metadata.addressingMode)
      { d with groups := t.own, world := t.world }
  | status (kind : o.kind ≠ .group) :
    Members host credentials o d (o.options.statusJidList ++ [credentials.me.withoutDevice]) none d

theorem members_of_eq_ok {jids : List Jid} {mode : Option AddressingMode}
    (h : members host credentials o d = .ok (jids, mode) d') :
    Members host credentials o d jids mode d' := by
  unfold members at h
  split at h
  next kind =>
    obtain ⟨metadata, u, looked, h⟩ := Act.bind_eq_ok.mp h
    obtain ⟨t, found, rfl⟩ := Act.zoom_eq_ok.mp looked
    cases h
    exact .group kind found
  next kind =>
    cases h
    exact .status kind

/-- What a fan-out to a group is made from: the devices of its members, and the message encrypted
once for all of them with our own sender key there. -/
structure MadeFor (host : Host ω) (credentials : Credentials) (o : Outgoing) (d : Directories ω)
    (f : GroupFanout) : Prop where
  targets : o.participant = none → ∃ jids d₁ entries t,
    Members host credentials o d jids f.mode d₁ ∧
      DeviceDirectory.resolve host credentials jids o.options.useUserDevicesCache false
        ⟨d₁.devices, d₁.world⟩ = .ok entries t ∧
      entries.mapM DeviceEntry.toJid = .ok f.targets
  encrypted : ∃ count w w', 0 < count ∧ count ≤ 16 ∧
    Repository.encryptGroup host o.destination (senderAmong credentials f.mode)
      (o.message.encode count) w = .ok f.encrypted w'

theorem madeFor_of_gather (h : gather host credentials o d = .ok f d') :
    MadeFor host credentials o d f := by
  obtain ⟨jids, d₁, d₂, bytes, d₃, d₄, d₅, hm, ht, hb, sender, he, _⟩ := gather_eq_ok h
  constructor
  · intro all
    simp only [groupTargets, all] at ht
    obtain ⟨entries, t, listed, named⟩ := resolve_eq_ok ht
    exact ⟨jids, d₁, entries, t, members_of_eq_ok hm, listed, named⟩
  · obtain ⟨count, pos, le, rfl⟩ := plaintext_eq_ok hb
    obtain ⟨w, encrypted, _⟩ := Act.zoom_eq_ok.mp he
    exact ⟨count, d₃.world, w, pos, le, sender ▸ encrypted⟩

/-- A stanza tells a sender key to some devices and to nobody else. -/
structure Tells (group : Jid) (distribution : List UInt8) (listed : List Jid) (n : Node) :
    Prop where
  jids : n.recipients.map (·.attr? "jid") = listed.map fun jid => some jid.encode
  absent : n.child? "participants" = none ↔ listed = []
  reads : ∀ recipient ∈ n.recipients, ∃ text,
    recipient.Reads (.senderKeyDistribution group text) ∧ Base64.decode? text = some distribution

/-- The ciphertexts of a stanza for a group as a whole. -/
def groupCiphertexts (n : Node) : List Node :=
  (n.findAll "enc").filter fun enc => enc.attr? "type" = some "skmsg"

theorem GroupFanout.parts_node (f : GroupFanout) (credentials : Credentials) (o : Outgoing) :
    ∃ draft : Stanza.Draft, f.node credentials o = draft.build credentials.signedDeviceIdentity ∧
      draft.parts = [.participants f.ciphertexts o.message.mediaType o.count,
        .group f.encrypted.ciphertext o.message.mediaType] := by
  have moded : ∀ mode d, (withMode mode d).parts = d.parts := by
    intro mode d
    cases mode <;> rfl
  refine ⟨_, rfl, ?_⟩
  rw [moded]
  simp [Stanza.Draft.withAttr, Stanza.Draft.withPart, o.parts_header credentials]

theorem group_part_tag {ciphertext : List UInt8} {mediaType : Option String} :
    ∀ part ∈ [Stanza.Part.group ciphertext mediaType], ∀ n, part.node? = some n →
      n.tag ≠ "participants" := by
  intro part hp n hn
  obtain rfl := List.mem_singleton.mp hp
  cases hn
  simp [Stanza.tag_encNode]

theorem recipients_node (f : GroupFanout) (credentials : Credentials) (o : Outgoing) :
    (f.node credentials o).recipients =
      f.ciphertexts.map (Stanza.toNode o.message.mediaType o.count) := by
  obtain ⟨draft, node, parts⟩ := f.parts_node credentials o
  rw [node]
  exact Stanza.Draft.recipients_build credentials.signedDeviceIdentity parts group_part_tag

theorem jids_node {plaintext : List UInt8} (hw : Wrote host plaintext f.informed f.ciphertexts) :
    (f.node credentials o).recipients.map (·.attr? "jid") =
      f.informed.map fun jid => some jid.encode := by
  rw [recipients_node, ← hw.jids]
  simp [Stanza.attr?_toNode]

theorem tells_node {plaintext : List UInt8} {text : String}
    (hw : Wrote host plaintext f.informed f.ciphertexts)
    (hc : ∀ envelope, host.Wrote plaintext envelope → Loopback.Holds envelope plaintext)
    (hm : Message.decode plaintext = .ok (.senderKeyDistribution o.destination text))
    (ht : Base64.decode? text = some f.encrypted.distribution) :
    Tells o.destination f.encrypted.distribution f.informed (f.node credentials o) := by
  obtain ⟨draft, node, parts⟩ := f.parts_node credentials o
  have participants := Stanza.Draft.child?_participants credentials.signedDeviceIdentity parts
    group_part_tag
  rw [← node] at participants
  refine ⟨jids_node hw, ?_, fun recipient hr => ?_⟩
  · have none_told : f.ciphertexts = [] ↔ f.informed = [] := by rw [← hw.jids, List.map_eq_nil_iff]
    rw [participants, ← none_told]
    split <;> simp_all
  · rw [recipients_node] at hr
    obtain ⟨c, hmem, rfl⟩ := List.mem_map.mp hr
    exact ⟨text, Stanza.reads_toNode (hc _ (hw.envelopes c hmem).2) hm _ _, ht⟩

theorem findAll_node : (f.node credentials o).findAll "enc" =
    f.ciphertexts.map (fun c => Stanza.encNode c.envelope o.message.mediaType o.count) ++
      [Stanza.encNode ⟨.skmsg, f.encrypted.ciphertext⟩ o.message.mediaType none] := by
  obtain ⟨draft, node, parts⟩ := f.parts_node credentials o
  rw [node, Stanza.Draft.findAll_build, parts]
  cases f.ciphertexts with
  | nil => exact (List.append_nil _).trans (Stanza.findAll_encNode _ _ _)
  | cons c cs =>
    simp [Stanza.Part.node?, Stanza.findAll_encNode, Stanza.findAll_participantsNode]

theorem groupCiphertexts_node {plaintext : List UInt8}
    (hw : Wrote host plaintext f.informed f.ciphertexts) :
    (groupCiphertexts (f.node credentials o)).map (·.bytes?) = [some f.encrypted.ciphertext] := by
  have between : ∀ enc ∈ f.ciphertexts.map fun c =>
      Stanza.encNode c.envelope o.message.mediaType o.count, enc.attr? "type" ≠ some "skmsg" := by
    intro enc he
    obtain ⟨c, hc, rfl⟩ := List.mem_map.mp he
    exact fun typed => (hw.envelopes c hc).1 ((Stanza.attr?_encNode_type_eq_skmsg _ _ _).mp typed)
  have none_between : (f.ciphertexts.map fun c => Stanza.encNode c.envelope o.message.mediaType
      o.count).filter (fun enc => enc.attr? "type" = some "skmsg") = [] := by
    rw [List.filter_eq_nil_iff]
    exact fun enc he typed => between enc he (of_decide_eq_true typed)
  rw [groupCiphertexts, findAll_node, List.filter_append, none_between]
  simp [Stanza.attr?_encNode_type_eq_skmsg, Stanza.bytes?_encNode]

end Preparation

namespace Relay

variable {r r' : Relay ω}

theorem snapshot?_conclude (destination : Jid) (id : String) (message : Message)
    (informed : List Jid) {fs : DeviceFlags}
    (hm : r.directories.memory.find? destination = some fs) :
    (conclude host destination id message informed r).snapshot? destination =
      some (if (host.refuses (.put (SenderKeyMemory.key destination)) r.world.host).1 = none then
        fs.markAll informed else fs) := by
  rw [conclude, inDirectories, Act.after_zoom, Directories.inMemory, Act.after_zoom]
  exact SenderKeyMemory.snapshot?_after_mark (s := ⟨r.directories.memory, r.world⟩) hm rfl

theorem snapshot?_conclude_of_ne (destination : Jid) (id : String) (message : Message)
    (informed : List Jid) {other : Jid} (ho : other ≠ destination) :
    (conclude host destination id message informed r).snapshot? other = r.snapshot? other := by
  have kept : (SenderKeyMemory.mark host destination informed).Keeps _ :=
    SenderKeyMemory.mark_keeps_others informed ho
  rw [conclude, inDirectories, Act.after_zoom, Directories.inMemory, Act.after_zoom]
  exact kept ⟨r.directories.memory, r.world⟩

theorem decode_distribution (group : Jid) (bytes : List UInt8) {count : Nat} (pos : 0 < count)
    (le : count ≤ 16) :
    Message.decode ((Message.senderKeyDistribution group (Base64.encode bytes)).encode count) =
      .ok (.senderKeyDistribution group (Base64.encode bytes)) := by
  have shallow : (Message.senderKeyDistribution group (Base64.encode bytes)).toJson.depth ≤
      Json.deepest := by
    simp [Message.toJson, Message.tagged, Json.ofMembers, Json.depth, Json.depthMembers,
      Jid.toJson, Json.ofString, Json.deepest]
  exact Message.decode_encode rfl shallow pos (by omega)

theorem tells_of_gather {noise : ω → Nat × ω} (hc : host.cipher = Loopback.cipher noise)
    {credentials : Credentials} {o : Outgoing} {d d' : Directories (Recorded ω)}
    {f : Preparation.GroupFanout}
    (h : Preparation.gather host.recording credentials o d = .ok f d') :
    Preparation.Tells o.destination f.encrypted.distribution f.informed (f.node credentials o) ∧
      (Preparation.groupCiphertexts (f.node credentials o)).map (·.bytes?) =
        [some f.encrypted.ciphertext] := by
  obtain ⟨_, _, _, _, _, _, _, _, _, _, _, _, _, told⟩ := Preparation.gather_eq_ok h
  obtain ⟨count, pos, le, wrote⟩ := Preparation.distribute_eq_ok told
  exact ⟨Preparation.tells_node wrote (fun _ => Host.Wrote.holds hc)
    (decode_distribution _ _ pos le) (Base64.decode?_encode _),
    Preparation.groupCiphertexts_node wrote⟩

/-- A relay to a group tells its sender key to the devices of the members that are not known to hold
it, or else to the one participant that it is for, and books them if the store takes the mark. -/
theorem relay_tells_uninformed {noise : ω → Nat × ω} (hc : host.cipher = Loopback.cipher noise)
    (jid : Jid) (message : Message) (options : RelayOptions) {r : Relay (Recorded ω)}
    (home : r.AtHome) :
    match relay host.recording jid message options r with
    | .ok id r' =>
      (DestinationKind.classify jid).usesSenderKey = true →
        ∃ (r₁ : Relay (Recorded ω)) (f : Preparation.GroupFanout) (d : Directories (Recorded ω))
          (r₂ : Relay (Recorded ω)),
          let o : Outgoing := ⟨jid.withoutDevice, message, id, options⟩
          let n := f.node r.credentials o
          chooseId host.recording r.credentials options r = .ok id r₁ ∧
          Preparation.gather host.recording r.credentials o r₁.directories = .ok f d ∧
          Preparation.MadeFor host.recording r.credentials o r₁.directories f ∧
          transmit host.recording n { r₁ with directories := d } = .ok () r₂ ∧
          r'.handed = r.handed ++ [⟨n, true⟩] ∧
          Preparation.Tells jid.withoutDevice f.encrypted.distribution f.informed n ∧
          (Preparation.groupCiphertexts n).map (·.bytes?) = [some f.encrypted.ciphertext] ∧
          (∀ participant, options.participant = some participant → f.informed = [participant]) ∧
          (options.participant = none → ∃ before, r.snapshot? jid.withoutDevice = some before ∧
            f.informed = (f.targets.filter fun device => !before.holds device) ∧
            r'.snapshot? jid.withoutDevice = some (
              if (host.recording.refuses (.put (SenderKeyMemory.key jid.withoutDevice))
                r₂.world.host).1 = none then before.markAll f.informed else before) ∧
            ∀ device, (before.markAll f.informed).holds device = true ↔
              before.holds device = true ∨ device ∈ f.informed) ∧
          ∀ other, other ≠ jid.withoutDevice → r'.snapshot? other = r.snapshot? other
    | .error _ r' => ∀ group, r'.snapshot? group = r.snapshot? group := by
  have hh := host.recording_keeps
  cases h : relay host.recording jid message options r with
  | ok id r' =>
    intro uses
    obtain ⟨r₁, prepared, d, r₂, hid, hp, ht, rfl⟩ := relay_eq_ok h
    have chosen := (chooseId_keeps hh _ _).of_ok hid
    have made := prepares_of_ok hh hid hp
    rw [Outgoing.prepare_of_usesSenderKey (o := ⟨jid.withoutDevice, message, id, options⟩) uses]
      at hp
    obtain ⟨f, _, hf, hp⟩ := Act.bind_eq_ok.mp hp
    cases hp
    have settles := (transmit_eq_ok ht).1
    obtain ⟨tells, whole⟩ := tells_of_gather hc hf
    refine ⟨r₁, f, d, r₂, hid, hf, Preparation.madeFor_of_gather hf, ht, ?_, tells, whole,
      fun p one => ?_, fun all => ?_, fun other ho => ?_⟩
    · exact handed_of_taken made ht jid.withoutDevice id message f.informed
    · exact (Preparation.gather_of_participant (by exact one) hf).2
    · obtain ⟨before, flags, informed, found⟩ := Preparation.gather_informed (by exact all) hf
      have found' : r₂.directories.memory.find? jid.withoutDevice = some before := by
        rw [settles.rest]
        exact found
      exact ⟨before, (chosen.snapshot?_eq _).symm.trans flags, informed,
        snapshot?_conclude _ _ _ _ found', before.holds_markAll f.informed⟩
    · rw [snapshot?_conclude_of_ne _ _ _ _ ho, settles.snapshot?_eq (home.of_prepares made) other,
        made.snapshot?_eq other]
  | error e r' => exact snapshot?_of_relay_error home h

theorem relay_tells_friend : ∃ (r₁ r' : Relay (Recorded Stage)) (f : Preparation.GroupFanout),
    relay Stage.smooth.recording Stage.chat (.text "hi") { messageId := some "1" }
      (atOpening ⟨Stage.own, none, []⟩) = .ok "1" r' ∧
    r'.handed = [⟨f.node ⟨Stage.own, none, []⟩ (.hello Stage.chat "1"), true⟩] ∧
    Preparation.MadeFor Stage.smooth.recording ⟨Stage.own, none, []⟩ (.hello Stage.chat "1")
      r₁.directories f ∧
    Preparation.Tells Stage.chat f.encrypted.distribution f.targets
      (f.node ⟨Stage.own, none, []⟩ (.hello Stage.chat "1")) ∧
    f.targets.map (some ·.encode) = [some "2@s.whatsapp.net", some "2:7@s.whatsapp.net"] := by
  obtain ⟨_, r', h, seen⟩ := Act.yields_iff.mp (by decide +kernel : (relay Stage.smooth.recording
    Stage.chat (.text "hi") { messageId := some "1" }).yields
      (atOpening ⟨Stage.own, none, []⟩) (fun id r' => id = "1" &&
        r'.handed.map (·.stanza.recipients.map (·.attr? "jid")) =
          [[some "2@s.whatsapp.net", some "2:7@s.whatsapp.net"]]) = true)
  simp only [Bool.and_eq_true, decide_eq_true_eq] at seen
  obtain ⟨rfl, shown⟩ := seen
  generalize hr : atOpening ⟨Stage.own, none, []⟩ = r at h
  have cipher : Stage.smooth.cipher = Loopback.cipher Stage.nextNoise := rfl
  have home : r.AtHome := hr ▸ .inl rfl
  have outcome := relay_tells_uninformed cipher Stage.chat (.text "hi")
    { messageId := some "1" } home
  rw [h] at outcome
  obtain ⟨r₁, f, d, r₂, _, _, made, _, handed, tells, _, _, all, _⟩ := outcome rfl
  obtain ⟨before, unflagged, informed, _⟩ := all rfl
  subst hr
  obtain rfl := Option.some.inj unflagged
  have everybody : f.informed = f.targets := by
    rw [informed]
    exact List.filter_eq_self.mpr fun _ _ => rfl
  rw [everybody] at tells
  refine ⟨r₁, r', f, h, handed, made, tells, ?_⟩
  rw [handed] at shown
  exact tells.jids.symm.trans (List.singleton_inj.mp shown)

end Relay

end Fanout
