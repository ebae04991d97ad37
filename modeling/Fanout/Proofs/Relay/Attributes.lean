import Fanout.Proofs.Dict
import Fanout.Proofs.Relay.Atomicity
import Fanout.Proofs.Relay.GroupFanout
import Fanout.Proofs.Relay.PairwiseFanout

namespace Fanout

variable {ω : Type} {host : Host ω}

/-- A stanza has its own attributes, each written once, and beside them what the caller adds. -/
structure Node.HasOver (n : Node) (own : List (String × String)) (added : Dict String String) :
    Prop where
  differ : (own.map Prod.fst).Nodup
  attrs : n.attrs = added.insertAll own

namespace Node.HasOver

variable {n : Node} {own : List (String × String)} {added : Dict String String}

theorem attr?_own (h : n.HasOver own added) {key value : String} (mem : (key, value) ∈ own) :
    n.attr? key = some value := by
  rw [Node.attr?, h.attrs]
  rcases Dict.find?_insertAll added own key with ⟨found, look, mem'⟩ | ⟨_, absent⟩
  · have one := List.inj_on_of_nodup_map h.differ mem mem' rfl
    exact look.trans (congrArg some (Prod.mk.inj one).2.symm)
  · exact absurd mem (absent value)

end Node.HasOver

namespace Outgoing

/-- Who a stanza is addressed to: the only device, unless the whole group can read it. -/
def addressee (o : Outgoing) : Jid :=
  if o.kind.usesSenderKey then o.destination else o.participant.getD o.destination

def editAttrs (o : Outgoing) : List (String × String) :=
  (o.message.editAttribute o.destination).toList.map fun edit => ("edit", edit)

/-- The attributes of a stanza for one device only. -/
def participantAttrs (o : Outgoing) (credentials : Credentials) : List (String × String) :=
  match o.participant with
  | none => []
  | some participant =>
    if o.kind.usesSenderKey then [("participant", participant.encode)]
    else ("device_fanout", "false") ::
      if credentials.isMe participant then [("recipient", o.destination.encode)] else []

/-- The attributes that a relay gives every stanza of a message. -/
def ownAttrs (o : Outgoing) (credentials : Credentials) : List (String × String) :=
  [("id", o.messageId), ("type", o.message.stanzaType), ("to", o.addressee.encode)] ++
    o.editAttrs ++ o.participantAttrs credentials

/-- Those of a stanza for a group beside them. -/
def groupAttrs (mode : Option AddressingMode) (targets : List Jid) : List (String × String) :=
  ("phash", Stanza.participantHash targets) ::
    mode.toList.map fun mode => ("addressing_mode", mode.text)

variable (o : Outgoing) (credentials : Credentials)

theorem keys_editAttrs : (o.editAttrs.map Prod.fst).Sublist ["edit"] := by
  unfold editAttrs
  cases o.message.editAttribute o.destination <;> simp

theorem keys_participantAttrs : ((o.participantAttrs credentials).map Prod.fst).Sublist
    ["participant", "device_fanout", "recipient"] := by
  unfold participantAttrs
  cases o.participant with
  | none => simp
  | some participant =>
    cases o.kind.usesSenderKey with
    | true => simp
    | false => cases mine : credentials.isMe participant <;> simp [mine]

theorem keys_groupAttrs (mode : Option AddressingMode) (targets : List Jid) :
    ((groupAttrs mode targets).map Prod.fst).Sublist ["phash", "addressing_mode"] := by
  unfold groupAttrs
  cases mode <;> simp

/-- No attribute is written twice, so the order of writing does not matter. -/
theorem nodup_ownAttrs (mode : Option AddressingMode) (targets : List Jid) :
    ((o.ownAttrs credentials ++ groupAttrs mode targets).map Prod.fst).Nodup := by
  have written : ((o.ownAttrs credentials ++ groupAttrs mode targets).map Prod.fst).Sublist
      (((["id", "type", "to"] ++ ["edit"]) ++ ["participant", "device_fanout", "recipient"]) ++
        ["phash", "addressing_mode"]) := by
    simp only [ownAttrs, List.map_append]
    refine List.Sublist.append (List.Sublist.append ?_ ?_) (keys_groupAttrs mode targets)
    · exact (List.Sublist.refl _).append o.keys_editAttrs
    · exact o.keys_participantAttrs credentials
  exact written.nodup (by decide)

theorem withEdit_eq (d : Stanza.Draft) :
    o.withEdit d = { d with attrs := d.attrs.insertAll o.editAttrs } := by
  unfold withEdit editAttrs
  cases o.message.editAttribute o.destination <;> rfl

theorem withParticipant_eq (d : Stanza.Draft) (addressed : d.recipient = o.destination) :
    o.withParticipant credentials d =
      { d with
        recipient := o.addressee
        attrs := d.attrs.insertAll (o.participantAttrs credentials) } := by
  unfold withParticipant addressee participantAttrs
  cases o.participant with
  | none => simp [← addressed, Dict.insertAll]
  | some participant =>
    cases o.kind.usesSenderKey with
    | true => simp [← addressed, Dict.insertAll, Stanza.Draft.withAttr]
    | false =>
      cases mine : credentials.isMe participant <;>
        simp [mine, Dict.insertAll, Stanza.Draft.withAttr]

theorem header_eq : o.header credentials =
    { id := o.messageId
      recipient := o.addressee
      type := o.message.stanzaType
      attrs := o.options.additionalAttributes.insertAll
        (o.editAttrs ++ o.participantAttrs credentials)
      parts := [] } := by
  have added : (∅ : Dict String String).insertAll o.options.additionalAttributes.entries =
      o.options.additionalAttributes := Dict.ofList_entries _
  rw [header, withParticipant_eq _ _ _ (by rw [withEdit_eq]; rfl), withEdit_eq,
    Dict.insertAll_append]
  simp [Stanza.Draft.new, Stanza.Draft.withAttrs, added]

/-- The header of a message and what is written after it stand above what the caller adds. -/
theorem finalAttrs_eq (extra : List (String × String)) (parts : List Stanza.Part)
    (differ : ((o.ownAttrs credentials ++ extra).map Prod.fst).Nodup) :
    Stanza.Draft.finalAttrs { o.header credentials with
        attrs := (o.header credentials).attrs.insertAll extra
        parts } =
      o.options.additionalAttributes.insertAll (o.ownAttrs credentials ++ extra) := by
  let ids := [("id", o.messageId), ("type", o.message.stanzaType), ("to", o.addressee.encode)]
  let rest := (o.editAttrs ++ o.participantAttrs credentials) ++ extra
  have own : o.ownAttrs credentials ++ extra = ids ++ rest := by
    simp only [ownAttrs, rest, ids, List.append_assoc]
  have last : Stanza.Draft.finalAttrs { o.header credentials with
      attrs := (o.header credentials).attrs.insertAll extra
      parts } = o.options.additionalAttributes.insertAll (rest ++ ids) := by
    simp only [header_eq, rest, Dict.insertAll_append]
    rfl
  rw [own] at differ ⊢
  rw [last]
  have same : (rest ++ ids).Perm (ids ++ rest) := List.perm_append_comm
  exact Dict.insertAll_of_perm same ((same.map Prod.fst).nodup_iff.mpr differ) _

/-- A stanza for no group has the attributes of its header. -/
theorem hasOver_build (part : Stanza.Part) (identity : List UInt8) :
    (((o.header credentials).withPart part).build identity).HasOver (o.ownAttrs credentials)
      o.options.additionalAttributes := by
  have differ : ((o.ownAttrs credentials).map Prod.fst).Nodup := by
    have all := o.nodup_ownAttrs credentials none []
    rw [List.map_append] at all
    exact all.of_append_left
  have headed := o.finalAttrs_eq credentials [] ((o.header credentials).parts ++ [part])
  rw [List.append_nil] at headed
  exact ⟨differ, headed differ⟩

end Outgoing

namespace Preparation

theorem withMode_eq (mode : Option AddressingMode) (d : Stanza.Draft) : withMode mode d =
    { d with attrs :=
        d.attrs.insertAll (mode.toList.map fun mode => ("addressing_mode", mode.text)) } := by
  cases mode <;> rfl

theorem GroupFanout.hasOver_node (f : GroupFanout) (credentials : Credentials) (o : Outgoing) :
    (f.node credentials o).HasOver (o.ownAttrs credentials ++ Outgoing.groupAttrs f.mode f.targets)
      o.options.additionalAttributes := by
  have differ := o.nodup_ownAttrs credentials f.mode f.targets
  refine ⟨differ, ?_⟩
  rw [← o.finalAttrs_eq credentials _ [.participants f.ciphertexts o.message.mediaType o.count,
    .group f.encrypted.ciphertext o.message.mediaType] differ, GroupFanout.node, withMode_eq]
  simp [Stanza.Draft.build, Node.attrs, Stanza.Draft.withPart, Stanza.Draft.withAttr,
    o.parts_header credentials, Outgoing.groupAttrs, Dict.insertAll]

/-- Only the members of a group are addressed in a way of their own. -/
theorem isSome_mode {credentials : Credentials} {o : Outgoing} {d d' : Directories ω}
    {jids : List Jid} {mode : Option AddressingMode}
    (h : members host credentials o d = .ok (jids, mode) d') :
    mode.isSome = true ↔ o.kind = .group := by
  unfold members at h
  split at h
  next group =>
    obtain ⟨metadata, _, _, h⟩ := Act.bind_eq_ok.mp h
    cases h
    simp [group]
  next other =>
    cases h
    simp [other]

end Preparation

/-- A stanza has what its message asks for over what the caller adds: if it is for a group, as that
is found when the stanza is made, also a short name for its devices and how members are addressed. -/
def Outgoing.Attributed (host : Host ω) (credentials : Credentials) (d : Directories ω)
    (o : Outgoing) (n : Node) : Prop :=
  if o.kind.usesSenderKey then
    ∃ members mode d₁ targets d₂,
      Preparation.members host credentials o d = .ok (members, mode) d₁ ∧
      Preparation.groupTargets host credentials o members d₁ = .ok targets d₂ ∧
      (mode.isSome = true ↔ o.kind = .group) ∧
      n.HasOver (o.ownAttrs credentials ++ groupAttrs mode targets) o.options.additionalAttributes
  else n.HasOver (o.ownAttrs credentials) o.options.additionalAttributes

theorem Outgoing.attributed_of_prepare {credentials : Credentials} {o : Outgoing}
    {d d' : Directories ω} {prepared : Prepared}
    (h : o.prepare host credentials d = .ok prepared d') :
    o.Attributed host credentials d prepared.node := by
  unfold Attributed
  rcases o.prepare_cases host credentials with ⟨keyed, way⟩ | ⟨other, way⟩ | ⟨other, way⟩ <;>
    rw [way] at h
  · obtain ⟨f, _, hf, h⟩ := Act.bind_eq_ok.mp h
    cases h
    obtain ⟨members, d₁, d₂, _, _, _, _, found, targets, _⟩ := Preparation.gather_eq_ok hf
    rw [if_pos keyed]
    exact ⟨members, f.mode, d₁, f.targets, d₂, found, targets, Preparation.isSome_mode found,
      f.hasOver_node credentials o⟩
  · cases h
    rw [other, if_neg (by simp [DestinationKind.usesSenderKey])]
    exact o.hasOver_build credentials _ _
  · obtain ⟨_, _, _, _, _, _, _, _, _, _, node⟩ := Preparation.pairwise_eq_ok h
    have keyless : o.kind.usesSenderKey = false := by
      rcases other with other | other <;> rw [other] <;> rfl
    rw [keyless, if_neg Bool.false_ne_true, node]
    exact o.hasOver_build credentials _ _

namespace Relay

/-- Every stanza that a relay hands over has the attributes of its message, whatever the caller adds
under the same names, and beside them what the caller adds and no more. -/
theorem relay_attributes (host : Host ω) (jid : Jid) (message : Message) (options : RelayOptions)
    (r : Relay (Recorded ω)) :
    ∃ stanzas, ((relay host.recording jid message options).after r).handed = r.handed ++ stanzas ∧
      ∀ h ∈ stanzas, ∃ id r₁, chooseId host.recording r.credentials options r = .ok id r₁ ∧
        Outgoing.Attributed host.recording r.credentials r₁.directories
          ⟨jid.withoutDevice, message, id, options⟩ h.stanza := by
  obtain ⟨stanzas, handed, made⟩ := relay_hands_prepared host jid message options r
  refine ⟨stanzas, handed, fun h mem => ?_⟩
  obtain ⟨id, r₁, prepared, d, chosen, hp, node⟩ := made h mem
  exact ⟨id, r₁, chosen, node ▸ Outgoing.attributed_of_prepare hp⟩

/-- Who adds an address of their own does not redirect the stanza. -/
example : (relay Stage.smooth.recording Stage.friend (.text "hi")
      { messageId := some "1", participant := some Stage.own,
        additionalAttributes := Dict.ofList [("to", "5@s.whatsapp.net"), ("edit", "7")] }).yields
    (atOpening ⟨Stage.ownLinked, none, []⟩) (fun _ r => r.handed.map (·.stanza.attrs.entries) =
      [[("device_fanout", "false"), ("edit", "7"), ("id", "1"), ("recipient", "2@s.whatsapp.net"),
        ("to", "3@s.whatsapp.net"), ("type", "text")]]) = true := by
  decide +kernel

end Relay

end Fanout
