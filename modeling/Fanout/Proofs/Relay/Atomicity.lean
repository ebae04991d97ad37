import Fanout.Proofs.Rehearsal.Stage
import Fanout.Proofs.Relay.Delivery
import Fanout.Proofs.Stanza

namespace Fanout

variable {ω : Type}

theorem Trackers.find?_recent_note (t : Trackers) (chat : Jid) (id : String) (message : Message)
    (now : Nat) : (t.note chat id message now).recent.entries.find? ⟨chat.withoutDevice, id⟩ =
      some (message, now + t.recent.ttl) := by
  have ttl : (t.recent.sweepIfDue now).ttl = t.recent.ttl := by
    unfold TrackerTable.sweepIfDue
    split <;> rfl
  simp [note, RecentMessages.remember, TrackerTable.insert, TrackerTable.write,
    TrackerTable.expiry, Dict.find?_insert, ttl]

theorem Outgoing.attr?_prepare_id {host : Host ω} {credentials : Credentials} {o : Outgoing}
    {d d' : Directories ω} {prepared : Prepared}
    (h : o.prepare host credentials d = .ok prepared d') :
    prepared.node.attr? "id" = some o.messageId := by
  have header := o.id_header credentials
  rcases o.prepare_cases host credentials with ⟨_, way⟩ | ⟨_, way⟩ | ⟨_, way⟩ <;> rw [way] at h
  · obtain ⟨f, _, _, h⟩ := Act.bind_eq_ok.mp h
    cases h
    have moded : ∀ mode d, (Preparation.withMode mode d).id = d.id := by
      intro mode d
      cases mode <;> rfl
    exact (Stanza.Draft.attr?_build_id _ _).trans (congrArg some ((moded _ _).trans header))
  · cases h
    exact (Stanza.Draft.attr?_build_id _ _).trans (congrArg some header)
  · obtain ⟨targets, _, _, h⟩ := Act.bind_eq_ok.mp h
    obtain ⟨_, _, _, h⟩ := Act.bind_eq_ok.mp h
    obtain ⟨own, _, _, h⟩ := Act.bind_eq_ok.mp h
    obtain ⟨foreign, _, _, h⟩ := Act.bind_eq_ok.mp h
    cases h
    exact (Stanza.Draft.attr?_build_id _ _).trans (congrArg some header)

namespace Relay

/-- The sender-key flags of a group as a look at them finds them. -/
def snapshot? (r : Relay ω) (group : Jid) : Option DeviceFlags :=
  SenderKeyMemory.snapshot? r.directories.memory r.world.documents group

/-- Every stanza that the connection was handed, in order. -/
def handed (r : Relay (Recorded ω)) : List Handed := r.world.host.handed

variable {host : Host ω}

theorem Prepares.handed_eq {r r' : Relay (Recorded ω)} (h : Prepares Recorded.SameHanded r r') :
    r'.handed = r.handed :=
  h.directories.rest.host

theorem Prepares.snapshot?_eq {R : ω → ω → Prop} {r r' : Relay ω} (h : Prepares R r r')
    (group : Jid) : r'.snapshot? group = r.snapshot? group :=
  h.directories.snapshot group

theorem startsWith_retryHome_key (group : Jid) :
    Storage.startsWith retryHome (SenderKeyMemory.key group) = false := by
  unfold SenderKeyMemory.key retryHome
  rw [Storage.startsWith_append]
  simp [List.isPrefixOf]

theorem Settles.memory {R : ω → ω → Prop} {r r' : Relay ω} (h : Settles R r r') :
    r'.directories.memory = r.directories.memory := by
  rw [h.rest]
  rfl

theorem Settles.snapshot?_eq {R : ω → ω → Prop} {r r' : Relay ω} (home : r.AtHome)
    (h : Settles R r r') (group : Jid) : r'.snapshot? group = r.snapshot? group := by
  have away := home.not_houses (startsWith_retryHome_key group)
  rw [snapshot?, snapshot?, h.memory]
  exact SenderKeyMemory.snapshot?_congr _ (h.world.documents _ away)

/-- A relay that fails flags nobody, whatever is acknowledged meanwhile. -/
theorem snapshot?_of_relay_error {jid : Jid} {message : Message} {options : RelayOptions}
    {r r' : Relay ω} {e : Error} (home : r.AtHome)
    (h : relay host jid message options r = .error e r') (group : Jid) :
    r'.snapshot? group = r.snapshot? group := by
  rcases relay_eq_error host.keeps_true h with unsent | ⟨prepared, r₁, made, ht⟩
  · exact unsent.snapshot?_eq group
  · have settles := (transmit_keeps prepared.node).of_error ht
    exact (settles.snapshot?_eq (home.of_prepares made) group).trans (made.snapshot?_eq group)

theorem conclude_trackers (host : Host ω) (destination : Jid) (id : String) (message : Message)
    (informed : List Jid) (r : Relay ω) :
    ∃ now, (conclude host destination id message informed r).trackers =
      r.trackers.note destination id message now := by
  rw [conclude, inDirectories, Act.after_zoom]
  exact ⟨_, rfl⟩

theorem conclude_handed (destination : Jid) (id : String) (message : Message)
    (informed : List Jid) (r : Relay (Recorded ω)) :
    (conclude host.recording destination id message informed r).handed = r.handed := by
  have marked := SenderKeyMemory.mark_keeps_host host.recording_keeps destination informed
    ⟨r.directories.memory, r.world⟩
  rw [conclude, inDirectories, Act.after_zoom, Directories.inMemory, Act.after_zoom]
  exact marked

/-- A relay that goes through hands its stanza over once. -/
theorem handed_of_taken {r r₁ r₂ : Relay (Recorded ω)} {n : Node}
    (made : Prepares Recorded.SameHanded r r₁)
    (taken : transmit host.recording n r₁ = .ok () r₂) (destination : Jid) (id : String)
    (message : Message) (informed : List Jid) :
    (conclude host.recording destination id message informed r₂).handed =
      r.handed ++ [⟨n, true⟩] := by
  rw [conclude_handed, ← made.handed_eq]
  exact (transmit_eq_ok taken).2

/-- Every stanza that a relay hands over is one that it prepared. -/
theorem relay_hands_prepared (host : Host ω) (jid : Jid) (message : Message)
    (options : RelayOptions) (r : Relay (Recorded ω)) :
    ∃ stanzas, ((relay host.recording jid message options).after r).handed = r.handed ++ stanzas ∧
      ∀ h ∈ stanzas, ∃ id r₁ prepared d,
        chooseId host.recording r.credentials options r = .ok id r₁ ∧
        (⟨jid.withoutDevice, message, id, options⟩ : Outgoing).prepare host.recording r.credentials
          r₁.directories = .ok prepared d ∧
        h.stanza = prepared.node := by
  have hh := host.recording_keeps
  cases h : relay host.recording jid message options r with
  | ok id r' =>
    rw [Act.after_of_ok h]
    obtain ⟨r₁, prepared, d, r₂, hid, hp, ht, rfl⟩ := relay_eq_ok h
    have taken := handed_of_taken (prepares_of_ok hh hid hp) ht jid.withoutDevice id message
      prepared.informed
    exact ⟨_, taken, by simpa using ⟨id, r₁, hid, prepared, ⟨d, hp⟩, rfl⟩⟩
  | error e r' =>
    rw [Act.after_of_error h]
    rcases relay_eq_error_cases h with hid | ⟨id, r₁, hid, ⟨d, hp, rfl⟩ | ⟨prepared, d, hp, ht⟩⟩
    · have same := ((chooseId_keeps hh _ _).of_error hid).handed_eq
      exact ⟨[], same.trans (List.append_nil _).symm, by simp⟩
    · have made : Prepares Recorded.SameHanded r { r₁ with directories := d } :=
        trans_of _ ((chooseId_keeps hh _ _).of_ok hid)
          ⟨(Outgoing.prepare_steady hh _ _).of_error hp, rfl⟩
      exact ⟨[], made.handed_eq.trans (List.append_nil _).symm, by simp⟩
    · have refused := (transmit_eq_error ht).2.trans
        (congrArg (· ++ _) (prepares_of_ok hh hid hp).handed_eq)
      exact ⟨_, refused, by simpa using ⟨id, r₁, hid, prepared, ⟨d, hp⟩, rfl⟩⟩

theorem relay_all_or_nothing (hq : host.Quiet) (jid : Jid) (message : Message)
    (options : RelayOptions) (r : Relay (Recorded ω)) :
    match relay host.recording jid message options r with
    | .ok id r' =>
      (∃ n, r'.handed = r.handed ++ [⟨n, true⟩] ∧ n.attr? "id" = some id) ∧
        ∃ now, r'.trackers = r.trackers.note jid.withoutDevice id message now ∧
          r'.trackers.recent.entries.find? ⟨jid.withoutDevice, id⟩ =
            some (message, now + r.trackers.recent.ttl)
    | .error _ r' =>
      (r'.handed = r.handed ∨ ∃ n, r'.handed = r.handed ++ [⟨n, false⟩]) ∧
        (∀ group, r'.snapshot? group = r.snapshot? group) ∧
        r'.trackers = r.trackers ∧ r'.retry = r.retry ∧
        ∀ key, SessionStore.isRecord key = false →
          r'.world.documents.find? key = r.world.documents.find? key := by
  have hh := host.recording_keeps
  cases h : relay host.recording jid message options r with
  | ok id r' =>
    obtain ⟨r₁, prepared, d, r₂, hid, hp, ht, rfl⟩ := relay_eq_ok h
    have made := prepares_of_ok hh hid hp
    obtain ⟨s, same⟩ := after_transmit hq.recording prepared.node { r₁ with directories := d }
    rw [Act.after_of_ok ht] at same
    have trackers : r₂.trackers = r.trackers := by
      rw [same, made.rest]
      rfl
    obtain ⟨now, noted⟩ := conclude_trackers host.recording jid.withoutDevice id message
      prepared.informed r₂
    rw [trackers] at noted
    refine ⟨⟨prepared.node, ?_, Outgoing.attr?_prepare_id hp⟩, now, noted, ?_⟩
    · exact handed_of_taken made ht jid.withoutDevice id message prepared.informed
    · rw [noted]
      exact r.trackers.find?_recent_note jid.withoutDevice id message now
  | error e r' =>
    rcases relay_eq_error hh h with unsent | ⟨prepared, r₁, made, ht⟩
    · refine ⟨.inl unsent.handed_eq, unsent.snapshot?_eq, ?_, ?_, unsent.directories.rest.documents⟩
      · rw [unsent.rest]
      · rw [unsent.rest]
    · have booked := (transmit_eq_error ht).2
      obtain ⟨s, same⟩ := after_transmit hq.recording prepared.node r₁
      rw [Act.after_of_error ht] at same
      refine ⟨.inr ⟨prepared.node, booked.trans (congrArg (· ++ _) made.handed_eq)⟩, ?_⟩
      rw [same]
      refine ⟨made.snapshot?_eq, ?_, ?_, made.directories.rest.documents⟩
      · rw [made.rest]
        rfl
      · rw [made.rest]
        rfl

theorem relay_hello_to_chat : ∃ r' n, relay Stage.plain.recording Stage.chat (.text "hi")
      { messageId := some "1" } (atOpening ⟨Stage.own, none, []⟩) = .ok "1" r' ∧
    r'.handed = [⟨n, true⟩] ∧ n.attr? "id" = some "1" := by
  obtain ⟨r', h⟩ : ∃ r', relay Stage.plain.recording Stage.chat (.text "hi")
      { messageId := some "1" } (atOpening ⟨Stage.own, none, []⟩) = .ok "1" r' :=
    Act.ok_of_yields (by decide +kernel)
  -- the relay's state is named, or else the whole relay would be run once more here
  generalize hr : atOpening ⟨Stage.own, none, []⟩ = r at h
  have outcome := relay_all_or_nothing Stage.plain_quiet Stage.chat (.text "hi")
    { messageId := some "1" } r
  rw [h] at outcome
  obtain ⟨⟨n, handed, shown⟩, _⟩ := outcome
  subst hr
  exact ⟨r', n, h, handed, shown⟩

end Relay

end Fanout
