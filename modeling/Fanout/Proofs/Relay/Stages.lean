import Fanout.Proofs.Relay.Frame

namespace Fanout.Relay

variable {ω α : Type} {R : ω → ω → Prop} {host : Host ω}

/-- Nothing but caches, records and the host differs. -/
structure Prepares (R : ω → ω → Prop) (r r' : Relay ω) : Prop where
  directories : Directories.Steady R r.directories r'.directories
  rest : r' = { r with directories := r'.directories }

instance [IsPreorder ω R] : IsPreorder (Relay ω) (Prepares R) where
  refl r := ⟨refl_of (Directories.Steady R) r.directories, rfl⟩
  trans _ _ _ h h' := by
    refine ⟨trans_of (Directories.Steady R) h.directories h'.directories, ?_⟩
    rw [h'.rest, h.rest]

theorem inDirectories_keeps {x : Act (Directories ω) α} (hx : x.Keeps (Directories.Steady R)) :
    (inDirectories x).Keeps (Prepares R) :=
  hx.zoom fun _ _ h => ⟨h, rfl⟩

theorem inWorld_keeps {x : Act (World ω) α} (hx : x.Keeps (World.KeepsRest R)) :
    (inWorld x).Keeps (Prepares R) :=
  hx.zoom fun r _ h => ⟨SenderKeyMemory.Steady.of_world r.directories.memory h, rfl⟩

theorem chooseId_keeps [IsPreorder ω R] (hh : host.Keeps R) (credentials : Credentials)
    (options : RelayOptions) : (chooseId host credentials options).Keeps (Prepares R) := by
  unfold chooseId
  split
  · exact Act.Keeps.pure _
  · exact (inWorld_keeps (World.now_keeps hh)).bind fun _ =>
      (inWorld_keeps (World.noiseBytes_keeps hh 16)).bind fun _ => Act.Keeps.pure _

theorem prepares_of_ok [IsPreorder ω R] (hh : host.Keeps R) {credentials : Credentials}
    {options : RelayOptions} {id : String} {o : Outgoing} {prepared : Prepared}
    {r r₁ : Relay ω} {d : Directories ω} (hid : chooseId host credentials options r = .ok id r₁)
    (hp : o.prepare host credentials r₁.directories = .ok prepared d) :
    Prepares R r { r₁ with directories := d } := by
  have made := (Outgoing.prepare_steady hh credentials o).of_ok hp
  exact trans_of (Prepares R) ((chooseId_keeps hh _ _).of_ok hid) ⟨made, rfl⟩

/-- What a relay does once its stanza is taken: it books who was told, and remembers the message. -/
def conclude (host : Host ω) (destination : Jid) (id : String) (message : Message)
    (informed : List Jid) (r : Relay ω) : Relay ω :=
  let r := (inDirectories (Directories.inMemory
    (SenderKeyMemory.mark host destination informed))).after r
  let (now, s) := host.clock r.world.host
  { r.withHost s with trackers := r.trackers.note destination id message now }

theorem conclude_keeps_host [IsPreorder ω R] (hh : host.Keeps R) (destination : Jid) (id : String)
    (message : Message) (informed : List Jid) (r : Relay ω) :
    R r.world.host (conclude host destination id message informed r).world.host := by
  have marked := SenderKeyMemory.mark_keeps_host hh destination informed
    ⟨r.directories.memory, r.world⟩
  rw [conclude, inDirectories, Act.after_zoom, Directories.inMemory, Act.after_zoom]
  exact trans_of R marked (hh.clock _)

variable {jid : Jid} {message : Message} {options : RelayOptions} {r r' : Relay ω}

theorem relay_eq_ok {id : String} (h : relay host jid message options r = .ok id r') :
    ∃ r₁ prepared d r₂, chooseId host r.credentials options r = .ok id r₁ ∧
      (⟨jid.withoutDevice, message, id, options⟩ : Outgoing).prepare host r.credentials
        r₁.directories = .ok prepared d ∧
      transmit host prepared.node { r₁ with directories := d } = .ok () r₂ ∧
      r' = conclude host jid.withoutDevice id message prepared.informed r₂ := by
  obtain ⟨credentials, _, hg, h⟩ := Act.bind_eq_ok.mp h
  cases hg
  obtain ⟨id', r₁, hid, h⟩ := Act.bind_eq_ok.mp h
  obtain ⟨prepared, _, hp, h⟩ := Act.bind_eq_ok.mp h
  obtain ⟨d, hd, rfl⟩ := Act.zoom_eq_ok.mp hp
  obtain ⟨_, r₂, ht, h⟩ := Act.bind_eq_ok.mp h
  obtain ⟨_, r₃, hm, h⟩ := Act.bind_eq_ok.mp h
  cases h
  refine ⟨r₁, prepared, d, r₂, hid, hd, ht, ?_⟩
  rw [conclude, ← Act.attempt_eq_ok hm]
  rfl

theorem relay_eq_error_cases {e : Error} (h : relay host jid message options r = .error e r') :
    chooseId host r.credentials options r = .error e r' ∨
      ∃ id r₁, chooseId host r.credentials options r = .ok id r₁ ∧
        ((∃ d, (⟨jid.withoutDevice, message, id, options⟩ : Outgoing).prepare host r.credentials
            r₁.directories = .error e d ∧ r' = { r₁ with directories := d }) ∨
          ∃ prepared d, (⟨jid.withoutDevice, message, id, options⟩ : Outgoing).prepare host
              r.credentials r₁.directories = .ok prepared d ∧
            transmit host prepared.node { r₁ with directories := d } = .error e r') := by
  rcases Act.bind_eq_error.mp h with h | ⟨credentials, _, hg, h⟩
  · cases h
  cases hg
  rcases Act.bind_eq_error.mp h with h | ⟨id, r₁, hid, h⟩
  · exact .inl h
  refine .inr ⟨id, r₁, hid, ?_⟩
  rcases Act.bind_eq_error.mp h with h | ⟨prepared, _, hp, h⟩
  · obtain ⟨d, hd, rfl⟩ := Act.zoom_eq_error.mp h
    exact .inl ⟨d, hd, rfl⟩
  obtain ⟨d, hd, rfl⟩ := Act.zoom_eq_ok.mp hp
  rcases Act.bind_eq_error.mp h with h | ⟨_, r₃, ht, h⟩
  · exact .inr ⟨prepared, d, hd, h⟩
  -- the mark is only attempted, and to take the time and the note cannot fail
  obtain ⟨a, hm⟩ := Act.attempt_apply (inDirectories (Directories.inMemory
    (SenderKeyMemory.mark host jid.withoutDevice prepared.informed))) r₃
  rw [Act.bind_of_ok hm] at h
  cases h

/-- A relay that fails has its stanza refused or hands none over. -/
theorem relay_eq_error [IsPreorder ω R] (hh : host.Keeps R) {e : Error}
    (h : relay host jid message options r = .error e r') :
    Prepares R r r' ∨ ∃ (prepared : Prepared) (r₁ : Relay ω), Prepares R r r₁ ∧
      transmit host prepared.node r₁ = .error e r' := by
  rcases relay_eq_error_cases h with h | ⟨id, r₁, hid, ⟨d, hd, rfl⟩ | ⟨prepared, d, hd, ht⟩⟩
  · exact .inl ((chooseId_keeps hh _ _).of_error h)
  · have made := (Outgoing.prepare_steady hh r.credentials _).of_error hd
    exact .inl (trans_of (Prepares R) ((chooseId_keeps hh _ _).of_ok hid) ⟨made, rfl⟩)
  · exact .inr ⟨prepared, _, prepares_of_ok hh hid hd, ht⟩

end Fanout.Relay
