import Fanout.Proofs.Relay.RetrySession
import Fanout.Proofs.Session.Unanswered
import Fanout.Proofs.Stanza.Identity

namespace Fanout

open Repository Stanza

variable {ω : Type} {host : Host ω} {log : ω → List Observation} {jid : Jid}
  {d d' : Directories ω}

namespace Preparation

/-- A ciphertext bears the handshake. -/
def Handshakes (ciphertexts : List DeviceCiphertext) : Prop :=
  ∃ c ∈ ciphertexts, c.envelope.kind = .pkmsg

theorem plaintext_documents {m : Message} {bytes : List UInt8}
    (h : plaintext host m d = .ok bytes d') : d'.world.documents = d.world.documents := by
  obtain ⟨extra, u, drawn, h⟩ := Act.bind_eq_ok.mp h
  cases h
  cases drawn
  rfl

theorem mapM_encryptFor_unanswered (rehearses : host.cipher.Rehearses) {bytes : List UInt8}
    {jids : List Jid} {ciphertexts : List DeviceCiphertext}
    (h : Unanswered jid d.world.documents)
    (done : jids.mapM (encryptFor host bytes) d = .ok ciphertexts d') :
    Unanswered jid d'.world.documents ∧ (jid ∈ jids → Handshakes ciphertexts) := by
  induction jids generalizing d ciphertexts with
  | nil =>
    cases done
    exact ⟨h, fun mem => (nomatch mem)⟩
  | cons other jids ih =>
    obtain ⟨c, u, rest, first, later, rfl⟩ := Act.mapM_cons_eq_ok.mp done
    obtain ⟨envelope, v, encrypted, first⟩ := Act.bind_eq_ok.mp first
    cases first
    obtain ⟨w, written, rfl⟩ := Act.zoom_eq_ok.mp encrypted
    obtain ⟨stays, bears⟩ := h.encrypt rehearses written
    obtain ⟨stays', bears'⟩ := ih stays later
    refine ⟨stays', fun mem => ?_⟩
    rcases List.mem_cons.mp mem with rfl | mem
    · exact ⟨_, List.mem_cons_self, bears rfl⟩
    · obtain ⟨c, listed, kind⟩ := bears' mem
      exact ⟨c, List.mem_cons_of_mem _ listed, kind⟩

theorem encryptAll_unanswered (rehearses : host.cipher.Rehearses) {m : Message}
    {jids : List Jid} {ciphertexts : List DeviceCiphertext}
    (h : Unanswered jid d.world.documents)
    (done : encryptAll host m jids d = .ok ciphertexts d') :
    Unanswered jid d'.world.documents ∧ (jid ∈ jids → Handshakes ciphertexts) := by
  unfold encryptAll at done
  split at done
  next nobody =>
    cases done
    rw [nobody]
    exact ⟨h, fun mem => (nomatch mem)⟩
  next =>
    obtain ⟨bytes, u, padded, done⟩ := Act.bind_eq_ok.mp done
    rw [← plaintext_documents padded] at h
    exact mapM_encryptFor_unanswered rehearses h done

variable {credentials : Credentials} {o : Outgoing}

theorem ensureSessions_unanswered (hl : host.BooksOpenings log) (rehearses : host.cipher.Rehearses)
    {jids : List Jid} (done : ensureSessions host jids d = .ok () d') :
    Unopened log d.world.host d'.world.host ∨ ∃ jid ∈ jids, Unanswered jid d'.world.documents := by
  obtain ⟨found, ensured⟩ := ensureSessions_eq_ok done
  exact Sessions.ensure_unanswered hl rehearses ensured

theorem encryptAll_unopened (hl : host.BooksOpenings log) {m : Message} {jids : List Jid}
    {ciphertexts : List DeviceCiphertext}
    (done : encryptAll host m jids d = .ok ciphertexts d') :
    Unopened log d.world.host d'.world.host := by
  have quiet : encryptAll host.unopening m jids d = .ok ciphertexts d' := done
  have parts := Directories.Steady.inParts hl.keeps
  exact ((encryptAll_keeps parts.toKeptInWorld m jids).of_ok quiet).rest.host

theorem handshakes_of_pairwisePart {ciphertexts : List DeviceCiphertext}
    (h : Handshakes ciphertexts) : (pairwisePart o ciphertexts).opensSession = true := by
  obtain ⟨c, mem, kind⟩ := h
  unfold pairwisePart
  split
  next single _ =>
    obtain rfl := List.mem_singleton.mp mem
    simp [Part.opensSession, kind]
  next => exact List.any_eq_true.mpr ⟨c, mem, by simp [kind]⟩

/-- No session is opened for a stanza to an account, or a ciphertext of it bears a handshake. -/
theorem pairwise_opens (hl : host.BooksOpenings log) (rehearses : host.cipher.Rehearses)
    {prepared : Prepared} (h : pairwise host credentials o d = .ok prepared d') :
    Unopened log d.world.host d'.world.host ∨ prepared.node.bearsHandshake = true := by
  obtain ⟨targets, d₁, d₂, own, d₃, foreign, ht, ensured, ho, hf, node⟩ := pairwise_eq_ok h
  have looked : pairwiseTargets host.unopening credentials o d = .ok targets d₁ := ht
  have kept : Unopened log d.world.host d₁.world.host :=
    ((pairwiseTargets_keeps (Directories.Steady.inParts hl.keeps) credentials o).of_ok
      looked).rest.host
  rcases ensureSessions_unanswered hl rehearses ensured with unopened | ⟨jid, mem, unanswered⟩
  · left
    have wrote := trans_of (Unopened log) (encryptAll_unopened hl ho) (encryptAll_unopened hl hf)
    exact trans_of (Unopened log) kept (trans_of (Unopened log) unopened wrote)
  · right
    obtain ⟨stays, mine⟩ := encryptAll_unanswered rehearses unanswered ho
    obtain ⟨_, theirs⟩ := encryptAll_unanswered rehearses stays hf
    have bears : Handshakes (own ++ foreign) := by
      cases ours : credentials.isMe jid with
      | true =>
        obtain ⟨c, listed, kind⟩ := mine (List.mem_filter.mpr ⟨mem, ours⟩)
        exact ⟨c, List.mem_append_left foreign listed, kind⟩
      | false =>
        obtain ⟨c, listed, kind⟩ := theirs (List.mem_filter.mpr ⟨mem, by simp [ours]⟩)
        exact ⟨c, List.mem_append_right own listed, kind⟩
    rw [node, Draft.bearsHandshake_build]
    simp [Draft.withPart, o.parts_header credentials, handshakes_of_pairwisePart bears]

theorem gather_opens (hl : host.BooksOpenings log) (rehearses : host.cipher.Rehearses)
    {f : GroupFanout} (h : gather host credentials o d = .ok f d') :
    Unopened log d.world.host d'.world.host ∨ Handshakes f.ciphertexts := by
  obtain ⟨jids, d₁, d₂, bytes, d₃, d₄, d₅, hm, ht, hb, _, he, hi, hc⟩ := gather_eq_ok h
  have parts := Directories.Steady.inParts hl.keeps
  -- Up to the distribution no call asks for a session, so a host that opens none goes the same way.
  have hm : members host.unopening credentials o d = .ok (jids, f.mode) d₁ := hm
  have ht : groupTargets host.unopening credentials o jids d₁ = .ok f.targets d₂ := ht
  have hb : plaintext host.unopening o.message d₂ = .ok bytes d₃ := hb
  have he : Directories.inWorld (Repository.encryptGroup host.unopening o.destination f.sender
    bytes) d₃ = .ok f.encrypted d₄ := he
  have hi : uninformed host.unopening o f.targets d₄ = .ok f.informed d₅ := hi
  have kept : Directories.Steady (Unopened log) d d₅ :=
    trans_of _ ((members_keeps parts _ _).of_ok hm) (trans_of _
      ((groupTargets_keeps parts _ _ _).of_ok ht) (trans_of _
        ((plaintext_keeps parts.toKeptInWorld _).of_ok hb) (trans_of _
          ((parts.world (Repository.encryptGroup_keeps hl.keeps
            (SessionStore.not_rest_senderKeyKey _) _)).of_ok he)
          ((uninformed_keeps parts _ _).of_ok hi))))
  rw [distribute_eq] at hc
  obtain ⟨_, d₆, ensured, written⟩ := Act.bind_eq_ok.mp hc
  rcases ensureSessions_unanswered hl rehearses ensured with unopened | ⟨jid, mem, unanswered⟩
  · left
    have later := trans_of (Unopened log) unopened (encryptAll_unopened hl written)
    exact trans_of (Unopened log) kept.rest.host later
  · exact .inr ((encryptAll_unanswered rehearses unanswered written).2 mem)

theorem bearsHandshake_node {f : GroupFanout} (h : Handshakes f.ciphertexts) :
    (f.node credentials o).bearsHandshake = true := by
  obtain ⟨draft, node, parts⟩ := f.parts_node credentials o
  obtain ⟨c, mem, kind⟩ := h
  rw [node, Draft.bearsHandshake_build, parts, List.any_cons, Bool.or_eq_true]
  exact .inl (List.any_eq_true.mpr ⟨c, mem, by simp [kind]⟩)

end Preparation

namespace Outgoing

variable {credentials : Credentials} {o : Outgoing} {prepared : Prepared}

/-- What is prepared for a channel shows no identity, but has no ciphertext either. -/
theorem showsIdentity_prepare (h : o.prepare host credentials d = .ok prepared d') :
    ∃ content, ShowsIdentity prepared.node content credentials.signedDeviceIdentity := by
  rcases o.prepare_cases host credentials with ⟨_, way⟩ | ⟨_, way⟩ | ⟨_, way⟩ <;> rw [way] at h
  · obtain ⟨f, _, _, h⟩ := Act.bind_eq_ok.mp h
    cases h
    exact ⟨_, Draft.showsIdentity_build _ _⟩
  · cases h
    have plain : (Preparation.newsletter credentials o).node.bearsHandshake = false := by
      rw [Node.bearsHandshake, Preparation.findAll_newsletter]
      rfl
    exact ⟨_, (Draft.showsIdentity_build _ []).of_no_handshake plain _⟩
  · obtain ⟨targets, d₁, d₂, own, d₃, foreign, _, _, _, _, node⟩ := Preparation.pairwise_eq_ok h
    rw [node]
    exact ⟨_, Draft.showsIdentity_build _ _⟩

theorem prepare_opens (hl : host.BooksOpenings log) (rehearses : host.cipher.Rehearses)
    (h : o.prepare host credentials d = .ok prepared d') :
    Unopened log d.world.host d'.world.host ∨ prepared.node.bearsHandshake = true := by
  rcases o.prepare_cases host credentials with ⟨_, way⟩ | ⟨_, way⟩ | ⟨_, way⟩ <;> rw [way] at h
  · obtain ⟨f, _, gathered, h⟩ := Act.bind_eq_ok.mp h
    cases h
    exact (Preparation.gather_opens hl rehearses gathered).imp_right
      Preparation.bearsHandshake_node
  · cases h
    exact .inl rfl
  · exact Preparation.pairwise_opens hl rehearses h

end Outgoing

namespace Relay

theorem deliver_unopening (d : Delivery ω) : deliver host.unopening d = deliver host d := by
  induction d with
  | settled outcome s => rfl
  | acknowledged id s next ih =>
    unfold deliver
    simp only [ih]
    rfl

theorem transmit_unopening (n : Node) : transmit host.unopening n = transmit host n :=
  funext fun r => congrFun (deliver_unopening (host.send n r.world.host)) r

/-- A stanza that is relayed shows our identity exactly if a ciphertext of it bears a handshake, and
one does if a session was opened meanwhile. -/
theorem relay_opens (hl : host.BooksOpenings log) (rehearses : host.cipher.Rehearses)
    {chat : Jid} {message : Message} {options : RelayOptions} {id : String}
    {r r' : Relay (Recorded ω)} (h : relay host.recording chat message options r = .ok id r') :
    ∃ n content, r'.handed = r.handed ++ [⟨n, true⟩] ∧
      ShowsIdentity n content r.credentials.signedDeviceIdentity ∧
      (Unopened (fun s => log s.inner) r.world.host r'.world.host ∨ n.bearsHandshake = true) := by
  have hl' := hl.recording
  obtain ⟨r₁, prepared, d, r₂, hid, hp, ht, rfl⟩ := relay_eq_ok h
  have made := prepares_of_ok host.recording_keeps hid hp
  obtain ⟨content, shows⟩ := Outgoing.showsIdentity_prepare hp
  refine ⟨prepared.node, content,
    handed_of_taken made ht chat.withoutDevice id message prepared.informed, shows, ?_⟩
  refine (Outgoing.prepare_opens hl' rehearses.recording hp).imp_left fun unopened => ?_
  -- A host that opens no session chooses the same id, and hands the stanza over in the same way.
  have hid : chooseId host.recording.unopening r.credentials options r = .ok id r₁ := hid
  rw [← transmit_unopening] at ht
  have chosen := ((chooseId_keeps hl'.keeps _ _).of_ok hid).directories.rest.host
  have later := taken_keeps_host hl'.keeps hl'.send ht chat.withoutDevice id message
    prepared.informed
  exact trans_of _ chosen (trans_of _ unopened later)

/-- The calls by which a stanza is drafted add its children in their order, and after these it shows
the identity of the sending device, once, exactly if a ciphertext bears a handshake. If a session is
opened while a message is relayed, a ciphertext of the stanza bears its handshake, so the stanza
shows the identity that the credentials give. -/
theorem identity_shown_with_handshake {noise : ω → Nat × ω}
    (cipher : host.cipher = Loopback.cipher noise) :
    (∀ (id : String) (recipient : Jid) (type : String) (calls : List Draft.Call)
      (identity : List UInt8),
      ShowsIdentity ((calls.foldl Draft.Call.apply (.new id recipient type)).build identity)
        (calls.filterMap Draft.Call.node?) identity) ∧
    ∀ (chat : Jid) (message : Message) (options : RelayOptions) (id : String)
      (r r' : Relay (Recorded (Watched ω))),
      relay host.watching.recording chat message options r = .ok id r' →
      ∃ n content events, r'.handed = r.handed ++ [⟨n, true⟩] ∧
        ShowsIdentity n content r.credentials.signedDeviceIdentity ∧
        r'.world.host.observations = r.world.host.observations ++ events ∧
        ∀ address bundle session, .opened address bundle session ∈ events →
          n.bearsHandshake = true ∧ n.childrenTagged "device-identity" =
            [identityNode r.credentials.signedDeviceIdentity] := by
  refine ⟨Draft.showsIdentity_of_calls, fun chat message options id r r' h => ?_⟩
  have rehearses : host.cipher.Rehearses := by
    rw [cipher]
    exact Loopback.cipher_rehearses noise
  obtain ⟨n, content, handed, shows, opens⟩ :=
    relay_opens host.watching_booksOpenings rehearses.watching h
  have hl : host.watching.recording.Logs Recorded.observations := host.watching_logs.recording
  obtain ⟨events, grown, _⟩ := relay_keeps_host hl.keeps hl.send h
  refine ⟨n, content, events, handed, shows, grown, fun address bundle session mem => ?_⟩
  rcases opens with unopened | bears
  · exact absurd (unopened.isOpening_eq_false grown _ mem) (by simp [Observation.isOpening])
  · refine ⟨bears, ?_⟩
    rw [shows.shown, bears]
    rfl

/-- Our friend is greeted for the first time, so a session is opened with each of their devices. -/
theorem greeting_shows_identity : ∃ r' n,
    relay Stage.smooth.watching.recording Stage.friend (.text "hi") { messageId := some "1" }
      { watchedOpening with credentials := ⟨Stage.own, none, [7]⟩ } = .ok "1" r' ∧
    r'.handed = [⟨n, true⟩] ∧ r'.world.host.observations.any Observation.isOpening = true ∧
    n.childrenTagged "device-identity" = [identityNode [7]] := by
  obtain ⟨id, r', relayed, passed⟩ : ∃ id r',
      relay Stage.smooth.watching.recording Stage.friend (.text "hi") { messageId := some "1" }
        { watchedOpening with credentials := ⟨Stage.own, none, [7]⟩ } = .ok id r' ∧
      (decide (id = "1") && r'.world.host.observations.any Observation.isOpening) = true :=
    Act.yields_iff.mp (by decide +kernel)
  simp only [Bool.and_eq_true, decide_eq_true_eq] at passed
  obtain ⟨rfl, opened⟩ := passed
  have cipher : Stage.smooth.cipher = Loopback.cipher Stage.nextNoise := rfl
  obtain ⟨_, relays⟩ := identity_shown_with_handshake cipher
  obtain ⟨n, content, events, handed, _, grown, shows⟩ := relays _ _ _ _ _ _ relayed
  obtain ⟨event, mem, opening⟩ := List.any_eq_true.mp opened
  rw [grown] at mem
  cases event with
  | opened address bundle session =>
    obtain ⟨_, shown⟩ := shows address bundle session mem
    exact ⟨r', n, relayed, handed, opened, shown⟩
  | _ => cases opening

end Relay

end Fanout
