import Fanout.Proofs.Cipher.Loopback
import Fanout.Proofs.Host.Recorded
import Fanout.Proofs.Message.RoundTrip
import Fanout.Proofs.Relay.Frame
import Fanout.Proofs.Stanza

namespace Fanout

variable {ω : Type} {host : Host ω}

/-- Whether a host's cipher can make an envelope of a plaintext. -/
def Host.Wrote (host : Host ω) (plaintext : List UInt8) (envelope : Envelope) : Prop :=
  ∃ address session s next s',
    host.cipher.encrypt address session plaintext s = .ok (envelope, next) s'

theorem Host.Wrote.holds {noise : ω → Nat × ω} (hc : host.cipher = Loopback.cipher noise)
    {plaintext : List UInt8} {envelope : Envelope}
    (h : host.recording.Wrote plaintext envelope) : Loopback.Holds envelope plaintext := by
  obtain ⟨address, session, s, next, s', h⟩ := h
  have inner : host.cipher.encrypt address session plaintext s.inner =
      .ok (envelope, next) s'.inner := Recorded.lift_eq_ok h
  rw [hc] at inner
  exact Loopback.holds_of_encrypt (Act.ofExcept_eq_ok.mp inner).1

theorem Repository.encrypt_eq_ok {jid : Jid} {plaintext : List UInt8} {envelope : Envelope}
    {w w' : World ω} (h : encrypt host jid plaintext w = .ok envelope w') :
    envelope.kind ≠ .skmsg ∧ host.Wrote plaintext envelope := by
  obtain ⟨session, u, _, h⟩ := Act.bind_eq_ok.mp h
  cases session with
  | none => cases h
  | some session =>
    obtain ⟨⟨env, next⟩, v, he, h⟩ := Act.bind_eq_ok.mp h
    obtain ⟨s', he, _⟩ := Act.zoom_eq_ok.mp he
    by_cases hk : env.kind = .skmsg
    · simp only [hk, if_true] at h
      cases h
    · simp only [hk, if_false] at h
      obtain ⟨_, _, _, h⟩ := Act.bind_eq_ok.mp h
      cases h
      exact ⟨hk, _, _, _, _, _, he⟩

namespace Preparation

variable {d d' : Directories ω}

theorem plaintext_eq_ok {m : Message} {bytes : List UInt8}
    (h : plaintext host m d = .ok bytes d') :
    ∃ count, 0 < count ∧ count ≤ 16 ∧ bytes = m.encode count := by
  obtain ⟨extra, u, he, h⟩ := Act.bind_eq_ok.mp h
  cases h
  have small : extra < 16 := by
    cases he
    exact Nat.mod_lt _ (by decide)
  exact ⟨extra + 1, by omega, by omega, rfl⟩

/-- The devices of some users, as the look-up of them lists them. -/
theorem resolve_eq_ok {credentials : Credentials} {o : Outgoing} {jids found : List Jid}
    {ignoreZero : Bool} (h : resolve host credentials o jids ignoreZero d = .ok found d') :
    ∃ entries t, DeviceDirectory.resolve host credentials jids o.options.useUserDevicesCache
        ignoreZero ⟨d.devices, d.world⟩ = .ok entries t ∧
      entries.mapM DeviceEntry.toJid = .ok found := by
  obtain ⟨entries, u, looked, h⟩ := Act.bind_eq_ok.mp h
  obtain ⟨t, listed, rfl⟩ := Act.zoom_eq_ok.mp looked
  exact ⟨entries, t, listed, (Act.ofExcept_eq_ok.mp h).1⟩

/-- Envelopes that the cipher made of a plaintext, each for the device beside it. -/
structure Wrote (host : Host ω) (bytes : List UInt8) (jids : List Jid)
    (ciphertexts : List DeviceCiphertext) : Prop where
  jids : ciphertexts.map (·.jid) = jids
  envelopes : ∀ c ∈ ciphertexts, c.envelope.kind ≠ .skmsg ∧ host.Wrote bytes c.envelope

theorem mapM_encryptFor_eq_ok {bytes : List UInt8} {jids : List Jid}
    {ciphertexts : List DeviceCiphertext}
    (h : jids.mapM (encryptFor host bytes) d = .ok ciphertexts d') :
    Wrote host bytes jids ciphertexts := by
  induction jids generalizing d ciphertexts with
  | nil =>
    cases h
    exact ⟨rfl, by simp⟩
  | cons jid jids ih =>
    obtain ⟨c, u, rest, hc, hr, rfl⟩ := Act.mapM_cons_eq_ok.mp h
    obtain ⟨envelope, v, he, hc⟩ := Act.bind_eq_ok.mp hc
    cases hc
    obtain ⟨w, he, _⟩ := Act.zoom_eq_ok.mp he
    obtain ⟨names, all⟩ := ih hr
    refine ⟨by simp [names], fun c hc => ?_⟩
    rcases List.mem_cons.mp hc with rfl | hc
    · exact Repository.encrypt_eq_ok he
    · exact all c hc

theorem encryptAll_eq_ok {m : Message} {jids : List Jid} {ciphertexts : List DeviceCiphertext}
    (h : encryptAll host m jids d = .ok ciphertexts d') :
    ∃ count, 0 < count ∧ count ≤ 16 ∧ Wrote host (m.encode count) jids ciphertexts := by
  unfold encryptAll at h
  split at h
  next hj =>
    cases h
    exact ⟨1, by decide, by decide, hj.symm, by simp⟩
  next =>
    obtain ⟨bytes, u, hb, h⟩ := Act.bind_eq_ok.mp h
    obtain ⟨count, pos, le, rfl⟩ := plaintext_eq_ok hb
    exact ⟨count, pos, le, mapM_encryptFor_eq_ok h⟩

theorem distribute_eq_ok {group : Jid} {distribution : List UInt8} {jids : List Jid}
    {ciphertexts : List DeviceCiphertext}
    (h : distribute host group distribution jids d = .ok ciphertexts d') :
    ∃ count, 0 < count ∧ count ≤ 16 ∧
      Wrote host ((Message.senderKeyDistribution group (Base64.encode distribution)).encode count)
        jids ciphertexts := by
  unfold distribute at h
  split at h
  next hj =>
    cases h
    exact ⟨1, by decide, by decide, hj.symm, by simp⟩
  next =>
    obtain ⟨_, u, _, h⟩ := Act.bind_eq_ok.mp h
    obtain ⟨bytes, v, hb, h⟩ := Act.bind_eq_ok.mp h
    obtain ⟨count, pos, le, rfl⟩ := plaintext_eq_ok hb
    exact ⟨count, pos, le, mapM_encryptFor_eq_ok h⟩

end Preparation

/-- What the device that a node of a stanza is for makes of the ciphertext in it, with the rehearsal
cipher and the session that it has. -/
def Node.Reads (recipient : Node) (m : Message) : Prop :=
  ∃ enc kind body, recipient.childrenTagged "enc" = [enc] ∧
    enc.attr? "type" = some (CiphertextKind.text kind) ∧ enc.bytes? = some body ∧
    ∀ session state, Loopback.sessionState session = .ok state →
      ∃ plaintext record, Loopback.decrypt session ⟨kind, body⟩ = .ok (plaintext, record) ∧
        Message.decode plaintext = .ok m

theorem Stanza.reads_encNode {n : Node} {envelope : Envelope} {mediaType : Option String}
    {count : Option UInt32} (only : n.childrenTagged "enc" = [encNode envelope mediaType count])
    {plaintext : List UInt8} {m : Message} (hc : Loopback.Holds envelope plaintext)
    (hm : Message.decode plaintext = .ok m) : n.Reads m := by
  refine ⟨encNode envelope mediaType count, envelope.kind, envelope.body, only,
    attr?_encNode_type _ _ _, bytes?_encNode _ _ _, fun session state hs => ?_⟩
  obtain ⟨record, read⟩ := hc session state hs
  exact ⟨plaintext, record, read, hm⟩

theorem Stanza.reads_toNode {c : DeviceCiphertext} {plaintext : List UInt8} {m : Message}
    (hc : Loopback.Holds c.envelope plaintext) (hm : Message.decode plaintext = .ok m)
    (mediaType : Option String) (count : Option UInt32) : (toNode mediaType count c).Reads m := by
  have only : (toNode mediaType count c).childrenTagged "enc" =
      [encNode c.envelope mediaType count] := by
    rw [Node.childrenTagged, children_toNode]
    simp [tag_encNode]
  exact reads_encNode only hc hm

end Fanout
