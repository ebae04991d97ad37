import Fanout.Proofs.Host.Unopening
import Fanout.Proofs.Session.Conversation

namespace Fanout

namespace Loopback

theorem encrypt_of_pending {count : Nat} {data plaintext : List UInt8} {envelope : Envelope}
    {next : SessionRecord} (same : data = (sessionRecord ⟨count, true⟩).data)
    (h : encrypt ⟨data⟩ plaintext = .ok (envelope, next)) :
    envelope.kind = .pkmsg ∧ next = sessionRecord ⟨count + 1, true⟩ := by
  obtain ⟨s, read, h⟩ := except_bind_eq_ok.mp h
  dsimp only at read
  rw [same] at read
  obtain rfl := eq_of_readState_sessionRecord read
  cases h
  exact ⟨rfl, rfl⟩

end Loopback

namespace Repository

variable {ω : Type} {host : Host ω} {jid other : Jid} {w w' : World ω} {documents : Documents}

/-- The session with a device was opened, and its handshake is not answered. -/
def Unanswered (jid : Jid) (documents : Documents) : Prop :=
  ∃ count, (Place.session jid.protocolAddress).stored? documents =
    some (some (Loopback.sessionRecord ⟨count, true⟩).data)

/-- A device may go by another address too; then its session is the same. -/
theorem Unanswered.of_insert {count : Nat}
    (known : jid.protocolAddress = other.protocolAddress ∨ Unanswered jid documents) :
    Unanswered jid (documents.insert (Place.session other.protocolAddress).key
      (Place.text (Loopback.sessionRecord ⟨count, true⟩).data)) := by
  unfold Unanswered
  simp only [Place.stored?_insert]
  split
  next => exact ⟨count, rfl⟩
  next apart => exact known.resolve_left fun same => apart (by rw [same])

theorem unanswered_of_inject (rehearses : host.cipher.Rehearses) {bundle : PreKeyBundle}
    (known : jid.protocolAddress = other.protocolAddress ∨ Unanswered jid w.documents)
    (done : injectSession host other bundle w = .ok () w') : Unanswered jid w'.documents := by
  have ran : (Operation.inject other bundle).run host w = .ok () w' := done
  obtain ⟨_, next, _, _, _, worked, wrote⟩ := Operation.run_eq_ok ran
  obtain ⟨r, made, rfl⟩ := initiate_of_work rehearses worked
  rw [wrote, Loopback.initiate_eq_ok made]
  exact .of_insert known

/-- What is written on the session bears its handshake, and writing does not answer it. -/
theorem Unanswered.encrypt (rehearses : host.cipher.Rehearses) {plaintext : List UInt8}
    {envelope : Envelope} (h : Unanswered jid w.documents)
    (done : encrypt host other plaintext w = .ok envelope w') :
    Unanswered jid w'.documents ∧
      (jid.protocolAddress = other.protocolAddress → envelope.kind = .pkmsg) := by
  have ran : (Operation.encrypt other plaintext).run host w = .ok envelope w' := done
  obtain ⟨data, next, s, _, fetched, worked, wrote⟩ := Operation.run_eq_ok ran
  obtain ⟨session, r, rfl, _, encrypted, rfl⟩ := encrypt_of_work rehearses worked
  have loaded : (Place.session other.protocolAddress).load host w = .ok (some session) _ := fetched
  by_cases same : jid.protocolAddress = other.protocolAddress
  · obtain ⟨count, stored⟩ := h
    rw [same] at stored
    have held := Option.some.inj (Place.data_of_load stored loaded)
    obtain ⟨kind, rfl⟩ := Loopback.encrypt_of_pending held.symm encrypted
    refine ⟨?_, fun _ => kind⟩
    rw [wrote]
    exact .of_insert (.inl same)
  · refine ⟨?_, fun same' => absurd same' same⟩
    have apart : (Place.session other.protocolAddress).key ≠
        (Place.session jid.protocolAddress).key :=
      sessionKey_injective.ne (Ne.symm same)
    obtain ⟨count, stored⟩ := h
    refine ⟨count, ?_⟩
    rw [wrote, Place.stored?_insert]
    exact (if_neg apart).trans stored

end Repository

namespace Sessions

open Repository

variable {ω : Type} {host : Host ω} {log : ω → List Observation} {jid : Jid} {w w' : World ω}

theorem unanswered_inject (rehearses : host.cipher.Rehearses) {wanted : List Jid}
    {bundles : List (Jid × PreKeyBundle)} {count : Nat} (h : Unanswered jid w.documents)
    (done : inject host wanted bundles w = .ok count w') : Unanswered jid w'.documents := by
  induction bundles generalizing w count with
  | nil =>
    cases done
    exact h
  | cons b rest ih =>
    obtain ⟨other, bundle⟩ := b
    unfold inject at done
    split at done
    next =>
      obtain ⟨_, v, opened, done⟩ := Act.bind_eq_ok.mp done
      obtain ⟨_, u, later, done⟩ := Act.bind_eq_ok.mp done
      cases done
      exact ih (unanswered_of_inject rehearses (.inr h) opened) later
    next => exact ih h done

/-- Unless no bundle was wanted, a session waits for its answer. -/
theorem inject_eq_ok_cases (rehearses : host.cipher.Rehearses) {wanted : List Jid}
    {bundles : List (Jid × PreKeyBundle)} {count : Nat}
    (done : inject host wanted bundles w = .ok count w') :
    w' = w ∨ ∃ jid ∈ wanted, Unanswered jid w'.documents := by
  induction bundles generalizing count with
  | nil =>
    cases done
    exact .inl rfl
  | cons b rest ih =>
    obtain ⟨jid, bundle⟩ := b
    unfold inject at done
    split at done
    next asked =>
      obtain ⟨_, v, opened, done⟩ := Act.bind_eq_ok.mp done
      obtain ⟨_, u, later, done⟩ := Act.bind_eq_ok.mp done
      cases done
      have fresh := unanswered_of_inject rehearses (.inl rfl) opened
      exact .inr ⟨jid, asked, unanswered_inject rehearses fresh later⟩
    next => exact ih done

theorem mem_of_missing {jids wanted : List Jid} {force : Bool}
    (h : missing host jids force w = .ok wanted w') (mem : jid ∈ wanted) : jid ∈ jids := by
  obtain ⟨kept, v, filtered, h⟩ := Act.bind_eq_ok.mp h
  cases h
  obtain ⟨_, found⟩ := Dict.mem_keys_iff.mp mem
  obtain ⟨asked, listed, same⟩ := List.mem_map.mp (Dict.mem_of_find?_ofList found)
  obtain ⟨rfl, _⟩ := Prod.mk.inj same
  exact Act.mem_of_filterM_eq_ok filtered listed

/-- No session was opened, or one with a device that was asked about waits for its answer. -/
theorem ensure_unanswered (hl : host.BooksOpenings log) (rehearses : host.cipher.Rehearses)
    {jids : List Jid} {force found : Bool} (done : ensure host jids force w = .ok found w') :
    Unopened log w.host w'.host ∨ ∃ jid ∈ jids, Unanswered jid w'.documents := by
  obtain ⟨wanted, v, missed, done⟩ := Act.bind_eq_ok.mp done
  -- To look for sessions and to ask for bundles is not yet to open any.
  have looked : missing host.unopening jids force w = .ok wanted v := missed
  have kept : World.Follows (Unopened log) (fun _ => False) (fun _ => False) w v :=
    (missing_keeps hl.keeps jids force).of_ok looked
  split at done
  next =>
    cases done
    exact .inl kept.host
  next =>
    obtain ⟨answer, x, asked, done⟩ := Act.bind_eq_ok.mp done
    obtain ⟨bundles, y, read, done⟩ := Act.bind_eq_ok.mp done
    obtain ⟨count, z, injected, done⟩ := Act.bind_eq_ok.mp done
    cases done
    obtain ⟨_, rfl⟩ := Act.ofExcept_eq_ok.mp read
    have queried : World.query host.unopening (Prekeys.query wanted) v = .ok answer x := asked
    have kept' : World.Follows (Unopened log) (fun _ => False) (fun _ => False) v x :=
      (World.query_keeps hl.keeps _).of_ok queried
    rcases inject_eq_ok_cases rehearses injected with rfl | ⟨jid, mem, unanswered⟩
    · exact .inl (trans_of (Unopened log) kept.host kept'.host)
    · exact .inr ⟨jid, mem_of_missing missed mem, unanswered⟩

end Sessions

end Fanout
