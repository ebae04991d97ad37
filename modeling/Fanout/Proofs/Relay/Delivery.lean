import Fanout.Proofs.Host.Recorded
import Fanout.Proofs.Relay.Stages
import Fanout.Proofs.Retry.Frame

namespace Fanout.Relay

variable {ω : Type} {R : ω → ω → Prop} {host : Host ω}

/-- What acknowledgements may change: the retry queue and its documents. -/
structure Settles (R : ω → ω → Prop) (r r' : Relay ω) : Prop where
  rest : r' = { r.withWorld r'.world with retry := r'.retry }
  home : r'.retry.home = r.retry.home
  world : World.Follows R (fun key => ¬RetryQueue.Houses r.retry.home key)
    (fun key => ¬RetryQueue.Houses r.retry.home key) r.world r'.world

instance [IsPreorder ω R] : IsPreorder (Relay ω) (Settles R) where
  refl r := ⟨rfl, rfl, refl_of (World.Follows R _ _) r.world⟩
  trans r s t h h' := by
    refine ⟨?_, h'.home.trans h.home, trans_of _ h.world (h.home ▸ h'.world)⟩
    have back := h'.rest
    rw [h.rest] at back
    exact back

/-- The queue has no home but the one that relays give it. -/
def AtHome (r : Relay ω) : Prop := r.retry.home = none ∨ r.retry.home = some retryHome

theorem opened_of_create {c : Config} {credentials : Credentials} {w w' : World ω} {r : Relay ω}
    (h : create host c credentials w = .ok r w') :
    c.validate = .ok () ∧ openQueue host c w = .ok r.retry w' ∧
      r.directories.memory = ∅ ∧ r.world = w' := by
  obtain ⟨_, w₁, checked, h⟩ := Act.bind_eq_ok.mp h
  obtain ⟨queue, w₂, opened, h⟩ := Act.bind_eq_ok.mp h
  obtain ⟨_, _, got, h⟩ := Act.bind_eq_ok.mp h
  obtain ⟨valid, rfl⟩ := Act.ofExcept_eq_ok.mp checked
  cases got
  cases h
  exact ⟨valid, opened, rfl, rfl⟩

theorem AtHome.of_create {c : Config} {credentials : Credentials} {w w' : World ω} {r : Relay ω}
    (h : create host c credentials w = .ok r w') : r.AtHome := by
  obtain ⟨_, opened, _⟩ := opened_of_create h
  unfold openQueue at opened
  split at opened
  next =>
    obtain ⟨keys, _, _, opened⟩ := Act.bind_eq_ok.mp opened
    obtain ⟨found, _, _, opened⟩ := Act.bind_eq_ok.mp opened
    exact .inr (congrArg RetryQueue.home (EStateM.Result.ok.inj opened).1.symm)
  next => exact .inl (congrArg RetryQueue.home (EStateM.Result.ok.inj opened).1.symm)

theorem AtHome.of_prepares {r r' : Relay ω} (home : r.AtHome) (h : Prepares R r r') :
    r'.AtHome := by
  rw [h.rest]
  exact home

theorem AtHome.not_houses {r : Relay ω} (home : r.AtHome) {key : String}
    (away : Storage.startsWith retryHome key = false) : ¬RetryQueue.Houses r.retry.home key := by
  rintro ⟨start, hs, housed⟩
  rcases home with hn | hn <;> rw [hs] at hn
  · cases hn
  · obtain rfl := Option.some.inj hn
    rw [away] at housed
    cases housed

theorem settles_withHost (s : ω) (r : Relay ω) : Settles (fun _ _ => True) r (r.withHost s) :=
  ⟨rfl, rfl, trivial, fun _ _ => rfl, fun _ _ => id⟩

theorem acknowledge_keeps [IsPreorder ω R] (hh : host.Keeps R) (id : String) :
    (acknowledge host id).Keeps (Settles R) :=
  ((RetryQueue.remove_keeps hh id).zoom fun _ _ h => ⟨rfl, h.home, h.world⟩).bind fun _ =>
    Act.Keeps.pure _

/-- Whatever is acknowledged meanwhile, only the retry queue and its documents change. -/
theorem deliver_keeps (d : Delivery ω) :
    (deliver host d).Keeps (Settles fun _ _ => True) := by
  induction d with
  | settled outcome s =>
    exact (Act.Keeps.modify (settles_withHost s)).bind fun _ => Act.Keeps.ofExcept outcome
  | acknowledged id s next ih =>
    refine (Act.Keeps.modify (settles_withHost s)).bind fun _ => ?_
    refine (acknowledge_keeps host.keeps_true id).attempt.bind fun answer r => ?_
    exact ih answer r.world.host r

theorem transmit_keeps (n : Node) : (transmit host n).Keeps (Settles fun _ _ => True) :=
  fun r => deliver_keeps (host.send n r.world.host) r

/-- A delivery goes on from the answer to the acknowledgement. -/
theorem deliver_acknowledged (host : Host ω) (id : String) (s : ω)
    (next : Except Error Bool → ω → Delivery ω) (r : Relay ω) :
    let u := (acknowledge host id).after (r.withHost s)
    ∃ answer, deliver host (.acknowledged id s next) r =
      deliver host (next answer u.world.host) u := by
  obtain ⟨answer, acked⟩ := Act.attempt_apply (acknowledge host id) (r.withHost s)
  refine ⟨answer, ?_⟩
  rw [deliver]
  refine (Act.bind_of_ok (Act.modify_apply (withHost s) r)).trans ?_
  exact Act.bind_of_ok acked

/-- The host goes on by what its deliveries and its store keep. -/
theorem deliver_keeps_host [IsPreorder ω R] (hh : host.Keeps R) {d : Delivery ω} {r : Relay ω}
    (hd : d.Keeps R r.world.host) : R r.world.host ((deliver host d).after r).world.host := by
  induction d generalizing r with
  | settled outcome s =>
    have ended : ((deliver host (.settled outcome s)).after r).world.host = s := by
      cases outcome <;> rfl
    rw [ended]
    exact hd
  | acknowledged id s next ih =>
    have acked := acknowledge_keeps hh id (r.withHost s)
    obtain ⟨answer, step⟩ := deliver_acknowledged host id s next r
    rw [Act.after_congr step]
    exact trans_of R hd.1 (trans_of R acked.world.host (ih answer _ (hd.2 answer _)))

theorem transmit_keeps_host [IsPreorder ω R] (hh : host.Keeps R)
    (hs : ∀ n s, (host.send n s).Keeps R s) (n : Node) :
    (transmit host n).Keeps fun r r' => R r.world.host r'.world.host :=
  fun r => deliver_keeps_host hh (hs n r.world.host)

/-- A stanza is taken, and what was to be done then is done. -/
theorem taken_keeps_host [IsPreorder ω R] (hh : host.Keeps R)
    (hs : ∀ n s, (host.send n s).Keeps R s) {n : Node} {r r' : Relay ω}
    (taken : transmit host n r = .ok () r') (destination : Jid) (id : String) (message : Message)
    (informed : List Jid) :
    R r.world.host (conclude host destination id message informed r').world.host :=
  trans_of R ((transmit_keeps_host hh hs n).of_ok taken)
    (conclude_keeps_host hh destination id message informed r')

theorem relay_keeps_host [IsPreorder ω R] (hh : host.Keeps R)
    (hs : ∀ n s, (host.send n s).Keeps R s) {jid : Jid} {message : Message}
    {options : RelayOptions} {id : String} {r r' : Relay ω}
    (h : relay host jid message options r = .ok id r') : R r.world.host r'.world.host := by
  obtain ⟨r₁, prepared, d, r₂, hid, hp, ht, rfl⟩ := relay_eq_ok h
  have made := (prepares_of_ok hh hid hp).directories.rest.host
  exact trans_of R made (taken_keeps_host hh hs ht jid.withoutDevice id message prepared.informed)

/-- Each way a delivery ends, it was booked once, after what was handed over before. -/
theorem deliver_recorded (n : Node) (d : Delivery ω) (r : Relay (Recorded ω)) :
    (∀ r', deliver host.recording (d.recorded n r.world.host.handed) r = .ok () r' →
        r'.world.host.handed = r.world.host.handed ++ [⟨n, true⟩]) ∧
    (∀ e r', deliver host.recording (d.recorded n r.world.host.handed) r = .error e r' →
        r'.world.host.handed = r.world.host.handed ++ [⟨n, false⟩]) := by
  induction d generalizing r with
  | settled outcome s =>
    cases outcome with
    | ok _ =>
      refine ⟨fun r' h => ?_, fun e r' h => (nomatch h)⟩
      cases h
      rfl
    | error e =>
      refine ⟨fun r' h => (nomatch h), fun e r' h => ?_⟩
      cases h
      rfl
  | acknowledged id s next ih =>
    have acked := acknowledge_keeps host.recording_keeps id
      (r.withHost ⟨s, r.world.host.handed⟩)
    obtain ⟨answer, step⟩ := deliver_acknowledged host.recording id
      ⟨s, r.world.host.handed⟩ (fun answer t => (next answer t.inner).recorded n t.handed) r
    rw [Delivery.recorded, step]
    generalize (acknowledge host.recording id).after (r.withHost ⟨s, r.world.host.handed⟩) = u
      at acked
    have handed : u.world.host.handed = r.world.host.handed := acked.world.host
    -- the relay has moved on by an acknowledgement, which hands nothing over
    obtain ⟨ok, error⟩ := ih answer u.world.host.inner u
    exact ⟨fun r' h => handed ▸ ok r' h, fun e r' h => handed ▸ error e r' h⟩

theorem transmit_eq_ok {n : Node} {r r' : Relay (Recorded ω)}
    (h : transmit host.recording n r = .ok () r') :
    Settles (fun _ _ => True) r r' ∧ r'.world.host.handed = r.world.host.handed ++ [⟨n, true⟩] :=
  ⟨(transmit_keeps n).of_ok h, (deliver_recorded n _ r).1 r' h⟩

theorem transmit_eq_error {n : Node} {r r' : Relay (Recorded ω)} {e : Error}
    (h : transmit host.recording n r = .error e r') :
    Settles (fun _ _ => True) r r' ∧ r'.world.host.handed = r.world.host.handed ++ [⟨n, false⟩] :=
  ⟨(transmit_keeps n).of_error h, (deliver_recorded n _ r).2 e r' h⟩

/-- Without acknowledgements nothing but the host goes on. -/
theorem after_transmit (hq : host.Quiet) (n : Node) (r : Relay ω) :
    ∃ s, (transmit host n).after r = r.withHost s := by
  obtain ⟨outcome, s, h⟩ := hq n r.world.host
  refine ⟨s, ?_⟩
  rw [Act.after, transmit, h]
  cases outcome <;> rfl

end Fanout.Relay
