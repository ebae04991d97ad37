import Fanout.Proofs.Host.Overheard
import Fanout.Proofs.Relay.Queue

namespace Fanout

variable {ω : Type} {host : Host ω}

namespace Overheard

/-- Between two states, these messages were acknowledged and no others. -/
def Acknowledges (ids : List String) (s t : Overheard ω) : Prop :=
  ∃ events, Hears events s t ∧ acknowledgements events = ids

variable {ids ids' : List String} {s t u : Overheard ω}

theorem Acknowledges.trans (h : Acknowledges ids s t) (h' : Acknowledges ids' t u) :
    Acknowledges (ids ++ ids') s u := by
  obtain ⟨events, hears, rfl⟩ := h
  obtain ⟨events', hears', rfl⟩ := h'
  exact ⟨events ++ events', hears.trans hears', acknowledgements_append events events'⟩

theorem Acknowledges.of_eq (h : t.heard = s.heard) : Acknowledges [] s t := ⟨[], .of_eq h, rfl⟩

instance : IsPreorder (Overheard ω) (Acknowledges []) where
  refl _ := .of_eq rfl
  trans _ _ _ := Acknowledges.trans

theorem lift_keeps {α : Type} (note : Except Error α → List Heard) (x : Act ω α)
    (quiet : ∀ outcome, acknowledgements (note outcome) = []) :
    (lift note x).Keeps (Acknowledges []) :=
  .intro (fun _ _ a h => ⟨note (.ok a), lift_eq_ok h, quiet _⟩)
    fun _ _ e h => ⟨note (.error e), lift_eq_error h, quiet _⟩

end Overheard

open Overheard in
/-- Messages are acknowledged only while a stanza is being sent. -/
theorem Host.overhearing_keeps (host : Host ω) : host.overhearing.Keeps (Acknowledges []) where
  refuses _ _ := .of_eq rfl
  query n := lift_keeps (fun outcome => [.asked n outcome]) (host.query n) fun _ => rfl
  clock _ := .of_eq rfl
  noise _ := .of_eq rfl
  cipher :=
    { initiate := fun address bundle =>
        lift_keeps (Heard.ofOpening address bundle) (host.cipher.initiate address bundle)
          fun outcome => by cases outcome <;> rfl
      encrypt := fun address session plaintext =>
        lift_keeps (fun _ => []) (host.cipher.encrypt address session plaintext) fun _ => rfl
      decrypt := fun address session envelope =>
        lift_keeps (fun _ => []) (host.cipher.decrypt address session envelope) fun _ => rfl
      distribution := fun name record =>
        lift_keeps (fun _ => []) (host.cipher.distribution name record) fun _ => rfl
      groupEncrypt := fun name record plaintext =>
        lift_keeps (fun _ => []) (host.cipher.groupEncrypt name record plaintext) fun _ => rfl
      acceptDistribution := fun name record distribution =>
        lift_keeps (fun _ => []) (host.cipher.acceptDistribution name record distribution)
          fun _ => rfl
      groupDecrypt := fun name record ciphertext =>
        lift_keeps (fun _ => []) (host.cipher.groupDecrypt name record ciphertext) fun _ => rfl }

namespace RetryQueue

theorem get?_foldl_drop (ids : List String) (q : RetryQueue) (id : String) :
    (ids.foldl drop q).get? id = if id ∈ ids then none else q.get? id := by
  induction ids generalizing q with
  | nil => rfl
  | cons gone ids ih =>
    rw [List.foldl_cons, ih, get?_drop]
    by_cases same : gone = id
    · simp [same]
    · simp [same, Ne.symm same]

theorem config_foldl_drop (ids : List String) (q : RetryQueue) :
    (ids.foldl drop q).config = q.config := by
  induction ids generalizing q with
  | nil => rfl
  | cons gone ids ih => exact ih (q.drop gone)

end RetryQueue

namespace Relay

section Proceeds

variable {R : ω → ω → Prop}

/-- The host goes on, whatever else becomes of a relay. -/
def Proceeds (R : ω → ω → Prop) (r r' : Relay ω) : Prop := R r.world.host r'.world.host

instance [IsPreorder ω R] : IsPreorder (Relay ω) (Proceeds R) where
  refl r := refl_of R r.world.host
  trans _ _ _ h h' := trans_of R h h'

theorem inRetry_proceeds {α : Type} {x : Act (Held RetryQueue ω) α}
    (hx : x.Keeps (RetryQueue.Proceeds R)) : (inRetry x).Keeps (Proceeds R) :=
  hx.zoom fun _ _ h => h

theorem now_proceeds (hh : host.Keeps R) : (inWorld (World.now host)).Keeps (Proceeds R) :=
  fun r => hh.clock r.world.host

variable [IsPreorder ω R]

theorem settleDelivered_proceeds (hh : host.Keeps R) (id : String) :
    (settleDelivered host id).Keeps (Proceeds R) :=
  (inRetry_proceeds (RetryQueue.remove_proceeds hh id)).attempt.bind fun _ => .pure _

theorem settleFailure_proceeds (hh : host.Keeps R) (id : String) (e : Error) :
    (settleFailure host id e).Keeps (Proceeds R) := by
  refine .ite ((now_proceeds hh).bind fun now => ?_) (settleDelivered_proceeds hh id)
  have booked := inRetry_proceeds (RetryQueue.recordFailure_proceeds hh id e.message now)
  exact booked.attempt.bind fun _ => .pure _

theorem cleanUp_proceeds (hh : host.Keeps R) (now : Nat) :
    (cleanUp host now).Keeps (Proceeds R) := by
  have swept : ∀ trackers, (modify fun r : Relay ω => { r with trackers } : Act _ PUnit).Keeps
      (Proceeds R) := fun _ => .modify fun r => refl_of R r.world.host
  have purged := inRetry_proceeds (RetryQueue.purge_proceeds hh now)
  refine Act.Keeps.get.bind fun _ => .ite (purged.guarded.bind fun _ => ?_) (.pure none)
  exact Act.Keeps.get.bind fun r => (swept (r.trackers.sweep now).2).bind fun _ => .pure _

end Proceeds

open Overheard

variable {ids ids' : List String} {r r' r'' : Relay (Overheard ω)}

/-- These messages were acknowledged, and they are what went out of the retry queue. -/
structure Heeds (ids : List String) (r r' : Relay (Overheard ω)) : Prop where
  heard : Acknowledges ids r.world.host r'.world.host
  retry : r'.retry = ids.foldl RetryQueue.drop r.retry

theorem Heeds.trans (h : Heeds ids r r') (h' : Heeds ids' r' r'') : Heeds (ids ++ ids') r r'' := by
  refine ⟨h.heard.trans h'.heard, ?_⟩
  rw [h'.retry, h.retry, List.foldl_append]

theorem Heeds.of_still (still : Still r r') (quiet : Acknowledges [] r.world.host r'.world.host) :
    Heeds [] r r' :=
  ⟨quiet, still.retry⟩

/-- A message is acknowledged: it is heard, and then its record goes. -/
theorem acknowledge_heeds (host : Host ω) (id : String) (s : ω) (r : Relay (Overheard ω)) :
    Heeds [id] r ((acknowledge host.overhearing id).after
      (r.withHost ⟨s, r.world.host.heard ++ [.acknowledged id]⟩)) := by
  have quiet : Acknowledges [] _ _ := (acknowledge_keeps host.overhearing_keeps id
    (r.withHost ⟨s, r.world.host.heard ++ [.acknowledged id]⟩)).world.host
  have heard : Acknowledges [id] r.world.host ⟨s, r.world.host.heard ++ [.acknowledged id]⟩ :=
    ⟨[.acknowledged id], rfl, rfl⟩
  have queue := queue_acknowledge host.overhearing id
    (r.withHost ⟨s, r.world.host.heard ++ [.acknowledged id]⟩)
  have dropped := retry_of_removed queue
  exact ⟨heard.trans quiet, dropped⟩

theorem deliver_heeds (host : Host ω) (d : Delivery ω) (r : Relay (Overheard ω)) :
    ∃ ids, Heeds ids r ((deliver host.overhearing (d.overheard r.world.host.heard)).after r) := by
  induction d generalizing r with
  | settled outcome s =>
    have ended : (deliver host.overhearing ((Delivery.settled outcome s).overheard
        r.world.host.heard)).after r = r.withHost ⟨s, r.world.host.heard⟩ := by
      cases outcome <;> rfl
    rw [ended]
    exact ⟨[], .of_eq rfl, rfl⟩
  | acknowledged id s next ih =>
    have first := acknowledge_heeds host id s r
    obtain ⟨answer, step⟩ := deliver_acknowledged host.overhearing id
      ⟨s, r.world.host.heard ++ [.acknowledged id]⟩
      (fun answer t => (next answer t.inner).overheard t.heard) r
    rw [Delivery.overheard, Act.after_congr step]
    generalize (acknowledge host.overhearing id).after
      (r.withHost ⟨s, r.world.host.heard ++ [.acknowledged id]⟩) = u at first
    -- the rest of the delivery starts from what was heard up to here
    obtain ⟨ids, rest⟩ := ih answer u.world.host.inner u
    exact ⟨[id] ++ ids, first.trans rest⟩

theorem conclude_heeds (host : Host ω) (destination : Jid) (id : String) (message : Message)
    (informed : List Jid) (r : Relay (Overheard ω)) :
    Heeds [] r (conclude host.overhearing destination id message informed r) :=
  .of_still (conclude_still host.overhearing destination id message informed r)
    (conclude_keeps_host host.overhearing_keeps destination id message informed r)

/-- Whatever a relay comes to, it leaves the retry queue as it was but for what was acknowledged. -/
theorem relay_heeds (host : Host ω) (jid : Jid) (message : Message) (options : RelayOptions)
    (r : Relay (Overheard ω)) :
    ∃ ids, Heeds ids r ((relay host.overhearing jid message options).after r) := by
  rw [relay_eq]
  have composed := compose_prepares host.overhearing_keeps jid message options r
  cases made : compose host.overhearing jid message options r with
  | error e r₁ =>
    rw [Act.after_of_error made] at composed
    rw [Act.after_of_error (Act.bind_of_error made)]
    exact ⟨[], .of_still composed.still composed.directories.rest.host⟩
  | ok m r₁ =>
    rw [Act.after_of_ok made] at composed
    rw [Act.after_congr (Act.bind_of_ok made)]
    have before : Heeds [] r r₁ := .of_still composed.still composed.directories.rest.host
    obtain ⟨ids, sent⟩ := deliver_heeds host (host.send m.2.node r₁.world.host.inner) r₁
    change Heeds ids r₁ ((transmit host.overhearing m.2.node).after r₁) at sent
    cases handed : transmit host.overhearing m.2.node r₁ with
    | error e r₂ =>
      rw [Act.after_of_error handed] at sent
      rw [Act.after_of_error (Act.bind_of_error handed)]
      exact ⟨[] ++ ids, before.trans sent⟩
    | ok _ r₂ =>
      rw [Act.after_of_ok handed] at sent
      rw [Act.after_congr (Act.bind_of_ok handed)]
      exact ⟨[] ++ (ids ++ []), before.trans (sent.trans (conclude_heeds host _ _ _ _ r₂))⟩

end Relay

end Fanout
