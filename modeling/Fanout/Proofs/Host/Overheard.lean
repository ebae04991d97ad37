import Fanout.Proofs.Storage
import Fanout.Proofs.World.Frame

namespace Fanout

variable {ω α : Type}

inductive Heard where
  | asked (question : Node) (outcome : Except Error Node)
  | acknowledged (id : String)
  /-- The cipher made a session from the public keys of a device. -/
  | opened (address : ProtocolAddress) (bundle : PreKeyBundle) (session : SessionRecord)

/-- What is heard when the cipher makes a session, if it does. -/
def Heard.ofOpening (address : ProtocolAddress) (bundle : PreKeyBundle) :
    Except Error SessionRecord → List Heard
  | .ok session => [opened address bundle session]
  | .error _ => []

/-- What is asked about some users, and what the answer is taken to say: one question for all of
them, and none where there is nobody. -/
inductive AsksOnce {β : Type} (question : List Jid → Node → Prop)
    (read : Node → Except Error (List β)) : List Jid → List Heard → Except Error (List β) → Prop
  | nobody : AsksOnce question read [] [] (.ok [])
  | somebody {users : List Jid} {n : Node} (some : users ≠ []) (fits : question users n)
    (outcome : Except Error Node) :
    AsksOnce question read users [.asked n outcome] (outcome >>= read)

namespace AsksOnce

variable {β : Type} {question : List Jid → Node → Prop} {read : Node → Except Error (List β)}
  {users : List Jid} {events : List Heard} {outcome : Except Error (List β)}

theorem eq_nil_iff (asks : AsksOnce question read users events outcome) :
    events = [] ↔ users = [] := by
  cases asks with
  | nobody => exact ⟨fun _ => rfl, fun _ => rfl⟩
  | somebody some => simp [some]

theorem outcome_eq (asks : AsksOnce question read users events outcome) {n : Node}
    {reply : Except Error Node} (mem : .asked n reply ∈ events) : outcome = reply >>= read := by
  cases asks with
  | nobody => cases mem
  | somebody some fits reply' =>
    have same := List.mem_singleton.mp mem
    cases same
    rfl

end AsksOnce

structure Overheard (ω : Type) where
  inner : ω
  /-- The latest last. -/
  heard : List Heard

namespace Overheard

/-- Between two states, this was heard. -/
def Hears (events : List Heard) (s t : Overheard ω) : Prop := t.heard = s.heard ++ events

variable {events events' : List Heard} {s t u : Overheard ω}

theorem Hears.trans (h : Hears events s t) (h' : Hears events' t u) :
    Hears (events ++ events') s u := by
  unfold Hears at h h' ⊢
  rw [h', h, List.append_assoc]

theorem Hears.of_eq (h : t.heard = s.heard) : Hears [] s t := by
  rw [Hears, h, List.append_nil]

instance : IsPreorder (Overheard ω) (Hears []) where
  refl _ := .of_eq rfl
  trans _ _ _ := Hears.trans

/-- Does what the host within does, and lets it be heard. -/
def lift (note : Except Error α → List Heard) (x : Act ω α) : Act (Overheard ω) α := fun s =>
  match x s.inner with
  | .ok a t => .ok a ⟨t, s.heard ++ note (.ok a)⟩
  | .error e t => .error e ⟨t, s.heard ++ note (.error e)⟩

variable {note : Except Error α → List Heard} {x : Act ω α}

theorem lift_eq_ok {a : α} (h : lift note x s = .ok a t) : Hears (note (.ok a)) s t := by
  unfold lift at h
  split at h <;> cases h
  rfl

theorem lift_eq_error {e : Error} (h : lift note x s = .error e t) :
    Hears (note (.error e)) s t := by
  unfold lift at h
  split at h <;> cases h
  rfl

/-- The acknowledgements that were heard. -/
def acknowledgements (events : List Heard) : List String :=
  events.filterMap fun
    | .acknowledged id => some id
    | _ => none

theorem acknowledgements_append (events events' : List Heard) :
    acknowledgements (events ++ events') = acknowledgements events ++ acknowledgements events' :=
  List.filterMap_append

end Overheard

/-- An acknowledgement is heard before it is answered. -/
def Delivery.overheard (heard : List Heard) : Delivery ω → Delivery (Overheard ω)
  | .settled outcome s => .settled outcome ⟨s, heard⟩
  | .acknowledged id s next =>
    .acknowledged id ⟨s, heard ++ [.acknowledged id]⟩ fun answer t =>
      (next answer t.inner).overheard t.heard

open Overheard in
def Cipher.overhearing (cipher : Cipher ω) : Cipher (Overheard ω) where
  initiate address bundle :=
    lift (Heard.ofOpening address bundle) (cipher.initiate address bundle)
  encrypt address session plaintext := lift (fun _ => []) (cipher.encrypt address session plaintext)
  decrypt address session envelope := lift (fun _ => []) (cipher.decrypt address session envelope)
  distribution name record := lift (fun _ => []) (cipher.distribution name record)
  groupEncrypt name record plaintext := lift (fun _ => []) (cipher.groupEncrypt name record plaintext)
  acceptDistribution name record distribution :=
    lift (fun _ => []) (cipher.acceptDistribution name record distribution)
  groupDecrypt name record ciphertext :=
    lift (fun _ => []) (cipher.groupDecrypt name record ciphertext)

def Host.overhearing (host : Host ω) : Host (Overheard ω) where
  refuses call s :=
    ((host.refuses call s.inner).1, { s with inner := (host.refuses call s.inner).2 })
  query n := Overheard.lift (fun outcome => [.asked n outcome]) (host.query n)
  send n s := (host.send n s.inner).overheard s.heard
  clock s := ((host.clock s.inner).1, { s with inner := (host.clock s.inner).2 })
  noise s := ((host.noise s.inner).1, { s with inner := (host.noise s.inner).2 })
  cipher := host.cipher.overhearing

theorem Host.Reliable.overhearing {host : Host ω} (reliable : host.Reliable) :
    host.overhearing.Reliable := fun call s => reliable call s.inner

namespace Overheard

variable {host : Host ω} {v w : World (Overheard ω)}

theorem query_eq_ok {n answer : Node} (h : World.query host.overhearing n v = .ok answer w) :
    w.documents = v.documents ∧ Hears [.asked n (.ok answer)] v.host w.host := by
  have called : World.inHost (lift (fun outcome => [.asked n outcome]) (host.query n)) v =
      .ok answer w := h
  obtain ⟨s, asked, rfl⟩ := Act.zoom_eq_ok.mp called
  exact ⟨rfl, lift_eq_ok asked⟩

theorem query_eq_error {n : Node} {e : Error}
    (h : World.query host.overhearing n v = .error e w) :
    w.documents = v.documents ∧ Hears [.asked n (.error e)] v.host w.host := by
  have called : World.inHost (lift (fun outcome => [.asked n outcome]) (host.query n)) v =
      .error e w := h
  obtain ⟨s, asked, rfl⟩ := Act.zoom_eq_error.mp called
  exact ⟨rfl, lift_eq_error asked⟩

theorem initiate_eq_ok {address : ProtocolAddress} {bundle : PreKeyBundle}
    {session : SessionRecord} {s t : Overheard ω}
    (h : host.overhearing.cipher.initiate address bundle s = .ok session t) :
    Hears [.opened address bundle session] s t := by
  have lifted : lift (Heard.ofOpening address bundle) (host.cipher.initiate address bundle) s =
      .ok session t := h
  exact lift_eq_ok lifted

theorem initiate_eq_error {address : ProtocolAddress} {bundle : PreKeyBundle} {e : Error}
    {s t : Overheard ω}
    (h : host.overhearing.cipher.initiate address bundle s = .error e t) : Hears [] s t := by
  have lifted : lift (Heard.ofOpening address bundle) (host.cipher.initiate address bundle) s =
      .error e t := h
  exact lift_eq_error lifted

/-- Drawing random bytes succeeds and is not heard. -/
theorem noiseBytes_apply (host : Host ω) (n : Nat) (w : World (Overheard ω)) :
    ∃ bytes w', World.noiseBytes host.overhearing n w = .ok bytes w' ∧
      w'.documents = w.documents ∧ Hears [] w.host w'.host := by
  induction n generalizing w with
  | zero => exact ⟨[], w, rfl, rfl, .of_eq rfl⟩
  | succ n ih =>
    obtain ⟨bytes, w', drawn, documents, silent⟩ :=
      ih { w with host := (host.overhearing.noise w.host).2 }
    have first : World.below host.overhearing 256 w =
        .ok ((host.overhearing.noise w.host).1 % 256)
          { w with host := (host.overhearing.noise w.host).2 } := rfl
    refine ⟨_, w', (Act.bind_of_ok first).trans (Act.bind_of_ok drawn), documents, ?_⟩
    exact Hears.trans (.of_eq rfl) silent

end Overheard

end Fanout
