import Fanout.Credentials
import Fanout.Proofs.World.Frame

namespace Fanout.Credentials

/-- How our account is called: in the individual namespace, and also by its lid where it has one. -/
def names (c : Credentials) : List Jid := c.me :: c.meLid.toList

/-- An address of our account, on any device. -/
def Owns (c : Credentials) (jid : Jid) : Prop :=
  ∃ name ∈ c.names, jid.user = name.user ∧ jid.server = name.server

/-- An address of this device. -/
def IsHere (c : Credentials) (jid : Jid) : Prop :=
  ∃ name ∈ c.names, (jid.user = name.user ∧ jid.server = name.server) ∧
    jid.deviceId = name.deviceId

instance (c : Credentials) : DecidablePred c.Owns := fun jid =>
  inferInstanceAs (Decidable (∃ name ∈ c.names, jid.user = name.user ∧ jid.server = name.server))

instance (c : Credentials) : DecidablePred c.IsHere := fun jid =>
  inferInstanceAs (Decidable (∃ name ∈ c.names,
    (jid.user = name.user ∧ jid.server = name.server) ∧ jid.deviceId = name.deviceId))

section Names

variable {c : Credentials} {jid : Jid}

theorem isMe_iff : c.isMe jid = true ↔ c.Owns jid := by
  simp [isMe, Owns, names, Jid.isSameUser, Option.any_eq_true]

theorem isOwnDevice_iff : c.isOwnDevice jid = true ↔ c.IsHere jid := by
  simp [isOwnDevice, IsHere, names, isSameDevice, Jid.isSameUser, Option.any_eq_true]

/-- Only among lids do we go by ours. -/
theorem identityFor_eq (c : Credentials) (destination : Jid) :
    c.identityFor destination =
      if destination.server = .lid then c.meLid.getD c.me else c.me := by
  unfold identityFor
  cases c.meLid <;> by_cases lid : destination.server = .lid <;> simp [Jid.isLid, lid]

end Names

variable {ω : Type} {host : Host ω}

/-- No document differs but that of the credentials. -/
def Apart (s t : Held Credentials ω) : Prop :=
  ∀ other, other ≠ key → t.world.documents.find? other = s.world.documents.find? other

instance : IsPreorder (Held Credentials ω) Apart where
  refl _ _ _ := rfl
  trans _ _ _ h h' other away := (h' other away).trans (h other away)

theorem save_apart (v : Json) :
    (Held.inWorld (Storage.save host key v) : Act (Held Credentials ω) Unit).Keeps Apart := by
  have kept : (Storage.save host key v).Keeps
      (World.Follows (fun _ _ => True) (fun other => other ≠ key) fun _ => True) :=
    Storage.save_keeps host.keeps_true (fun differs => differs rfl) v
  exact kept.zoom fun _ _ h => h.documents

theorem save_keeps_apart : (save host).Keeps Apart := by
  have written : (do Held.inWorld (Storage.save host key (← Held.getOwn).toJson) :
      Act (Held Credentials ω) Unit).Keeps Apart :=
    (Act.Keeps.get.bind fun _ => .pure _).bind fun c => save_apart c.toJson
  exact written.guarded.bind fun _ => .pure _

theorem update_apart (change : Credentials → Except Error Credentials) :
    (update host change).Keeps Apart := by
  have written : ∀ next : Credentials, (do
      Held.inWorld (Storage.save host key next.toJson)
      Held.setOwn next : Act (Held Credentials ω) PUnit).Keeps Apart := by
    intro next
    exact (save_apart next.toJson).bind fun _ => Act.Keeps.modify fun _ _ _ => rfl
  have committed : (do
      let next ← Act.ofExcept (change (← Held.getOwn))
      Held.inWorld (Storage.save host key next.toJson)
      Held.setOwn next : Act (Held Credentials ω) PUnit).Keeps Apart := by
    refine (Act.Keeps.get.bind fun _ => Act.Keeps.pure _).bind fun credentials => ?_
    exact (Act.Keeps.ofExcept _).bind written
  exact committed.guarded.bind fun _ => Act.Keeps.pure _

end Fanout.Credentials
