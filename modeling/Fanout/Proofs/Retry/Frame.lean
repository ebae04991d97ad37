import Fanout.Proofs.World.Frame
import Fanout.Retry.Queue

namespace Fanout.RetryQueue

variable {ω : Type} {R : ω → ω → Prop} {host : Host ω}

/-- Whether the document of a record may stand under a key. -/
def Houses (home : Option String) (key : String) : Prop :=
  ∃ start, home = some start ∧ Storage.startsWith start key = true

/-- The queue stays at its home, and the documents elsewhere stay as they are. -/
structure Follows (R : ω → ω → Prop) (s t : Held RetryQueue ω) : Prop where
  home : t.own.home = s.own.home
  world : World.Follows R (fun key => ¬Houses s.own.home key) (fun key => ¬Houses s.own.home key)
    s.world t.world

instance [IsPreorder ω R] : IsPreorder (Held RetryQueue ω) (Follows R) where
  refl s := ⟨rfl, refl_of (World.Follows R _ _) s.world⟩
  trans _ _ _ h h' := ⟨h'.home.trans h.home, trans_of _ h.world (h.home ▸ h'.world)⟩

theorem houses_append {home : Option String} {start : String} (h : home = some start)
    (id : String) : Houses home (start ++ id) :=
  ⟨start, h, by simp [Storage.startsWith, String.toList_append]⟩

theorem unpersist_keeps [IsPreorder ω R] (hh : host.Keeps R) (id : String) :
    (unpersist host id).Keeps (Follows R) := by
  intro s
  cases hs : s.own.home with
  | none =>
    have done : unpersist host id s = .ok () s := by
      simp [unpersist, Held.getOwn, Act.get_apply, bind, EStateM.bind, pure, EStateM.pure, hs]
    rw [Act.after_of_ok done]
    exact refl_of (Follows R) s
  | some start =>
    have step : unpersist host id s = Held.inWorld (Storage.del host (start ++ id)) s := by
      simp [unpersist, Held.getOwn, Act.get_apply, bind, EStateM.bind, pure, EStateM.pure, hs]
    have housed := houses_append hs id
    have kept : (Storage.del host (start ++ id)).Keeps
        (World.Follows R (fun key => ¬Houses s.own.home key) fun key =>
          ¬Houses s.own.home key) :=
      Storage.del_keeps hh (fun away => away housed) fun away => away housed
    rw [Act.after_congr step, Held.inWorld, Act.after_zoom]
    exact ⟨rfl, kept s.world⟩

theorem persist_keeps [IsPreorder ω R] (hh : host.Keeps R) (r : RetryRecord) :
    (persist host r).Keeps (Follows R) := by
  intro s
  cases hs : s.own.home with
  | none =>
    have done : persist host r s = .ok () s := by
      simp [persist, Held.getOwn, Act.get_apply, bind, EStateM.bind, pure, EStateM.pure, hs]
    rw [Act.after_of_ok done]
    exact refl_of (Follows R) s
  | some start =>
    have step : persist host r s =
        Held.inWorld (Storage.save host (start ++ r.messageId) r.toJson) s := by
      simp [persist, Held.getOwn, Act.get_apply, bind, EStateM.bind, pure, EStateM.pure, hs]
    have housed := houses_append hs r.messageId
    have kept : (Storage.save host (start ++ r.messageId) r.toJson).Keeps
        (World.Follows R (fun key => ¬Houses s.own.home key) fun key =>
          ¬Houses s.own.home key) :=
      Storage.save_keeps hh (fun away => away housed) _
    rw [Act.after_congr step, Held.inWorld, Act.after_zoom]
    exact ⟨rfl, kept s.world⟩

theorem enqueueInFlight_keeps [IsPreorder ω R] (hh : host.Keeps R) (r : RetryRecord) :
    (enqueueInFlight host r).Keeps (Follows R) := by
  intro s
  have kept := persist_keeps hh { r with inFlight := true } s
  cases h : persist host { r with inFlight := true } s with
  | ok _ t =>
    have done :
        enqueueInFlight host r s = .ok () ⟨t.own.put { r with inFlight := true }, t.world⟩ :=
      Act.bind_of_ok h
    rw [Act.after_of_ok h] at kept
    rw [Act.after_of_ok done]
    exact ⟨kept.home, kept.world⟩
  | error e t =>
    have refused : enqueueInFlight host r s = .error e t := Act.bind_eq_error.mpr (.inl h)
    rw [Act.after_of_error h] at kept
    rw [Act.after_of_error refused]
    exact kept

theorem remove_keeps [IsPreorder ω R] (hh : host.Keeps R) (id : String) :
    (remove host id).Keeps (Follows R) := by
  intro s
  cases hs : s.own.get? id with
  | none =>
    have done : remove host id s = .ok none s := by
      simp [remove, Held.getOwn, Act.get_apply, bind, EStateM.bind, pure, EStateM.pure, hs]
    rw [Act.after_of_ok done]
    exact refl_of (Follows R) s
  | some record =>
    have step : remove host id s =
        (do unpersist host id; return some record) ⟨s.own.drop id, s.world⟩ := by
      simp [remove, Held.getOwn, Held.setOwn, Act.get_apply, Act.modify_apply, bind, EStateM.bind,
        pure, EStateM.pure, hs]
    have dropped : Follows R s ⟨s.own.drop id, s.world⟩ :=
      ⟨rfl, refl_of (World.Follows R _ _) s.world⟩
    rw [Act.after_congr step]
    exact trans_of (Follows R) dropped
      (((unpersist_keeps hh id).bind fun _ => Act.Keeps.pure _) ⟨s.own.drop id, s.world⟩)

section Proceeds

/-- The host goes on, whatever becomes of the table and the documents. -/
def Proceeds (R : ω → ω → Prop) (s t : Held RetryQueue ω) : Prop := R s.world.host t.world.host

variable [IsPreorder ω R]

instance : IsPreorder (Held RetryQueue ω) (Proceeds R) where
  refl s := refl_of R s.world.host
  trans _ _ _ h h' := trans_of R h h'

theorem getOwn_proceeds :
    (Held.getOwn : Act (Held RetryQueue ω) RetryQueue).Keeps (Proceeds R) :=
  Act.Keeps.get.bind fun _ => .pure _

theorem setOwn_proceeds (q : RetryQueue) :
    (Held.setOwn q : Act (Held RetryQueue ω) Unit).Keeps (Proceeds R) :=
  .modify fun s => refl_of R s.world.host

theorem remove_proceeds (hh : host.Keeps R) (id : String) :
    (remove host id).Keeps (Proceeds R) :=
  fun s => (remove_keeps hh id s).world.host

theorem failed_proceeds (hh : host.Keeps R) (r : RetryRecord) (error : String) (now : Nat) :
    (failed host r error now).Keeps (Proceeds R) := by
  have waits : ∀ config attempt, (backoff host config attempt).Keeps
      (World.Follows R (fun _ => True) fun _ => True) := by
    intro config attempt
    exact .ite (.pure _) ((World.below_keeps hh _).bind fun _ => .pure _)
  refine getOwn_proceeds.bind fun q => .ite (.pure _) ?_
  have delayed : (Held.inWorld (backoff host q.config (r.attemptCount + 1)) :
      Act (Held RetryQueue ω) Nat).Keeps (Proceeds R) :=
    (waits q.config (r.attemptCount + 1)).zoom fun _ _ h => h.host
  exact delayed.bind fun _ => .pure _

theorem recordFailure_proceeds (hh : host.Keeps R) (id error : String) (now : Nat) :
    (recordFailure host id error now).Keeps (Proceeds R) := by
  have written : ∀ r, (persist host r).Keeps (Proceeds R) :=
    fun r s => (persist_keeps hh r s).world.host
  refine getOwn_proceeds.bind fun q => ?_
  cases q.get? id with
  | none => exact .pure _
  | some r =>
    refine (failed_proceeds hh r error now).bind fun r' => getOwn_proceeds.bind fun q' => ?_
    exact (setOwn_proceeds _).bind fun _ => (written r').bind fun _ => .pure _

theorem purge_proceeds (hh : host.Keeps R) (now : Nat) : (purge host now).Keeps (Proceeds R) := by
  have deleted : ∀ id, (unpersist host id).Keeps (Proceeds R) :=
    fun id s => (unpersist_keeps hh id s).world.host
  refine getOwn_proceeds.bind fun q => (setOwn_proceeds _).bind fun _ => ?_
  exact (Act.Keeps.forM deleted _).bind fun _ => .pure _

end Proceeds

theorem restore_keeps [IsPreorder ω R] {kept lasting : String → Prop} (hh : host.Keeps R)
    (config : RetryConfig) (home : String) :
    (restore host config home).Keeps (World.Follows R kept lasting) := by
  have read : ∀ key, (readRecord host key).Keeps (World.Follows R kept lasting) := by
    intro key
    refine (Storage.get_keeps hh key).bind fun text => ?_
    cases text <;> exact Act.Keeps.pure _
  exact (Storage.list_keeps hh home).bind fun keys => (Act.Keeps.mapM read keys).bind fun _ =>
    Act.Keeps.pure _

end Fanout.RetryQueue
