import Fanout.Proofs.Rehearsal.Stage
import Fanout.Proofs.SenderKey.Memory

namespace Fanout

theorem DeviceFlags.markAll_append (flags : DeviceFlags) (devices devices' : List Jid) :
    flags.markAll (devices ++ devices') = (flags.markAll devices).markAll devices' := by
  simp [markAll, Dict.insertAll, List.foldl_append]

namespace SenderKeyMemory

variable {ω : Type} {host : Host ω} {s t : Held SenderKeyMemory ω} {group : Jid}

/-- What changes the flags of a group once it goes through. -/
inductive Deed where
  | marked (group : Jid) (devices : List Jid)
  | reset (group : Jid)

/-- The devices that were marked for a group since its last reset. The latest deed stands first. -/
def holders (group : Jid) : List Deed → List Jid
  | [] => []
  | .marked other devices :: past =>
    if other = group then holders group past ++ devices else holders group past
  | .reset other :: past => if other = group then [] else holders group past

/-- The life of a memory over a store that has no flags at first, with all that went through in it,
the latest first. It may be opened anew, and the rest of the world goes on meanwhile. -/
inductive Run (host : Host ω) : List Deed → Held SenderKeyMemory ω → Prop
  | start {w : World ω} (bare : ∀ group, w.documents.find? (key group) = none) :
    Run host [] ⟨∅, w⟩
  | missing {past : List Deed} {s : Held SenderKeyMemory ω} (run : Run host past s) (group : Jid)
    (devices : List Jid) : Run host past ((missing host group devices).after s)
  | snapshot {past : List Deed} {s : Held SenderKeyMemory ω} (run : Run host past s) (group : Jid) :
    Run host past ((flags host group).after s)
  | marked {past : List Deed} {s t : Held SenderKeyMemory ω} {group : Jid} {devices : List Jid}
    (run : Run host past s) (done : mark host group devices s = .ok () t) :
    Run host (.marked group devices :: past) t
  | markFailed {past : List Deed} {s t : Held SenderKeyMemory ω} {group : Jid} {devices : List Jid}
    {e : Error} (run : Run host past s) (failed : mark host group devices s = .error e t) :
    Run host past t
  | reset {past : List Deed} {s t : Held SenderKeyMemory ω} {group : Jid} (run : Run host past s)
    (done : reset host group s = .ok () t) : Run host (.reset group :: past) t
  | resetFailed {past : List Deed} {s t : Held SenderKeyMemory ω} {group : Jid} {e : Error}
    (run : Run host past s) (failed : reset host group s = .error e t) : Run host past t
  | reopened {past : List Deed} {s : Held SenderKeyMemory ω} (run : Run host past s) :
    Run host past ⟨∅, s.world⟩
  | aside {past : List Deed} {s : Held SenderKeyMemory ω} {w : World ω} (run : Run host past s)
    (away : ∀ group, w.documents.find? (key group) = s.world.documents.find? (key group)) :
    Run host past ⟨s.own, w⟩

/-- A look at a group finds that some devices are flagged and no others, and fails only if the store
refuses it. -/
structure Tells (host : Host ω) (s : Held SenderKeyMemory ω) (group : Jid) (devices : List Jid) :
    Prop where
  snapshot : ∀ seen t, flags host group s = .ok seen t →
    ∀ name, seen.find? name = if name ∈ devices.map Jid.encode then some true else none
  missing : ∀ asked found t, missing host group asked s = .ok found t →
    found = asked.filter (· ∉ devices)
  unseen : ∀ e t, flags host group s = .error e t →
    (host.refuses (.get (key group)) s.world.host).1 = some e
  unanswered : ∀ asked e t, SenderKeyMemory.missing host group asked s = .error e t →
    (host.refuses (.get (key group)) s.world.host).1 = some e

/-- The flags of each group stand for the devices marked since its last reset, and what was looked
at before is what the store keeps. -/
structure Holds (past : List Deed) (s : Held SenderKeyMemory ω) : Prop where
  coherent : Coherent s.own s.world.documents
  snapshot : ∀ group,
    snapshot? s.own s.world.documents group = some (DeviceFlags.markAll ∅ (holders group past))

variable {past : List Deed}

theorem Holds.of_steady {R : ω → ω → Prop} (h : Holds past s) (steady : Steady R s t) :
    Holds past t :=
  ⟨steady.coherent h.coherent, fun group => (steady.snapshot group).trans (h.snapshot group)⟩

theorem Holds.start {w : World ω} (bare : ∀ group, w.documents.find? (key group) = none) :
    Holds [] (⟨∅, w⟩ : Held SenderKeyMemory ω) := by
  refine ⟨fun group flags looked => (nomatch looked), fun group => ?_⟩
  exact stored?_of_none (bare group)

theorem Holds.marked {R : ω → ω → Prop} {devices : List Jid} (h : Holds past s)
    (marks : Marks R group devices s t) : Holds (.marked group devices :: past) t := by
  refine ⟨marks.coherent h.coherent, fun other => ?_⟩
  by_cases same : group = other
  · subst same
    rw [marks.marked, h.snapshot, holders, if_pos rfl, DeviceFlags.markAll_append]
    rfl
  · rw [marks.others other (Ne.symm same), h.snapshot, holders, if_neg same]

theorem Holds.cleared {R : ω → ω → Prop} (h : Holds past s) (clears : Clears R group s t) :
    Holds (.reset group :: past) t := by
  refine ⟨clears.coherent h.coherent, fun other => ?_⟩
  by_cases same : group = other
  · subst same
    rw [clears.cleared, holders, if_pos rfl]
    rfl
  · rw [clears.others other (Ne.symm same), h.snapshot, holders, if_neg same]

/-- All that a memory knows is in the store too. -/
theorem Holds.stored (h : Holds past s) (group : Jid) :
    stored? s.world.documents group = some (DeviceFlags.markAll ∅ (holders group past)) :=
  (snapshot?_eq_stored? h.coherent group).symm.trans (h.snapshot group)

theorem Holds.reopened (h : Holds past s) (w : World ω)
    (same : ∀ group, w.documents.find? (key group) = s.world.documents.find? (key group)) :
    Holds past (⟨∅, w⟩ : Held SenderKeyMemory ω) := by
  refine ⟨fun group flags looked => (nomatch looked), fun group => ?_⟩
  exact (stored?_congr (same group)).trans (h.stored group)

theorem Holds.aside (h : Holds past s) {w : World ω}
    (away : ∀ group, w.documents.find? (key group) = s.world.documents.find? (key group)) :
    Holds past (⟨s.own, w⟩ : Held SenderKeyMemory ω) := by
  refine ⟨fun group flags looked => ?_, fun group => ?_⟩
  · exact (stored?_congr (away group)).trans (h.coherent group flags looked)
  · exact (snapshot?_congr s.own (away group)).trans (h.snapshot group)

theorem Run.holds (run : Run host past s) : Holds past s := by
  have any := host.keeps_true
  -- A reset that is refused has forgotten the flags by then, but the store still has the same ones.
  induction run with
  | start bare => exact .start bare
  | missing run group devices ih => exact ih.of_steady (missing_keeps any group devices _)
  | snapshot run group ih => exact ih.of_steady (flags_keeps any group _)
  | marked run done ih => exact ih.marked (mark_eq_ok any done)
  | markFailed run failed ih => exact ih.of_steady (mark_eq_error any failed)
  | reset run done ih => exact ih.cleared (reset_eq_ok any done)
  | resetFailed run failed ih => exact ih.of_steady (reset_eq_error any failed ih.coherent)
  | reopened run ih => exact ih.reopened _ fun _ => rfl
  | aside run away ih => exact ih.aside away

theorem Holds.refused (h : Holds past s) {e : Error} (failed : flags host group s = .error e t) :
    (host.refuses (.get (key group)) s.world.host).1 = some e := by
  cases looked : s.own.find? group with
  | some fs =>
    rw [flags_of_some looked] at failed
    cases failed
  | none =>
    obtain ⟨found, peeked, _⟩ := Option.map_eq_some_iff.mp (h.stored group)
    rw [flags_of_none looked] at failed
    split at failed
    next => cases failed
    next e' w unread =>
      cases failed
      exact Storage.refused_of_load_eq_error peeked unread

theorem Holds.tells (h : Holds past s) (group : Jid) :
    Tells host s group (holders group past) where
  snapshot seen t looked name := by
    obtain rfl := Option.some.inj ((flags_eq_ok looked).1.symm.trans (h.snapshot group))
    exact DeviceFlags.find?_markAll ∅ _ name
  missing asked found t looked := by
    obtain ⟨fs, known, _, rfl⟩ := missing_eq_ok looked
    obtain rfl := Option.some.inj (known.symm.trans (h.snapshot group))
    refine List.filter_congr fun jid _ => ?_
    have none_before : ¬DeviceFlags.holds ∅ jid = true := Bool.false_ne_true
    have holds := DeviceFlags.holds_markAll ∅ (holders group past) jid
    rw [or_iff_right none_before] at holds
    rw [Bool.eq_iff_iff]
    simp [← holds]
  unseen _ _ failed := h.refused failed
  unanswered asked e t failed := by
    rcases Act.bind_eq_error.mp failed with unseen | ⟨fs, u, _, answered⟩
    · exact h.refused unseen
    · cases answered

/-- Two memories that tell of the same devices answer alike. -/
theorem Tells.snapshot_eq {u v : Held SenderKeyMemory ω} {devices : List Jid}
    (h : Tells host s group devices) (h' : Tells host t group devices) {seen seen' : DeviceFlags}
    (looked : flags host group s = .ok seen u) (looked' : flags host group t = .ok seen' v) :
    seen = seen' :=
  Dict.ext_find? fun name =>
    (h.snapshot seen u looked name).trans (h'.snapshot seen' v looked' name).symm

theorem Tells.missing_eq {u v : Held SenderKeyMemory ω} {devices asked found found' : List Jid}
    (h : Tells host s group devices) (h' : Tells host t group devices)
    (looked : SenderKeyMemory.missing host group asked s = .ok found u)
    (looked' : SenderKeyMemory.missing host group asked t = .ok found' v) : found = found' :=
  (h.missing asked found u looked).trans (h'.missing asked found' v looked').symm

/-- A memory over the same store that knows nothing yet. -/
def anew (s : Held SenderKeyMemory ω) (now : ω) : Held SenderKeyMemory ω :=
  ⟨∅, ⟨s.world.documents, now⟩⟩

/-- A memory tells of the devices that were marked since the last reset, before and after a mark or
a reset that fails, and a memory that is opened anew answers as it does. -/
theorem tells_since_reset (run : Run host past s) (group : Jid) :
    Tells host s group (holders group past) ∧
      (∀ now, Tells host (anew s now) group (holders group past)) ∧
      (∀ now seen seen' u v, flags host group s = .ok seen u →
        flags host group (anew s now) = .ok seen' v → seen = seen') ∧
      (∀ now asked found found' u v, missing host group asked s = .ok found u →
        missing host group asked (anew s now) = .ok found' v → found = found') ∧
      (∀ other devices e t, mark host other devices s = .error e t →
        Tells host t group (holders group past)) ∧
      ∀ other e t, reset host other s = .error e t →
        Tells host t group (holders group past) := by
  have holds := run.holds
  have live : Tells host s group _ := holds.tells group
  have fresh : ∀ now, Tells host (anew s now) group _ :=
    fun now => (holds.reopened ⟨s.world.documents, now⟩ fun _ => rfl).tells group
  refine ⟨live, fresh, ?_, ?_, ?_, ?_⟩
  · intro now seen seen' u v looked looked'
    exact live.snapshot_eq (fresh now) looked looked'
  · intro now asked found found' u v looked looked'
    exact live.missing_eq (fresh now) looked looked'
  · intro other devices e t failed
    exact (run.markFailed failed).holds.tells group
  · intro other e t failed
    exact (run.resetFailed failed).holds.tells group

/-- Our friend was told the key of the chat, and the disk is full when the chat is reset. -/
theorem chat_tells_of_friend : ∃ s e t, reset Stage.host Stage.chat s = .error e t ∧
    Run Stage.host [.marked Stage.chat [Stage.friend]] t ∧
    Tells Stage.host t Stage.chat [Stage.friend] ∧
    ∀ now, Tells Stage.host (anew t now) Stage.chat [Stage.friend] := by
  have start : Run Stage.host [] ⟨∅, ⟨∅, Stage.opening⟩⟩ := .start fun _ => rfl
  obtain ⟨s, marked⟩ : ∃ s, mark Stage.host Stage.chat [Stage.friend]
      ⟨∅, ⟨∅, Stage.opening⟩⟩ = .ok () s := ⟨_, rfl⟩
  let full : Held SenderKeyMemory Stage :=
    ⟨s.own, ⟨s.world.documents, { Stage.opening with brokenWrites := some "" }⟩⟩
  have before : Run Stage.host _ full := (start.marked marked).aside fun _ => rfl
  obtain ⟨e, t, failed⟩ : ∃ e t, reset Stage.host Stage.chat full = .error e t := ⟨_, _, rfl⟩
  have run : Run Stage.host _ t := before.resetFailed failed
  have known : holders Stage.chat [.marked Stage.chat [Stage.friend]] = [Stage.friend] := by
    rw [holders, if_pos rfl]
    rfl
  obtain ⟨live, fresh, _⟩ := tells_since_reset run Stage.chat
  rw [known] at live fresh
  exact ⟨full, e, t, failed, run, live, fresh⟩

end SenderKeyMemory

end Fanout
