import Fanout.Proofs.Retry.Queue
import Fanout.Proofs.World.Reading

namespace Fanout.RetryQueue

variable {ω : Type} {host : Host ω}

/-- The text of a record with an id. -/
def IsText (id text : String) : Prop :=
  ∃ r : RetryRecord, r.messageId = id ∧ text = r.toJson.compact

/-- Each document is as it was, or it is at home and is gone or the text of a record with its id. -/
def Refiles (home : Option String) (v w : Documents) : Prop :=
  ∀ key, w.find? key = v.find? key ∨ ∃ start id, home = some start ∧ key = start ++ id ∧
    ∀ text, w.find? key = some text → IsText id text

variable {home : Option String} {v w : Documents}

instance : IsPreorder Documents (Refiles home) where
  refl _ _ := .inl rfl
  trans _ _ _ h h' key := by
    rcases h' key with same | filed
    · rw [same]
      exact h key
    · exact .inr filed

theorem refiles_filed (home : Option String) (r : RetryRecord) (d : Documents) :
    Refiles home d (filed home r d) := by
  intro key
  by_cases here : home.map (· ++ r.messageId) = some key
  · obtain ⟨start, there, rfl⟩ := Option.map_eq_some_iff.mp here
    refine .inr ⟨start, r.messageId, there, rfl, fun text found => ?_⟩
    rw [find?_filed, if_pos here] at found
    exact ⟨r, rfl, (Option.some.inj found).symm⟩
  · left
    rw [find?_filed, if_neg here]

theorem refiles_unfiled (home : Option String) (d : Documents) (id : String) :
    Refiles home d (unfiled home d id) := by
  intro key
  by_cases here : home.map (· ++ id) = some key
  · obtain ⟨start, there, rfl⟩ := Option.map_eq_some_iff.mp here
    refine .inr ⟨start, id, there, rfl, fun text found => ?_⟩
    rw [find?_unfiled, if_pos here] at found
    cases found
  · left
    rw [find?_unfiled, if_neg here]

theorem refiles_foldl_unfiled (home : Option String) (ids : List String) (d : Documents) :
    Refiles home d (ids.foldl (unfiled home) d) := by
  induction ids generalizing d with
  | nil => exact refl_of (Refiles home) d
  | cons id ids ih => exact trans_of (Refiles home) (refiles_unfiled home d id) (ih _)

/-- A queue stays at its home and changes documents only by filing records there. -/
structure Tends (s t : Held RetryQueue ω) : Prop where
  home : t.own.home = s.own.home
  documents : Refiles s.own.home s.world.documents t.world.documents

instance : IsPreorder (Held RetryQueue ω) Tends where
  refl s := ⟨rfl, refl_of (Refiles s.own.home) _⟩
  trans s _ _ h h' :=
    ⟨h'.home.trans h.home, trans_of (Refiles s.own.home) h.documents (h.home ▸ h'.documents)⟩

variable {s : Held RetryQueue ω}

theorem Tends.of_same {q : RetryQueue} {w : World ω} (home : q.home = s.own.home)
    (same : w.documents = s.world.documents) : Tends s ⟨q, w⟩ :=
  ⟨home, fun _ => .inl (by rw [same])⟩

theorem enqueueInFlight_tends (host : Host ω) (r : RetryRecord) :
    (enqueueInFlight host r).Keeps Tends := by
  intro s
  rcases enqueueInFlight_cases host r s with ⟨w, h, wrote⟩ | ⟨e, w, h, same, _⟩
  · rw [Act.after_of_ok h]
    exact ⟨rfl, wrote ▸ refiles_filed s.own.home r s.world.documents⟩
  · rw [Act.after_of_error h]
    exact .of_same rfl same

theorem remove_tends (host : Host ω) (id : String) : (remove host id).Keeps Tends := by
  intro s
  cases found : s.own.get? id with
  | none =>
    rw [Act.after_of_ok (remove_of_none found)]
    exact refl_of Tends s
  | some r =>
    rcases remove_of_some host found with ⟨w, h, wrote⟩ | ⟨e, w, h, same, _⟩
    · rw [Act.after_of_ok h]
      exact ⟨rfl, wrote ▸ refiles_unfiled s.own.home s.world.documents id⟩
    · rw [Act.after_of_error h]
      exact .of_same rfl same

theorem recordFailure_tends (host : Host ω) (id error : String) (now : Nat) :
    (recordFailure host id error now).Keeps Tends := by
  intro s
  cases found : s.own.get? id with
  | none =>
    rw [Act.after_of_ok (recordFailure_of_none found)]
    exact refl_of Tends s
  | some r =>
    obtain ⟨r', _, ⟨w, h, wrote⟩ | ⟨e, w, h, same, _⟩⟩ :=
      recordFailure_of_some host error now found
    · rw [Act.after_of_ok h]
      exact ⟨rfl, wrote ▸ refiles_filed s.own.home r' s.world.documents⟩
    · rw [Act.after_of_error h]
      exact .of_same rfl same

theorem purge_tends (host : Host ω) (now : Nat) : (purge host now).Keeps Tends := by
  intro s
  rcases purge_cases host now s with ⟨w, h, wrote⟩ | ⟨e, w, gone, h, _, wrote, _⟩
  · rw [Act.after_of_ok h]
    exact ⟨rfl, wrote ▸ refiles_foldl_unfiled s.own.home _ s.world.documents⟩
  · rw [Act.after_of_error h]
    exact ⟨rfl, wrote ▸ refiles_foldl_unfiled s.own.home gone s.world.documents⟩

theorem readRecord_alike {d d' : Documents} {s : ω} {key : String}
    (same : d'.find? key = d.find? key) : Alike (readRecord host key) d d' s := by
  refine (Alike.get same).bind fun text t _ => ?_
  cases text <;> exact .pure _

/-- A queue is restored from the documents at its home alone. -/
theorem restore_alike {config : RetryConfig} {start : String} {d d' : Documents} {s : ω}
    (same : ∀ key, Storage.startsWith start key = true → d'.find? key = d.find? key) :
    Alike (restore host config start) d d' s := by
  refine (Alike.list same).bind fun keys t listed => ?_
  have housed : ∀ key ∈ keys, Storage.startsWith start key = true := by
    obtain ⟨_, u, _, h⟩ := Act.bind_eq_ok.mp listed
    cases h
    exact fun key mem => (Storage.mem_keysFrom.mp mem).1
  refine (Alike.mapM fun key mem t => readRecord_alike (same key (housed key mem))).bind ?_
  exact fun found _ _ => .pure _

end Fanout.RetryQueue
