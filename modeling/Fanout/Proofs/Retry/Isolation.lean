import Fanout.Proofs.Retry.Queue

namespace Fanout.RetryQueue

variable {ω : Type} {host : Host ω} {s t : Held RetryQueue ω} {r : RetryRecord} {id : String}

/-- Neither the table nor a document at its home changes. -/
structure Still (s t : Held RetryQueue ω) : Prop where
  own : t.own = s.own
  documents : ∀ key, Houses s.own.home key →
    t.world.documents.find? key = s.world.documents.find? key

instance : IsPreorder (Held RetryQueue ω) Still where
  refl _ := ⟨rfl, fun _ _ => rfl⟩
  trans _ _ _ h h' := ⟨h'.own.trans h.own, fun key housed =>
    (h'.documents key (h.own ▸ housed)).trans (h.documents key housed)⟩

/-- The store gives, at the home of a queue and under some key, a record of an id. -/
structure Gives (s : Held RetryQueue ω) (id key : String) (r : RetryRecord) : Prop where
  housed : Houses s.own.home key
  read : recordAt? s.world.documents key = some r
  messageId : r.messageId = id

structure Spares (id : String) (s t : Held RetryQueue ω) : Prop where
  home : t.own.home = s.own.home
  config : t.own.config = s.own.config
  keyed : s.own.Keyed → t.own.Keyed
  table : t.own.get? id = s.own.get? id
  gives : ∀ key r, Gives t id key r → Gives s id key r

instance : IsPreorder (Held RetryQueue ω) (Spares id) where
  refl _ := ⟨rfl, rfl, fun keyed => keyed, rfl, fun _ _ given => given⟩
  trans _ _ _ h h' := ⟨h'.home.trans h.home, h'.config.trans h.config, h'.keyed ∘ h.keyed,
    h'.table.trans h.table, fun key r given => h.gives key r (h'.gives key r given)⟩

theorem Still.spares (h : Still s t) (id : String) : Spares id s t := by
  refine ⟨by rw [h.own], by rw [h.own], by rw [h.own]; exact fun keyed => keyed, by rw [h.own],
    fun key r given => ?_⟩
  have housed : Houses s.own.home key := h.own ▸ given.housed
  refine ⟨housed, ?_, given.messageId⟩
  rw [recordAt?, ← h.documents key housed]
  exact given.read

/-- What is written under one id gives no record of another. -/
theorem recordAt?_filed {home : Option String} {d : Documents} {key : String} {found : RetryRecord}
    (ne : r.messageId ≠ found.messageId) (h : recordAt? (filed home r d) key = some found) :
    recordAt? d key = some found := by
  rw [recordAt?, find?_filed] at h
  split at h
  next =>
    rw [Option.bind_some] at h
    obtain ⟨message, same⟩ := RetryRecord.eq_of_ofText?_compact h
    rw [same] at ne
    exact absurd rfl ne
  next => exact h

theorem recordAt?_unfiled {home : Option String} {d : Documents} {gone key : String}
    {found : RetryRecord} (h : recordAt? (unfiled home d gone) key = some found) :
    recordAt? d key = some found := by
  rw [recordAt?, find?_unfiled] at h
  split at h
  next => cases h
  next => exact h

theorem recordAt?_foldl_unfiled {home : Option String} {ids : List String} {d : Documents}
    {key : String} {found : RetryRecord}
    (h : recordAt? (ids.foldl (unfiled home) d) key = some found) :
    recordAt? d key = some found := by
  induction ids generalizing d with
  | nil => exact h
  | cons gone ids ih => exact recordAt?_unfiled (ih h)

theorem spares_of_documents {q : RetryQueue} {w : World ω} (home : q.home = s.own.home)
    (config : q.config = s.own.config) (keyed : s.own.Keyed → q.Keyed)
    (table : q.get? id = s.own.get? id)
    (h : ∀ key found, found.messageId = id → recordAt? w.documents key = some found →
      recordAt? s.world.documents key = some found) : Spares id s ⟨q, w⟩ := by
  refine ⟨home, config, keyed, table, fun key found given => ⟨?_, ?_, given.messageId⟩⟩
  · rw [← home]
    exact given.housed
  · exact h key found given.messageId given.read

theorem enqueueInFlight_spares (ne : r.messageId ≠ id) :
    (enqueueInFlight host r).Keeps (Spares id) := by
  intro s
  rcases enqueueInFlight_cases host r s with ⟨w, h, wrote⟩ | ⟨e, w, h, same, _⟩
  · rw [Act.after_of_ok h]
    refine spares_of_documents rfl rfl (fun keyed => keyed.put _)
      ((get?_put _ _ _).trans (if_neg ne)) fun key found named read => ?_
    rw [wrote] at read
    exact recordAt?_filed (named ▸ ne) read
  · rw [Act.after_of_error h]
    have still : Still s ⟨s.own, w⟩ := ⟨rfl, fun _ _ => by rw [same]⟩
    exact still.spares id

theorem remove_spares {gone : String} (ne : gone ≠ id) :
    (remove host gone).Keeps (Spares id) := by
  intro s
  cases found : s.own.get? gone with
  | none =>
    rw [Act.after_of_ok (remove_of_none found)]
    exact refl_of (Spares id) s
  | some r =>
    have table : (s.own.drop gone).get? id = s.own.get? id := (get?_drop _ _ _).trans (if_neg ne)
    rcases remove_of_some host found with ⟨w, h, wrote⟩ | ⟨e, w, h, same, _⟩
    · rw [Act.after_of_ok h]
      refine spares_of_documents rfl rfl (fun keyed => keyed.drop gone) table
        fun key found named read => ?_
      rw [wrote] at read
      exact recordAt?_unfiled read
    · rw [Act.after_of_error h]
      refine spares_of_documents rfl rfl (fun keyed => keyed.drop gone) table
        fun key found named read => ?_
      rwa [same] at read

theorem recordFailure_spares {failing error : String} {now : Nat} (keyed : s.own.Keyed)
    (ne : failing ≠ id) : Spares id s ((recordFailure host failing error now).after s) := by
  cases found : s.own.get? failing with
  | none =>
    rw [Act.after_of_ok (recordFailure_of_none found)]
    exact refl_of (Spares id) s
  | some r =>
    obtain ⟨r', fails, ends⟩ := recordFailure_of_some host error now found
    have ne' : r'.messageId ≠ id := by
      rw [fails.messageId, keyed failing r found]
      exact ne
    have table : (s.own.put r').get? id = s.own.get? id := (get?_put _ _ _).trans (if_neg ne')
    rcases ends with ⟨w, h, wrote⟩ | ⟨e, w, h, same, _⟩
    · rw [Act.after_of_ok h]
      refine spares_of_documents rfl rfl (fun keyed => keyed.put r') table
        fun key found named read => ?_
      rw [wrote] at read
      exact recordAt?_filed (named ▸ ne') read
    · rw [Act.after_of_error h]
      refine spares_of_documents rfl rfl (fun keyed => keyed.put r') table
        fun key found named read => ?_
      rwa [same] at read

theorem claim_spares {claimed : String} {now : Nat} (keyed : s.own.Keyed) (ne : claimed ≠ id) :
    Spares id s ⟨(s.own.claim claimed now).2, s.world⟩ := by
  cases found : s.own.get? claimed with
  | none =>
    rw [claim, found]
    exact refl_of (Spares id) s
  | some r =>
    by_cases due : r.isDue now = true
    · have ne' : r.messageId ≠ id := by
        rw [keyed claimed r found]
        exact ne
      simp only [claim, found, due, if_true]
      exact spares_of_documents rfl rfl (fun keyed => keyed.put _)
        ((get?_put _ _ _).trans (if_neg ne')) fun _ _ _ read => read
    · simp only [claim, found, due]
      exact refl_of (Spares id) s

end Fanout.RetryQueue
