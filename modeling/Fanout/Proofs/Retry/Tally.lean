import Fanout.Proofs.Retry.Isolation

namespace Fanout

/-- As many attempts, and given up or not alike. -/
structure RetryRecord.Agrees (r r' : RetryRecord) : Prop where
  attemptCount : r'.attemptCount = r.attemptCount
  state : r'.state = r.state

namespace RetryQueue

variable {ω : Type} {host : Host ω} {s t : Held RetryQueue ω} {r r' : RetryRecord} {id : String}

/-- The store gives an id at its own place only, and there what the table holds. -/
def Tracks (id : String) (s : Held RetryQueue ω) : Prop :=
  ∀ key r, Gives s id key r →
    s.own.home.map (· ++ id) = some key ∧ ∃ r', s.own.get? id = some r' ∧ r'.Agrees r

structure Sound (id : String) (s : Held RetryQueue ω) : Prop where
  keyed : s.own.Keyed
  tracks : Tracks id s

/-- The record of an id is the one before or it is gone. -/
structure Retained (id : String) (s t : Held RetryQueue ω) : Prop where
  sound : Sound id t
  home : t.own.home = s.own.home
  config : t.own.config = s.own.config
  table : ∀ r', t.own.get? id = some r' → ∃ r, s.own.get? id = some r ∧ r.Agrees r'

def Retains (id : String) (s t : Held RetryQueue ω) : Prop := Sound id s → Retained id s t

instance : IsPreorder (Held RetryQueue ω) (Retains id) where
  refl _ sound := ⟨sound, rfl, rfl, fun r found => ⟨r, found, rfl, rfl⟩⟩
  trans s t u h h' sound := by
    obtain ⟨sound', home, config, table⟩ := h sound
    obtain ⟨sound'', home', config', table'⟩ := h' sound'
    refine ⟨sound'', home'.trans home, config'.trans config, fun r'' found'' => ?_⟩
    obtain ⟨r', found', agrees'⟩ := table' r'' found''
    obtain ⟨r, found, agrees⟩ := table r' found'
    exact ⟨r, found, agrees'.attemptCount.trans agrees.attemptCount,
      agrees'.state.trans agrees.state⟩

theorem Spares.retains (h : Spares id s t) : Retains id s t := by
  intro sound
  refine ⟨⟨h.keyed sound.keyed, fun key r given => ?_⟩, h.home, h.config, fun r' found => ?_⟩
  · rw [h.home, h.table]
    exact sound.tracks key r (h.gives key r given)
  · exact ⟨r', h.table ▸ found, rfl, rfl⟩

/-- A place without a document gives nothing. -/
theorem Sound.of_erased {q : RetryQueue} {w : World ω} (sound : Sound id s) (keyed : q.Keyed)
    (home : q.home = s.own.home)
    (erased : ∀ key, s.own.home.map (· ++ id) = some key → w.documents.find? key = none)
    (others : ∀ key r, recordAt? w.documents key = some r →
      recordAt? s.world.documents key = some r) : Sound id ⟨q, w⟩ := by
  refine ⟨keyed, fun key r given => ?_⟩
  have before : Gives s id key r := by
    refine ⟨?_, others key r given.read, given.messageId⟩
    rw [← home]
    exact given.housed
  have place := (sound.tracks key r before).1
  have read := given.read
  rw [recordAt?, erased key place] at read
  cases read

theorem remove_retains (reliable : host.Reliable) (gone : String) :
    (remove host gone).Keeps (Retains id) := by
  intro s
  by_cases same : gone = id
  · subst same
    cases found : s.own.get? gone with
    | none =>
      rw [Act.after_of_ok (remove_of_none found)]
      exact refl_of (Retains gone) s
    | some r =>
      rcases remove_of_some host found with ⟨w, h, wrote⟩ | ⟨_, _, _, _, refused⟩
      · rw [Act.after_of_ok h]
        intro sound
        refine ⟨sound.of_erased (sound.keyed.drop gone) rfl (fun key place => ?_)
          fun key r read => ?_, rfl, rfl, fun r' found => ?_⟩
        · rw [wrote, find?_unfiled, if_pos place]
        · rw [wrote] at read
          exact recordAt?_unfiled read
        · rw [get?_drop, if_pos rfl] at found
          cases found
      · exact absurd reliable refused
  · exact (remove_spares same s).retains

theorem claim_retains (claimed : String) (now : Nat) (s : Held RetryQueue ω) :
    Retains id s ⟨(s.own.claim claimed now).2, s.world⟩ := by
  intro sound
  by_cases same : claimed = id
  · subst same
    cases found : s.own.get? claimed with
    | none =>
      rw [claim, found]
      exact refl_of (Retains claimed) s sound
    | some r =>
      by_cases due : r.isDue now = true
      · have key := sound.keyed claimed r found
        have taken : (s.own.put { r with inFlight := true }).get? claimed =
            some { r with inFlight := true } := (get?_put _ _ _).trans (if_pos key)
        simp only [claim, found, due, if_true]
        refine ⟨⟨sound.keyed.put _, fun place r' given => ?_⟩, rfl, rfl, fun r' there => ?_⟩
        · obtain ⟨own, r₀, found₀, agrees⟩ :=
            sound.tracks place r' ⟨given.housed, given.read, given.messageId⟩
          obtain rfl := Option.some.inj (found.symm.trans found₀)
          exact ⟨own, _, taken, agrees.attemptCount, agrees.state⟩
        · obtain rfl := Option.some.inj (taken.symm.trans there)
          exact ⟨r, found, rfl, rfl⟩
      · simp only [claim, found, due]
        exact refl_of (Retains claimed) s sound
  · exact (claim_spares sound.keyed same).retains sound

theorem purge_retains (reliable : host.Reliable) (now : Nat) :
    (purge host now).Keeps (Retains id) := by
  intro s sound
  rcases purge_cases host now s with ⟨w, h, wrote⟩ | ⟨_, _, _, _, _, _, refused⟩
  · rw [Act.after_of_ok h]
    have before : ∀ key r, recordAt? w.documents key = some r →
        recordAt? s.world.documents key = some r := by
      intro key r read
      rw [wrote] at read
      exact recordAt?_foldl_unfiled read
    refine ⟨⟨sound.keyed.fresh now, fun key r given => ?_⟩, rfl, rfl, fun r' found => ?_⟩
    · have given' : Gives s id key r := ⟨given.housed, before key r given.read, given.messageId⟩
      obtain ⟨place, r', found, agrees⟩ := sound.tracks key r given'
      refine ⟨place, r', ?_, agrees⟩
      rw [get?_fresh, found, Option.filter_eq_some_iff]
      refine ⟨rfl, ?_⟩
      -- The document of a record that is dropped here would be deleted.
      by_contra old
      have listed : id ∈ s.own.expired now :=
        (mem_expired sound.keyed).mpr ⟨r', found, by simpa using old⟩
      obtain ⟨start, home, rfl⟩ := Option.map_eq_some_iff.mp place
      have read := given.read
      rw [recordAt?, wrote, home, find?_foldl_unfiled, if_pos listed] at read
      cases read
    · rw [get?_fresh, Option.filter_eq_some_iff] at found
      exact ⟨r', found.1, rfl, rfl⟩
  · exact absurd reliable refused

/-- What a record that is put into the table is written to. -/
theorem Sound.filed {w : World ω} {stored : RetryRecord} (sound : Sound id s)
    (key : r.messageId = id) (same : stored.messageId = id) (agrees : r.Agrees stored)
    (wrote : w.documents = filed s.own.home stored s.world.documents) :
    Sound id ⟨s.own.put r, w⟩ := by
  refine ⟨sound.keyed.put r, fun at_ found given => ?_⟩
  have there : (s.own.put r).get? id = some r := (get?_put _ _ _).trans (if_pos key)
  have read := given.read
  rw [recordAt?, wrote, find?_filed, same] at read
  split at read
  next place =>
    rw [Option.bind_some] at read
    obtain ⟨message, rfl⟩ := RetryRecord.eq_of_ofText?_compact read
    exact ⟨place, r, there, agrees.attemptCount, agrees.state⟩
  next away =>
    obtain ⟨place, _⟩ := sound.tracks at_ found ⟨given.housed, read, given.messageId⟩
    exact absurd place away

theorem enqueueInFlight_sound (h : enqueueInFlight host r s = .ok () t) (key : r.messageId = id)
    (sound : Sound id s) : Sound id t := by
  obtain ⟨own, wrote⟩ := enqueueInFlight_eq_ok h
  obtain ⟨q, w⟩ := t
  obtain rfl : q = s.own.put { r with inFlight := true } := own
  exact sound.filed key key ⟨rfl, rfl⟩ wrote

theorem recordFailure_sound (reliable : host.Reliable) (error : String) (now : Nat)
    (sound : Sound id s) (found : s.own.get? id = some r) :
    ∃ r', Fails s.own.config error now r r' ∧
      ((recordFailure host id error now).after s).own = s.own.put r' ∧
      Sound id ((recordFailure host id error now).after s) := by
  obtain ⟨r', fails, ⟨w, h, wrote⟩ | ⟨_, _, _, _, refused⟩⟩ :=
    recordFailure_of_some host error now found
  · have key : r'.messageId = id := fails.messageId.trans (sound.keyed id r found)
    refine ⟨r', fails, ?_⟩
    rw [Act.after_of_ok h]
    exact ⟨rfl, sound.filed key key ⟨rfl, rfl⟩ wrote⟩
  · exact absurd reliable refused

/-- What is restored is what was there, as far as it can be read. -/
theorem restore_retained {config : RetryConfig} {home : String} {w w' : World ω} {q : RetryQueue}
    (h : restore host config home w = .ok q w') (documents : w.documents = s.world.documents)
    (at_home : s.own.home = some home) (same : s.own.config = config) :
    Retains id s ⟨q, w'⟩ := by
  intro sound
  obtain ⟨config', home', kept, _⟩ := restore_eq_ok h
  obtain ⟨absent, present⟩ := restore_get? h id
  have given : ∀ r, (∃ key, Storage.startsWith home key = true ∧
      recordAt? w.documents key = some r) → r.messageId = id → ∃ key, Gives s id key r := by
    rintro r ⟨key, housed, read⟩ named
    exact ⟨key, ⟨home, at_home, housed⟩, documents ▸ read, named⟩
  have origin : ∀ r', q.get? id = some r' → ∃ r, s.own.get? id = some r ∧ r.Agrees r' := by
    intro r' found
    obtain ⟨mem, named⟩ := present r' found
    obtain ⟨key, given⟩ := given r' (mem_recordsFrom.mp mem) named
    exact (sound.tracks key r' given).2
  refine ⟨⟨fun other r found => ((restore_get? h other).2 r found).2, fun key r giving => ?_⟩,
    home'.trans at_home.symm, config'.trans same.symm, origin⟩
  obtain ⟨start, start_eq, housed⟩ := giving.housed
  have giving' : Gives s id key r := by
    refine ⟨⟨start, ?_, housed⟩, ?_, giving.messageId⟩
    · exact at_home.trans (home'.symm.trans start_eq)
    · rw [← documents, ← kept]
      exact giving.read
  obtain ⟨place, r₀, found₀, agrees⟩ := sound.tracks key r giving'
  refine ⟨?_, ?_⟩
  · rw [← place, at_home]
    exact congrArg (Option.map _) home'
  · cases found : q.get? id with
    | none =>
      obtain rfl : home = start := Option.some.inj (home'.symm.trans start_eq)
      have mem : r ∈ recordsFrom home w.documents :=
        mem_recordsFrom.mpr ⟨key, housed, kept ▸ giving.read⟩
      exact absurd giving.messageId (absent.mp found r mem)
    | some r' =>
      obtain ⟨r₁, found₁, agrees₁⟩ := origin r' found
      obtain rfl := Option.some.inj (found₀.symm.trans found₁)
      exact ⟨r', rfl, agrees.attemptCount.trans agrees₁.attemptCount.symm,
        agrees.state.trans agrees₁.state.symm⟩

end RetryQueue

end Fanout
