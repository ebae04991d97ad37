import Fanout.Proofs.Retry.Isolation

namespace Fanout.RetryQueue

variable {ω : Type} {host : Host ω} {s t : Held RetryQueue ω} {r : RetryRecord} {id : String}
  {ids : List String}

/-- A stretch of the life of a queue, through failures and restarts, and the ids that were put into
it, the latest first. -/
inductive Stretch (host : Host ω) (s : Held RetryQueue ω) : List String → Held RetryQueue ω → Prop
  | start : Stretch host s [] s
  | enqueued {ids : List String} {t u : Held RetryQueue ω} {r : RetryRecord}
    (before : Stretch host s ids t) (h : enqueueInFlight host r t = .ok () u) :
    Stretch host s (r.messageId :: ids) u
  | refused {ids : List String} {t u : Held RetryQueue ω} {r : RetryRecord} {e : Error}
    (before : Stretch host s ids t) (h : enqueueInFlight host r t = .error e u) :
    Stretch host s ids u
  | claimed {ids : List String} {t : Held RetryQueue ω} (before : Stretch host s ids t)
    (id : String) (now : Nat) : Stretch host s ids ⟨(t.own.claim id now).2, t.world⟩
  | failed {ids : List String} {t : Held RetryQueue ω} (before : Stretch host s ids t)
    (id error : String) (now : Nat) :
    Stretch host s ids ((recordFailure host id error now).after t)
  | removed {ids : List String} {t : Held RetryQueue ω} (before : Stretch host s ids t)
    (id : String) : Stretch host s ids ((remove host id).after t)
  | purged {ids : List String} {t : Held RetryQueue ω} (before : Stretch host s ids t)
    (now : Nat) : Stretch host s ids ((purge host now).after t)
  | restored {ids : List String} {t : Held RetryQueue ω} (before : Stretch host s ids t)
    {config : RetryConfig} {home : String} {w w' : World ω} {q : RetryQueue}
    (at_home : t.own.home = some home) (documents : w.documents = t.world.documents)
    (h : restore host config home w = .ok q w') : Stretch host s ids ⟨q, w'⟩
  | aside {ids : List String} {t u : Held RetryQueue ω} (before : Stretch host s ids t)
    (still : Still t u) : Stretch host s ids u

theorem Stretch.append {later : List String} {u : Held RetryQueue ω} (h : Stretch host s ids t)
    (h' : Stretch host t later u) : Stretch host s (later ++ ids) u := by
  induction h' with
  | start => exact h
  | enqueued _ put ih => exact ih.enqueued put
  | refused _ put ih => exact ih.refused put
  | claimed _ id now ih => exact ih.claimed id now
  | failed _ id error now ih => exact ih.failed id error now
  | removed _ id ih => exact ih.removed id
  | purged _ now ih => exact ih.purged now
  | restored _ at_home documents h ih => exact ih.restored at_home documents h
  | aside _ still ih => exact ih.aside still

/-- The store gives each record at its own place only. -/
structure Placed (s : Held RetryQueue ω) : Prop where
  keyed : s.own.Keyed
  own : ∀ key r, Houses s.own.home key → recordAt? s.world.documents key = some r →
    s.own.home.map (· ++ r.messageId) = some key

theorem recordAt?_filed_cases {home : Option String} {d : Documents} {key : String}
    {found : RetryRecord} (h : recordAt? (filed home r d) key = some found) :
    home.map (· ++ found.messageId) = some key ∨ recordAt? d key = some found := by
  rw [recordAt?, find?_filed] at h
  split at h
  next place =>
    rw [Option.bind_some] at h
    obtain ⟨message, rfl⟩ := RetryRecord.eq_of_ofText?_compact h
    exact .inl place
  next => exact .inr h

theorem Placed.of_documents {q : RetryQueue} {w : World ω} (placed : Placed s)
    (home : q.home = s.own.home) (keyed : q.Keyed)
    (h : ∀ key found, Houses s.own.home key → recordAt? w.documents key = some found →
      s.own.home.map (· ++ found.messageId) = some key ∨
        recordAt? s.world.documents key = some found) : Placed ⟨q, w⟩ := by
  refine ⟨keyed, fun key found housed read => ?_⟩
  change Houses q.home key at housed
  change q.home.map _ = _
  rw [home] at housed ⊢
  exact (h key found housed read).elim (·) (placed.own key found housed)

theorem Placed.still (placed : Placed s) (h : Still s t) : Placed t := by
  obtain ⟨q, w⟩ := t
  obtain rfl : q = s.own := h.own
  refine placed.of_documents rfl placed.keyed fun key found housed read => .inr ?_
  rw [recordAt?, ← h.documents key housed]
  exact read

theorem Placed.enqueued (placed : Placed s) (h : enqueueInFlight host r s = .ok () t) :
    Placed t := by
  obtain ⟨own, wrote⟩ := enqueueInFlight_eq_ok h
  obtain ⟨q, w⟩ := t
  obtain rfl : q = s.own.put { r with inFlight := true } := own
  refine placed.of_documents rfl (placed.keyed.put _) fun key found _ read => ?_
  rw [show w.documents = _ from wrote] at read
  exact recordAt?_filed_cases read

theorem still_of_refused {e : Error} (h : enqueueInFlight host r s = .error e t) : Still s t := by
  rcases enqueueInFlight_cases host r s with ⟨w, h', _⟩ | ⟨e', w, h', same, _⟩ <;> rw [h'] at h <;>
    cases h
  exact ⟨rfl, fun _ _ => by rw [same]⟩

theorem Placed.claimed (placed : Placed s) (id : String) (now : Nat) :
    Placed ⟨(s.own.claim id now).2, s.world⟩ := by
  refine placed.of_documents (claim_home s.own id now) ?_ fun _ _ _ read => .inr read
  unfold claim
  split
  · exact placed.keyed
  · split
    · exact placed.keyed.put _
    · exact placed.keyed

theorem Placed.failed (placed : Placed s) (id error : String) (now : Nat) :
    Placed ((recordFailure host id error now).after s) := by
  cases found : s.own.get? id with
  | none =>
    rw [Act.after_of_ok (recordFailure_of_none found)]
    exact placed
  | some r =>
    obtain ⟨r', _, ⟨w, h, wrote⟩ | ⟨e, w, h, same, _⟩⟩ := recordFailure_of_some host error now found
    · rw [Act.after_of_ok h]
      refine placed.of_documents rfl (placed.keyed.put r') fun key found _ read => ?_
      rw [wrote] at read
      exact recordAt?_filed_cases read
    · rw [Act.after_of_error h]
      refine placed.of_documents rfl (placed.keyed.put r') fun key found _ read => .inr ?_
      rwa [same] at read

theorem Placed.removed (placed : Placed s) (id : String) :
    Placed ((remove host id).after s) := by
  cases found : s.own.get? id with
  | none =>
    rw [Act.after_of_ok (remove_of_none found)]
    exact placed
  | some r =>
    rcases remove_of_some host found with ⟨w, h, wrote⟩ | ⟨e, w, h, same, _⟩
    · rw [Act.after_of_ok h]
      refine placed.of_documents rfl (placed.keyed.drop id) fun key found _ read => .inr ?_
      rw [wrote] at read
      exact recordAt?_unfiled read
    · rw [Act.after_of_error h]
      refine placed.of_documents rfl (placed.keyed.drop id) fun key found _ read => .inr ?_
      rwa [same] at read

/-- A purge deletes documents only, also one that fails half-way. -/
theorem recordAt?_after_purge (host : Host ω) (now : Nat) (s : Held RetryQueue ω) {key : String}
    {found : RetryRecord}
    (h : recordAt? ((purge host now).after s).world.documents key = some found) :
    recordAt? s.world.documents key = some found := by
  rcases purge_cases host now s with ⟨w, ends, wrote⟩ | ⟨e, w, gone, ends, _, wrote, _⟩
  · rw [Act.after_of_ok ends, wrote] at h
    exact recordAt?_foldl_unfiled h
  · rw [Act.after_of_error ends, wrote] at h
    exact recordAt?_foldl_unfiled h

theorem Placed.purged (placed : Placed s) (now : Nat) : Placed ((purge host now).after s) := by
  have own := own_after_purge host now s
  refine placed.of_documents (w := ((purge host now).after s).world) (purge_stays host now s)
    (own ▸ placed.keyed.fresh now) fun key found _ read => .inr ?_
  exact recordAt?_after_purge host now s read

theorem Placed.restored {config : RetryConfig} {home : String} {w w' : World ω} {q : RetryQueue}
    (placed : Placed s) (at_home : s.own.home = some home)
    (documents : w.documents = s.world.documents) (h : restore host config home w = .ok q w') :
    Placed ⟨q, w'⟩ := by
  obtain ⟨_, home', kept, _⟩ := restore_eq_ok h
  refine placed.of_documents (home'.trans at_home.symm)
    (fun other r found => ((restore_get? h other).2 r found).2) fun key found _ read => .inr ?_
  rwa [kept, documents] at read

theorem Stretch.placed (run : Stretch host s ids t) (placed : Placed s) : Placed t := by
  induction run with
  | start => exact placed
  | enqueued _ put ih => exact ih.enqueued put
  | refused _ put ih => exact ih.still (still_of_refused put)
  | claimed _ id now ih => exact ih.claimed id now
  | failed _ id error now ih => exact ih.failed id error now
  | removed _ id ih => exact ih.removed id
  | purged _ now ih => exact ih.purged now
  | restored _ at_home documents h ih => exact ih.restored at_home documents h
  | aside _ still ih => exact ih.still still

/-- Neither the table nor the store has a record of an id. -/
structure Gone (id : String) (s : Held RetryQueue ω) : Prop where
  table : s.own.get? id = none
  store : ∀ key r, ¬Gives s id key r

theorem Gone.spared (gone : Gone id s) (h : Spares id s t) : Gone id t :=
  ⟨h.table.trans gone.table, fun key r given => gone.store key r (h.gives key r given)⟩

theorem Gone.claimed (gone : Gone id s) (keyed : s.own.Keyed) (claimed : String) (now : Nat) :
    Gone id ⟨(s.own.claim claimed now).2, s.world⟩ := by
  by_cases same : claimed = id
  · subst same
    rw [claim, gone.table]
    exact gone
  · exact gone.spared (claim_spares keyed same)

theorem Gone.failed (gone : Gone id s) (keyed : s.own.Keyed) (failing error : String) (now : Nat) :
    Gone id ((recordFailure host failing error now).after s) := by
  by_cases same : failing = id
  · subst same
    rw [Act.after_of_ok (recordFailure_of_none gone.table)]
    exact gone
  · exact gone.spared (recordFailure_spares keyed same)

theorem Gone.removed (gone : Gone id s) (removed : String) :
    Gone id ((remove host removed).after s) := by
  by_cases same : removed = id
  · subst same
    rw [Act.after_of_ok (remove_of_none gone.table)]
    exact gone
  · exact gone.spared (remove_spares same s)

theorem Gone.purged (gone : Gone id s) (now : Nat) : Gone id ((purge host now).after s) := by
  refine ⟨?_, fun key r given => gone.store key r ⟨?_, ?_, given.messageId⟩⟩
  · rw [own_after_purge, get?_fresh, gone.table]
    rfl
  · rw [← show ((purge host now).after s).own.home = s.own.home from purge_stays host now s]
    exact given.housed
  · exact recordAt?_after_purge host now s given.read

section Restored

variable {config : RetryConfig} {home : String} {w w' : World ω} {q : RetryQueue}

/-- A restored queue has a record of an id exactly if the store gives one. -/
theorem restored_eq_none_iff (at_home : s.own.home = some home)
    (documents : w.documents = s.world.documents) (h : restore host config home w = .ok q w') :
    q.get? id = none ↔ ∀ key r, ¬Gives s id key r := by
  rw [(restore_get? h id).1]
  constructor
  · rintro absent key r ⟨⟨start, same, housed⟩, read, named⟩
    obtain rfl : home = start := Option.some.inj (at_home.symm.trans same)
    exact absent r (mem_recordsFrom.mpr ⟨key, housed, documents ▸ read⟩) named
  · intro absent r mem named
    obtain ⟨key, housed, read⟩ := mem_recordsFrom.mp mem
    exact absent key r ⟨⟨home, at_home, housed⟩, documents ▸ read, named⟩

theorem Gone.restored (gone : Gone id s) (at_home : s.own.home = some home)
    (documents : w.documents = s.world.documents) (h : restore host config home w = .ok q w') :
    Gone id ⟨q, w'⟩ := by
  obtain ⟨_, home', kept, _⟩ := restore_eq_ok h
  refine ⟨(restored_eq_none_iff at_home documents h).mpr gone.store, fun key r given => ?_⟩
  refine gone.store key r ⟨?_, ?_, given.messageId⟩
  · rw [at_home, ← home']
    exact given.housed
  · rw [← documents, ← kept]
    exact given.read

end Restored

theorem Stretch.stays (run : Stretch host s ids t) : Stays s t := by
  induction run with
  | start => rfl
  | enqueued _ put ih =>
    rw [Stays, (enqueueInFlight_eq_ok put).1]
    exact ih
  | refused _ put ih =>
    rw [Stays, (still_of_refused put).own]
    exact ih
  | claimed _ id now ih => exact (claim_home _ id now).trans ih
  | failed _ id error now ih => exact (recordFailure_stays host id error now _).trans ih
  | removed _ id ih => exact (remove_stays host id _).trans ih
  | purged _ now ih => exact (purge_stays host now _).trans ih
  | restored _ at_home _ h ih => exact (restore_eq_ok h).2.1.trans (at_home.symm.trans ih)
  | aside _ still ih =>
    rw [Stays, still.own]
    exact ih

/-- What is gone comes back with a new record only. -/
theorem Stretch.gone (run : Stretch host s ids t) (placed : Placed s) (gone : Gone id s)
    (apart : id ∉ ids) : Gone id t := by
  induction run with
  | start => exact gone
  | enqueued _ put ih =>
    have ne := List.ne_of_not_mem_cons apart
    exact (ih (List.not_mem_of_not_mem_cons apart)).spared
      ((enqueueInFlight_spares ne.symm).of_ok put)
  | refused _ put ih => exact (ih apart).spared ((still_of_refused put).spares id)
  | claimed before claimed now ih =>
    exact (ih apart).claimed (before.placed placed).keyed claimed now
  | failed before failing error now ih =>
    exact (ih apart).failed (before.placed placed).keyed failing error now
  | removed _ removed ih => exact (ih apart).removed removed
  | purged _ now ih => exact (ih apart).purged now
  | restored _ at_home documents h ih => exact (ih apart).restored at_home documents h
  | aside _ still ih => exact (ih apart).spared (still.spares id)

theorem removed_leaves {found : Option RetryRecord} {home : String}
    (at_home : s.own.home = some home) (placed : Placed s) (h : remove host id s = .ok found t) :
    t.own.home = some home ∧ Placed t ∧ t.own.get? id = none := by
  rw [← Act.after_of_ok h]
  refine ⟨(remove_stays host id s).trans at_home, placed.removed id, ?_⟩
  rw [get?_after_remove, if_pos rfl]

/-- A removal that goes through leaves nothing behind unless there was no record in the table. -/
theorem gone_after_remove_iff {found : Option RetryRecord} (placed : Placed s)
    (h : remove host id s = .ok found t) :
    Gone id t ↔ found.isSome = true ∨ ∀ key r, ¬Gives s id key r := by
  cases there : s.own.get? id with
  | none =>
    rw [remove_of_none there] at h
    cases h
    exact ⟨fun gone => .inr gone.store, fun absent =>
      ⟨there, absent.elim (fun none => (nomatch none)) fun absent => absent⟩⟩
  | some r =>
    rcases remove_of_some host there with ⟨w, h', wrote⟩ | ⟨e, w, h', _⟩ <;> rw [h'] at h <;>
      cases h
    refine ⟨fun _ => .inl rfl, fun _ => ⟨?_, fun key r' given => ?_⟩⟩
    · rw [get?_drop, if_pos rfl]
    · have read := given.read
      have before := recordAt?_unfiled (wrote ▸ read)
      have place := placed.own key r' given.housed before
      rw [given.messageId] at place
      rw [wrote, recordAt?, find?_unfiled, if_pos place] at read
      cases read

/-- A queue restored later has a record of an id that was not put in again. -/
def Returns (host : Host ω) (home id : String) (s : Held RetryQueue ω) : Prop :=
  ∃ ids t config w w' q, Stretch host s ids t ∧ id ∉ ids ∧ w.documents = t.world.documents ∧
    restore host config home w = .ok q w' ∧ q.contains id = true

theorem contains_eq_false_iff {q : RetryQueue} : q.contains id = false ↔ q.get? id = none :=
  Option.isSome_eq_false_iff.trans Option.isNone_iff_eq_none

theorem returns_iff (reads : host.Reads) {home : String} (at_home : s.own.home = some home)
    (placed : Placed s) (absent : s.own.get? id = none) :
    Returns host home id s ↔ ∃ key r, Gives s id key r := by
  constructor
  · rintro ⟨ids, t, config, w, w', q, run, apart, documents, h, back⟩
    by_contra none
    have gone : Gone id s := ⟨absent, fun key r given => none ⟨key, r, given⟩⟩
    have later := (run.gone placed gone apart).restored (run.stays.trans at_home) documents h
    rw [contains_eq_false_iff.mpr later.table] at back
    cases back
  · rintro ⟨key, r, given⟩
    obtain ⟨q, w', h⟩ := restore_of_reads reads s.own.config home s.world
    refine ⟨[], s, s.own.config, s.world, w', q, .start, by simp, rfl, h, ?_⟩
    by_contra missing
    have none := contains_eq_false_iff.mp (by simpa using missing)
    exact (restored_eq_none_iff at_home rfl h).mp none key r given

/-- Each record stands at its own place in the store. -/
def Filed (home : String) (d : Documents) : Prop :=
  ∀ key r, Storage.startsWith home key = true → recordAt? d key = some r → home ++ r.messageId = key

theorem Filed.placed {config : RetryConfig} {home : String} {w w' : World ω} {q : RetryQueue}
    (filed : Filed home w.documents) (h : restore host config home w = .ok q w') :
    Placed ⟨q, w'⟩ := by
  obtain ⟨_, home', kept, _⟩ := restore_eq_ok h
  refine ⟨fun id r found => ((restore_get? h id).2 r found).2, fun key r housed read => ?_⟩
  change Houses q.home key at housed
  change q.home.map _ = _
  obtain ⟨start, same, housed⟩ := housed
  obtain rfl : home = start := Option.some.inj (home'.symm.trans same)
  rw [home', Option.map_some, filed key r housed (kept ▸ read)]

/-- Whether a removal that went through is for good. -/
theorem removed_for_good_iff (reads : host.Reads) {found : Option RetryRecord} {home : String}
    (at_home : s.own.home = some home) (placed : Placed s) (h : remove host id s = .ok found t) :
    ¬Returns host home id t ↔ found.isSome = true ∨ ∀ key r, ¬Gives s id key r := by
  obtain ⟨home', placed', absent⟩ := removed_leaves at_home placed h
  rw [returns_iff reads home' placed' absent, ← gone_after_remove_iff placed h]
  exact ⟨fun none => ⟨absent, fun key r given => none ⟨key, r, given⟩⟩,
    fun gone ⟨key, r, given⟩ => gone.store key r given⟩

end Fanout.RetryQueue
