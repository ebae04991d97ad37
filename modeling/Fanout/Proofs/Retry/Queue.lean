import Fanout.Proofs.Retry.Frame
import Fanout.Proofs.Retry.Record
import Fanout.Proofs.Storage

namespace Fanout

variable {ω : Type} {host : Host ω}

theorem RetryConfig.maxAttempts_ne_zero {c : RetryConfig} (h : c.validate = .ok ()) :
    c.maxAttempts ≠ 0 := by
  intro zero
  unfold validate at h
  simp only [zero, if_true] at h
  split at h <;> cases h

namespace RetryQueue

variable {r : RetryRecord} {id : String} {s : Held RetryQueue ω}

/-- The documents once a record is written. -/
def filed (home : Option String) (r : RetryRecord) (d : Documents) : Documents :=
  match home with
  | some start => d.insert (start ++ r.messageId) r.toJson.compact
  | none => d

/-- The documents once the one of an id is deleted. -/
def unfiled (home : Option String) (d : Documents) (id : String) : Documents :=
  match home with
  | some start => d.erase (start ++ id)
  | none => d

theorem find?_filed (home : Option String) (r : RetryRecord) (d : Documents) (key : String) :
    (filed home r d).find? key =
      if home.map (· ++ r.messageId) = some key then some r.toJson.compact else d.find? key := by
  cases home with
  | none => rfl
  | some start => simp [filed, Dict.find?_insert]

theorem find?_unfiled (home : Option String) (d : Documents) (id key : String) :
    (unfiled home d id).find? key =
      if home.map (· ++ id) = some key then none else d.find? key := by
  cases home with
  | none => rfl
  | some start => simp [unfiled, Dict.find?_erase]

theorem filed_other {start other : String} {d : Documents} (ne : r.messageId ≠ other) :
    (filed (some start) r d).find? (start ++ other) = d.find? (start ++ other) := by
  rw [find?_filed, if_neg]
  simpa [String.append_right_inj] using ne

theorem filed_own {start : String} {d : Documents} :
    (filed (some start) r d).find? (start ++ r.messageId) = some r.toJson.compact := by
  rw [find?_filed]
  exact if_pos rfl

theorem unfiled_other {start other : String} {d : Documents} (ne : id ≠ other) :
    (unfiled (some start) d id).find? (start ++ other) = d.find? (start ++ other) := by
  rw [find?_unfiled, if_neg]
  simpa [String.append_right_inj] using ne

theorem unfiled_own {start : String} {d : Documents} :
    (unfiled (some start) d id).find? (start ++ id) = none := by
  rw [find?_unfiled]
  exact if_pos rfl

@[simp] theorem get?_put (q : RetryQueue) (r : RetryRecord) (id : String) :
    (q.put r).get? id = if r.messageId = id then some r else q.get? id :=
  Dict.find?_insert q.records r.messageId id r

@[simp] theorem get?_drop (q : RetryQueue) (gone id : String) :
    (q.drop gone).get? id = if gone = id then none else q.get? id :=
  Dict.find?_erase q.records gone id

/-- Each record stands under its own id. -/
def Keyed (q : RetryQueue) : Prop := ∀ id r, q.get? id = some r → r.messageId = id

theorem Keyed.put {q : RetryQueue} (keyed : q.Keyed) (r : RetryRecord) : (q.put r).Keyed := by
  intro id found h
  rw [get?_put] at h
  split at h
  next same => exact Option.some.inj h ▸ same
  next => exact keyed id found h

theorem Keyed.drop {q : RetryQueue} (keyed : q.Keyed) (gone : String) : (q.drop gone).Keyed := by
  intro id found h
  rw [get?_drop] at h
  split at h
  next => cases h
  next => exact keyed id found h

theorem persist_apply (host : Host ω) (r : RetryRecord) (s : Held RetryQueue ω) :
    persist host r s = match s.own.home with
      | some home => Held.inWorld (Storage.save host (home ++ r.messageId) r.toJson) s
      | none => .ok () s := by
  cases hs : s.own.home <;>
    simp [persist, Held.getOwn, Act.get_apply, bind, EStateM.bind, pure, EStateM.pure, hs]

theorem unpersist_apply (host : Host ω) (id : String) (s : Held RetryQueue ω) :
    unpersist host id s = match s.own.home with
      | some home => Held.inWorld (Storage.del host (home ++ id)) s
      | none => .ok () s := by
  cases hs : s.own.home <;>
    simp [unpersist, Held.getOwn, Act.get_apply, bind, EStateM.bind, pure, EStateM.pure, hs]

/-- Writing a record changes no table, and either its document or nothing. -/
theorem persist_cases (host : Host ω) (r : RetryRecord) (s : Held RetryQueue ω) :
    (∃ w, persist host r s = .ok () ⟨s.own, w⟩ ∧
        w.documents = filed s.own.home r s.world.documents) ∨
      ∃ e w, persist host r s = .error e ⟨s.own, w⟩ ∧ w.documents = s.world.documents ∧
        ¬host.Reliable := by
  rw [persist_apply]
  cases s.own.home with
  | none => exact .inl ⟨s.world, rfl, rfl⟩
  | some home =>
    rcases Storage.put_cases host (home ++ r.messageId) r.toJson.compact s.world with
      ⟨w, h, wrote⟩ | ⟨e, w, h, same, refused⟩
    · exact .inl ⟨w, Act.zoom_eq_ok.mpr ⟨w, h, rfl⟩, wrote⟩
    · exact .inr ⟨e, w, Act.zoom_eq_error.mpr ⟨w, h, rfl⟩, same, refused⟩

theorem unpersist_cases (host : Host ω) (id : String) (s : Held RetryQueue ω) :
    (∃ w, unpersist host id s = .ok () ⟨s.own, w⟩ ∧
        w.documents = unfiled s.own.home s.world.documents id) ∨
      ∃ e w, unpersist host id s = .error e ⟨s.own, w⟩ ∧ w.documents = s.world.documents ∧
        ¬host.Reliable := by
  rw [unpersist_apply]
  cases s.own.home with
  | none => exact .inl ⟨s.world, rfl, rfl⟩
  | some home =>
    rcases Storage.del_cases host (home ++ id) s.world with ⟨w, h, gone⟩ | ⟨e, w, h, same, refused⟩
    · exact .inl ⟨w, Act.zoom_eq_ok.mpr ⟨w, h, rfl⟩, gone⟩
    · exact .inr ⟨e, w, Act.zoom_eq_error.mpr ⟨w, h, rfl⟩, same, refused⟩

theorem enqueueInFlight_cases (host : Host ω) (r : RetryRecord) (s : Held RetryQueue ω) :
    (∃ w, enqueueInFlight host r s = .ok () ⟨s.own.put { r with inFlight := true }, w⟩ ∧
        w.documents = filed s.own.home r s.world.documents) ∨
      ∃ e w, enqueueInFlight host r s = .error e ⟨s.own, w⟩ ∧ w.documents = s.world.documents ∧
        ¬host.Reliable := by
  rcases persist_cases host { r with inFlight := true } s with
    ⟨w, h, wrote⟩ | ⟨e, w, h, same, refused⟩
  · exact .inl ⟨w, Act.bind_of_ok h, wrote⟩
  · exact .inr ⟨e, w, Act.bind_eq_error.mpr (.inl h), same, refused⟩

theorem enqueueInFlight_eq_ok {t : Held RetryQueue ω} (h : enqueueInFlight host r s = .ok () t) :
    t.own = s.own.put { r with inFlight := true } ∧
      t.world.documents = filed s.own.home r s.world.documents := by
  rcases enqueueInFlight_cases host r s with ⟨w, h', wrote⟩ | ⟨e, w, h', _⟩ <;> rw [h'] at h <;>
    cases h
  exact ⟨rfl, wrote⟩

theorem remove_of_none (h : s.own.get? id = none) : remove host id s = .ok none s := by
  simp [remove, Held.getOwn, Act.get_apply, bind, EStateM.bind, pure, EStateM.pure, h]

/-- A record that is removed is gone from the table even where its document stays. -/
theorem remove_of_some (host : Host ω) (h : s.own.get? id = some r) :
    (∃ w, remove host id s = .ok (some r) ⟨s.own.drop id, w⟩ ∧
        w.documents = unfiled s.own.home s.world.documents id) ∨
      ∃ e w, remove host id s = .error e ⟨s.own.drop id, w⟩ ∧ w.documents = s.world.documents ∧
        ¬host.Reliable := by
  have step : remove host id s =
      (do unpersist host id; return some r) ⟨s.own.drop id, s.world⟩ := by
    simp [remove, Held.getOwn, Held.setOwn, Act.get_apply, Act.modify_apply, bind, EStateM.bind,
      pure, EStateM.pure, h]
  rw [step]
  rcases unpersist_cases host id ⟨s.own.drop id, s.world⟩ with
    ⟨w, h, gone⟩ | ⟨e, w, h, same, refused⟩
  · exact .inl ⟨w, Act.bind_of_ok h, gone⟩
  · exact .inr ⟨e, w, Act.bind_eq_error.mpr (.inl h), same, refused⟩

theorem own_after_remove (host : Host ω) (id : String) (s : Held RetryQueue ω) :
    ((remove host id).after s).own = s.own.drop id := by
  cases found : s.own.get? id with
  | none =>
    rw [Act.after_of_ok (remove_of_none found)]
    have same : s.own.records = s.own.records.erase id := by
      refine Dict.ext_find? fun other => ?_
      rw [Dict.find?_erase]
      split
      next here => exact here ▸ found
      next => rfl
    rw [drop, ← same]
  | some r =>
    rcases remove_of_some host found with ⟨w, h, _⟩ | ⟨e, w, h, _⟩
    · rw [Act.after_of_ok h]
    · rw [Act.after_of_error h]

theorem get?_after_remove (host : Host ω) (id other : String) (s : Held RetryQueue ω) :
    ((remove host id).after s).own.get? other = if id = other then none else s.own.get? other := by
  rw [own_after_remove, get?_drop]

/-- One more failed attempt: the record is given up once there were as many as allowed, and waits
for a delay in its range before. -/
inductive Fails (config : RetryConfig) (error : String) (now : Nat) (r : RetryRecord) :
    RetryRecord → Prop
  | givenUp (spent : config.maxAttempts.toNat ≤ r.attemptCount + 1) :
    Fails config error now r { r with
      inFlight := false, attemptCount := r.attemptCount + 1, errors := r.errors ++ [error]
      state := .inactive, inactiveSince := some now }
  | delayed (left : r.attemptCount + 1 < config.maxAttempts.toNat) (delay : Nat)
    (allowed : config.allowsDelay (r.attemptCount + 1) delay = true) :
    Fails config error now r { r with
      inFlight := false, attemptCount := r.attemptCount + 1, errors := r.errors ++ [error]
      delayMs := delay, nextAttemptAt := now + delay }

section Fails

variable {config : RetryConfig} {error : String} {now : Nat} {r r' : RetryRecord}

theorem Fails.messageId (fails : Fails config error now r r') : r'.messageId = r.messageId := by
  cases fails <;> rfl

theorem Fails.inFlight (fails : Fails config error now r r') : r'.inFlight = false := by
  cases fails <;> rfl

/-- Whoever was delivering the record, the failure is booked the same. -/
theorem Fails.of_inFlight {taken : Bool}
    (fails : Fails config error now { r with inFlight := taken } r') :
    Fails config error now r r' := by
  cases fails with
  | givenUp spent => exact .givenUp (r := r) spent
  | delayed left delay allowed => exact .delayed (r := r) left delay allowed

theorem Fails.attemptCount (fails : Fails config error now r r') :
    r'.attemptCount = r.attemptCount + 1 := by
  cases fails <;> rfl

end Fails

theorem backoff_apply (host : Host ω) (config : RetryConfig) (attempt : Nat) (w : World ω) :
    ∃ delay w', backoff host config attempt w = .ok delay w' ∧ w'.documents = w.documents ∧
      config.allowsDelay attempt delay = true := by
  cases bound : config.jitterBound (config.baseBackoff attempt) with
  | zero =>
    refine ⟨config.baseBackoff attempt, w, by simp [backoff, bound, Act.pure_apply], rfl, ?_⟩
    simp [RetryConfig.allowsDelay]
  | succ n =>
    have drawn : World.below host (n + 1 + 1) w =
        .ok ((host.noise w.host).1 % (n + 1 + 1)) { w with host := (host.noise w.host).2 } := rfl
    have small : (host.noise w.host).1 % (n + 1 + 1) < n + 1 + 1 := Nat.mod_lt _ (by omega)
    refine ⟨config.baseBackoff attempt + (host.noise w.host).1 % (n + 1 + 1),
      { w with host := (host.noise w.host).2 }, ?_, rfl, ?_⟩
    · simp only [backoff, bound, Nat.succ_ne_zero, if_false]
      exact Act.bind_of_ok drawn
    · simp only [RetryConfig.allowsDelay, bound, decide_eq_true_eq]
      omega

theorem failed_apply (host : Host ω) (r : RetryRecord) (error : String) (now : Nat)
    (s : Held RetryQueue ω) : ∃ r' w, failed host r error now s = .ok r' ⟨s.own, w⟩ ∧
      w.documents = s.world.documents ∧ Fails s.own.config error now r r' := by
  by_cases spent : s.own.config.maxAttempts.toNat ≤ r.attemptCount + 1
  · refine ⟨_, s.world, ?_, rfl, .givenUp spent⟩
    simp [failed, Held.getOwn, Act.get_apply, bind, EStateM.bind, pure, EStateM.pure, spent]
  · obtain ⟨delay, w, h, same, allowed⟩ :=
      backoff_apply host s.own.config (r.attemptCount + 1) s.world
    refine ⟨_, w, ?_, same, .delayed (by omega) delay allowed⟩
    simp [failed, Held.getOwn, Held.inWorld, Act.zoom, Act.get_apply, bind, EStateM.bind, pure,
      EStateM.pure, spent, h]

theorem recordFailure_of_none {error : String} {now : Nat} (h : s.own.get? id = none) :
    recordFailure host id error now s = .ok none s := by
  simp [recordFailure, Held.getOwn, Act.get_apply, bind, EStateM.bind, pure, EStateM.pure, h]

/-- A failed attempt is booked in the table even where its document stays as it was. -/
theorem recordFailure_of_failed {error : String} {now : Nat} {r' : RetryRecord} {v : World ω}
    (h : s.own.get? id = some r) (hr : failed host r error now s = .ok r' ⟨s.own, v⟩) :
    (∃ w, recordFailure host id error now s = .ok (some r'.state) ⟨s.own.put r', w⟩ ∧
        w.documents = filed s.own.home r' v.documents) ∨
      ∃ e w, recordFailure host id error now s = .error e ⟨s.own.put r', w⟩ ∧
        w.documents = v.documents ∧ ¬host.Reliable := by
  have step : recordFailure host id error now s =
      (do persist host r'; return some r'.state) ⟨s.own.put r', v⟩ := by
    simp [recordFailure, Held.getOwn, Held.setOwn, Act.get_apply, Act.modify_apply, bind,
      EStateM.bind, pure, EStateM.pure, h, hr]
  rw [step]
  rcases persist_cases host r' ⟨s.own.put r', v⟩ with ⟨w, h, wrote⟩ | ⟨e, w, h, same, refused⟩
  · exact .inl ⟨w, Act.bind_of_ok h, wrote⟩
  · exact .inr ⟨e, w, Act.bind_eq_error.mpr (.inl h), same, refused⟩

theorem recordFailure_of_some (host : Host ω) (error : String) (now : Nat)
    (h : s.own.get? id = some r) : ∃ r', Fails s.own.config error now r r' ∧
    ((∃ w, recordFailure host id error now s = .ok (some r'.state) ⟨s.own.put r', w⟩ ∧
        w.documents = filed s.own.home r' s.world.documents) ∨
      ∃ e w, recordFailure host id error now s = .error e ⟨s.own.put r', w⟩ ∧
        w.documents = s.world.documents ∧ ¬host.Reliable) := by
  obtain ⟨r', v, hr, kept, fails⟩ := failed_apply host r error now s
  refine ⟨r', fails, ?_⟩
  rw [← kept]
  exact recordFailure_of_failed h hr

theorem own_after_recordFailure (host : Host ω) (error : String) (now : Nat)
    (h : s.own.get? id = some r) : ∃ r', Fails s.own.config error now r r' ∧
      ((recordFailure host id error now).after s).own = s.own.put r' := by
  obtain ⟨r', fails, ⟨w, h, _⟩ | ⟨e, w, h, _⟩⟩ := recordFailure_of_some host error now h
  · exact ⟨r', fails, by rw [Act.after_of_ok h]⟩
  · exact ⟨r', fails, by rw [Act.after_of_error h]⟩

/-- Deletions stop at the first that fails. -/
theorem forM_unpersist (host : Host ω) (ids : List String) (s : Held RetryQueue ω) :
    (∃ w, (ids.forM (unpersist host) : Act _ _) s = .ok ⟨⟩ ⟨s.own, w⟩ ∧
        w.documents = ids.foldl (unfiled s.own.home) s.world.documents) ∨
      ∃ e w gone, (ids.forM (unpersist host) : Act _ _) s = .error e ⟨s.own, w⟩ ∧ gone <+: ids ∧
        w.documents = gone.foldl (unfiled s.own.home) s.world.documents ∧ ¬host.Reliable := by
  induction ids generalizing s with
  | nil => exact .inl ⟨s.world, rfl, rfl⟩
  | cons id ids ih =>
    have step : ((id :: ids).forM (unpersist host) : Act _ _) s =
        (unpersist host id >>= fun _ => ids.forM (unpersist host)) s := rfl
    rw [step]
    rcases unpersist_cases host id s with ⟨v, h, gone⟩ | ⟨e, w, h, same, refused⟩
    · rcases ih ⟨s.own, v⟩ with ⟨w, hr, rest⟩ | ⟨e, w, some, hr, part, rest, refused⟩
      · refine .inl ⟨w, (Act.bind_of_ok h).trans hr, ?_⟩
        rw [rest, List.foldl_cons, gone]
      · refine .inr ⟨e, w, id :: some, (Act.bind_of_ok h).trans hr, ?_, ?_, refused⟩
        · exact List.prefix_cons_inj id |>.mpr part
        · rw [rest, List.foldl_cons, gone]
    · exact .inr ⟨e, w, [], Act.bind_eq_error.mpr (.inl h), List.nil_prefix, same, refused⟩

theorem mem_due {q : RetryQueue} (keyed : q.Keyed) {now : Nat} {id : String} :
    id ∈ q.due now ↔ ∃ r, q.get? id = some r ∧ r.isDue now = true := by
  simp only [due, List.mem_map, List.mem_mergeSort, List.mem_filter, Dict.mem_values_iff]
  constructor
  · rintro ⟨r, ⟨⟨key, found⟩, due⟩, rfl⟩
    obtain rfl := keyed key r found
    exact ⟨r, found, due⟩
  · rintro ⟨r, found, due⟩
    exact ⟨r, ⟨⟨id, found⟩, due⟩, keyed id r found⟩

theorem nodup_due {q : RetryQueue} (keyed : q.Keyed) (now : Nat) : (q.due now).Nodup := by
  have names : q.records.values.map (·.messageId) = q.records.keys := by
    rw [Dict.values, Dict.keys, List.map_map]
    exact List.map_congr_left fun e he => keyed e.1 e.2 (Dict.find?_eq_some_iff.mpr he)
  have distinct : (q.records.values.map (·.messageId)).Nodup := names ▸ q.records.nodup_keys
  have some_of : ((q.records.values.filter fun r => r.isDue now).map (·.messageId)).Nodup :=
    distinct.sublist (List.filter_sublist.map _)
  exact (List.mergeSort_perm _ _ |>.map _).nodup_iff.mpr some_of

/-- The table without the records that were given up long ago. -/
def fresh (q : RetryQueue) (now : Nat) : RetryQueue :=
  { q with records := q.records.filter fun _ r => !q.isExpired now r }

theorem get?_fresh (q : RetryQueue) (now : Nat) (id : String) :
    (q.fresh now).get? id = (q.get? id).filter fun r => !q.isExpired now r :=
  Dict.find?_filter

/-- The ids of the records that were given up long ago. -/
def expired (q : RetryQueue) (now : Nat) : List String :=
  (q.records.values.filter fun r => q.isExpired now r).map (·.messageId)

theorem mem_expired {q : RetryQueue} (keyed : q.Keyed) {now : Nat} :
    id ∈ q.expired now ↔ ∃ r, q.get? id = some r ∧ q.isExpired now r = true := by
  simp only [expired, List.mem_map, List.mem_filter, Dict.mem_values_iff]
  constructor
  · rintro ⟨r, ⟨⟨key, found⟩, old⟩, rfl⟩
    obtain rfl := keyed key r found
    exact ⟨r, found, old⟩
  · rintro ⟨r, found, old⟩
    exact ⟨r, ⟨⟨id, found⟩, old⟩, keyed id r found⟩

theorem Keyed.fresh {q : RetryQueue} (keyed : q.Keyed) (now : Nat) : (q.fresh now).Keyed := by
  intro id r h
  rw [get?_fresh, Option.filter_eq_some_iff] at h
  exact keyed id r h.1

theorem find?_foldl_unfiled (start : String) (ids : List String) (d : Documents) (id : String) :
    (ids.foldl (unfiled (some start)) d).find? (start ++ id) =
      if id ∈ ids then none else d.find? (start ++ id) := by
  induction ids generalizing d with
  | nil => simp
  | cons gone ids ih =>
    rw [List.foldl_cons, ih, find?_unfiled]
    by_cases same : gone = id
    · simp [same]
    · simp [same, Ne.symm same, String.append_right_inj]

theorem purge_cases (host : Host ω) (now : Nat) (s : Held RetryQueue ω) :
    (∃ w, purge host now s = .ok (s.own.expired now).length ⟨s.own.fresh now, w⟩ ∧
        w.documents = (s.own.expired now).foldl (unfiled s.own.home) s.world.documents) ∨
      ∃ e w gone, purge host now s = .error e ⟨s.own.fresh now, w⟩ ∧ gone <+: s.own.expired now ∧
        w.documents = gone.foldl (unfiled s.own.home) s.world.documents ∧ ¬host.Reliable := by
  have step : purge host now s = (do
      (s.own.expired now).forM (unpersist host)
      return (s.own.expired now).length) ⟨s.own.fresh now, s.world⟩ := rfl
  rw [step]
  rcases forM_unpersist host (s.own.expired now) ⟨s.own.fresh now, s.world⟩ with
    ⟨w, h, gone⟩ | ⟨e, w, some, h, part, gone, refused⟩
  · exact .inl ⟨w, Act.bind_of_ok h, gone⟩
  · exact .inr ⟨e, w, some, Act.bind_eq_error.mpr (.inl h), part, gone, refused⟩

theorem own_after_purge (host : Host ω) (now : Nat) (s : Held RetryQueue ω) :
    ((purge host now).after s).own = s.own.fresh now := by
  rcases purge_cases host now s with ⟨w, h, _⟩ | ⟨e, w, _, h, _⟩
  · rw [Act.after_of_ok h]
  · rw [Act.after_of_error h]

/-- A queue stays where it is at home. -/
def Stays (s t : Held RetryQueue ω) : Prop := t.own.home = s.own.home

theorem remove_stays (host : Host ω) (id : String) : (remove host id).Keeps Stays := by
  intro s
  cases found : s.own.get? id with
  | none =>
    rw [Act.after_of_ok (remove_of_none found)]
    rfl
  | some r =>
    rcases remove_of_some host found with ⟨w, h, _⟩ | ⟨e, w, h, _⟩
    · rw [Act.after_of_ok h]
      rfl
    · rw [Act.after_of_error h]
      rfl

theorem recordFailure_stays (host : Host ω) (id error : String) (now : Nat) :
    (recordFailure host id error now).Keeps Stays := by
  intro s
  cases found : s.own.get? id with
  | none =>
    rw [Act.after_of_ok (recordFailure_of_none found)]
    rfl
  | some r =>
    obtain ⟨r', _, own⟩ := own_after_recordFailure host error now found
    rw [Stays, own]
    rfl

theorem purge_stays (host : Host ω) (now : Nat) : (purge host now).Keeps Stays := by
  intro s
  rw [Stays, own_after_purge]
  rfl

theorem claim_home (q : RetryQueue) (id : String) (now : Nat) :
    (q.claim id now).2.home = q.home := by
  unfold claim
  split
  · rfl
  · split <;> rfl

/-- The record that a document gives, if there is one that can be read. -/
def recordAt? (d : Documents) (key : String) : Option RetryRecord :=
  (d.find? key).bind RetryRecord.ofText?

theorem readRecord_eq_ok {key : String} {w w' : World ω} {found : Option RetryRecord}
    (h : readRecord host key w = .ok found w') :
    found = recordAt? w.documents key ∧ w'.documents = w.documents := by
  obtain ⟨text, u, hg, h⟩ := Act.bind_eq_ok.mp h
  obtain ⟨allowed, read⟩ := Storage.get_eq_ok.mp hg
  obtain ⟨_, rfl⟩ := Storage.allow_eq_ok.mp allowed
  rw [recordAt?, read]
  cases text <;> cases h <;> exact ⟨rfl, rfl⟩

theorem mapM_readRecord_eq_ok {keys : List String} {w w' : World ω}
    {found : List (Option RetryRecord)} (h : keys.mapM (readRecord host) w = .ok found w') :
    found = keys.map (recordAt? w.documents) ∧ w'.documents = w.documents := by
  induction keys generalizing w found with
  | nil =>
    cases h
    exact ⟨rfl, rfl⟩
  | cons key keys ih =>
    obtain ⟨first, u, rest, hf, hr, rfl⟩ := Act.mapM_cons_eq_ok.mp h
    obtain ⟨rfl, same⟩ := readRecord_eq_ok hf
    obtain ⟨rfl, same'⟩ := ih hr
    rw [same] at same' ⊢
    exact ⟨rfl, same'⟩

variable {config : RetryConfig} {home : String} {w w' : World ω} {q : RetryQueue}

/-- The records that the documents at a home give. -/
def recordsFrom (home : String) (d : Documents) : List RetryRecord :=
  (Storage.keysFrom home d).filterMap (recordAt? d)

theorem mem_recordsFrom {d : Documents} :
    r ∈ recordsFrom home d ↔
      ∃ key, Storage.startsWith home key = true ∧ recordAt? d key = some r := by
  simp only [recordsFrom, List.mem_filterMap, Storage.mem_keysFrom]
  constructor
  · rintro ⟨key, ⟨housed, _⟩, read⟩
    exact ⟨key, housed, read⟩
  · rintro ⟨key, housed, read⟩
    obtain ⟨text, found, _⟩ := Option.bind_eq_some_iff.mp read
    exact ⟨key, ⟨housed, text, found⟩, read⟩

theorem restore_eq_ok (h : restore host config home w = .ok q w') :
    q.config = config ∧ q.home = some home ∧ w'.documents = w.documents ∧
      q.records = .ofList ((recordsFrom home w.documents).map fun r => (r.messageId, r)) := by
  obtain ⟨keys, u, hl, h⟩ := Act.bind_eq_ok.mp h
  obtain ⟨found, v, hm, h⟩ := Act.bind_eq_ok.mp h
  obtain ⟨_, u', ha, hl⟩ := Act.bind_eq_ok.mp hl
  obtain ⟨_, rfl⟩ := Storage.allow_eq_ok.mp ha
  cases hl
  obtain ⟨rfl, same⟩ := mapM_readRecord_eq_ok hm
  cases h
  refine ⟨rfl, rfl, same, ?_⟩
  simp only [List.filterMap_map, Function.id_comp]
  rfl

/-- A restored record comes from a document, though maybe from one under another key. -/
theorem restore_get? (h : restore host config home w = .ok q w') (id : String) :
    (q.get? id = none ↔ ∀ r ∈ recordsFrom home w.documents, r.messageId ≠ id) ∧
      ∀ r, q.get? id = some r → r ∈ recordsFrom home w.documents ∧ r.messageId = id := by
  obtain ⟨_, _, _, records⟩ := restore_eq_ok h
  have listed : ∀ r, (id, r) ∈ (recordsFrom home w.documents).map (fun r => (r.messageId, r)) ↔
      r ∈ recordsFrom home w.documents ∧ r.messageId = id := by
    intro r
    simp only [List.mem_map, Prod.mk.injEq]
    exact ⟨fun ⟨_, mem, same, eq⟩ => eq ▸ ⟨mem, same⟩, fun ⟨mem, same⟩ => ⟨r, mem, same, rfl⟩⟩
  rw [get?, records]
  refine ⟨?_, fun r found => (listed r).mp (Dict.mem_of_find?_ofList found)⟩
  rw [Dict.find?_ofList_eq_none_iff]
  simp only [listed, not_and, ne_eq]

theorem readRecord_of_reads (reads : host.Reads) (key : String) (w : World ω) :
    ∃ found w', readRecord host key w = .ok found w' := by
  have allowed := Storage.allow_eq_ok.mpr ⟨reads.get key w.host, rfl⟩
  have read := Storage.get_eq_ok.mpr ⟨allowed, rfl⟩
  rw [readRecord, Act.bind_of_ok read]
  cases w.documents.find? key with
  | none => exact ⟨none, _, rfl⟩
  | some text => exact ⟨_, _, rfl⟩

theorem restore_of_reads (reads : host.Reads) (config : RetryConfig) (home : String)
    (w : World ω) : ∃ q w', restore host config home w = .ok q w' := by
  have allowed := Storage.allow_eq_ok.mpr ⟨reads.list home w.host, rfl⟩
  have listed : Storage.list host home w = .ok (Storage.keysFrom home w.documents)
      { w with host := (host.refuses (.list home) w.host).2 } := Act.bind_of_ok allowed
  obtain ⟨found, v, read⟩ := Act.mapM_ok (readRecord_of_reads reads)
    (Storage.keysFrom home w.documents) _
  exact ⟨_, v, (Act.bind_of_ok listed).trans (Act.bind_of_ok read)⟩

end RetryQueue

end Fanout
