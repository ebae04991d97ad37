import Fanout.Proofs.Rehearsal.Stage
import Fanout.Proofs.Retry.Queue

namespace Fanout.RetryQueue

variable {ω : Type} {host : Host ω} {config : RetryConfig} {home : Option String}

/-- A call of the queue, with everything that its caller decides. -/
inductive Call where
  | enqueue (id : String) (jid : Jid) (message : Message) (options : RelayOptions) (now : Nat)
  | claim (id : String) (now : Nat)
  | fail (id error : String) (now : Nat)
  | remove (id : String)
  | purge (now : Nat)

/-- The queue after a call, whichever way the call ends. -/
def Call.after (host : Host ω) (s : Held RetryQueue ω) : Call → RetryQueue
  | enqueue id jid message options now =>
    ((enqueueInFlight host (.new id jid message options now)).after s).own
  | claim id now => (s.own.claim id now).2
  | fail id error now => ((recordFailure host id error now).after s).own
  | remove id => ((RetryQueue.remove host id).after s).own
  | purge now => ((RetryQueue.purge host now).after s).own

/-- Whether a call comes back. It comes at a time that a clock can show, and what it adds up fits:
the numbers of a record that is booked, and the times at which a purge finds that records expire. -/
def Call.ComesBack (host : Host ω) (s : Held RetryQueue ω) : Call → Prop
  | enqueue _ _ _ _ now | claim _ now => now < UInt64.size
  | fail id error now => now < UInt64.size ∧
    ∀ r, (Call.after host s (.fail id error now)).get? id = some r → r.Fits
  | remove _ => True
  | purge now => now < UInt64.size ∧ s.own.expiriesFit = true

/-- The queues that calls lead to as long as they come back, the latest call first. What state the
host and the store are in is open anew at each of them. -/
inductive Call.Run (host : Host ω) (config : RetryConfig) (home : Option String) :
    List Call → RetryQueue → Prop
  | start : Call.Run host config home [] ⟨config, home, ∅⟩
  | call {calls q} (before : Call.Run host config home calls q) (call : Call) (w : World ω)
    (back : call.ComesBack host ⟨q, w⟩) :
    Call.Run host config home (call :: calls) (call.after host ⟨q, w⟩)

/-- When an id was last reported as failed. -/
def lastFailure (id : String) (calls : List Call) : Option Nat :=
  calls.findSome? fun
    | .fail failed _ now => if failed = id then some now else none
    | _ => none

/-- How a record stands, given when it last failed. -/
structure Standing (config : RetryConfig) (failure : Option Nat) (r : RetryRecord) : Prop where
  fits : r.Fits
  counted : r.attemptCount = r.errors.length
  spent : r.state = .inactive ↔ config.maxAttempts.toNat ≤ r.attemptCount
  marked : r.state = .inactive ↔ r.inactiveSince.isSome = true
  since : ∀ time, r.inactiveSince = some time → failure = some time
  waits : r.state = .active → 1 ≤ r.attemptCount → ∃ time, failure = some time ∧
    r.nextAttemptAt = time + r.delayMs ∧ config.allowsDelay r.attemptCount r.delayMs = true

section Standing

variable {failure : Option Nat} {r r' : RetryRecord} {error : String} {now : Nat}

theorem Standing.new (allowed : config.maxAttempts ≠ 0) (id : String) (jid : Jid)
    (message : Message) (options : RelayOptions) (shown : now < UInt64.size) :
    Standing config failure
      { RetryRecord.new id jid message options now with inFlight := true } := by
  have positive : config.maxAttempts.toNat ≠ 0 := fun zero => allowed (UInt32.toNat.inj zero)
  refine ⟨(RetryRecord.Fits.new shown id jid message options).taken, rfl, ?_, ?_, fun _ none => (nomatch none), fun _ tried => (nomatch tried)⟩
  · simp [RetryRecord.new, positive]
  · simp [RetryRecord.new]

theorem Standing.claimed (h : Standing config failure r) :
    Standing config failure { r with inFlight := true } :=
  ⟨h.fits.taken, h.counted, h.spent, h.marked, h.since, h.waits⟩

/-- Every failure counts, also of a record that was given up before. -/
theorem Standing.failed (h : Standing config failure r) (fails : Fails config error now r r')
    (fits : r'.Fits) : Standing config (some now) r' := by
  have counted : r.attemptCount + 1 = (r.errors ++ [error]).length := by
    rw [List.length_append, h.counted]
    rfl
  cases fails with
  | givenUp spent =>
    exact ⟨fits, counted, iff_of_true rfl spent, iff_of_true rfl rfl, fun _ => id,
      fun active => (nomatch active)⟩
  | delayed left delay range =>
    have active : r.state ≠ .inactive := fun inactive => by
      have := h.spent.mp inactive
      omega
    have unmarked : r.inactiveSince = none := by
      simpa using fun marked => active (h.marked.mpr marked)
    refine ⟨fits, counted, iff_of_false active (by simpa using left), ?_, fun time marked => ?_,
      fun _ _ => ⟨now, rfl, rfl, range⟩⟩
    · simp [active, unmarked]
    · rw [unmarked] at marked
      cases marked

/-- Only a record that was given up can be expired. -/
theorem Standing.isExpired_iff (h : Standing config failure r) {q : RetryQueue} :
    q.isExpired now r = true ↔ r.state = .inactive ∧
      ∃ since, r.inactiveSince = some since ∧ since + q.config.inactiveTtlMs.toNat ≤ now := by
  simp only [isExpired, Option.any_eq_true_iff_get, decide_eq_true_eq, h.marked]
  constructor
  · rintro ⟨marked, old⟩
    exact ⟨marked, _, Option.some_get marked |>.symm, old⟩
  · rintro ⟨marked, since, same, old⟩
    simp only [same, Option.get_some]
    exact ⟨rfl, old⟩

end Standing

/-- The queue after calls, with every record as it should stand. -/
structure Stands (config : RetryConfig) (calls : List Call) (q : RetryQueue) : Prop where
  configured : q.config = config
  keyed : q.Keyed
  records : ∀ id r, q.get? id = some r → Standing config (lastFailure id calls) r

section Stands

variable {calls : List Call} {call : Call} {q q' : RetryQueue} {r : RetryRecord}
  {s : Held RetryQueue ω}

theorem Stands.start : Stands config [] ⟨config, home, ∅⟩ :=
  ⟨rfl, fun _ _ none => (nomatch none), fun _ _ none => (nomatch none)⟩

theorem Stands.put (h : Stands config calls q)
    (standing : Standing config (lastFailure r.messageId calls) r) :
    Stands config calls (q.put r) := by
  refine ⟨h.configured, h.keyed.put r, fun id found there => ?_⟩
  rw [get?_put] at there
  split at there
  next same => exact Option.some.inj there ▸ same ▸ standing
  next => exact h.records id found there

/-- Records may be missing. -/
theorem Stands.fewer (h : Stands config calls q) (same : q'.config = q.config)
    (sub : ∀ id r, q'.get? id = some r → q.get? id = some r) : Stands config calls q' :=
  ⟨same.trans h.configured, fun id r there => h.keyed id r (sub id r there),
    fun id r there => h.records id r (sub id r there)⟩

theorem Stands.unfailed (h : Stands config calls q)
    (same : ∀ id, lastFailure id (call :: calls) = lastFailure id calls) :
    Stands config (call :: calls) q :=
  ⟨h.configured, h.keyed, fun id r there => same id ▸ h.records id r there⟩

theorem Stands.enqueued (h : Stands config calls s.own) (allowed : config.maxAttempts ≠ 0)
    (id : String) (jid : Jid) (message : Message) (options : RelayOptions) {now : Nat}
    (shown : now < UInt64.size) :
    Stands config calls ((enqueueInFlight host (.new id jid message options now)).after s).own := by
  rcases enqueueInFlight_cases host (.new id jid message options now) s with
    ⟨w, done, _⟩ | ⟨e, w, done, _⟩
  · rw [Act.after_of_ok done]
    exact h.put (.new allowed id jid message options shown)
  · rw [Act.after_of_error done]
    exact h

theorem Stands.claimed (h : Stands config calls q) (id : String) (now : Nat) :
    Stands config calls (q.claim id now).2 := by
  unfold claim
  split
  next => exact h
  next r found =>
    split
    · have key := h.keyed id r found
      exact h.put (key ▸ (h.records id r found).claimed)
    · exact h

theorem Stands.removed (h : Stands config calls s.own) (id : String) :
    Stands config calls ((remove host id).after s).own := by
  cases found : s.own.get? id with
  | none =>
    rw [Act.after_of_ok (remove_of_none found)]
    exact h
  | some r =>
    have dropped : Stands config calls (s.own.drop id) := h.fewer rfl fun other r there => by
      rw [get?_drop] at there
      split at there
      next => cases there
      next => exact there
    rcases remove_of_some host found with ⟨w, done, _⟩ | ⟨e, w, done, _⟩
    · rwa [Act.after_of_ok done]
    · rwa [Act.after_of_error done]

theorem Stands.purged (h : Stands config calls s.own) (now : Nat) :
    Stands config calls ((purge host now).after s).own := by
  rw [own_after_purge]
  refine h.fewer rfl fun id r there => ?_
  rw [get?_fresh, Option.filter_eq_some_iff] at there
  exact there.1

theorem Stands.failed (h : Stands config calls s.own) (id error : String) (now : Nat)
    (fit : ∀ r, ((recordFailure host id error now).after s).own.get? id = some r → r.Fits) :
    Stands config (.fail id error now :: calls)
      ((recordFailure host id error now).after s).own := by
  -- Of the records that were there, only that of the id has failed anew.
  have others : ∀ other, id ≠ other →
      lastFailure other (.fail id error now :: calls) = lastFailure other calls := by
    intro other ne
    simp [lastFailure, ne]
  have own : lastFailure id (.fail id error now :: calls) = some now := by simp [lastFailure]
  cases found : s.own.get? id with
  | none =>
    rw [Act.after_of_ok (recordFailure_of_none found)]
    refine ⟨h.configured, h.keyed, fun other r there => ?_⟩
    have ne : id ≠ other := fun same => by
      rw [same, there] at found
      cases found
    exact others other ne ▸ h.records other r there
  | some r =>
    obtain ⟨r', fails, table⟩ := own_after_recordFailure host error now found
    rw [h.configured] at fails
    have key : r'.messageId = id := fails.messageId.trans (h.keyed id r found)
    have fits : r'.Fits := fit r' (by rw [table, get?_put, if_pos key])
    have standing := (h.records id r found).failed fails fits
    rw [table]
    refine ⟨h.configured, h.keyed.put r', fun other found' there => ?_⟩
    rw [get?_put, key] at there
    split at there
    next same =>
      subst same
      obtain rfl := Option.some.inj there
      rwa [own]
    next ne => exact others other ne ▸ h.records other found' there

theorem Stands.step (h : Stands config calls s.own) (allowed : config.maxAttempts ≠ 0)
    (call : Call) (back : call.ComesBack host s) :
    Stands config (call :: calls) (call.after host s) := by
  cases call with
  | enqueue id jid message options now =>
    exact (h.enqueued allowed id jid message options back).unfailed fun _ => rfl
  | claim id now => exact (h.claimed id now).unfailed fun _ => rfl
  | fail id error now => exact h.failed id error now back.2
  | remove id => exact (h.removed id).unfailed fun _ => rfl
  | purge now => exact (h.purged now).unfailed fun _ => rfl

theorem Call.Run.stands (run : Call.Run host config home calls q)
    (allowed : config.maxAttempts ≠ 0) : Stands config calls q := by
  induction run with
  | start => exact .start
  | call _ call w back ih => exact Stands.step (s := ⟨_, w⟩) ih allowed call back

/-- How the records stand after any calls that come back, and which of them a purge would drop that
comes back. -/
theorem Call.Run.lifecycle (run : Call.Run host config home calls q)
    (allowed : config.maxAttempts ≠ 0) :
    (∀ id r, q.get? id = some r → r.messageId = id ∧ Standing config (lastFailure id calls) r) ∧
      ∀ (now : Nat) (w : World ω), Call.ComesBack host ⟨q, w⟩ (.purge now) → ∀ id r,
        ((Call.after host ⟨q, w⟩ (.purge now)).get? id = some r ↔
          q.get? id = some r ∧ ¬(r.state = .inactive ∧
            ∃ since, r.inactiveSince = some since ∧ since + config.inactiveTtlMs.toNat ≤ now)) := by
  have stands := run.stands allowed
  refine ⟨fun id r found => ⟨stands.keyed id r found, stands.records id r found⟩,
    fun now w _ id r => ?_⟩
  have table : Call.after host ⟨q, w⟩ (.purge now) = q.fresh now := own_after_purge host now ⟨q, w⟩
  rw [table, get?_fresh, Option.filter_eq_some_iff, ← stands.configured]
  refine and_congr_right fun found => ?_
  rw [← (stands.records id r found).isExpired_iff, Bool.not_eq_true', Bool.not_eq_true]

end Stands

/-- With a single attempt allowed, a record is given up at its first failure, and a day after that a
purge drops it. -/
theorem lifecycle_of_single_attempt :
    ∃ (q : RetryQueue) (r : RetryRecord),
      Call.Run Stage.smooth { maxAttempts := 1 } none
        [.fail "1" "no" 5, .enqueue "1" Stage.friend (.text "hi") {} 0] q ∧
      q.get? "1" = some r ∧ r.inactiveSince = some 5 ∧
      Standing { maxAttempts := 1 } (some 5) r ∧
      (Call.after Stage.smooth ⟨q, ⟨∅, Stage.opening⟩⟩ (.purge 86400005)).get? "1" ≠ some r := by
  let w : World Stage := ⟨∅, Stage.opening⟩
  let enqueue : Call := .enqueue "1" Stage.friend (.text "hi") {} 0
  have shown : 0 < UInt64.size := Nat.two_pow_pos 64
  have enqueued : Call.Run Stage.smooth { maxAttempts := 1 } none [enqueue] _ :=
    Call.Run.start.call enqueue w shown
  have run := enqueued.call (.fail "1" "no" 5) w <| by
    refine ⟨by decide, fun r found => ?_⟩
    obtain rfl := Option.some.inj found
    refine ⟨by decide, by decide, by decide, fun since marked => ?_, by decide⟩
    obtain rfl := Option.some.inj marked
    decide
  have lifecycle := run.lifecycle (by decide)
  have stands := lifecycle.1 "1" _ rfl
  have purges := lifecycle.2 86400005 w ⟨by decide, by decide⟩ "1"
  refine ⟨_, _, run, rfl, rfl, stands.2, fun kept => ?_⟩
  exact ((purges _).mp kept).2 ⟨rfl, 5, rfl, by decide⟩

end Fanout.RetryQueue
