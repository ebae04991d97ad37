import Fanout.Proofs.Rehearsal.Stage
import Fanout.Proofs.Retry.Queue

namespace Fanout.RetryQueue

variable {ω : Type} {host : Host ω}

/-- A call that a worker makes of the queue. -/
inductive Request where
  | enqueue (r : RetryRecord)
  | due (now : Nat)
  | claim (id : String) (now : Nat)
  | fail (id error : String) (now : Nat)
  | remove (id : String)
  | purge (now : Nat)

/-- The queue after a request, whichever way it ends. -/
def Request.after (host : Host ω) (s : Held RetryQueue ω) : Request → RetryQueue
  | enqueue r => ((enqueueInFlight host r).after s).own
  | due _ => s.own
  | claim id now => (s.own.claim id now).2
  | fail id error now => ((recordFailure host id error now).after s).own
  | remove id => ((RetryQueue.remove host id).after s).own
  | purge now => ((RetryQueue.purge host now).after s).own

/-- One request of one worker, and the queue that it found. -/
structure Turn where
  worker : Nat
  request : Request
  queue : RetryQueue

/-- A claim of an id that succeeds. -/
def Turn.Takes (id : String) (t : Turn) : Prop :=
  ∃ now r, t.request = .claim id now ∧ (t.queue.claim id now).1 = some r

def Turn.Reports (id : String) (t : Turn) : Prop := ∃ error now, t.request = .fail id error now

/-- The turns that workers took on a queue since it was opened, the latest first. What state the
host and the store are in is open anew at each of them. -/
inductive Turns (host : Host ω) : List Turn → RetryQueue → Prop
  | new (config : RetryConfig) : Turns host [] (.new config)
  | restored {config home w w' q} (h : restore host config home w = .ok q w') : Turns host [] q
  | turn {turns q} (before : Turns host turns q) (worker : Nat) (request : Request) (w : World ω) :
    Turns host (⟨worker, request, q⟩ :: turns) (request.after host ⟨q, w⟩)

variable {q : RetryQueue} {r : RetryRecord} {id : String} {now : Nat} {s : Held RetryQueue ω}
  {turns : List Turn}

theorem claim_eq_some (h : (q.claim id now).1 = some r) :
    ∃ found, q.get? id = some found ∧ found.isDue now = true ∧
      (q.claim id now).2 = q.put { found with inFlight := true } := by
  unfold claim at h ⊢
  cases found : q.get? id with
  | none =>
    rw [found] at h
    cases h
  | some there =>
    simp only [found] at h ⊢
    by_cases due : there.isDue now = true
    · refine ⟨there, rfl, due, ?_⟩
      rw [if_pos due]
    · rw [if_neg due] at h
      cases h

theorem claim_of_due (found : q.get? id = some r) (due : r.isDue now = true) :
    q.claim id now = (some { r with inFlight := true }, q.put { r with inFlight := true }) := by
  simp [claim, found, due]

theorem claim_eq_none (h : (q.claim id now).1 = none) : (q.claim id now).2 = q := by
  unfold claim at h ⊢
  split at h
  next => rfl
  next =>
    split at h
    next => cases h
    next idle => rw [if_neg idle]

theorem isSome_claim_iff :
    (q.claim id now).1.isSome = true ↔
      ∃ found, q.get? id = some found ∧ found.isDue now = true := by
  constructor
  · intro taken
    obtain ⟨r, h⟩ := Option.isSome_iff_exists.mp taken
    obtain ⟨found, there, due, _⟩ := claim_eq_some h
    exact ⟨found, there, due⟩
  · rintro ⟨found, there, due⟩
    rw [claim_of_due there due]
    rfl

/-- An enrolment that cannot be written down is none. -/
theorem own_after_enqueueInFlight (host : Host ω) (r : RetryRecord) (s : Held RetryQueue ω) :
    ((enqueueInFlight host r).after s).own = s.own.put { r with inFlight := true } ∨
      ((enqueueInFlight host r).after s).own = s.own := by
  rcases enqueueInFlight_cases host r s with ⟨w, done, _⟩ | ⟨e, w, done, _⟩
  · exact .inl (by rw [Act.after_of_ok done])
  · exact .inr (by rw [Act.after_of_error done])

/-- A record that was put in its own place, marked as taken. -/
theorem Keyed.claimed (keyed : q.Keyed) (id : String) (now : Nat) : (q.claim id now).2.Keyed := by
  cases taken : (q.claim id now).1 with
  | none =>
    rwa [claim_eq_none taken]
  | some r =>
    obtain ⟨found, _, _, put⟩ := claim_eq_some taken
    rw [put]
    exact keyed.put _

/-- All that a request can make of a queue. -/
inductive Request.Yields (q : RetryQueue) : Request → RetryQueue → Prop
  | still (request : Request) : Yields q request q
  | enrolled (r : RetryRecord) : Yields q (.enqueue r) (q.put { r with inFlight := true })
  | taken {id : String} {now : Nat} {r : RetryRecord} (found : q.get? id = some r) :
    Yields q (.claim id now) (q.put { r with inFlight := true })
  | booked {id error : String} {now : Nat} {r r' : RetryRecord} (found : q.get? id = some r)
    (fails : Fails q.config error now r r') : Yields q (.fail id error now) (q.put r')
  | dropped (id : String) : Yields q (.remove id) (q.drop id)
  | purged (now : Nat) : Yields q (.purge now) (q.fresh now)

theorem Request.yields (host : Host ω) (s : Held RetryQueue ω) (request : Request) :
    request.Yields s.own (request.after host s) := by
  cases request with
  | enqueue r =>
    change Yields s.own _ ((enqueueInFlight host r).after s).own
    rcases own_after_enqueueInFlight host r s with own | own <;> rw [own]
    · exact .enrolled r
    · exact .still _
  | due now => exact .still _
  | claim id now =>
    change Yields s.own _ (s.own.claim id now).2
    cases taken : (s.own.claim id now).1 with
    | none =>
      rw [claim_eq_none taken]
      exact .still _
    | some r =>
      obtain ⟨found, there, _, put⟩ := claim_eq_some taken
      rw [put]
      exact .taken there
  | fail id error now =>
    change Yields s.own _ ((recordFailure host id error now).after s).own
    cases found : s.own.get? id with
    | none =>
      rw [Act.after_of_ok (recordFailure_of_none found)]
      exact .still _
    | some r =>
      obtain ⟨r', fails, own⟩ := own_after_recordFailure host error now found
      rw [own]
      exact .booked found fails
  | remove id =>
    change Yields s.own _ ((RetryQueue.remove host id).after s).own
    rw [own_after_remove]
    exact .dropped id
  | purge now =>
    change Yields s.own _ ((RetryQueue.purge host now).after s).own
    rw [own_after_purge]
    exact .purged now

theorem Request.keyed_after (keyed : s.own.Keyed) (request : Request) :
    (request.after host s).Keyed := by
  have yields := request.yields host s
  generalize request.after host s = q at yields
  cases yields with
  | still => exact keyed
  | enrolled r => exact keyed.put _
  | taken => exact keyed.put _
  | booked _ _ => exact keyed.put _
  | dropped id => exact keyed.drop id
  | purged now => exact keyed.fresh now

theorem Turns.keyed (run : Turns host turns q) : q.Keyed := by
  induction run with
  | new config => exact fun _ _ none => (nomatch none)
  | restored h => exact fun id r there => ((restore_get? h id).2 r there).2
  | turn _ worker request w ih => exact Request.keyed_after (s := ⟨_, w⟩) ih request

/-- Whatever record an id has, somebody is delivering it. -/
def Taken (id : String) (q : RetryQueue) : Prop := ∀ r, q.get? id = some r → r.inFlight = true

theorem Taken.put (taken : Taken id q) (flies : r.messageId = id → r.inFlight = true) :
    Taken id (q.put r) := by
  intro found there
  rw [get?_put] at there
  split at there
  next same => exact Option.some.inj there ▸ flies same
  next => exact taken found there

theorem taken_of_claim (keyed : q.Keyed) (h : (q.claim id now).1 = some r) :
    Taken id (q.claim id now).2 := by
  obtain ⟨found, there, _, put⟩ := claim_eq_some h
  intro later there'
  have own : found.messageId = id := keyed id found there
  rw [put, get?_put, if_pos own] at there'
  exact Option.some.inj there' ▸ rfl

theorem Taken.not_claimed (taken : Taken id q) : (q.claim id now).1 = none := by
  cases claimed : (q.claim id now).1 with
  | none => rfl
  | some r =>
    obtain ⟨found, there, due, _⟩ := claim_eq_some claimed
    have flies := taken found there
    simp [RetryRecord.isDue, flies] at due

/-- Nothing but a report of failure gives a record back. A new record of the id is taken by the one
who enrols it. -/
theorem Taken.after (taken : Taken id s.own) (keyed : s.own.Keyed) (request : Request)
    (unreported : ∀ error now, request ≠ .fail id error now) :
    Taken id (request.after host s) := by
  have yields := request.yields host s
  generalize request.after host s = q at yields
  cases yields with
  | still => exact taken
  | enrolled r => exact taken.put fun _ => rfl
  | taken => exact taken.put fun _ => rfl
  | @booked other error now r r' found fails =>
    have ne : other ≠ id := fun same => unreported error now (same ▸ rfl)
    have name : r'.messageId = other := fails.messageId.trans (keyed other r found)
    exact taken.put fun same => absurd (name ▸ same) ne
  | dropped other =>
    intro r there
    rw [get?_drop] at there
    split at there
    next => cases there
    next => exact taken r there
  | purged now =>
    intro r there
    rw [get?_fresh, Option.filter_eq_some_iff] at there
    exact taken r there.1

/-- A queue as it was some turns ago. -/
theorem Turns.earlier {later rest : List Turn} (run : Turns host (later ++ rest) q) :
    ∃ q', Turns host rest q' := by
  induction later generalizing q with
  | nil => exact ⟨q, run⟩
  | cons t later ih =>
    cases run with
    | turn before worker request w => exact ih before

/-- What one turn took stays taken over all the turns without a report. -/
theorem Turns.taken {between earlier : List Turn} {first : Turn}
    (run : Turns host (between ++ first :: earlier) q) (takes : first.Takes id)
    (unreported : ∀ t ∈ between, ¬t.Reports id) : Taken id q := by
  induction between generalizing q with
  | nil =>
    cases run with
    | turn before worker request w =>
      obtain ⟨now, r, rfl, claimed⟩ := takes
      exact taken_of_claim before.keyed claimed
  | cons t between ih =>
    cases run with
    | @turn _ found before worker request w =>
      have so_far : Taken id found :=
        ih before fun t mem => unreported t (List.mem_cons_of_mem _ mem)
      have other : ∀ error now, request ≠ .fail id error now := by
        intro error now same
        exact unreported _ List.mem_cons_self ⟨error, now, same⟩
      exact so_far.after (s := ⟨found, w⟩) before.keyed request other

/-- The records to deliver at a time, the most urgent first, if the table gives them in an order. -/
def urgent (rows : List RetryRecord) (now : Nat) : List RetryRecord :=
  (rows.filter fun r => r.isDue now).mergeSort dueOrder

/-- What is then listed as due. -/
def listed (rows : List RetryRecord) (now : Nat) : List String :=
  (urgent rows now).map (·.messageId)

theorem due_eq_listed (q : RetryQueue) (now : Nat) : q.due now = listed q.records.values now := rfl

theorem dueOrder_iff {a b : RetryRecord} : dueOrder a b = true ↔
    a.nextAttemptAt < b.nextAttemptAt ∨
      (a.nextAttemptAt = b.nextAttemptAt ∧ a.messageId ≤ b.messageId) := by
  simp [dueOrder]

theorem dueOrder_trans (a b c : RetryRecord) (ab : dueOrder a b = true) (bc : dueOrder b c = true) :
    dueOrder a c = true := by
  rw [dueOrder_iff] at ab bc ⊢
  rcases ab with sooner | ⟨same, le⟩
  · left
    rcases bc with sooner' | ⟨same', _⟩ <;> omega
  · rcases bc with sooner' | ⟨same', le'⟩
    · left
      omega
    · exact .inr ⟨same.trans same', String.le_trans le le'⟩

theorem dueOrder_total (a b : RetryRecord) : (dueOrder a b || dueOrder b a) = true := by
  rw [Bool.or_eq_true, dueOrder_iff, dueOrder_iff]
  rcases Nat.lt_trichotomy a.nextAttemptAt b.nextAttemptAt with sooner | same | later
  · exact .inl (.inl sooner)
  · exact (String.le_total a.messageId b.messageId).imp (fun le => .inr ⟨same, le⟩)
      (fun le => .inr ⟨same.symm, le⟩)
  · exact .inr (.inl later)

theorem messageId_eq_of_dueOrder {a b : RetryRecord} (ab : dueOrder a b = true)
    (ba : dueOrder b a = true) : a.messageId = b.messageId := by
  rw [dueOrder_iff] at ab ba
  have le : a.messageId ≤ b.messageId := by
    rcases ab with sooner | ⟨_, le⟩
    · rcases ba with later | ⟨same, _⟩ <;> omega
    · exact le
  have ge : b.messageId ≤ a.messageId := by
    rcases ba with sooner | ⟨_, ge⟩
    · rcases ab with later | ⟨same, _⟩ <;> omega
    · exact ge
  exact String.le_antisymm le ge

theorem pairwise_urgent (rows : List RetryRecord) (now : Nat) :
    (urgent rows now).Pairwise fun a b => dueOrder a b = true :=
  List.pairwise_mergeSort dueOrder_trans dueOrder_total _

theorem urgent_perm {rows rows' : List RetryRecord} (perm : rows.Perm rows') (now : Nat) :
    (urgent rows now).Perm (urgent rows' now) :=
  (List.mergeSort_perm _ _).trans ((perm.filter _).trans (List.mergeSort_perm _ _).symm)

theorem isDue_of_mem_urgent {rows : List RetryRecord} (h : r ∈ urgent rows now) :
    r.isDue now = true :=
  (List.mem_filter.mp (List.mem_mergeSort.mp h)).2

theorem Keyed.get?_urgent (keyed : q.Keyed) (h : r ∈ urgent q.records.values now) :
    q.get? r.messageId = some r := by
  have stored : r ∈ q.records.values := (List.mem_filter.mp (List.mem_mergeSort.mp h)).1
  obtain ⟨key, found⟩ := Dict.mem_values_iff.mp stored
  have own : r.messageId = key := keyed key r found
  rwa [own]

/-- Of two ids in order, the record of the first is the one to deliver sooner. -/
def Precedes (q : RetryQueue) (a b : String) : Prop :=
  ∃ r s, q.get? a = some r ∧ q.get? b = some s ∧
    (r.nextAttemptAt < s.nextAttemptAt ∨ r.nextAttemptAt = s.nextAttemptAt ∧ a < b)

/-- The ids of the records to deliver at a time, each once and the most urgent first. -/
structure Lists (q : RetryQueue) (now : Nat) (ids : List String) : Prop where
  exact : ∀ id, id ∈ ids ↔ ∃ r, q.get? id = some r ∧ r.state = .active ∧ r.inFlight = false ∧
    r.nextAttemptAt ≤ now
  once : ids.Nodup
  ordered : ids.Pairwise q.Precedes

theorem isDue_iff {r : RetryRecord} : r.isDue now = true ↔
    r.state = .active ∧ r.inFlight = false ∧ r.nextAttemptAt ≤ now := by
  simp [RetryRecord.isDue]

theorem Keyed.lists (keyed : q.Keyed) (now : Nat) : q.Lists now (q.due now) := by
  refine ⟨fun id => ?_, nodup_due keyed now, ?_⟩
  · simp only [mem_due keyed, isDue_iff]
  · have once : (urgent q.records.values now).Pairwise fun a b => a.messageId ≠ b.messageId :=
      List.pairwise_map.mp (nodup_due keyed now)
    have both := (pairwise_urgent q.records.values now).and once
    refine List.pairwise_map.mpr (both.imp_of_mem ?_)
    rintro a b ha hb ⟨before, ne⟩
    refine ⟨a, b, keyed.get?_urgent ha, keyed.get?_urgent hb, ?_⟩
    rcases dueOrder_iff.mp before with sooner | ⟨same, le⟩
    · exact .inl sooner
    · exact .inr ⟨same, Std.lt_of_le_of_ne le ne⟩

/-- Among equal deadlines the order is that of the ids, so no two records can change places. -/
theorem Keyed.listed_perm (keyed : q.Keyed) (now : Nat) {rows : List RetryRecord}
    (perm : rows.Perm q.records.values) : listed rows now = q.due now := by
  have same := urgent_perm perm now
  have unmoved : urgent rows now = urgent q.records.values now := by
    refine same.eq_of_pairwise ?_ (pairwise_urgent rows now) (pairwise_urgent _ now)
    intro a b ha hb ab ba
    have found := keyed.get?_urgent (same.mem_iff.mp ha)
    rw [messageId_eq_of_dueOrder ab ba, keyed.get?_urgent hb] at found
    exact (Option.some.inj found).symm
  rw [due_eq_listed, listed, unmoved, listed]

/-- Whoever works on a queue, and in whichever order: between two turns that take a record there is
one that reports it as failed, and what is due can be taken, is listed once and in order, and stands
in that order however the table is read. -/
theorem Turns.exclusive (run : Turns host turns q) :
    (∀ id later second between first earlier,
      turns = later ++ second :: (between ++ first :: earlier) →
      first.Takes id → second.Takes id → ∃ t ∈ between, t.Reports id) ∧
    ∀ now, (∀ id, (q.claim id now).1.isSome = true ↔ id ∈ q.due now) ∧
      q.Lists now (q.due now) ∧
      ∀ rows : List RetryRecord, rows.Perm q.records.values → listed rows now = q.due now := by
  constructor
  · intro id later second between first earlier split takes again
    subst split
    obtain ⟨q', run'⟩ := run.earlier
    by_contra unreported
    have silent : ∀ t ∈ between, ¬t.Reports id := fun t mem told => unreported ⟨t, mem, told⟩
    cases run' with
    | turn before worker request w =>
      have taken := before.taken takes silent
      obtain ⟨now, r, _, claimed⟩ := again
      rw [taken.not_claimed] at claimed
      cases claimed
  · intro now
    refine ⟨fun id => ?_, run.keyed.lists now, fun rows perm => run.keyed.listed_perm now perm⟩
    rw [isSome_claim_iff, mem_due run.keyed]

theorem Fails.waits {config : RetryConfig} {error : String} {r' : RetryRecord}
    (fails : Fails config error now r r') (active : r.state = .active)
    (left : r.attemptCount + 1 < config.maxAttempts.toNat) :
    r'.state = .active ∧ r'.isDue r'.nextAttemptAt = true := by
  cases fails with
  | givenUp spent => omega
  | delayed _ delay => exact ⟨active, by simp [RetryRecord.isDue, active]⟩

/-- A failed attempt, unless it is the last, leaves a record that can be taken again. -/
theorem claim_after_failure (host : Host ω) (w : World ω) (error : String) (failed : Nat)
    (found : q.get? id = some r) (name : r.messageId = id) (active : r.state = .active)
    (left : r.attemptCount + 1 < q.config.maxAttempts.toNat) :
    ∃ r', r'.messageId = id ∧ r'.state = .active ∧ r'.attemptCount = r.attemptCount + 1 ∧
      (Request.fail id error failed).after host ⟨q, w⟩ = q.put r' ∧
      (q.put r').claim id r'.nextAttemptAt =
        (some { r' with inFlight := true }, (q.put r').put { r' with inFlight := true }) := by
  obtain ⟨r', fails, own⟩ := own_after_recordFailure host (s := ⟨q, w⟩) error failed found
  obtain ⟨active', due⟩ := fails.waits active left
  have name' : r'.messageId = id := fails.messageId.trans name
  have there : (q.put r').get? id = some r' := by rw [get?_put, if_pos name']
  exact ⟨r', name', active', fails.attemptCount, own, claim_of_due there due⟩

/-- A message that nobody has sent yet. -/
def unsent : RetryRecord := .new "A" Stage.friend (.text "hi") {} 0

/-- A record whose first two attempts fail is taken twice, each time by another worker. -/
theorem taken_by_two_workers : ∃ (turns : List Turn) (q q' : RetryQueue) (first second : Turn),
    Turns Stage.smooth (second :: ([⟨1, .fail "A" "late" 9, q⟩] ++ first :: turns)) q' ∧
    first.worker = 1 ∧ second.worker = 2 ∧ first.Takes "A" ∧ second.Takes "A" ∧
    ∃ t ∈ [(⟨1, .fail "A" "late" 9, q⟩ : Turn)], t.Reports "A" := by
  let w : World Stage := ⟨∅, Stage.opening⟩
  obtain ⟨q, enrolled, there, config⟩ : ∃ q, Turns Stage.smooth [⟨0, .enqueue unsent, .new {}⟩] q ∧
      q.get? "A" = some { unsent with inFlight := true } ∧ q.config = {} :=
    ⟨_, (Turns.new {}).turn 0 (.enqueue unsent) w, (get?_put _ _ _).trans (if_pos rfl), rfl⟩
  have left : unsent.attemptCount + 2 < q.config.maxAttempts.toNat := by
    rw [config]
    decide
  -- The one who enrols it fails, and the first worker takes it.
  obtain ⟨r, name, active, count, failed, taken⟩ :=
    claim_after_failure Stage.smooth w "late" 0 there rfl rfl (Nat.lt_of_succ_lt left)
  have run := enrolled.turn 0 (.fail "A" "late" 0) w
  rw [failed] at run
  have run := run.turn 1 (.claim "A" r.nextAttemptAt) w
  rw [Request.after, taken] at run
  -- The first worker fails, and the second one takes it.
  have there : ((q.put r).put { r with inFlight := true }).get? "A" =
      some { r with inFlight := true } := (get?_put _ _ _).trans (if_pos name)
  have left' : r.attemptCount + 1 < q.config.maxAttempts.toNat := by
    rw [count]
    exact left
  obtain ⟨r', _, _, _, failed', taken'⟩ :=
    claim_after_failure Stage.smooth w "late" 9 there name active left'
  have run := run.turn 1 (.fail "A" "late" 9) w
  rw [failed'] at run
  have run := run.turn 2 (.claim "A" r'.nextAttemptAt) w
  have takes : Turn.Takes "A" ⟨1, .claim "A" r.nextAttemptAt, q.put r⟩ :=
    ⟨_, _, rfl, congrArg (·.1) taken⟩
  have takes' : Turn.Takes "A" ⟨2, .claim "A" r'.nextAttemptAt, _⟩ :=
    ⟨_, _, rfl, congrArg (·.1) taken'⟩
  exact ⟨_, _, _, _, _, run, rfl, rfl, takes, takes',
    run.exclusive.1 "A" [] _ _ _ _ rfl takes takes'⟩

end Fanout.RetryQueue
