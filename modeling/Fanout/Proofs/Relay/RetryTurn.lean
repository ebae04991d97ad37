import Fanout.Proofs.Relay.Heeding

namespace Fanout

open Overheard

variable {ω : Type} {host : Host ω}

namespace RetryQueue

/-- A queue from which a record was taken for delivery, and what was acknowledged meanwhile. -/
def during (q : RetryQueue) (record : RetryRecord) (ids : List String) : RetryQueue :=
  ids.foldl drop (q.put { record with inFlight := true })

variable (q : RetryQueue) (record : RetryRecord) (ids : List String)

theorem get?_during (id : String) : (q.during record ids).get? id =
    if id ∈ ids then none
    else if record.messageId = id then some { record with inFlight := true }
    else q.get? id := by
  rw [during, get?_foldl_drop, get?_put]

theorem config_during : (q.during record ids).config = q.config :=
  config_foldl_drop ids _

end RetryQueue

namespace Relay

/-- What comes of the turn of a record. -/
inductive Outcome where
  | skipped
  | delivered
  | failed (e : Error)
deriving DecidableEq

def Outcome.isFailure : Outcome → Bool
  | failed _ => true
  | _ => false

@[simp] theorem Outcome.isFailure_skipped : skipped.isFailure = false := rfl

@[simp] theorem Outcome.isFailure_delivered : delivered.isFailure = false := rfl

@[simp] theorem Outcome.isFailure_failed (e : Error) : (failed e).isFailure = true := rfl

/-- Whether a record has no place in the queue any more. -/
def Outcome.isFinal : Outcome → Bool
  | skipped => false
  | delivered => true
  | failed e => !e.isRetryable

/-- One record has its turn in a pass. -/
structure Turn where
  record : RetryRecord
  outcome : Outcome
  /-- What was acknowledged while the stanza of the record was being handed over. -/
  acknowledged : List String

namespace Turn

def id (t : Turn) : String := t.record.messageId

/-- What was acknowledged in some turns, in order. -/
def heard (turns : List Turn) : List String := turns.flatMap (·.acknowledged)

theorem heard_singleton (t : Turn) : heard [t] = t.acknowledged := List.flatMap_singleton ..

theorem heard_cons (t : Turn) (turns : List Turn) :
    heard (t :: turns) = t.acknowledged ++ heard turns :=
  List.flatMap_cons

theorem heard_append (turns turns' : List Turn) :
    heard (turns ++ turns') = heard turns ++ heard turns' :=
  List.flatMap_append

end Turn

/-- A relay that took a record of its queue for delivery. -/
def claiming (record : RetryRecord) (r : Relay ω) : Relay ω :=
  { r with retry := r.retry.put { record with inFlight := true } }

/-- A record that is gone is passed over. Any other is taken and relayed as it stands, and what came
of that is booked. -/
inductive Takes (host : Host ω) (r : Relay (Overheard ω)) : Turn → Relay (Overheard ω) → Prop
  | skipped {record : RetryRecord} (gone : r.retry.get? record.messageId = none) :
    Takes host r ⟨record, .skipped, []⟩ r
  | delivered {record : RetryRecord} {ids : List String} {sent : String}
      {r₁ r' : Relay (Overheard ω)} (found : r.retry.get? record.messageId = some record)
      (relayed : relay host.overhearing record.jid record.message record.options
        (r.claiming record) = .ok sent r₁)
      (heeds : Heeds ids (r.claiming record) r₁)
      (settled : settleDelivered host.overhearing record.messageId r₁ = .ok () r') :
    Takes host r ⟨record, .delivered, ids⟩ r'
  | failed {record : RetryRecord} {ids : List String} {e : Error} {r₁ r' : Relay (Overheard ω)}
      (found : r.retry.get? record.messageId = some record)
      (relayed : relay host.overhearing record.jid record.message record.options
        (r.claiming record) = .error e r₁)
      (heeds : Heeds ids (r.claiming record) r₁)
      (settled : settleFailure host.overhearing record.messageId e r₁ = .ok () r') :
    Takes host r ⟨record, .failed e, ids⟩ r'

/-- What becomes of the record of an id over some turns. -/
inductive Fate (host : Host ω) (config : RetryConfig) (turns : List Turn) (id : String)
    (before : Option RetryRecord) : Option RetryRecord → Prop
  | acknowledged (heard : id ∈ Turn.heard turns) : Fate host config turns id before none
  | settled {t : Turn} (mem : t ∈ turns) (own : t.id = id) (final : t.outcome.isFinal = true)
      (found : before = some t.record) : Fate host config turns id before none
  | kept {t : Turn} {e : Error} {later : Nat} {booked : RetryRecord}
      (unheard : id ∉ Turn.heard turns) (mem : t ∈ turns) (own : t.id = id)
      (failed : t.outcome = .failed e) (retryable : e.isRetryable = true)
      (found : before = some t.record)
      (shown : host.Shows later)
      (fails : RetryQueue.Fails config e.message later t.record booked) :
    Fate host config turns id before (some booked)
  | untouched (unheard : id ∉ Turn.heard turns)
      (untried : ∀ t ∈ turns, t.id = id → t.outcome = .skipped) : Fate host config turns id before before

section Fate

variable {turns turns' : List Turn} {t : Turn} {id : String} {config : RetryConfig}
  {before mid after : Option RetryRecord}

/-- One stretch of a pass after another, where no record has its turn in both. -/
theorem Fate.trans (h : Fate host config turns id before mid) (h' : Fate host config turns' id mid after)
    (once : ∀ t ∈ turns, ∀ t' ∈ turns', t.id ≠ t'.id) :
    Fate host config (turns ++ turns') id before after := by
  have heard := Turn.heard_append turns turns'
  cases h' with
  | acknowledged later => exact .acknowledged (by simp [heard, later])
  | settled mem' own' final found' =>
    cases h with
    | acknowledged | settled => cases found'
    | kept unheard mem own => exact absurd (own.trans own'.symm) (once _ mem _ mem')
    | untouched => exact .settled (List.mem_append_right turns mem') own' final found'
  | kept unheard' mem' own' failed retryable found' shown fails =>
    cases h with
    | acknowledged | settled => cases found'
    | kept unheard mem own => exact absurd (own.trans own'.symm) (once _ mem _ mem')
    | untouched unheard =>
      exact .kept (by simp [heard, unheard, unheard']) (List.mem_append_right turns mem') own'
        failed retryable found' shown fails
  | untouched unheard' untried' =>
    cases h with
    | acknowledged earlier => exact .acknowledged (by simp [heard, earlier])
    | settled mem own final found => exact .settled (List.mem_append_left turns' mem) own final found
    | kept unheard mem own failed retryable found shown fails =>
      exact .kept (by simp [heard, unheard, unheard']) (List.mem_append_left turns' mem) own failed
        retryable found shown fails
    | untouched unheard untried =>
      refine .untouched (by simp [heard, unheard, unheard']) fun t mem own => ?_
      rcases List.mem_append.mp mem with mem | mem
      · exact untried t mem own
      · exact untried' t mem own

theorem Fate.of_heard (h : Fate host config turns id before after) (heard : id ∈ Turn.heard turns) :
    after = none := by
  cases h with
  | acknowledged | settled => rfl
  | kept unheard | untouched unheard => exact absurd heard unheard

theorem Fate.of_final (h : Fate host config turns t.id before after) (once : (turns.map Turn.id).Nodup)
    (mem : t ∈ turns) (final : t.outcome.isFinal = true) : after = none := by
  cases h with
  | acknowledged | settled => rfl
  | kept _ mem' own failed retryable =>
    obtain rfl := List.inj_on_of_nodup_map once mem' mem own
    rw [failed, Outcome.isFinal, retryable] at final
    cases final
  | untouched _ untried =>
    rw [untried t mem rfl] at final
    cases final

theorem Fate.of_retryable (h : Fate host config turns t.id before after)
    (once : (turns.map Turn.id).Nodup) (mem : t ∈ turns) {e : Error}
    (failed : t.outcome = .failed e) (retryable : e.isRetryable = true)
    (unheard : t.id ∉ Turn.heard turns) :
    ∃ later booked, host.Shows later ∧ after = some booked ∧
      RetryQueue.Fails config e.message later t.record booked := by
  cases h with
  | acknowledged heard => exact absurd heard unheard
  | settled mem' own final =>
    obtain rfl := List.inj_on_of_nodup_map once mem' mem own
    rw [failed, Outcome.isFinal, retryable] at final
    cases final
  | @kept _ _ later booked _ mem' own failed' _ _ shown fails =>
    obtain rfl := List.inj_on_of_nodup_map once mem' mem own
    cases failed.symm.trans failed'
    exact ⟨later, booked, shown, rfl, fails⟩
  | untouched _ untried =>
    cases failed.symm.trans (untried t mem rfl)

/-- A record that has no turn goes only if it is acknowledged. -/
theorem Fate.elsewhere (h : Fate host config turns id before after) (away : id ∉ turns.map Turn.id) :
    after = if id ∈ Turn.heard turns then none else before := by
  cases h with
  | acknowledged heard => rw [if_pos heard]
  | settled mem own | kept _ mem own => exact absurd (own ▸ List.mem_map_of_mem mem) away
  | untouched unheard => rw [if_neg unheard]

end Fate

section Booking

open RetryQueue

variable {q q' : RetryQueue} {record : RetryRecord} {ids : List String} {id : String}
  {config : RetryConfig}

/-- What a turn does to other records: it drops those that are acknowledged meanwhile. -/
theorem Fate.of_other {outcome : Outcome} (other : record.messageId ≠ id) :
    Fate host config [⟨record, outcome, ids⟩] id (q.get? id) ((q.during record ids).get? id) := by
  have heard := Turn.heard_singleton ⟨record, outcome, ids⟩
  rw [get?_during, if_neg other]
  split
  next mem => exact .acknowledged (heard ▸ mem)
  next unheard =>
    refine .untouched (heard ▸ unheard) fun t mem own => ?_
    obtain rfl := List.mem_singleton.mp mem
    exact absurd own other

theorem Fate.of_removed {outcome : Outcome} (found : q.get? record.messageId = some record)
    (final : outcome.isFinal = true)
    (removed : q' = (q.during record ids).drop record.messageId) :
    q'.config = q.config ∧
      ∀ id, Fate host config [⟨record, outcome, ids⟩] id (q.get? id) (q'.get? id) := by
  subst removed
  refine ⟨config_during q record ids, fun id => ?_⟩
  rw [get?_drop]
  by_cases own : record.messageId = id
  · rw [if_pos own]
    exact .settled List.mem_cons_self own final (own ▸ found)
  · rw [if_neg own]
    exact .of_other own

/-- A failure is booked under a record that was not acknowledged meanwhile, and else nowhere. -/
theorem Fate.of_booked {τ : Type} {bookkeeper : Host τ} {e : Error} {later : Nat}
    {s : Held RetryQueue τ} (shown : host.Shows later)
    (found : q.get? record.messageId = some record) (retryable : e.isRetryable = true)
    (start : s.own = q.during record ids)
    (booked : q' = ((recordFailure bookkeeper record.messageId e.message later).after s).own) :
    q'.config = q.config ∧
      ∀ id, Fate host q.config [⟨record, .failed e, ids⟩] id (q.get? id) (q'.get? id) := by
  have heard := Turn.heard_singleton ⟨record, .failed e, ids⟩
  have config : s.own.config = q.config := by rw [start, config_during]
  have there : s.own.get? record.messageId =
      if record.messageId ∈ ids then none else some { record with inFlight := true } := by
    rw [start, get?_during, if_pos rfl]
  by_cases mem : record.messageId ∈ ids
  · rw [if_pos mem] at there
    rw [Act.after_of_ok (recordFailure_of_none there)] at booked
    subst booked
    refine ⟨config, fun id => ?_⟩
    by_cases own : record.messageId = id
    · subst own
      rw [there]
      exact .acknowledged (heard ▸ mem)
    · rw [start]
      exact .of_other own
  · rw [if_neg mem] at there
    obtain ⟨record', fails, put⟩ := own_after_recordFailure bookkeeper e.message later there
    rw [put] at booked
    subst booked
    refine ⟨config, fun id => ?_⟩
    rw [get?_put, show record'.messageId = record.messageId from fails.messageId]
    by_cases own : record.messageId = id
    · rw [if_pos own]
      exact .kept (heard ▸ own ▸ mem) List.mem_cons_self own rfl retryable (own ▸ found)
        shown (config ▸ fails.of_inFlight)
    · rw [if_neg own, start]
      exact .of_other own

end Booking

section Takes

variable {r r' : Relay (Overheard ω)} {t : Turn}

theorem Takes.skipped_iff (h : Takes host r t r') :
    t.outcome = .skipped ↔ r.retry.get? t.id = none := by
  cases h with
  | skipped gone => exact iff_of_true rfl gone
  | delivered found | failed found =>
    refine iff_of_false nofun fun none => ?_
    cases found.symm.trans none

theorem Takes.fate (h : Takes host r t r') : r'.retry.config = r.retry.config ∧
    ∀ id, Fate host r.retry.config [t] id (r.retry.get? id) (r'.retry.get? id) := by
  cases h with
  | skipped =>
    refine ⟨rfl, fun id => .untouched (by simp [Turn.heard_singleton]) fun t mem _ => ?_⟩
    obtain rfl := List.mem_singleton.mp mem
    rfl
  | @delivered record ids sent r₁ _ found relayed heeds settled =>
    obtain ⟨_, settled', queue⟩ := settleDelivered_apply host.overhearing record.messageId r₁
    cases settled.symm.trans settled'
    exact Fate.of_removed found rfl ((retry_of_removed queue).trans (heeds.retry ▸ rfl))
  | @failed record ids e r₁ _ found relayed heeds settled =>
    cases retryable : e.isRetryable with
    | true =>
      obtain ⟨later, r₂, _, ⟨s, shown⟩, still, settled', queue⟩ :=
        settleFailure_of_retryable host.overhearing record.messageId retryable r₁
      cases settled.symm.trans settled'
      exact Fate.of_booked ⟨s.inner, shown⟩ found retryable (still.retry.trans heeds.retry)
        (congrArg Held.own queue)
    | false =>
      obtain ⟨_, settled', queue⟩ :=
        settleFailure_of_final host.overhearing record.messageId retryable r₁
      cases settled.symm.trans settled'
      have final : (Outcome.failed e).isFinal = true := by
        rw [Outcome.isFinal, retryable]
        rfl
      exact Fate.of_removed found final ((retry_of_removed queue).trans (heeds.retry ▸ rfl))

/-- Nothing is acknowledged in a turn but while its stanza is being handed over. -/
theorem Takes.heard (h : Takes host r t r') :
    Acknowledges t.acknowledged r.world.host r'.world.host := by
  have hh := host.overhearing_keeps
  cases h with
  | skipped => exact .of_eq rfl
  | @delivered _ ids _ r₁ _ _ _ heeds settled =>
    have quiet : Acknowledges [] r₁.world.host r'.world.host :=
      (settleDelivered_proceeds hh _).of_ok settled
    exact List.append_nil ids ▸ heeds.heard.trans quiet
  | @failed _ ids _ r₁ _ _ _ heeds settled =>
    have quiet : Acknowledges [] r₁.world.host r'.world.host :=
      (settleFailure_proceeds hh _ _).of_ok settled
    exact List.append_nil ids ▸ heeds.heard.trans quiet

end Takes

end Relay

/-- The report with one more turn in it. -/
def TickReport.count (report : TickReport) (t : Relay.Turn) : TickReport :=
  match t.outcome with
  | .skipped => { report with skipped := report.skipped + 1 }
  | .delivered => { report with delivered := report.delivered + 1 }
  | .failed _ => { report with failed := report.failed + 1 }

theorem TickReport.foldl_count (turns : List Relay.Turn) (report : TickReport) :
    (turns.foldl count report).delivered =
        report.delivered + turns.countP (fun t => t.outcome = .delivered) ∧
      (turns.foldl count report).failed =
        report.failed + turns.countP (fun t => t.outcome.isFailure) ∧
      (turns.foldl count report).skipped =
        report.skipped + turns.countP (fun t => t.outcome = .skipped) := by
  induction turns generalizing report with
  | nil => exact ⟨rfl, rfl, rfl⟩
  | cons t turns ih =>
    obtain ⟨delivered, failed, skipped⟩ := ih (report.count t)
    rw [List.foldl_cons, delivered, failed, skipped]
    simp only [List.countP_cons]
    cases outcome : t.outcome <;> simp [count, outcome] <;> omega

/-- Each turn comes to one of three ends. -/
theorem Relay.Turn.countP_outcome (turns : List Turn) :
    turns.countP (fun t => t.outcome = .delivered) + turns.countP (fun t => t.outcome.isFailure) +
      turns.countP (fun t => t.outcome = .skipped) = turns.length := by
  induction turns with
  | nil => rfl
  | cons t turns ih =>
    simp only [List.countP_cons, List.length_cons]
    cases outcome : t.outcome <;> simp <;> omega

namespace Relay

/-- A record that is due, if it is still there, has its turn. -/
theorem retryOne_takes (host : Host ω) {now : Nat} {record : RetryRecord}
    (due : record.isDue now = true) {r : Relay (Overheard ω)}
    (pending : r.retry.get? record.messageId = none ∨
      r.retry.get? record.messageId = some record) (report : TickReport) :
    ∃ t r', retryOne host.overhearing now report record.messageId r = .ok (report.count t) r' ∧
      t.record = record ∧ Takes host r t r' := by
  rcases claim_apply record.messageId now r with ⟨idle, undue⟩ | ⟨there, found, _, claimed⟩
  · have gone : r.retry.get? record.messageId = none := by
      refine pending.resolve_right fun found => ?_
      cases due.symm.trans (undue record found)
    exact ⟨⟨record, .skipped, []⟩, r, Act.bind_of_ok idle, rfl, .skipped gone⟩
  have same : there = record := by
    rcases pending with gone | found'
    · cases found.symm.trans gone
    · exact Option.some.inj (found.symm.trans found')
  subst same
  obtain ⟨ids, heeds⟩ := relay_heeds host there.jid there.message there.options (r.claiming there)
  rw [retryOne, Act.bind_of_ok claimed]
  cases relayed : relay host.overhearing there.jid there.message there.options
      (r.claiming there) with
  | ok sent r₁ =>
    rw [Act.after_of_ok relayed] at heeds
    obtain ⟨r', settled, _⟩ := settleDelivered_apply host.overhearing there.messageId r₁
    refine ⟨⟨there, .delivered, ids⟩, r', ?_, rfl, .delivered found relayed heeds settled⟩
    exact (Act.bind_of_ok (Act.attempt_of_ok relayed)).trans (Act.bind_of_ok settled)
  | error e r₁ =>
    rw [Act.after_of_error relayed] at heeds
    obtain ⟨r', settled⟩ : ∃ r', settleFailure host.overhearing there.messageId e r₁ = .ok () r' := by
      cases retryable : e.isRetryable with
      | true =>
        obtain ⟨_, _, r', _, _, settled, _⟩ :=
          settleFailure_of_retryable host.overhearing there.messageId retryable r₁
        exact ⟨r', settled⟩
      | false =>
        obtain ⟨r', settled, _⟩ :=
          settleFailure_of_final host.overhearing there.messageId retryable r₁
        exact ⟨r', settled⟩
    refine ⟨⟨there, .failed e, ids⟩, r', ?_, rfl, .failed found relayed heeds settled⟩
    exact (Act.bind_of_ok (Act.attempt_of_error relayed)).trans (Act.bind_of_ok settled)

end Relay

end Fanout
