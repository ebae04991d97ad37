import Fanout.Proofs.Rehearsal.Stage
import Fanout.Proofs.Relay.Queue

namespace Fanout

variable {ω : Type} {host : Host ω}

theorem RetryRecord.inFlight_of_ofJson? {v : Json} {r : RetryRecord} (h : ofJson? v = some r) :
    r.inFlight = false := by
  obtain ⟨slots, _, h⟩ := Option.bind_eq_some_iff.mp h
  split at h
  · simp only [Option.pure_def, Option.bind_eq_bind, Option.bind_eq_some_iff,
      Option.some.injEq] at h
    obtain ⟨_, _, _, _, _, _, _, _, _, _, _, _, _, _, _, _, _, _, _, _, _, _, rfl⟩ := h
    rfl
  · cases h

namespace RetryQueue

/-- Nobody is delivering a record. -/
def Calm (q : RetryQueue) : Prop := ∀ id r, q.get? id = some r → r.inFlight = false

end RetryQueue

namespace Relay

/-- Two tables with the same records but under one id. -/
def SameElsewhere (id : String) (q q' : RetryQueue) : Prop :=
  ∀ other, id ≠ other → q'.get? other = q.get? other

section SameElsewhere

variable {id : String} {q q' q'' : RetryQueue}

theorem SameElsewhere.trans (h : SameElsewhere id q q') (h' : SameElsewhere id q' q'') :
    SameElsewhere id q q'' :=
  fun other ne => (h' other ne).trans (h other ne)

theorem SameElsewhere.put (q : RetryQueue) {record : RetryRecord} (key : record.messageId = id) :
    SameElsewhere id q (q.put record) :=
  fun other ne => (RetryQueue.get?_put q record other).trans (if_neg (key ▸ ne))

theorem SameElsewhere.dropped
    (h : ∀ other, q'.get? other = if id = other then none else q.get? other) :
    SameElsewhere id q q' :=
  fun other ne => (h other).trans (if_neg ne)

end SameElsewhere

/-- How a sending ends: its message is not in the queue at all, or it went out, or its one failed
attempt is booked, or it is dropped. -/
inductive SendEnds (host : Host ω) (jid : Jid) (message : Message) (options : RelayOptions)
    (r : Relay (Recorded ω)) : EStateM.Result Error (Relay (Recorded ω)) String → Prop
  | unenrolled {e : Error} {r' : Relay (Recorded ω)} (handed : r'.handed = r.handed)
      (queue : r'.retry = r.retry)
      (refused : enrol host.recording jid message options r = .error e r') :
      SendEnds host jid message options r (.error e r')
  | delivered {id : String} {r₁ r' : Relay (Recorded ω)}
      (enrolled : enrol host.recording jid message options r = .ok id r₁)
      (gone : r'.retry.get? id = none) (others : SameElsewhere id r.retry r'.retry) :
      SendEnds host jid message options r (.ok id r')
  | kept {id : String} {r₁ r' : Relay (Recorded ω)} {e : Error} {record : RetryRecord}
      (enrolled : enrol host.recording jid message options r = .ok id r₁)
      (retryable : e.isRetryable = true) (found : r'.retry.get? id = some record)
      (same : record.messageId = id ∧ record.jid = jid ∧ record.message = message ∧
        record.options = { options with messageId := some id })
      (settled : record.inFlight = false) (count : record.attemptCount = 1)
      (errors : record.errors = [e.message])
      (state : r.retry.config.validate = .ok () →
        (record.state = .inactive ↔ r.retry.config.maxAttempts = 1))
      (others : SameElsewhere id r.retry r'.retry) :
      SendEnds host jid message options r (.error e r')
  | dropped {id : String} {r₁ r' : Relay (Recorded ω)} {e : Error}
      (enrolled : enrol host.recording jid message options r = .ok id r₁)
      (final : e.isRetryable = false) (gone : r'.retry.get? id = none)
      (others : SameElsewhere id r.retry r'.retry) :
      SendEnds host jid message options r (.error e r')

/-- The connection was handed no further stanza. -/
def HandsNothing (r r' : Relay (Recorded ω)) : Prop := r'.handed = r.handed

instance : IsPreorder (Relay (Recorded ω)) HandsNothing where
  refl _ := rfl
  trans _ _ _ h h' := Eq.trans h' h

theorem enrol_hands_nothing (host : Host ω) (jid : Jid) (message : Message)
    (options : RelayOptions) : (enrol host.recording jid message options).Keeps HandsNothing := by
  have hh := host.recording_keeps
  have unsent : ∀ r r' : Relay (Recorded ω), Prepares Recorded.SameHanded r r' →
      HandsNothing r r' := fun _ _ made => made.handed_eq
  have put : ∀ record, (inRetry (RetryQueue.enqueueInFlight host.recording record)).Keeps
      HandsNothing :=
    fun record => (RetryQueue.enqueueInFlight_keeps hh record).zoom fun _ _ h => h.world.host
  refine Act.Keeps.get.bind fun r => ?_
  refine .bind (fun r => unsent _ _ (chooseId_keeps hh _ _ r)) fun id => ?_
  refine .bind (fun r => unsent _ _ (inWorld_keeps (World.now_keeps hh) r)) fun now => ?_
  exact (put _).bind fun _ => Act.Keeps.pure id

theorem enrol_id {jid : Jid} {message : Message} {options : RelayOptions} {id given : String}
    {r r' : Relay ω} (named : options.messageId = some given)
    (h : enrol host jid message options r = .ok id r') : id = given := by
  rw [enrol] at h
  obtain ⟨_, _, hg, h⟩ := Act.bind_eq_ok.mp h
  cases hg
  obtain ⟨chosen, r₁, hc, h⟩ := Act.bind_eq_ok.mp h
  rw [chooseId, named] at hc
  have same : given = chosen := (EStateM.Result.ok.inj hc).1
  obtain ⟨now, r₂, _, h⟩ := Act.bind_eq_ok.mp h
  obtain ⟨_, r₃, _, h⟩ := Act.bind_eq_ok.mp h
  rw [Act.pure_apply] at h
  exact (EStateM.Result.ok.inj h).1.symm.trans same.symm

/-- The table behind a failed attempt that a retry may help. -/
theorem booked_of_retryable (host : Host ω) {id : String} {e : Error}
    (retryable : e.isRetryable = true) {r : Relay ω} {record : RetryRecord}
    (found : r.retry.get? id = some record) :
    ∃ now record' r', settleFailure host id e r = .ok () r' ∧
      RetryQueue.Fails r.retry.config e.message now record record' ∧
      r'.retry = r.retry.put record' := by
  obtain ⟨now, r₁, r', _, still, h, queue⟩ := settleFailure_of_retryable host id retryable r
  have there : r₁.queue.own.get? id = some record := by
    rw [← found, ← still.retry]
    rfl
  obtain ⟨record', fails, own⟩ := RetryQueue.own_after_recordFailure host e.message now there
  have retry : r'.retry = r₁.retry.put record' := (congrArg Held.own queue).trans own
  have fails : RetryQueue.Fails r₁.retry.config e.message now record record' := fails
  rw [still.retry] at retry fails
  exact ⟨now, record', r', h, fails, retry⟩

/-- The first failure is the last one if there is only one attempt. -/
theorem state_of_first {config : RetryConfig} {error : String} {now : Nat}
    {first record : RetryRecord} (new : first.attemptCount = 0) (active : first.state = .active)
    (some_left : config.maxAttempts ≠ 0)
    (fails : RetryQueue.Fails config error now first record) :
    record.state = .inactive ↔ config.maxAttempts = 1 := by
  have pos : config.maxAttempts.toNat ≠ 0 := fun zero => some_left (UInt32.toNat_inj.mp zero)
  cases fails with
  | givenUp spent =>
    have one : config.maxAttempts.toNat = 1 := by omega
    exact ⟨fun _ => UInt32.toNat_inj.mp one, fun _ => rfl⟩
  | delayed left =>
    have more : config.maxAttempts ≠ 1 := by
      intro one
      rw [one] at left
      simp [new] at left
    simp [more, active]

/-- A message was put into the queue, and nothing else has become of the queue since. -/
structure Underway (host : Host ω) (jid : Jid) (message : Message) (options : RelayOptions)
    (r : Relay (Recorded ω)) (id : String) (now : Nat) (r' : Relay (Recorded ω)) : Prop where
  put : ∃ r₁, enrol host.recording jid message options r = .ok id r₁
  table : r'.retry = r.retry.put { enrolled id jid message options now with inFlight := true }

section Underway

variable {jid : Jid} {message : Message} {options : RelayOptions} {id : String} {now : Nat}
  {r r' : Relay (Recorded ω)}

theorem Underway.elsewhere (u : Underway host jid message options r id now r') :
    SameElsewhere id r.retry r'.retry :=
  u.table ▸ .put r.retry rfl

theorem Underway.found (u : Underway host jid message options r id now r') :
    r'.retry.get? id = some { enrolled id jid message options now with inFlight := true } := by
  rw [u.table, RetryQueue.get?_put]
  exact if_pos rfl

theorem Underway.settled (u : Underway host jid message options r id now r') :
    ∃ r₂, settleDelivered host.recording id r' = .ok () r₂ ∧
      SendEnds host jid message options r (.ok id r₂) := by
  obtain ⟨r₁, put⟩ := u.put
  obtain ⟨r₂, settled, queue⟩ := settleDelivered_apply host.recording id r'
  have dropped := dropped_of_queue queue
  exact ⟨r₂, settled,
    .delivered put ((dropped id).trans (if_pos rfl)) (u.elsewhere.trans (.dropped dropped))⟩

theorem Underway.kept (u : Underway host jid message options r id now r') {e : Error}
    (retryable : e.isRetryable = true) :
    ∃ r₂, settleFailure host.recording id e r' = .ok () r₂ ∧
      SendEnds host jid message options r (.error e r₂) := by
  obtain ⟨r₁, put⟩ := u.put
  obtain ⟨later, record, r₂, settled, fails, booked⟩ :=
    booked_of_retryable host.recording retryable u.found
  have config : r'.retry.config = r.retry.config := by
    rw [u.table]
    rfl
  have named : record.messageId = id := fails.messageId
  have found : r₂.retry.get? id = some record := by
    rw [booked, RetryQueue.get?_put, if_pos named]
  refine ⟨r₂, settled, .kept put retryable found ?_ fails.inFlight fails.attemptCount ?_ ?_
    (u.elsewhere.trans (booked ▸ .put r'.retry named))⟩
  · cases fails <;> exact ⟨rfl, rfl, rfl, rfl⟩
  · cases fails <;> rfl
  · intro valid
    have some_left := RetryConfig.maxAttempts_ne_zero valid
    rw [config] at fails
    exact state_of_first rfl rfl some_left fails

theorem Underway.dropped (u : Underway host jid message options r id now r') {e : Error}
    (final : e.isRetryable = false) :
    ∃ r₂, settleFailure host.recording id e r' = .ok () r₂ ∧
      SendEnds host jid message options r (.error e r₂) := by
  obtain ⟨r₁, put⟩ := u.put
  obtain ⟨r₂, settled, queue⟩ := settleFailure_of_final host.recording id final r'
  have dropped := dropped_of_queue queue
  exact ⟨r₂, settled,
    .dropped put final ((dropped id).trans (if_pos rfl)) (u.elsewhere.trans (.dropped dropped))⟩

theorem Underway.failed (u : Underway host jid message options r id now r') (e : Error) :
    ∃ r₂, settleFailure host.recording id e r' = .ok () r₂ ∧
      SendEnds host jid message options r (.error e r₂) := by
  by_cases retryable : e.isRetryable = true
  · exact u.kept retryable
  · exact u.dropped (by simpa using retryable)

end Underway

theorem sendMessage_ends (hq : host.Quiet) (jid : Jid) (message : Message) (options : RelayOptions)
    (r : Relay (Recorded ω)) :
    SendEnds host jid message options r (sendMessage host.recording jid message options r) := by
  have handed := enrol_hands_nothing host jid message options r
  rw [sendMessage_eq]
  rcases enrol_cases host.recording jid message options r with
    ⟨id, now, r₁, r₂, h, still, put⟩ | ⟨e, r', h, still⟩
  · rw [Act.bind_of_ok h]
    have own := (RetryQueue.enqueueInFlight_eq_ok put).1
    have table : r₂.retry =
        r.retry.put { enrolled id jid message options now with inFlight := true } := by
      rw [← still.retry]
      exact own
    have kept := relay_still hq.recording jid message { options with messageId := some id } r₂
    cases hr : relay host.recording jid message { options with messageId := some id } r₂ with
    | ok sent r₃ =>
      rw [Act.after_of_ok hr] at kept
      obtain rfl := relay_id rfl hr
      have underway : Underway host jid message options r sent now r₃ :=
        ⟨⟨r₂, h⟩, kept.retry.trans table⟩
      obtain ⟨r₄, settled, ends⟩ := underway.settled
      rw [Act.bind_of_ok (Act.attempt_of_ok hr)]
      dsimp only
      rw [Act.bind_of_ok settled]
      exact ends
    | error e r₃ =>
      rw [Act.after_of_error hr] at kept
      have underway : Underway host jid message options r id now r₃ :=
        ⟨⟨r₂, h⟩, kept.retry.trans table⟩
      obtain ⟨r₄, settled, ends⟩ := underway.failed e
      rw [Act.bind_of_ok (Act.attempt_of_error hr)]
      dsimp only
      rw [Act.bind_of_ok settled]
      exact ends
  · rw [Act.after_of_error h] at handed
    rw [Act.bind_of_error h]
    exact .unenrolled handed still.retry h

end Relay

namespace Diary

open Relay

theorem transmit_quiet (hq : host.Quiet) (n : Node) (d : Diary ω) :
    (∃ s, transmit host n d = .ok () ⟨d.relay.withHost s, d.entries⟩) ∨
      ∃ e s, transmit host n d = .error e ⟨d.relay.withHost s, d.entries⟩ := by
  obtain ⟨outcome, s, h⟩ := hq n d.relay.world.host
  rw [transmit, h]
  cases outcome with
  | ok _ => exact .inl ⟨s, rfl⟩
  | error e => exact .inr ⟨e, s, rfl⟩

/-- Without acknowledgements meanwhile, an attempt leaves the queue alone. -/
theorem relayFor_quiet (hq : host.Quiet) (id : String) (jid : Jid) (message : Message)
    (options : RelayOptions) (d : Diary ω) :
    (∃ sent d', relayFor host id jid message options d = .ok sent d' ∧
        d'.relay.retry = d.relay.retry ∧
        d'.entries = .taken id :: .started id :: d.entries) ∨
      ∃ e d', relayFor host id jid message options d = .error e d' ∧
        d'.relay.retry = d.relay.retry ∧ d'.entries = .started id :: d.entries := by
  have composed := compose_still host jid message options d.relay
  rw [relayFor, Act.bind_of_ok (note_apply _ d)]
  cases hc : compose host jid message options d.relay with
  | error e r =>
    rw [Act.after_of_error hc] at composed
    have failed := plainly_of_error (d := ⟨d.relay, .started id :: d.entries⟩) hc
    rw [Act.bind_of_error failed]
    exact .inr ⟨e, _, rfl, composed.retry, rfl⟩
  | ok made r =>
    rw [Act.after_of_ok hc] at composed
    rw [Act.bind_of_ok (plainly_of_ok (d := ⟨d.relay, .started id :: d.entries⟩) hc)]
    rcases transmit_quiet hq made.2.node ⟨r, .started id :: d.entries⟩ with ⟨s, ht⟩ | ⟨e, s, ht⟩
    · rw [Act.bind_of_ok ht, Act.bind_of_ok (note_apply _ _)]
      have finished := conclude_still host jid.withoutDevice made.1 message made.2.informed
        (r.withHost s)
      exact .inl ⟨made.1, _, rfl, finished.retry.trans composed.retry, rfl⟩
    · rw [Act.bind_of_error ht]
      exact .inr ⟨e, _, rfl, composed.retry, rfl⟩

/-- What becomes of a record in a pass over the queue, by what was written down of it. -/
inductive Passed (pass : List Entry) (id : String) (before after : Option RetryRecord) : Prop
  | untried (unstarted : Entry.started id ∉ pass) (same : after = before)
  | gone {r : RetryRecord} (started : Entry.started id ∈ pass) (found : before = some r)
    (cause : Entry.taken id ∈ pass ∨ ∃ e, Entry.failed id e ∈ pass ∧ e.isRetryable = false)
    (dropped : after = none)
  | kept {r r' : RetryRecord} {e : Error} (started : Entry.started id ∈ pass)
    (found : before = some r) (failed : Entry.failed id e ∈ pass) (retryable : e.isRetryable = true)
    (booked : after = some r') (settled : r'.inFlight = false)
    (count : r'.attemptCount = r.attemptCount + 1)

/-- A pass from one state of a diary to another. -/
structure Pass (d : Diary ω) (pass : List Entry) (d' : Diary ω) : Prop where
  entries : d'.entries = pass ++ d.entries
  keyed : d'.relay.retry.Keyed
  passed : ∀ id, Passed pass id (d.relay.retry.get? id) (d'.relay.retry.get? id)

theorem Pass.none {d : Diary ω} (keyed : d.relay.retry.Keyed) : Pass d [] d :=
  ⟨rfl, keyed, fun _ => .untried (by simp) rfl⟩

theorem keyed_of_drops {q q' : RetryQueue} (keyed : q.Keyed) {id : String}
    (h : ∀ other, q'.get? other = if id = other then none else q.get? other) : q'.Keyed := by
  intro other r found
  rw [h] at found
  split at found
  next => cases found
  next => exact keyed other r found

/-- A pass that concerns one id only. -/
theorem Pass.of_one {d d' : Diary ω} {pass : List Entry} (id : String)
    (entries : d'.entries = pass ++ d.entries) (keyed : d'.relay.retry.Keyed)
    (only : ∀ other, Entry.started other ∈ pass → other = id)
    (own : Passed pass id (d.relay.retry.get? id) (d'.relay.retry.get? id))
    (others : SameElsewhere id d.relay.retry d'.relay.retry) : Pass d pass d' := by
  refine ⟨entries, keyed, fun other => ?_⟩
  by_cases same : id = other
  · exact same ▸ own
  · exact .untried (fun started => same (only other started).symm) (others other same)

theorem settleFailure_books (host : Host ω) {d : Diary ω} {id : String} {record : RetryRecord}
    (keyed : d.relay.retry.Keyed) (found : d.relay.retry.get? id = some record) (e : Error) :
    ∃ d' tail, settleFailure host id e d = .ok () d' ∧
      d'.entries = tail ++ Entry.failed id e :: d.entries ∧ (∀ other, Entry.started other ∉ tail) ∧
      d'.relay.retry.Keyed ∧ SameElsewhere id d.relay.retry d'.relay.retry ∧
      (e.isRetryable = false ∧ d'.relay.retry.get? id = none ∨
        e.isRetryable = true ∧ ∃ record', d'.relay.retry.get? id = some record' ∧
          record'.inFlight = false ∧ record'.attemptCount = record.attemptCount + 1) := by
  have unstarted : ∀ (given_up : Bool) (other : String),
      Entry.started other ∉ if given_up then [Entry.gaveUp id] else [] := by
    intro given_up other
    cases given_up <;> simp
  by_cases retryable : e.isRetryable = true
  · obtain ⟨now, record', r, settled, fails, booked⟩ := booked_of_retryable host retryable found
    have key : record'.messageId = id := fails.messageId.trans (keyed id record found)
    refine ⟨_, _, settleFailure_apply settled, rfl, unstarted _, booked ▸ keyed.put record',
      booked ▸ .put _ key, .inr ⟨retryable, record', ?_, fails.inFlight, fails.attemptCount⟩⟩
    rw [booked, RetryQueue.get?_put, if_pos key]
  · have final : e.isRetryable = false := by simpa using retryable
    obtain ⟨r, settled, queue⟩ := settleFailure_of_final host id final d.relay
    have dropped := dropped_of_queue queue
    exact ⟨_, _, settleFailure_apply settled, rfl, unstarted _, keyed_of_drops keyed dropped,
      .dropped dropped, .inl ⟨final, (dropped id).trans (if_pos rfl)⟩⟩

/-- A record is taken for another attempt, and nothing else has become of the queue since. -/
structure Claimed (d : Diary ω) (id : String) (record : RetryRecord) (d' : Diary ω) : Prop where
  keyed : d.relay.retry.Keyed
  found : d.relay.retry.get? id = some record
  table : d'.relay.retry = d.relay.retry.put { record with inFlight := true }

section Claimed

variable {d d' : Diary ω} {id : String} {record : RetryRecord}

theorem Claimed.elsewhere (c : Claimed d id record d') :
    SameElsewhere id d.relay.retry d'.relay.retry :=
  c.table ▸ .put d.relay.retry (c.keyed id record c.found)

theorem Claimed.there (c : Claimed d id record d') :
    d'.relay.retry.get? id = some { record with inFlight := true } := by
  rw [c.table, RetryQueue.get?_put]
  exact if_pos (c.keyed id record c.found)

theorem Claimed.still_keyed (c : Claimed d id record d') : d'.relay.retry.Keyed :=
  c.table ▸ c.keyed.put { record with inFlight := true }

theorem Claimed.delivered (host : Host ω) (c : Claimed d id record d')
    (entries : d'.entries = .taken id :: .started id :: d.entries) :
    ∃ d'', plainly (Relay.settleDelivered host id) d' = .ok () d'' ∧
      Pass d [.taken id, .started id] d'' := by
  obtain ⟨r, settled, queue⟩ := settleDelivered_apply host id d'.relay
  have dropped := dropped_of_queue queue
  have keyed := keyed_of_drops c.still_keyed dropped
  refine ⟨_, plainly_of_ok settled,
    .of_one id entries keyed (by simp) ?_ (c.elsewhere.trans (.dropped dropped))⟩
  exact .gone (by simp) c.found (.inl (by simp)) ((dropped id).trans (if_pos rfl))

theorem Claimed.failed (host : Host ω) (c : Claimed d id record d')
    (entries : d'.entries = .started id :: d.entries) (e : Error) :
    ∃ d'' tail, settleFailure host id e d' = .ok () d'' ∧ (∀ other, Entry.started other ∉ tail) ∧
      Pass d (tail ++ [.failed id e, .started id]) d'' := by
  obtain ⟨d'', tail, settled, entries', unstarted, keyed, others, ends⟩ :=
    settleFailure_books host c.still_keyed c.there e
  refine ⟨d'', tail, settled, unstarted, .of_one id ?_ keyed ?_ ?_ (c.elsewhere.trans others)⟩
  · rw [entries', entries]
    simp
  · simp [unstarted]
  · rcases ends with ⟨final, dropped⟩ | ⟨retryable, record', booked, settled, count⟩
    · exact .gone (by simp) c.found (.inr ⟨e, by simp, final⟩) dropped
    · exact .kept (by simp) c.found (by simp) retryable booked settled count

end Claimed

/-- A record that is due is tried in a pass. -/
def Tries (d : Diary ω) (now : Nat) (pass : List Entry) (id : String) : Prop :=
  Entry.started id ∈ pass ∨
    ∀ record, d.relay.retry.get? id = some record → record.isDue now = false

theorem retryOne_passes (hq : host.Quiet) {d : Diary ω} (keyed : d.relay.retry.Keyed) (now : Nat)
    (report : TickReport) (id : String) :
    ∃ report' d' pass, retryOne host now report id d = .ok report' d' ∧ Pass d pass d' ∧
      (∀ other, Entry.started other ∈ pass → other = id) ∧ Tries d now pass id := by
  rcases claim_apply id now d.relay with ⟨idle, undue⟩ | ⟨record, found, _, claimed⟩
  · refine ⟨{ report with skipped := report.skipped + 1 }, d, [], ?_, .none keyed, by simp,
      .inr undue⟩
    rw [retryOne, Act.bind_of_ok (plainly_of_ok idle)]
    rfl
  rw [retryOne, Act.bind_of_ok (plainly_of_ok claimed)]
  dsimp only
  rcases relayFor_quiet hq id record.jid record.message record.options
    ⟨{ d.relay with retry := d.relay.retry.put { record with inFlight := true } }, d.entries⟩ with
    ⟨sent, d₁, relayed, retry, entries⟩ | ⟨e, d₁, relayed, retry, entries⟩
  · have taken : Claimed d id record d₁ := ⟨keyed, found, retry⟩
    obtain ⟨d₂, settled, passed⟩ := taken.delivered host entries
    rw [Act.bind_of_ok (Act.attempt_of_ok relayed)]
    dsimp only
    rw [Act.bind_of_ok settled]
    exact ⟨_, d₂, _, rfl, passed, by simp, .inl (by simp)⟩
  · have taken : Claimed d id record d₁ := ⟨keyed, found, retry⟩
    obtain ⟨d₂, tail, settled, unstarted, passed⟩ := taken.failed host entries e
    rw [Act.bind_of_ok (Act.attempt_of_error relayed)]
    dsimp only
    rw [Act.bind_of_ok settled]
    exact ⟨_, d₂, _, rfl, passed, by simp [unstarted], .inl (by simp)⟩

theorem Passed.same_of_untried {pass : List Entry} {id : String} {before after : Option RetryRecord}
    (h : Passed pass id before after) (unstarted : Entry.started id ∉ pass) : after = before := by
  cases h with
  | untried _ same => exact same
  | gone started | kept started => exact absurd started unstarted

/-- One pass after another that does not try the same record again. -/
theorem Passed.trans {first next : List Entry} {id : String} {before mid after : Option RetryRecord}
    (h : Passed first id before mid) (h' : Passed next id mid after)
    (once : Entry.started id ∈ first → Entry.started id ∉ next) :
    Passed (next ++ first) id before after := by
  cases h with
  | untried unstarted same =>
    subst same
    cases h' with
    | untried unstarted' same => exact .untried (by simp [unstarted, unstarted']) same
    | gone started found cause dropped =>
      refine .gone (by simp [started]) found ?_ dropped
      exact cause.imp (fun h => by simp [h]) fun ⟨e, h, final⟩ => ⟨e, by simp [h], final⟩
    | kept started found failed retryable booked settled count =>
      exact .kept (by simp [started]) found (by simp [failed]) retryable booked settled count
  | gone started found cause dropped =>
    cases h' with
    | untried _ same =>
      refine .gone (by simp [started]) found ?_ (same.trans dropped)
      exact cause.imp (fun h => by simp [h]) fun ⟨e, h, final⟩ => ⟨e, by simp [h], final⟩
    | gone again | kept again => exact absurd again (once started)
  | kept started found failed retryable booked settled count =>
    cases h' with
    | untried _ same =>
      exact .kept (by simp [started]) found (by simp [failed]) retryable (same.trans booked) settled
        count
    | gone again | kept again => exact absurd again (once started)

theorem foldlM_passes (hq : host.Quiet) {ids : List String} (distinct : ids.Nodup) {d : Diary ω}
    (keyed : d.relay.retry.Keyed) (now : Nat) (report : TickReport) :
    ∃ report' d' pass, ids.foldlM (retryOne host now) report d = .ok report' d' ∧ Pass d pass d' ∧
      (∀ id, Entry.started id ∈ pass → id ∈ ids) ∧ ∀ id ∈ ids, Tries d now pass id := by
  induction ids generalizing d report with
  | nil => exact ⟨report, d, [], rfl, .none keyed, by simp, by simp⟩
  | cons id ids ih =>
    obtain ⟨fresh, distinct⟩ := List.nodup_cons.mp distinct
    obtain ⟨report₁, d₁, first, h, passed, only, tried⟩ := retryOne_passes hq keyed now report id
    obtain ⟨report₂, d₂, rest, h', passed', listed, tried'⟩ := ih distinct passed.keyed report₁
    refine ⟨report₂, d₂, rest ++ first, ?_, ⟨?_, passed'.keyed, fun other => ?_⟩, fun other => ?_,
      fun other mem => ?_⟩
    · rw [List.foldlM_cons, Act.bind_of_ok h]
      exact h'
    · rw [passed'.entries, passed.entries, List.append_assoc]
    · refine (passed.passed other).trans (passed'.passed other) fun started again => ?_
      exact fresh (only other started ▸ listed other again)
    · intro started
      rcases List.mem_append.mp started with started | started
      · exact List.mem_cons_of_mem _ (listed other started)
      · exact only other started ▸ List.mem_cons_self
    · rcases List.mem_cons.mp mem with rfl | mem
      · exact tried.imp_left (List.mem_append_right rest)
      · have unstarted : Entry.started other ∉ first :=
          fun started => fresh (only other started ▸ mem)
        refine (tried' other mem).imp (List.mem_append_left first) fun undue record found => ?_
        exact undue record <| ((passed.passed other).same_of_untried unstarted).trans found

/-- How a pass ends. Either it breaks off and tries no record, or it tries every record that is due,
and each of those is gone or back in the queue behind it. -/
inductive Ticks (d : Diary ω) (now : Nat) : Option TickReport → List Entry → Diary ω → Prop
  | brokeOff {d' : Diary ω} (outgrown : d.relay.canCleanUp now = false)
    (untried : d'.relay.retry = d.relay.retry ∨ d'.relay.retry = d.relay.retry.fresh now) :
    Ticks d now none [] d'
  | through {report : TickReport} {pass : List Entry} {d' : Diary ω}
    (fits : d.relay.canCleanUp now = true)
    (tried : ∀ id ∈ (d.relay.retry.fresh now).due now, Entry.started id ∈ pass)
    (passed : ∀ id, Passed pass id ((d.relay.retry.fresh now).get? id) (d'.relay.retry.get? id)) :
    Ticks d now (some report) pass d'

theorem tick_passes (hq : host.Quiet) {d : Diary ω} (keyed : d.relay.retry.Keyed) :
    ∃ now answer d' pass, tick host d = .ok answer d' ∧ d'.entries = pass ++ d.entries ∧
      d'.relay.retry.Keyed ∧ Ticks d now answer pass d' := by
  obtain ⟨now, r₁, timed, retry₁, can⟩ : ∃ now r₁, inWorld (World.now host) d.relay = .ok now r₁ ∧
      r₁.retry = d.relay.retry ∧ r₁.canCleanUp now = d.relay.canCleanUp now :=
    ⟨_, _, rfl, rfl, rfl⟩
  have purged : ∀ {r₂ : Relay ω}, r₂.queue = (RetryQueue.purge host now).after r₁.queue →
      r₂.retry = d.relay.retry.fresh now := fun {r₂} queue => by
    have own : r₂.retry = r₁.retry.fresh now :=
      (congrArg Held.own queue).trans (RetryQueue.own_after_purge host now r₁.queue)
    rw [own, retry₁]
  rcases cleanUp_cases host now r₁ with
    ⟨fits, _, _, r₂, cleaned, queue⟩ | ⟨outgrown, r₂, cleaned, untouched⟩
  · have retry := purged queue
    have keyed₂ : r₂.retry.Keyed := retry ▸ keyed.fresh now
    obtain ⟨report, d', pass, folded, passed, _, tried⟩ := foldlM_passes hq
      (RetryQueue.nodup_due keyed₂ now) (d := ⟨r₂, d.entries⟩) keyed₂ now _
    refine ⟨now, some report, d', pass, ?_, passed.entries, passed.keyed,
      .through (can ▸ fits) (fun id mem => ?_) fun id => ?_⟩
    · rw [tick, Act.bind_of_ok (plainly_of_ok timed),
        Act.bind_of_ok (plainly_of_ok (d := ⟨r₁, d.entries⟩) cleaned)]
      exact Act.bind_of_ok folded
    · rw [← retry] at mem
      obtain ⟨record, found, due⟩ := (RetryQueue.mem_due keyed₂).mp mem
      refine (tried id mem).resolve_right fun undue => ?_
      rw [undue record found] at due
      cases due
    · have own := passed.passed id
      change Passed pass id (r₂.retry.get? id) _ at own
      rwa [retry] at own
  · have retry : r₂.retry = d.relay.retry ∨ r₂.retry = d.relay.retry.fresh now :=
      untouched.imp (fun same => (congrArg Relay.retry same).trans retry₁) purged
    refine ⟨now, none, ⟨r₂, d.entries⟩, [], ?_, rfl, ?_, .brokeOff (can ▸ outgrown) retry⟩
    · rw [tick, Act.bind_of_ok (plainly_of_ok timed),
        Act.bind_of_ok (plainly_of_ok (d := ⟨r₁, d.entries⟩) cleaned)]
      rfl
    · rcases retry with same | same
      · exact same ▸ keyed
      · exact same ▸ keyed.fresh now

end Diary

namespace Relay

/-- The life of a relay as far as its retry queue is concerned. -/
inductive Course (host : Host ω) : Relay ω → Prop
  | created {c : Config} {credentials : Credentials} {w w' : World ω} {r : Relay ω}
      (h : create host c credentials w = .ok r w') : Course host r
  | sent {r : Relay ω} (course : Course host r) (jid : Jid) (message : Message)
      (options : RelayOptions) : Course host ((sendMessage host jid message options).after r)
  | ticked {r : Relay ω} (course : Course host r) : Course host ((tick host).after r)
  | acknowledged {r : Relay ω} (course : Course host r) (id : String) :
      Course host ((acknowledge host id).after r)
  | answered {r : Relay ω} (course : Course host r) (receipt : RetryReceipt) :
      Course host ((handleRetryReceipt host receipt).after r)
  | relayed {r : Relay ω} (course : Course host r) (jid : Jid) (message : Message)
      (options : RelayOptions) : Course host ((relay host jid message options).after r)

/-- Each record stands under its own id, and nobody is delivering it. -/
def Settled (q : RetryQueue) : Prop := q.Keyed ∧ q.Calm

theorem queue_of_create {c : Config} {credentials : Credentials} {w w' : World ω} {r : Relay ω}
    (h : create host c credentials w = .ok r w') : Settled r.retry := by
  obtain ⟨_, opened, _⟩ := opened_of_create h
  obtain ⟨_, _, _, keyed, origin⟩ := openQueue_eq_ok opened
  refine ⟨keyed, fun id record found => ?_⟩
  obtain ⟨key, _, read⟩ := origin id record found
  obtain ⟨text, _, read⟩ := Option.bind_eq_some_iff.mp read
  obtain ⟨v, _, read⟩ := Option.bind_eq_some_iff.mp read
  exact RetryRecord.inFlight_of_ofJson? read

theorem Settled.of_elsewhere {q q' : RetryQueue} (h : Settled q) (id : String)
    (others : SameElsewhere id q q')
    (own : ∀ record, q'.get? id = some record → record.messageId = id ∧ record.inFlight = false) :
    Settled q' := by
  constructor <;> intro other record found <;> by_cases same : id = other
  · exact same ▸ (own record (same ▸ found)).1
  · exact h.1 other record (others other same ▸ found)
  · exact (own record (same ▸ found)).2
  · exact h.2 other record (others other same ▸ found)

theorem SendEnds.settled {jid : Jid} {message : Message} {options : RelayOptions}
    {r : Relay (Recorded ω)} {x : Act (Relay (Recorded ω)) String} (h : Settled r.retry)
    (ends : SendEnds host jid message options r (x r)) : Settled (x.after r).retry := by
  cases hx : x r with
  | ok id r' =>
    rw [Act.after_of_ok hx]
    rw [hx] at ends
    cases ends with
    | delivered _ gone others =>
      exact h.of_elsewhere _ others fun record found => (nomatch gone.symm.trans found)
  | error e r' =>
    rw [Act.after_of_error hx]
    rw [hx] at ends
    cases ends with
    | unenrolled _ queue _ => exact queue ▸ h
    | kept _ _ found same settled _ _ _ others =>
      refine h.of_elsewhere _ others fun record there => ?_
      obtain rfl := Option.some.inj (found.symm.trans there)
      exact ⟨same.1, settled⟩
    | dropped _ _ gone others =>
      exact h.of_elsewhere _ others fun record found => (nomatch gone.symm.trans found)

theorem tick_settled (hq : host.Quiet) {r : Relay ω} (h : Settled r.retry) :
    Settled ((tick host).after r).retry := by
  obtain ⟨now, answer, d, pass, ticked, _, keyed, ends⟩ :=
    Diary.tick_passes hq (d := ⟨r, []⟩) h.1
  have plain : tick host r = .ok answer d.relay :=
    Diary.tick_mirrors.of_ok (d := ⟨r, []⟩) ticked
  have fresh : ∀ id record, (r.retry.fresh now).get? id = some record →
      record.inFlight = false := by
    intro id record found
    rw [RetryQueue.get?_fresh, Option.filter_eq_some_iff] at found
    exact h.2 id record found.1
  rw [Act.after_of_ok plain]
  refine ⟨keyed, fun id record found => ?_⟩
  cases ends with
  | brokeOff _ untried =>
    rcases untried with same | same
    · exact h.2 id record (same ▸ found)
    · exact fresh id record (same ▸ found)
  | through _ _ passed =>
    cases passed id with
    | untried _ same => exact fresh id record (same ▸ found)
    | gone _ _ _ dropped => exact (nomatch dropped.symm.trans found)
    | kept _ _ _ _ booked settled =>
      obtain rfl := Option.some.inj (booked.symm.trans found)
      exact settled

theorem acknowledge_settled (id : String) {r : Relay ω} (h : Settled r.retry) :
    Settled ((acknowledge host id).after r).retry := by
  have dropped := dropped_of_queue (queue_acknowledge host id r)
  refine h.of_elsewhere id (fun other ne => ?_) fun record found => ?_
  · exact (dropped other).trans (if_neg ne)
  · rw [dropped, if_pos rfl] at found
    cases found

theorem Course.settled (hq : host.Quiet) {r : Relay (Recorded ω)}
    (course : Course host.recording r) : Settled r.retry := by
  induction course with
  | created h => exact queue_of_create h
  | sent _ jid message options h => exact (sendMessage_ends hq jid message options _).settled h
  | ticked _ h => exact tick_settled hq.recording h
  | acknowledged _ id h => exact acknowledge_settled id h
  | answered _ receipt h =>
    have still := handleRetryReceipt_keeps_of_still (fun _ _ still => still)
      (relay_still hq.recording) receipt
    rw [(still _).retry]
    exact h
  | relayed _ jid message options h =>
    have still := relay_still hq.recording jid message options
    rw [(still _).retry]
    exact h

theorem settles_sends_and_retries (hq : host.Quiet) :
    (∀ (r : Relay (Recorded ω)) (jid : Jid) (message : Message) (options : RelayOptions),
      SendEnds host jid message options r (sendMessage host.recording jid message options r)) ∧
    (∀ d : Diary ω, d.relay.retry.Keyed → ∃ now answer d' pass,
      Diary.tick host d = .ok answer d' ∧ tick host d.relay = .ok answer d'.relay ∧
        d'.entries = pass ++ d.entries ∧ Diary.Ticks d now answer pass d') ∧
    ∀ r, Course host.recording r → ∀ id record, r.retry.get? id = some record →
      record.inFlight = false ∧
        (record.state = .active → ∀ now, record.nextAttemptAt ≤ now → id ∈ r.retry.due now) := by
  refine ⟨fun r jid message options => sendMessage_ends hq jid message options r,
    fun d keyed => ?_, fun r course id record found => ?_⟩
  · obtain ⟨now, answer, d', pass, ticked, entries, _, ends⟩ := Diary.tick_passes hq keyed
    exact ⟨now, answer, d', pass, ticked, Diary.tick_mirrors.of_ok ticked, entries, ends⟩
  · obtain ⟨keyed, calm⟩ := course.settled hq
    have idle := calm id record found
    refine ⟨idle, fun active now time => (RetryQueue.mem_due keyed).mpr ⟨record, found, ?_⟩⟩
    simp [RetryRecord.isDue, active, idle, time]

/-- A connection that takes no stanza. -/
def unplugged : Host Stage :=
  { Stage.plain with send := fun _ s => .settled (.error (.network "reset")) s }

def hello : Act (Relay (Recorded Stage)) String :=
  sendMessage unplugged.recording Stage.channel (.text "hi") { messageId := some "1" }

theorem unplugged_hello_is_kept : ∃ (r : Relay (Recorded Stage)) (record : RetryRecord),
    hello (atOpening ⟨Stage.own, none, []⟩) = .error (.network "reset") r ∧
      r.retry.get? "1" = some record ∧ record.inFlight = false ∧ record.attemptCount = 1 ∧
      record.errors = ["Network error: reset"] := by
  have said : (Act.attempt hello).yields (atOpening ⟨Stage.own, none, []⟩)
      (fun a r => a = .error (.network "reset") && r.retry.contains "1") = true := by
    decide +kernel
  obtain ⟨a, r, h, shown⟩ := Act.yields_iff.mp said
  rw [Bool.and_eq_true, decide_eq_true_eq] at shown
  obtain ⟨rfl, there⟩ := shown
  have outcome := Act.attempt_eq_error h
  have bare : (atOpening ⟨Stage.own, none, []⟩).retry.contains "1" = false := rfl
  generalize atOpening ⟨Stage.own, none, []⟩ = before at outcome bare ⊢
  have quiet : unplugged.Quiet := fun _ s => ⟨_, s, rfl⟩
  have ends := (settles_sends_and_retries quiet).1 before Stage.channel (.text "hi")
    { messageId := some "1" }
  rw [show sendMessage unplugged.recording Stage.channel (.text "hi") { messageId := some "1" }
    before = .error (.network "reset") r from outcome] at ends
  cases ends with
  | unenrolled _ queue _ =>
    rw [queue, bare] at there
    cases there
  | kept enrolled _ found _ settled count errors =>
    have named := enrol_id rfl enrolled
    subst named
    exact ⟨r, _, outcome, found, settled, count, errors⟩
  | dropped _ final => cases final

end Relay

end Fanout
