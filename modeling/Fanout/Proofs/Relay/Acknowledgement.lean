import Fanout.Proofs.Rehearsal.Stage
import Fanout.Proofs.Relay.Queue
import Fanout.Proofs.Retry.Departure

namespace Fanout

variable {ω : Type} {host : Host ω}

namespace Relay

variable {c : Config} {r r' s : Relay ω} {id : String} {ids : List String}

/-- A stretch of the life of relays with the same settings over one store, one restarted after the
other, and the ids that were put into the queue, the latest first. -/
inductive Stretch (host : Host ω) (c : Config) (r : Relay ω) : List String → Relay ω → Prop
  | start : Stretch host c r [] r
  | sent {ids : List String} {s s' : Relay ω} {id : String} (before : Stretch host c r ids s)
    (jid : Jid) (message : Message) (options : RelayOptions)
    (h : enrol host jid message options s = .ok id s') :
    Stretch host c r (id :: ids) ((sendMessage host jid message options).after s)
  | unsent {ids : List String} {s s' : Relay ω} {e : Error} (before : Stretch host c r ids s)
    (jid : Jid) (message : Message) (options : RelayOptions)
    (h : enrol host jid message options s = .error e s') :
    Stretch host c r ids ((sendMessage host jid message options).after s)
  | ticked {ids : List String} {s : Relay ω} (before : Stretch host c r ids s) :
    Stretch host c r ids ((tick host).after s)
  | acknowledged {ids : List String} {s : Relay ω} (before : Stretch host c r ids s)
    (id : String) : Stretch host c r ids ((acknowledge host id).after s)
  | relayed {ids : List String} {s : Relay ω} (before : Stretch host c r ids s) (jid : Jid)
    (message : Message) (options : RelayOptions) :
    Stretch host c r ids ((relay host jid message options).after s)
  | answered {ids : List String} {s : Relay ω} (before : Stretch host c r ids s)
    (receipt : RetryReceipt) : Stretch host c r ids ((handleRetryReceipt host receipt).after s)
  | restarted {ids : List String} {s s' : Relay ω} (before : Stretch host c r ids s)
    {credentials : Credentials} {w w' : World ω} (documents : w.documents = s.world.documents)
    (h : create host c credentials w = .ok s' w') : Stretch host c r ids s'
  /-- Whatever concerns neither the queue nor its documents, as new credentials, a reset of sender
  keys or a store that begins or ceases to fail. -/
  | aside {ids : List String} {s s' : Relay ω} (before : Stretch host c r ids s)
    (still : Still s s') : Stretch host c r ids s'

/-- What operations of the queue come to without a new record. -/
def Works (host : Host ω) (s t : Held RetryQueue ω) : Prop := RetryQueue.Stretch host s [] t

instance : IsPreorder (Held RetryQueue ω) (Works host) where
  refl _ := .start
  trans _ _ _ h h' := h.append h'

theorem works_admitted (host : Host ω) : Admits host (Works host) where
  aside _ _ still := .aside .start still
  removed id _ := .removed .start id
  purged now _ := .purged .start now
  claimed id now _ := .claimed .start id now

theorem works_failed (host : Host ω) (id error : String) (now : Nat) :
    (RetryQueue.recordFailure host id error now).Keeps (Works host) :=
  fun _ => .failed .start id error now

theorem enrol_works {jid : Jid} {message : Message} {options : RelayOptions} (home : r.AtHome)
    (h : enrol host jid message options r = .ok id r') :
    r'.retry.home = r.retry.home ∧ RetryQueue.Stretch host r.queue [id] r'.queue := by
  rcases enrol_cases host jid message options r with
    ⟨_, _, _, _, h', still, put⟩ | ⟨_, _, h', _⟩ <;> rw [h'] at h <;> cases h
  have run := (RetryQueue.Stretch.start.aside (still.queue home)).enqueued put
  exact ⟨run.stays, run⟩

/-- Relays work their queue by its own operations. -/
theorem Stretch.queue (persistent : c.persistRetryQueue = true)
    (at_home : r.retry.home = some retryHome) (run : Stretch host c r ids s) :
    s.retry.home = some retryHome ∧ RetryQueue.Stretch host r.queue ids s.queue := by
  have admits := works_admitted host
  have carry : ∀ {ids : List String} {s s' : Relay ω},
      s.retry.home = some retryHome ∧ RetryQueue.Stretch host r.queue ids s.queue →
      OnQueue (Works host) s s' →
      s'.retry.home = some retryHome ∧ RetryQueue.Stretch host r.queue ids s'.queue := by
    rintro ids s s' ⟨home, run⟩ works
    have worked := (works (.inr home)).2
    exact ⟨(RetryQueue.Stretch.stays worked).trans home, run.append worked⟩
  induction run with
  | start => exact ⟨at_home, .start⟩
  | @sent ids s s' id before jid message options h ih =>
    obtain ⟨stays, put⟩ := enrol_works (.inr ih.1) h
    rw [sendMessage_eq, Act.after_congr (Act.bind_of_ok h)]
    refine carry ⟨stays.trans ih.1, ih.2.append put⟩ ?_
    exact pursue_onQueue (works_failed host) admits id jid message _ s'
  | @unsent ids s s' e before jid message options h ih =>
    rcases enrol_cases host jid message options s with ⟨_, _, _, _, h', _⟩ | ⟨_, s', h', still⟩
    · exact (nomatch h'.symm.trans h)
    · rw [sendMessage_eq, Act.after_of_error (Act.bind_of_error h')]
      exact carry ih (admits.still still)
  | ticked before ih => exact carry ih (tick_onQueue (works_failed host) admits _)
  | acknowledged before id ih => exact carry ih (acknowledge_onQueue admits id _)
  | relayed before jid message options ih =>
    exact carry ih (relay_onQueue admits jid message options _)
  | answered before receipt ih => exact carry ih (handleRetryReceipt_onQueue admits receipt _)
  | @restarted ids s s' before credentials w w' documents h ih =>
    obtain ⟨restored, queue⟩ := restored_of_create persistent h
    rw [queue]
    exact ⟨(RetryQueue.restore_eq_ok restored).2.1, ih.2.restored ih.1 documents restored⟩
  | aside before still ih => exact carry ih (admits.still still)

/-- A relay rebuilt later has a record of an id that was not put in again. -/
def Returns (host : Host ω) (c : Config) (id : String) (r : Relay ω) : Prop :=
  ∃ ids s credentials w w' rebuilt, Stretch host c r ids s ∧ id ∉ ids ∧
    w.documents = s.world.documents ∧ create host c credentials w = .ok rebuilt w' ∧
    rebuilt.retry.contains id = true

theorem create_of_reads (reads : host.Reads) (valid : c.validate = .ok ())
    (persistent : c.persistRetryQueue = true) (credentials : Credentials) (w : World ω) :
    ∃ r w', create host c credentials w = .ok r w' := by
  obtain ⟨q, w', restored⟩ := RetryQueue.restore_of_reads reads c.retry retryHome w
  have opened : openQueue host c w = .ok q w' := by rw [openQueue, if_pos persistent, restored]
  have checked : Act.ofExcept c.validate w = .ok () w := Act.ofExcept_eq_ok.mpr ⟨valid, rfl⟩
  exact ⟨_, w', (Act.bind_of_ok checked).trans (Act.bind_of_ok opened)⟩

theorem returns_iff (reads : host.Reads) (valid : c.validate = .ok ())
    (persistent : c.persistRetryQueue = true) (home : r.retry.home = some retryHome)
    (placed : RetryQueue.Placed r.queue) (absent : r.retry.get? id = none) :
    Returns host c id r ↔ ∃ key record, RetryQueue.Gives r.queue id key record := by
  rw [← RetryQueue.returns_iff reads home placed absent]
  constructor
  · rintro ⟨ids, s, credentials, w, w', rebuilt, run, apart, documents, h, back⟩
    obtain ⟨restored, _⟩ := restored_of_create persistent h
    exact ⟨ids, s.queue, c.retry, w, w', rebuilt.retry, (run.queue persistent home).2, apart,
      documents, restored, back⟩
  · intro returns
    obtain ⟨key, record, given⟩ := (RetryQueue.returns_iff reads home placed absent).mp returns
    obtain ⟨rebuilt, w', h⟩ := create_of_reads reads valid persistent r.credentials r.world
    obtain ⟨restored, _⟩ := restored_of_create persistent h
    refine ⟨[], r, r.credentials, r.world, w', rebuilt, .start, by simp, rfl, h, ?_⟩
    by_contra missing
    have none := RetryQueue.contains_eq_false_iff.mp (by simpa using missing)
    have absent := (RetryQueue.restored_eq_none_iff (s := r.queue) home rfl restored).mp none
    exact absent key record given

theorem acknowledge_eq_ok {answer : Bool} (h : acknowledge host id r = .ok answer r') :
    ∃ found, RetryQueue.remove host id r.queue = .ok found r'.queue ∧ answer = found.isSome := by
  obtain ⟨found, s, zoomed, h⟩ := Act.bind_eq_ok.mp h
  obtain ⟨t, removed, rfl⟩ := Act.zoom_eq_ok.mp zoomed
  cases h
  exact ⟨found, removed, rfl⟩

/-- An acknowledgement that goes through is for good if it finds the record or if none is left in
the store either, and only then. -/
theorem acknowledged_for_good_iff (reads : host.Reads) :
    (∀ {config home} {w w' : World ω} {q ids s id found t}, RetryQueue.Filed home w.documents →
      RetryQueue.restore host config home w = .ok q w' →
      RetryQueue.Stretch host ⟨q, w'⟩ ids s → RetryQueue.remove host id s = .ok found t →
      (¬RetryQueue.Returns host home id t ↔
        found.isSome = true ∨ ∀ key record, ¬RetryQueue.Gives s id key record)) ∧
    ∀ {c credentials} {w w' : World ω} {first ids r id answer r'}, c.persistRetryQueue = true →
      RetryQueue.Filed retryHome w.documents → create host c credentials w = .ok first w' →
      Stretch host c first ids r → acknowledge host id r = .ok answer r' →
      (¬Returns host c id r' ↔
        answer = true ∨ ∀ key record, ¬RetryQueue.Gives r.queue id key record) := by
  constructor
  · intro config home w w' q ids s id found t filed h run removed
    have placed := run.placed (filed.placed h)
    have at_home : s.own.home = some home := run.stays.trans (RetryQueue.restore_eq_ok h).2.1
    exact RetryQueue.removed_for_good_iff reads at_home placed removed
  · intro c credentials w w' first ids r id answer r' persistent filed h run acknowledged
    obtain ⟨restored, queue⟩ := restored_of_create persistent h
    obtain ⟨home, run⟩ := run.queue persistent (RetryQueue.restore_eq_ok restored).2.1
    have placed : RetryQueue.Placed r.queue := run.placed (queue ▸ filed.placed restored)
    obtain ⟨found, removed, rfl⟩ := acknowledge_eq_ok acknowledged
    rw [← RetryQueue.removed_for_good_iff reads home placed removed]
    obtain ⟨home', placed', absent⟩ := RetryQueue.removed_leaves home placed removed
    have valid := (opened_of_create h).1
    rw [returns_iff reads valid persistent home' placed' absent,
      RetryQueue.returns_iff reads home' placed' absent]

/-- A store whose writes fail while they are broken, and a connection that breaks off and takes the
writes at the home of relays with it. -/
def storm : Host Stage :=
  { Stage.plain with
    refuses := fun call s => match call with
      | .put _ | .del _ => (s.refusal call, s)
      | .get _ | .list _ => (none, s)
    send := fun _ s => .settled (.error (.network "reset")) (s.breakWrites (some retryHome)) }

/-- Writes work again. -/
def healed (r : Relay Stage) : Relay Stage := r.withHost { r.world.host with brokenWrites := none }

/-- What we say in the storm. -/
def helloInStorm : Act (Relay Stage) String :=
  sendMessage storm Stage.channel (.text "hi") { messageId := some "1" }

theorem acknowledged_hello_stays_away : ∃ first w r r',
    create storm {} ⟨Stage.own, none, []⟩ ⟨∅, Stage.opening⟩ = .ok first w ∧
      Stretch storm {} first ["1"] r ∧ acknowledge storm "1" r = .ok true r' ∧
      ¬Returns storm {} "1" r' := by
  have shown : (create storm {} ⟨Stage.own, none, []⟩).yields ⟨∅, Stage.opening⟩ (fun first _ =>
      (enrol storm Stage.channel (.text "hi") { messageId := some "1" }).yields first
          (fun id _ => id = "1") &&
        (acknowledge storm "1").yields (healed (helloInStorm.after first))
          (fun answer _ => answer)) = true := by
    decide +kernel
  obtain ⟨first, w, h, shown⟩ := Act.yields_iff.mp shown
  rw [Bool.and_eq_true] at shown
  obtain ⟨s, put⟩ := Act.ok_of_yields shown.1
  obtain ⟨answer, r', acknowledged, rfl⟩ := Act.yields_iff.mp shown.2
  have run : Stretch storm {} first ["1"] (healed (helloInStorm.after first)) :=
    (Stretch.start.sent _ _ _ put).aside ⟨rfl, fun _ _ => rfl⟩
  have reads : storm.Reads := ⟨fun _ _ => rfl, fun _ _ => rfl⟩
  have filed : RetryQueue.Filed retryHome ∅ := fun _ _ _ read => (nomatch read)
  exact ⟨first, w, _, r', h, run, acknowledged,
    ((acknowledged_for_good_iff reads).2 rfl filed h run acknowledged).mpr (.inl rfl)⟩

/-- The first acknowledgement cannot delete the document, and the second one does not try. -/
theorem acknowledged_hello_comes_back : ∃ first w r failed r',
    create storm {} ⟨Stage.own, none, []⟩ ⟨∅, Stage.opening⟩ = .ok first w ∧
      Stretch storm {} first ["1"] r ∧
      acknowledge storm "1" r = .error (.storage "disk full: v1/retry-queue/1") failed ∧
      acknowledge storm "1" (healed failed) = .ok false r' ∧ Returns storm {} "1" r' := by
  have shown : (create storm {} ⟨Stage.own, none, []⟩).yields ⟨∅, Stage.opening⟩ (fun first _ =>
      (enrol storm Stage.channel (.text "hi") { messageId := some "1" }).yields first
          (fun id _ => id = "1") &&
        (Act.attempt (acknowledge storm "1")).yields (helloInStorm.after first) (fun a failed =>
          a = .error (.storage "disk full: v1/retry-queue/1") &&
            (acknowledge storm "1").yields (healed failed) (fun answer r' =>
              answer = false && (create storm {} ⟨Stage.own, none, []⟩).yields r'.world
                (fun rebuilt _ => rebuilt.retry.contains "1")))) = true := by
    decide +kernel
  obtain ⟨first, w, h, shown⟩ := Act.yields_iff.mp shown
  rw [Bool.and_eq_true] at shown
  obtain ⟨s, put⟩ := Act.ok_of_yields shown.1
  obtain ⟨a, failed, attempted, shown⟩ := Act.yields_iff.mp shown.2
  rw [Bool.and_eq_true, decide_eq_true_eq] at shown
  obtain ⟨rfl, shown⟩ := shown
  obtain ⟨answer, r', acknowledged, shown⟩ := Act.yields_iff.mp shown
  rw [Bool.and_eq_true, decide_eq_true_eq] at shown
  obtain ⟨rfl, shown⟩ := shown
  obtain ⟨rebuilt, w', created, back⟩ := Act.yields_iff.mp shown
  exact ⟨first, w, _, failed, r', h, Stretch.start.sent _ _ _ put, Act.attempt_eq_error attempted,
    acknowledged, [], r', _, r'.world, w', rebuilt, .start, by simp, rfl, created, back⟩

end Relay

end Fanout
