import Fanout.Proofs.Relay.Atomicity
import Fanout.Proofs.Relay.Diary
import Fanout.Proofs.Retry.Isolation
import Fanout.Relay.Receipt

namespace Fanout

/-- A time that the clock of a host shows in some state. -/
def Host.Shows {ω : Type} (host : Host ω) (time : Nat) : Prop := ∃ s, (host.clock s).1 = time

namespace Relay

variable {ω : Type} {R : ω → ω → Prop} {host : Host ω} {r r' : Relay ω}

/-- The retry queue beside its world. -/
def queue (r : Relay ω) : Held RetryQueue ω := ⟨r.retry, r.world⟩

/-- Neither the retry queue nor a document at the home of relays changes. -/
structure Still (r r' : Relay ω) : Prop where
  retry : r'.retry = r.retry
  documents : ∀ key, Storage.startsWith retryHome key = true →
    r'.world.documents.find? key = r.world.documents.find? key

instance : IsPreorder (Relay ω) Still where
  refl _ := ⟨rfl, fun _ _ => rfl⟩
  trans _ _ _ h h' := ⟨h'.retry.trans h.retry, fun key housed =>
    (h'.documents key housed).trans (h.documents key housed)⟩

theorem Still.atHome (h : Still r r') (home : r.AtHome) : r'.AtHome := by
  rw [AtHome, h.retry]
  exact home

theorem AtHome.startsWith (home : r.AtHome) {key : String}
    (housed : RetryQueue.Houses r.retry.home key) : Storage.startsWith retryHome key = true := by
  by_contra away
  exact home.not_houses (by simpa using away) housed

theorem Still.queue (h : Still r r') (home : r.AtHome) : RetryQueue.Still r.queue r'.queue :=
  ⟨h.retry, fun key housed => h.documents key (home.startsWith housed)⟩

theorem isRecord_of_startsWith {key : String} (housed : Storage.startsWith retryHome key = true) :
    SessionStore.isRecord key = false := by
  obtain ⟨rest, rfl⟩ := Storage.startsWith_iff.mp housed
  rw [SessionStore.isRecord, Storage.startsWith_append, Storage.startsWith_append]
  simp [retryHome, SessionStore.senderKeyHome, List.isPrefixOf]

theorem Prepares.still (h : Prepares R r r') : Still r r' := by
  refine ⟨by rw [h.rest], fun key housed => ?_⟩
  exact h.directories.rest.documents key (isRecord_of_startsWith housed)

theorem conclude_still (host : Host ω) (destination : Jid) (id : String) (message : Message)
    (informed : List Jid) (r : Relay ω) :
    Still r (conclude host destination id message informed r) := by
  have marked : (SenderKeyMemory.mark host destination informed).Keeps
      (fun s t => ∀ key, Storage.startsWith retryHome key = true →
        t.world.documents.find? key = s.world.documents.find? key) := by
    refine .intro (fun s t _ h key housed => ?_) fun s t e h key housed => ?_
    · have away : key ≠ SenderKeyMemory.key destination := by
        rintro rfl
        rw [startsWith_retryHome_key] at housed
        cases housed
      exact (SenderKeyMemory.mark_eq_ok host.keeps_true h).documents key
        (isRecord_of_startsWith housed) away
    · exact (SenderKeyMemory.mark_eq_error host.keeps_true h).rest.documents key
        (isRecord_of_startsWith housed)
  rw [conclude, inDirectories, Act.after_zoom, Directories.inMemory, Act.after_zoom]
  exact ⟨rfl, marked ⟨r.directories.memory, r.world⟩⟩

theorem now_apply (host : Host ω) (r : Relay ω) :
    ∃ now r', inWorld (World.now host) r = .ok now r' ∧ Still r r' ∧ host.Shows now := by
  let seen := host.clock r.world.host
  exact ⟨seen.1, r.withHost seen.2, rfl, ⟨rfl, fun _ _ => rfl⟩, r.world.host, rfl⟩

theorem chooseId_still (host : Host ω) (credentials : Credentials) (options : RelayOptions) :
    (chooseId host credentials options).Keeps Still :=
  fun r => (chooseId_keeps host.keeps_true credentials options r).still

theorem compose_prepares [IsPreorder ω R] (hh : host.Keeps R) (jid : Jid) (message : Message)
    (options : RelayOptions) : (compose host jid message options).Keeps (Prepares R) :=
  Act.Keeps.get.bind fun _ => (chooseId_keeps hh _ _).bind fun _ =>
    (inDirectories_keeps (Outgoing.prepare_steady hh _ _)).bind fun _ => Act.Keeps.pure _

theorem compose_still (host : Host ω) (jid : Jid) (message : Message) (options : RelayOptions) :
    (compose host jid message options).Keeps Still :=
  fun r => (compose_prepares host.keeps_true jid message options r).still

/-- The message that a sending put into the queue is the one that is relayed. -/
theorem relay_id {jid : Jid} {message : Message} {options : RelayOptions} {id sent : String}
    {r r' : Relay ω} (named : options.messageId = some id)
    (h : relay host jid message options r = .ok sent r') : sent = id := by
  obtain ⟨r₁, _, _, _, chosen, _⟩ := relay_eq_ok h
  rw [chooseId, named] at chosen
  cases chosen
  rfl

theorem finish_still (jid : Jid) (message : Message) (made : String × Prepared) :
    (finish host jid message made).Keeps Still :=
  (Act.Keeps.modify fun r => conclude_still host _ _ _ _ r).bind fun _ => Act.Keeps.pure _

section Keeps

variable {K : Relay ω → Relay ω → Prop} [IsPreorder (Relay ω) K]

/-- Only the stanza that is handed over can touch the queue. -/
theorem relay_keeps_of_still (still : ∀ r r', Still r r' → K r r')
    (sent : ∀ n, (transmit host n).Keeps K) (jid : Jid) (message : Message)
    (options : RelayOptions) : (relay host jid message options).Keeps K := by
  rw [relay_eq]
  have composed : (compose host jid message options).Keeps K :=
    fun r => still _ _ (compose_still host jid message options r)
  refine composed.bind fun made => ?_
  exact (sent made.2.node).bind fun _ r => still _ _ (finish_still jid message made r)

theorem handleRetryReceipt_keeps_of_still (still : ∀ r r', Still r r' → K r r')
    (relayed : ∀ jid message options, (relay host jid message options).Keeps K)
    (receipt : RetryReceipt) : (handleRetryReceipt host receipt).Keeps K := by
  have timed : (inWorld (World.now host)).Keeps K := fun r =>
    still _ _ (inWorld_keeps (World.now_keeps host.keeps_true) r).still
  have counted : ∀ now, (countReceipt (ω := ω) receipt now).Keeps K :=
    fun now r => still _ _ ⟨rfl, fun _ _ => rfl⟩
  have ensured : (inWorld (Sessions.ensure host [receipt.requester] true)).Keeps K := fun r =>
    still _ _ (inWorld_keeps (Sessions.ensure_keeps host.keeps_true _ _) r).still
  refine timed.bind fun now => (counted now).bind fun count => Act.Keeps.get.bind fun r => ?_
  refine .ite (.pure false) ?_
  split
  · exact .pure false
  · exact ensured.bind fun _ => (relayed _ _ _).bind fun _ => .pure true

end Keeps

/-- Without acknowledgements meanwhile, a relay leaves the retry queue alone. -/
theorem relay_still (hq : host.Quiet) (jid : Jid) (message : Message) (options : RelayOptions) :
    (relay host jid message options).Keeps Still := by
  refine relay_keeps_of_still (fun _ _ still => still) (fun n r => ?_) jid message options
  obtain ⟨s, same⟩ := after_transmit hq n r
  rw [same]
  exact ⟨rfl, fun _ _ => rfl⟩

theorem queue_inRetry {α : Type} (x : Act (Held RetryQueue ω) α) (r : Relay ω) :
    ((inRetry x).after r).queue = x.after r.queue := by
  rw [inRetry, Act.after_zoom]
  rfl

theorem inRetry_of_ok {α : Type} {x : Act (Held RetryQueue ω) α} {a : α} {s : Held RetryQueue ω}
    (h : x r.queue = .ok a s) : ∃ r', inRetry x r = .ok a r' ∧ r'.queue = s :=
  ⟨_, Act.zoom_eq_ok.mpr ⟨s, h, rfl⟩, rfl⟩

theorem inRetry_of_error {α : Type} {x : Act (Held RetryQueue ω) α} {e : Error}
    {s : Held RetryQueue ω} (h : x r.queue = .error e s) :
    ∃ r', inRetry x r = .error e r' ∧ r'.queue = s :=
  ⟨_, Act.zoom_eq_error.mpr ⟨s, h, rfl⟩, rfl⟩

theorem queue_acknowledge (host : Host ω) (id : String) (r : Relay ω) :
    ((acknowledge host id).after r).queue = (RetryQueue.remove host id).after r.queue := by
  rw [← queue_inRetry]
  cases h : inRetry (RetryQueue.remove host id) r with
  | ok found r' =>
    rw [Act.after_of_ok h]
    exact congrArg queue (Act.after_of_ok (Act.bind_of_ok h))
  | error e r' =>
    rw [Act.after_of_error h]
    exact congrArg queue (Act.after_of_error (Act.bind_of_error h))

theorem retry_of_removed {id : String} {r r' : Relay ω}
    (queue : r'.queue = (RetryQueue.remove host id).after r.queue) :
    r'.retry = r.retry.drop id :=
  (congrArg Held.own queue).trans (RetryQueue.own_after_remove host id r.queue)

theorem dropped_of_queue {id : String} {r r' : Relay ω}
    (queue : r'.queue = (RetryQueue.remove host id).after r.queue) (other : String) :
    r'.retry.get? other = if id = other then none else r.retry.get? other := by
  rw [retry_of_removed queue, RetryQueue.get?_drop]

theorem settleDelivered_apply (host : Host ω) (id : String) (r : Relay ω) :
    ∃ r', settleDelivered host id r = .ok () r' ∧
      r'.queue = (RetryQueue.remove host id).after r.queue := by
  obtain ⟨a, h⟩ := Act.attempt_apply (inRetry (RetryQueue.remove host id)) r
  exact ⟨_, Act.bind_of_ok h, queue_inRetry _ r⟩

/-- A failure that a retry may help is booked after the time is taken. -/
theorem settleFailure_of_retryable (host : Host ω) (id : String) {e : Error}
    (retryable : e.isRetryable = true) (r : Relay ω) :
    ∃ now r₁ r', host.Shows now ∧ Still r r₁ ∧ settleFailure host id e r = .ok () r' ∧
      r'.queue = (RetryQueue.recordFailure host id e.message now).after r₁.queue := by
  obtain ⟨now, r₁, timed, still, shown⟩ := now_apply host r
  obtain ⟨a, h⟩ := Act.attempt_apply (inRetry (RetryQueue.recordFailure host id e.message now)) r₁
  refine ⟨now, r₁, _, shown, still, ?_, queue_inRetry _ r₁⟩
  rw [settleFailure, if_pos retryable, Act.bind_of_ok timed]
  exact Act.bind_of_ok h

theorem settleFailure_of_final (host : Host ω) (id : String) {e : Error}
    (final : e.isRetryable = false) (r : Relay ω) :
    ∃ r', settleFailure host id e r = .ok () r' ∧
      r'.queue = (RetryQueue.remove host id).after r.queue := by
  rw [settleFailure, if_neg (by simp [final])]
  exact settleDelivered_apply host id r

/-- A record is taken if it is due. -/
theorem claim_apply (id : String) (now : Nat) (r : Relay ω) :
    (claim id now r = .ok none r ∧
        ∀ record, r.retry.get? id = some record → record.isDue now = false) ∨
      ∃ record, r.retry.get? id = some record ∧ record.isDue now = true ∧
        claim id now r = .ok (some { record with inFlight := true })
          { r with retry := r.retry.put { record with inFlight := true } } := by
  rw [claim, RetryQueue.claim]
  cases found : r.retry.get? id with
  | none =>
    refine .inl ⟨rfl, fun _ there => ?_⟩
    cases there
  | some record =>
    by_cases due : record.isDue now = true
    · refine .inr ⟨record, rfl, due, ?_⟩
      simp only [due, if_true]
    · refine .inl ⟨?_, fun other there => ?_⟩
      · simp only [due]
        rfl
      · obtain rfl := Option.some.inj there
        simpa using due

/-- Whether a relay can clean up at a time: every time at which something expires or is swept fits
its word. -/
def canCleanUp (r : Relay ω) (now : Nat) : Bool :=
  r.retry.expiriesFit && (r.trackers.sweep now).1.isSome

/-- Cleaning up comes to its end exactly if it can. It breaks off before the queue is purged or behind
that. -/
theorem cleanUp_cases (host : Host ω) (now : Nat) (r : Relay ω) :
    (r.canCleanUp now = true ∧ ∃ purged swept r',
        cleanUp host now r = .ok (some { purged, swept }) r' ∧
        r'.queue = (RetryQueue.purge host now).after r.queue) ∨
      r.canCleanUp now = false ∧ ∃ r', cleanUp host now r = .ok none r' ∧
        (r' = r ∨ r'.queue = (RetryQueue.purge host now).after r.queue) := by
  unfold canCleanUp
  cases fits : r.retry.expiriesFit with
  | false =>
    refine .inr ⟨rfl, r, ?_, .inl rfl⟩
    rw [cleanUp, Act.bind_of_ok (Act.get_apply r), fits]
    rfl
  | true =>
    let purge := inRetry (RetryQueue.purge host now)
    obtain ⟨purged, done⟩ : ∃ purged, Act.guarded purge r = .ok purged (purge.after r) := by
      unfold Act.guarded Act.after
      cases purge r <;> exact ⟨_, rfl⟩
    have trackers : (purge.after r).trackers = r.trackers := by
      rw [show purge = inRetry _ from rfl, inRetry, Act.after_zoom]
      rfl
    have queue := queue_inRetry (RetryQueue.purge host now) r
    have cleaned : cleanUp host now r = .ok
        ((r.trackers.sweep now).1.map fun swept => { purged := purged.getD 0, swept })
        { purge.after r with trackers := (r.trackers.sweep now).2 } := by
      rw [cleanUp, Act.bind_of_ok (Act.get_apply r), if_pos fits, Act.bind_of_ok done, ← trackers]
      rfl
    cases counted : (r.trackers.sweep now).1 with
    | none =>
      rw [counted] at cleaned
      exact .inr ⟨rfl, _, cleaned, .inr queue⟩
    | some swept =>
      rw [counted] at cleaned
      exact .inl ⟨rfl, _, swept, _, cleaned, queue⟩

section OnQueue

variable {Q : Held RetryQueue ω → Held RetryQueue ω → Prop}

/-- What stands between the queues of two relays, if that of the first has no home but its own. -/
def OnQueue (Q : Held RetryQueue ω → Held RetryQueue ω → Prop) (r r' : Relay ω) : Prop :=
  r.AtHome → r'.AtHome ∧ Q r.queue r'.queue

instance [IsPreorder (Held RetryQueue ω) Q] : IsPreorder (Relay ω) (OnQueue Q) where
  refl r home := ⟨home, refl_of Q r.queue⟩
  trans _ _ _ h h' home := ⟨(h' (h home).1).1, trans_of Q (h home).2 (h' (h home).1).2⟩

/-- A relation that the operations of the queue keep, but for a new record and a booked failure. -/
structure Admits (host : Host ω) (Q : Held RetryQueue ω → Held RetryQueue ω → Prop) : Prop where
  aside : ∀ s t, RetryQueue.Still s t → Q s t
  removed : ∀ id, (RetryQueue.remove host id).Keeps Q
  purged : ∀ now, (RetryQueue.purge host now).Keeps Q
  claimed : ∀ id now s, Q s ⟨(s.own.claim id now).2, s.world⟩

theorem Admits.still (admits : Admits host Q) (h : Still r r') : OnQueue Q r r' :=
  fun home => ⟨h.atHome home, admits.aside _ _ (h.queue home)⟩

theorem inRetry_onQueue {α : Type} {x : Act (Held RetryQueue ω) α} (kept : x.Keeps Q)
    (stays : x.Keeps RetryQueue.Stays) : (inRetry x).Keeps (OnQueue Q) := by
  intro r home
  have queue := queue_inRetry x r
  have at_home : ((inRetry x).after r).queue.own.home = r.retry.home := by
    rw [queue]
    exact stays r.queue
  refine ⟨?_, queue ▸ kept r.queue⟩
  rw [AtHome, show ((inRetry x).after r).retry.home = r.retry.home from at_home]
  exact home

theorem remove_onQueue (admits : Admits host Q) (id : String) :
    (inRetry (RetryQueue.remove host id)).Keeps (OnQueue Q) :=
  inRetry_onQueue (admits.removed id) (RetryQueue.remove_stays host id)

theorem now_onQueue (admits : Admits host Q) : (inWorld (World.now host)).Keeps (OnQueue Q) := by
  intro r
  obtain ⟨now, r', timed, still, _⟩ := now_apply host r
  rw [Act.after_of_ok timed]
  exact admits.still still

theorem claim_onQueue (admits : Admits host Q) (id : String) (now : Nat) :
    (claim (ω := ω) id now).Keeps (OnQueue Q) := by
  intro r home
  refine ⟨?_, admits.claimed id now r.queue⟩
  rw [AtHome, show ((claim id now).after r).retry.home = r.retry.home from
    RetryQueue.claim_home r.retry id now]
  exact home

theorem compose_onQueue (admits : Admits host Q) (jid : Jid) (message : Message)
    (options : RelayOptions) : (compose host jid message options).Keeps (OnQueue Q) :=
  fun r => admits.still (compose_still host jid message options r)

theorem finish_onQueue (admits : Admits host Q) (jid : Jid) (message : Message)
    (made : String × Prepared) : (finish host jid message made).Keeps (OnQueue Q) :=
  fun r => admits.still (finish_still jid message made r)

theorem withHost_onQueue (admits : Admits host Q) (s : ω) :
    (modify (withHost s) : Act (Relay ω) PUnit).Keeps (OnQueue Q) :=
  .modify fun _ => admits.still ⟨rfl, fun _ _ => rfl⟩

variable [IsPreorder (Held RetryQueue ω) Q]

theorem acknowledge_onQueue (admits : Admits host Q) (id : String) :
    (acknowledge host id).Keeps (OnQueue Q) :=
  (remove_onQueue admits id).bind fun _ => .pure _

theorem settleDelivered_onQueue (admits : Admits host Q) (id : String) :
    (settleDelivered host id).Keeps (OnQueue Q) :=
  (remove_onQueue admits id).attempt.bind fun _ => .pure _

theorem settleFailure_onQueue (admits : Admits host Q) {id : String} {e : Error}
    (failed : ∀ now, (RetryQueue.recordFailure host id e.message now).Keeps Q) :
    (settleFailure host id e).Keeps (OnQueue Q) := by
  refine .ite ((now_onQueue admits).bind fun now => ?_) (settleDelivered_onQueue admits id)
  have booked := inRetry_onQueue (failed now) (RetryQueue.recordFailure_stays host id e.message now)
  exact booked.attempt.bind fun _ => .pure _

theorem cleanUp_onQueue (admits : Admits host Q) (now : Nat) :
    (cleanUp host now).Keeps (OnQueue Q) := by
  have purged := inRetry_onQueue (admits.purged now) (RetryQueue.purge_stays host now)
  have swept : ∀ trackers, (modify fun r : Relay ω => { r with trackers } : Act _ PUnit).Keeps
      (OnQueue Q) := fun _ => .modify fun _ => admits.still ⟨rfl, fun _ _ => rfl⟩
  refine Act.Keeps.get.bind fun _ => .ite (purged.guarded.bind fun _ => ?_) (.pure none)
  exact Act.Keeps.get.bind fun r => (swept (r.trackers.sweep now).2).bind fun _ => .pure _

theorem deliver_onQueue (admits : Admits host Q) (d : Delivery ω) :
    (deliver host d).Keeps (OnQueue Q) := by
  induction d with
  | settled outcome s => exact (withHost_onQueue admits s).bind fun _ => .ofExcept outcome
  | acknowledged id s next ih =>
    refine (withHost_onQueue admits s).bind fun _ => ?_
    exact (acknowledge_onQueue admits id).attempt.bind fun answer r =>
      ih answer r.world.host r

theorem relay_onQueue (admits : Admits host Q) (jid : Jid) (message : Message)
    (options : RelayOptions) : (relay host jid message options).Keeps (OnQueue Q) :=
  relay_keeps_of_still (fun _ _ => admits.still)
    (fun n r => deliver_onQueue admits (host.send n r.world.host) r) jid message options

theorem handleRetryReceipt_onQueue (admits : Admits host Q) (receipt : RetryReceipt) :
    (handleRetryReceipt host receipt).Keeps (OnQueue Q) :=
  handleRetryReceipt_keeps_of_still (fun _ _ => admits.still) (relay_onQueue admits) receipt

variable (failed : ∀ id error now, (RetryQueue.recordFailure host id error now).Keeps Q)

include failed

/-- What a sending does once its message is in the queue. -/
theorem pursue_onQueue (admits : Admits host Q) (id : String) (jid : Jid) (message : Message)
    (options : RelayOptions) : (do
      match ← Act.attempt (relay host jid message options) with
      | .ok id =>
        settleDelivered host id
        return id
      | .error e =>
        settleFailure host id e
        throw e : Act (Relay ω) String).Keeps (OnQueue Q) := by
  refine (relay_onQueue admits jid message options).attempt.bind fun outcome => ?_
  cases outcome with
  | ok sent => exact (settleDelivered_onQueue admits sent).bind fun _ => .pure sent
  | error e => exact (settleFailure_onQueue admits (failed id _)).bind fun _ => .throw e

theorem retryOne_onQueue (admits : Admits host Q) (now : Nat) (report : TickReport)
    (id : String) : (retryOne host now report id).Keeps (OnQueue Q) := by
  refine (claim_onQueue admits id now).bind fun claimed => ?_
  cases claimed with
  | none => exact .pure _
  | some record =>
    refine (relay_onQueue admits _ _ _).attempt.bind fun outcome => ?_
    cases outcome with
    | ok sent => exact (settleDelivered_onQueue admits id).bind fun _ => .pure _
    | error e => exact (settleFailure_onQueue admits (failed id _)).bind fun _ => .pure _

theorem tick_onQueue (admits : Admits host Q) : (tick host).Keeps (OnQueue Q) := by
  refine (now_onQueue admits).bind fun now => (cleanUp_onQueue admits now).bind fun cleaned => ?_
  cases cleaned with
  | none => exact .pure none
  | some report =>
    refine Act.Keeps.get.bind fun r => Act.Keeps.bind ?_ fun _ => .pure _
    exact .foldlM (retryOne_onQueue failed admits now) (r.retry.due now) report

end OnQueue

/-- Where relays with some settings keep their retry records. -/
def homeFor (c : Config) : Option String := if c.persistRetryQueue then some retryHome else none

/-- A relay starts with the records that the documents at its home give. -/
theorem openQueue_eq_ok {c : Config} {w w' : World ω} {q : RetryQueue}
    (h : openQueue host c w = .ok q w') :
    q.home = homeFor c ∧ q.config = c.retry ∧ w'.documents = w.documents ∧ q.Keyed ∧
      ∀ id record, q.get? id = some record → ∃ key, RetryQueue.Houses (homeFor c) key ∧
        RetryQueue.recordAt? w.documents key = some record := by
  unfold openQueue at h
  unfold homeFor
  split at h
  next persistent =>
    obtain ⟨config, home, kept, _⟩ := RetryQueue.restore_eq_ok h
    rw [if_pos persistent]
    refine ⟨home, config, kept, fun id record found => ?_, fun id record found => ?_⟩
    · exact ((RetryQueue.restore_get? h id).2 record found).2
    · obtain ⟨mem, _⟩ := (RetryQueue.restore_get? h id).2 record found
      obtain ⟨key, housed, read⟩ := RetryQueue.mem_recordsFrom.mp mem
      exact ⟨key, ⟨retryHome, rfl, housed⟩, read⟩
  next persistent =>
    cases h
    rw [if_neg persistent]
    exact ⟨rfl, rfl, rfl, fun _ _ found => (nomatch found), fun _ _ found => (nomatch found)⟩

theorem restored_of_create {c : Config} {credentials : Credentials} {w w' : World ω}
    (persistent : c.persistRetryQueue = true) (h : create host c credentials w = .ok r w') :
    RetryQueue.restore host c.retry retryHome w = .ok r.retry w' ∧ r.queue = ⟨r.retry, w'⟩ := by
  obtain ⟨_, opened, _, world⟩ := opened_of_create h
  rw [openQueue, if_pos persistent] at opened
  exact ⟨opened, congrArg (Held.mk r.retry) world⟩

/-- The record that a sending puts into the queue. -/
def enrolled (id : String) (jid : Jid) (message : Message) (options : RelayOptions) (now : Nat) :
    RetryRecord :=
  .new id jid message { options with messageId := some id } now

/-- A sending that cannot put its message into the queue has changed nothing there. -/
theorem enrol_cases (host : Host ω) (jid : Jid) (message : Message) (options : RelayOptions)
    (r : Relay ω) :
    (∃ id now r₁ r', enrol host jid message options r = .ok id r' ∧ Still r r₁ ∧
      RetryQueue.enqueueInFlight host (enrolled id jid message options now) r₁.queue =
        .ok () r'.queue) ∨
      ∃ e r', enrol host jid message options r = .error e r' ∧ Still r r' := by
  have chosen := chooseId_still host r.credentials options r
  cases hc : chooseId host r.credentials options r with
  | error e r' =>
    rw [Act.after_of_error hc] at chosen
    have failed : enrol host jid message options r = .error e r' :=
      (Act.bind_of_ok (Act.get_apply r)).trans (Act.bind_eq_error.mpr (.inl hc))
    exact .inr ⟨e, r', failed, chosen⟩
  | ok id r₀ =>
    rw [Act.after_of_ok hc] at chosen
    obtain ⟨now, r₁, timed, still, _⟩ := now_apply host r₀
    have step : enrol host jid message options r = (do
        inRetry (RetryQueue.enqueueInFlight host (enrolled id jid message options now))
        return id) r₁ := (Act.bind_of_ok hc).trans (Act.bind_of_ok timed)
    have still : Still r r₁ := trans_of Still chosen still
    rw [step]
    rcases RetryQueue.enqueueInFlight_cases host (enrolled id jid message options now) r₁.queue with
      ⟨w, h, _⟩ | ⟨e, w, h, same, _⟩
    · obtain ⟨r', put, queue⟩ := inRetry_of_ok h
      exact .inl ⟨id, now, r₁, r', Act.bind_of_ok put, still, queue ▸ h⟩
    · obtain ⟨r', refused, queue⟩ := inRetry_of_error h
      obtain ⟨retry, world⟩ := (Held.mk.injEq ..).mp queue
      refine .inr ⟨e, r', Act.bind_eq_error.mpr (.inl refused), trans_of Still still ⟨retry, ?_⟩⟩
      intro key _
      rw [world, same]
      rfl

end Relay

end Fanout
