import Fanout.Proofs.Rehearsal.Stage
import Fanout.Proofs.Relay.Queue
import Fanout.Proofs.Retry.Tally

namespace Fanout

variable {ω : Type} {host : Host ω} {c : Config} {id : String}

theorem Config.retry_valid (h : c.validate = .ok ()) : c.retry.validate = .ok () := by
  unfold validate at h
  cases checked : c.retry.validate with
  | ok _ => rfl
  | error e =>
    rw [checked] at h
    cases h

/-- An entry behind which a message is not tried again. -/
def Entry.Closes (id : String) : Entry → Prop
  | .acknowledged other _ => other = id
  | .failed other e => other = id ∧ e.isRetryable = false
  | .gaveUp other => other = id
  | .enrolled _ | .started _ | .taken _ => False

namespace Relay

variable {r r' : Relay ω}

/-- The operations of the queue keep a record as it is or drop it, as long as the store works. -/
theorem retains_admitted (reliable : host.Reliable) : Admits host (RetryQueue.Retains id) where
  aside _ _ still := (still.spares id).retains
  removed := RetryQueue.remove_retains reliable
  purged := RetryQueue.purge_retains reliable
  claimed := RetryQueue.claim_retains

/-- A restarted relay has of a record what the one before it had, if anything. -/
theorem create_retained {credentials : Credentials} {w w' : World ω}
    (h : create host c credentials w = .ok r' w')
    (documents : w.documents = r.world.documents) (home : r.retry.home = homeFor c)
    (config : r.retry.config = c.retry) : RetryQueue.Retains id r.queue r'.queue := by
  obtain ⟨_, opened, _, world⟩ := opened_of_create h
  have queue : r'.queue = ⟨r'.retry, w'⟩ := congrArg (Held.mk r'.retry) world
  rw [queue]
  unfold openQueue at opened
  split at opened
  next persistent =>
    have at_home : r.queue.own.home = some retryHome := home.trans (if_pos persistent)
    exact RetryQueue.restore_retained opened documents at_home config
  next persistent =>
    rw [← (EStateM.Result.ok.inj opened).1]
    have homeless : homeFor c = none := if_neg persistent
    refine fun sound => ⟨⟨fun _ _ found => (nomatch found), fun key r given => ?_⟩, ?_, ?_,
      fun _ found => (nomatch found)⟩
    · obtain ⟨start, none_eq, _⟩ := given.housed
      cases none_eq
    · exact (home.trans homeless).symm
    · exact config.symm

end Relay

namespace Diary

open Relay

/-- A message that was put into the queue is acknowledged, refused for good or given up. What came in
under its id before it was put there is not about it. -/
def Closed (id : String) (entries : List Entry) : Prop :=
  ∃ later e earlier, entries = later ++ e :: earlier ∧ e.Closes id ∧ Entry.enrolled id ∈ earlier

def Orderly (id : String) (entries : List Entry) : Prop :=
  ∀ later earlier, entries = later ++ .started id :: earlier → ¬Closed id earlier

theorem Closed.of_cons {e : Entry} {entries : List Entry} (h : Closed id (e :: entries)) :
    Closed id entries ∨ e.Closes id ∧ Entry.enrolled id ∈ entries := by
  obtain ⟨later, e', earlier, same, closes, known⟩ := h
  cases later with
  | nil =>
    obtain ⟨rfl, rfl⟩ := List.cons.inj same
    exact .inr ⟨closes, known⟩
  | cons e'' later =>
    exact .inl ⟨later, e', earlier, (List.cons.inj same).2, closes, known⟩

theorem Closed.enrolled {entries : List Entry} (h : Closed id entries) :
    Entry.enrolled id ∈ entries := by
  obtain ⟨later, e, earlier, rfl, _, known⟩ := h
  simp [known]

theorem Orderly.cons {e : Entry} {entries : List Entry} (h : Orderly id entries)
    (opened : e = .started id → ¬Closed id entries) : Orderly id (e :: entries) := by
  intro later earlier same
  cases later with
  | nil =>
    obtain ⟨begun, rfl⟩ := List.cons.inj same
    exact opened begun
  | cons e' later => exact h later earlier (List.cons.inj same).2

/-- How far a relay is with a message: not at it, trying it, or done with its stanza. -/
inductive Phase where
  | waiting
  | trying
  | sent

/-- The attempts that are not booked yet. -/
def Phase.pending : Phase → Nat
  | .trying => 1
  | .waiting | .sent => 0

/-- What was written down of a message that is still to be tried. -/
structure Live (c : Config) (id : String) (phase : Phase) (entries : List Entry) (r : RetryRecord) :
    Prop where
  count : entries.count (.started id) = r.attemptCount + phase.pending
  left : r.attemptCount < c.retry.maxAttempts.toNat
  untaken : Entry.taken id ∉ entries
  opened : ¬Closed id entries

/-- What holds of a diary with regard to one message. -/
structure Accounts (c : Config) (id : String) (phase : Phase) (d : Diary ω) : Prop where
  home : d.relay.retry.home = homeFor c
  config : d.relay.retry.config = c.retry
  sound : RetryQueue.Sound id d.relay.queue
  unknown : Entry.enrolled id ∉ d.entries → d.relay.retry.get? id = none ∧
    Entry.started id ∉ d.entries ∧ Entry.taken id ∉ d.entries
  starts : d.entries.count (.started id) ≤ c.retry.maxAttempts.toNat
  takes : d.entries.count (.taken id) ≤ 1
  orderly : Orderly id d.entries
  aloft : phase = .trying → Entry.enrolled id ∈ d.entries ∧ Entry.taken id ∉ d.entries
  live : phase ≠ .sent → ∀ r, d.relay.retry.get? id = some r → r.state = .active →
    Live c id phase d.entries r

variable {phase : Phase} {d d' : Diary ω}

theorem Accounts.atHome (a : Accounts c id phase d) : d.relay.AtHome := by
  rw [AtHome, a.home, homeFor]
  split
  · exact .inr rfl
  · exact .inl rfl

def Carries (c : Config) (id : String) (phase : Phase) (d d' : Diary ω) : Prop :=
  Accounts c id phase d → Accounts c id phase d'

instance : IsPreorder (Diary ω) (Carries c id phase) where
  refl _ a := a
  trans _ _ _ h h' a := h' (h a)

/-- What the relay does without a new record of the message. -/
theorem Accounts.retained {r : Relay ω} (a : Accounts c id phase d)
    (h : RetryQueue.Retains id d.relay.queue r.queue) : Accounts c id phase ⟨r, d.entries⟩ := by
  obtain ⟨sound, home, config, table⟩ := h a.sound
  refine ⟨home.trans a.home, config.trans a.config, sound, fun unknown => ?_, a.starts, a.takes,
    a.orderly, a.aloft, fun unsent r' found active => ?_⟩
  · refine ⟨?_, (a.unknown unknown).2⟩
    cases found : r.retry.get? id with
    | none => rfl
    | some r' =>
      obtain ⟨r₀, found₀, _⟩ := table r' found
      exact (nomatch (a.unknown unknown).1.symm.trans found₀)
  · obtain ⟨r₀, found₀, agrees⟩ := table r' found
    obtain ⟨count, left, untaken, opened⟩ :=
      a.live unsent r₀ found₀ (agrees.state.symm.trans active)
    rw [← agrees.attemptCount] at count left
    exact ⟨count, left, untaken, opened⟩

theorem plainly_carries {α : Type} {x : Act (Relay ω) α}
    (h : x.Keeps (OnQueue (RetryQueue.Retains id))) :
    (plainly x).Keeps (Carries c id phase) :=
  h.zoom fun d _ kept a => a.retained (d := d) (kept a.atHome).2

theorem Accounts.still {r : Relay ω} (a : Accounts c id phase d) (h : Still d.relay r) :
    Accounts c id phase ⟨r, d.entries⟩ :=
  a.retained ((h.queue a.atHome).spares id).retains

/-- An entry that tells of no attempt at the message, and closes it only if it is not waiting. -/
theorem Accounts.noted {e : Entry} (a : Accounts c id phase d) (unstarted : e ≠ .started id)
    (untaken : e ≠ .taken id)
    (closing : e.Closes id → ∀ r, d.relay.retry.get? id = some r → r.state = .inactive) :
    Accounts c id phase ⟨d.relay, e :: d.entries⟩ := by
  have starts : (e :: d.entries).count (.started id) = d.entries.count (.started id) :=
    List.count_cons_of_ne unstarted
  have takes : (e :: d.entries).count (.taken id) = d.entries.count (.taken id) :=
    List.count_cons_of_ne untaken
  have taken : Entry.taken id ∈ e :: d.entries ↔ Entry.taken id ∈ d.entries := by
    simp [untaken.symm]
  refine ⟨a.home, a.config, a.sound, fun unenrolled => ?_, ?_, ?_,
    a.orderly.cons fun begun => absurd begun unstarted, fun trying => ?_,
    fun unsent r found active => ?_⟩
  · have before : Entry.enrolled id ∉ d.entries := fun known => unenrolled (.tail _ known)
    obtain ⟨gone, unstarted', untaken'⟩ := a.unknown before
    exact ⟨gone, by simp [unstarted.symm, unstarted'], taken.not.mpr untaken'⟩
  · rw [starts]
    exact a.starts
  · rw [takes]
    exact a.takes
  · exact ⟨.tail _ (a.aloft trying).1, taken.not.mpr (a.aloft trying).2⟩
  · obtain ⟨count, left, untaken', opened⟩ := a.live unsent r found active
    refine ⟨starts.trans count, left, taken.not.mpr untaken', fun closed => ?_⟩
    rcases closed.of_cons with closed | ⟨closes, _⟩
    · exact opened closed
    · exact (nomatch active.symm.trans (closing closes r found))

theorem acknowledge_carries (reliable : host.Reliable) (gone : String) :
    (acknowledge host gone).Keeps (Carries c id phase) := by
  have admits : Admits host (RetryQueue.Retains id) := retains_admitted reliable
  have kept := acknowledge_onQueue admits gone
  refine .intro (fun d d' answer h a => ?_) fun d d' e h a => ?_
  · obtain ⟨_, d₁, removed, h⟩ := Act.bind_eq_ok.mp h
    obtain ⟨_, d₂, noted, h⟩ := Act.bind_eq_ok.mp h
    obtain ⟨r, acknowledged, rfl⟩ := Act.zoom_eq_ok.mp removed
    cases noted
    cases h
    refine (a.retained (kept.of_ok acknowledged a.atHome).2).noted (by simp) (by simp) ?_
    rintro rfl record found
    have dropped := dropped_of_queue (queue_acknowledge host gone d.relay) gone
    rw [Act.after_of_ok acknowledged, if_pos rfl] at dropped
    exact (nomatch dropped.symm.trans found)
  · rcases Act.bind_eq_error.mp h with h | ⟨_, d₁, _, h⟩
    · exact (plainly_carries kept).of_error h a
    · cases h

theorem deliver_carries (reliable : host.Reliable) (delivery : Delivery ω) :
    (deliver host delivery).Keeps (Carries c id phase) := by
  have passed : ∀ s, (plainly (modify (Relay.withHost s))).Keeps (Carries (ω := ω) c id phase) :=
    fun s => plainly_carries (withHost_onQueue (retains_admitted reliable) s)
  induction delivery with
  | settled outcome s => exact (passed s).bind fun _ => .ofExcept outcome
  | acknowledged other s next ih =>
    refine (passed s).bind fun _ => ?_
    exact (acknowledge_carries reliable other).attempt.bind fun answer d =>
      ih answer d.relay.world.host d

theorem transmit_carries (reliable : host.Reliable) (n : Node) :
    (transmit host n).Keeps (Carries c id phase) :=
  fun d => deliver_carries reliable (host.send n d.relay.world.host) d

theorem compose_carries (reliable : host.Reliable) (jid : Jid) (message : Message)
    (options : RelayOptions) :
    (plainly (Relay.compose host jid message options)).Keeps (Carries c id phase) :=
  plainly_carries (compose_onQueue (retains_admitted reliable) jid message options)

theorem finish_carries (reliable : host.Reliable) (jid : Jid) (message : Message)
    (made : String × Prepared) :
    (plainly (Relay.finish host jid message made)).Keeps (Carries c id phase) :=
  plainly_carries (finish_onQueue (retains_admitted reliable) jid message made)

section Others

variable {other : String}

theorem note_carries {e : Entry} (unstarted : e ≠ .started id) (untaken : e ≠ .taken id)
    (opened : ¬e.Closes id) : (note e).Keeps (Carries (ω := ω) c id phase) :=
  .modify fun _ a => a.noted unstarted untaken fun closes => absurd closes opened

theorem relayFor_carries (reliable : host.Reliable) (ne : other ≠ id) (jid : Jid)
    (message : Message) (options : RelayOptions) :
    (relayFor host other jid message options).Keeps (Carries c id phase) := by
  refine (note_carries (by simp [ne]) (by simp) (by simp [Entry.Closes])).bind fun _ => ?_
  refine (compose_carries reliable jid message options).bind fun made => ?_
  refine (transmit_carries reliable made.2.node).bind fun _ => ?_
  refine (note_carries (by simp) (by simp [ne]) (by simp [Entry.Closes])).bind fun _ => ?_
  exact finish_carries reliable jid message made

theorem settleFailure_carries (reliable : host.Reliable) (ne : other ≠ id) (e : Error) :
    (settleFailure host other e).Keeps (Carries c id phase) := by
  refine (note_carries (by simp) (by simp) (by simp [Entry.Closes, ne])).bind fun _ => ?_
  have spared : ∀ now, (RetryQueue.recordFailure host other e.message now).Keeps
      (RetryQueue.Retains id) :=
    fun now s sound => (RetryQueue.recordFailure_spares sound.keyed ne).retains sound
  refine (plainly_carries (settleFailure_onQueue (retains_admitted reliable) spared)).bind
    fun _ => ?_
  refine Act.Keeps.get.bind fun d => .ite ?_ (.pure _)
  exact note_carries (by simp) (by simp) (by simp [Entry.Closes, ne])

theorem settleDelivered_carries (reliable : host.Reliable) (other : String) :
    (plainly (Relay.settleDelivered host other)).Keeps (Carries c id phase) :=
  plainly_carries (settleDelivered_onQueue (retains_admitted reliable) other)

theorem pursue_carries (reliable : host.Reliable) (ne : other ≠ id) (jid : Jid) (message : Message)
    (options : RelayOptions) :
    (pursue host other jid message options).Keeps (Carries c id phase) := by
  refine (relayFor_carries reliable ne jid message options).attempt.bind fun outcome => ?_
  cases outcome with
  | ok sent => exact (settleDelivered_carries reliable sent).bind fun _ => .pure sent
  | error e => exact (settleFailure_carries reliable ne e).bind fun _ => .throw e

end Others

section Own

variable {r : RetryRecord}

theorem Accounts.begun (a : Accounts c id .waiting d) (found : d.relay.retry.get? id = some r)
    (active : r.state = .active) : Accounts c id .trying ⟨d.relay, .started id :: d.entries⟩ := by
  obtain ⟨count, left, untaken, opened⟩ := a.live nofun r found active
  have known : Entry.enrolled id ∈ d.entries := by
    by_contra unknown
    exact (nomatch (a.unknown unknown).1.symm.trans found)
  have starts : (Entry.started id :: d.entries).count (.started id) = r.attemptCount + 1 := by
    rw [List.count_cons_self, count]
    rfl
  refine ⟨a.home, a.config, a.sound, fun unknown => absurd (.tail _ known) unknown, ?_, ?_,
    a.orderly.cons fun _ => opened, fun _ => ⟨.tail _ known, by simp [untaken]⟩,
    fun _ r' found' _ => ?_⟩
  · exact (Nat.le_of_eq starts).trans left
  · rw [List.count_cons_of_ne (by simp)]
    exact a.takes
  · obtain rfl := Option.some.inj (found.symm.trans found')
    refine ⟨starts, left, by simp [untaken], fun closed => ?_⟩
    rcases closed.of_cons with closed | ⟨closes, _⟩
    · exact opened closed
    · exact closes

theorem Accounts.handed (a : Accounts c id .trying d) :
    Accounts c id .sent ⟨d.relay, .taken id :: d.entries⟩ := by
  obtain ⟨known, untaken⟩ := a.aloft rfl
  refine ⟨a.home, a.config, a.sound, fun unknown => absurd (.tail _ known) unknown, ?_, ?_,
    a.orderly.cons nofun, nofun, fun unsent => absurd rfl unsent⟩
  · rw [List.count_cons_of_ne (by simp)]
    exact a.starts
  · rw [List.count_cons_self, List.count_eq_zero.mpr untaken]

theorem Accounts.emptied {r' : Relay ω} (a : Accounts c id phase d)
    (h : RetryQueue.Retains id d.relay.queue r'.queue) (gone : r'.retry.get? id = none) :
    Accounts c id .waiting ⟨r', d.entries⟩ := by
  have a' := a.retained h
  exact ⟨a'.home, a'.config, a'.sound, a'.unknown, a'.starts, a'.takes, a'.orderly, nofun,
    fun _ _ found => (nomatch gone.symm.trans found)⟩

theorem Accounts.removed {r' : Relay ω} (reliable : host.Reliable) (a : Accounts c id phase d)
    (queue : r'.queue = (RetryQueue.remove host id).after d.relay.queue) :
    Accounts c id .waiting ⟨r', d.entries⟩ := by
  refine a.emptied ?_ ((dropped_of_queue queue id).trans (if_pos rfl))
  rw [queue]
  exact RetryQueue.remove_retains reliable id _

/-- A booked failure makes up for the attempt that was pending. -/
theorem Accounts.booked {r' : Relay ω} {error : String} {now : Nat} {record : RetryRecord}
    (a : Accounts c id .trying d) (found : d.relay.retry.get? id = some r)
    (fails : RetryQueue.Fails d.relay.retry.config error now r record)
    (retry : r'.retry = d.relay.retry.put record) (sound : RetryQueue.Sound id r'.queue) :
    Accounts c id .waiting ⟨r', d.entries⟩ := by
  have key : record.messageId = id := fails.messageId.trans (a.sound.keyed id r found)
  have there : r'.retry.get? id = some record := by
    rw [retry, RetryQueue.get?_put, if_pos key]
  refine ⟨?_, ?_, sound, fun unknown => absurd (a.aloft rfl).1 unknown, a.starts, a.takes,
    a.orderly, nofun, fun _ found' there' active => ?_⟩
  · exact (congrArg RetryQueue.home retry).trans a.home
  · exact (congrArg RetryQueue.config retry).trans a.config
  · obtain rfl := Option.some.inj (there.symm.trans there')
    cases fails with
    | givenUp => cases active
    | delayed left =>
      obtain ⟨count, _, untaken, opened⟩ := a.live nofun r found active
      rw [a.config] at left
      exact ⟨count, left, untaken, opened⟩

theorem relayFor_accounts (reliable : host.Reliable) (a : Accounts c id .waiting d)
    (found : d.relay.retry.get? id = some r) (active : r.state = .active) (jid : Jid)
    (message : Message) (options : RelayOptions) :
    (∃ sent d', relayFor host id jid message options d = .ok sent d' ∧ Accounts c id .sent d') ∨
      ∃ e d', relayFor host id jid message options d = .error e d' ∧
        Accounts c id .trying d' := by
  have composed := compose_carries reliable jid message options _ (a.begun found active)
  rw [relayFor, Act.bind_of_ok (note_apply _ d)]
  cases hc : plainly (Relay.compose host jid message options)
    ⟨d.relay, .started id :: d.entries⟩ with
  | error e d₁ =>
    rw [Act.after_of_error hc] at composed
    exact .inr ⟨e, d₁, Act.bind_of_error hc, composed⟩
  | ok made d₁ =>
    rw [Act.after_of_ok hc] at composed
    rw [Act.bind_of_ok hc]
    have handed := transmit_carries reliable made.2.node d₁ composed
    cases ht : transmit host made.2.node d₁ with
    | error e d₂ =>
      rw [Act.after_of_error ht] at handed
      exact .inr ⟨e, d₂, Act.bind_of_error ht, handed⟩
    | ok _ d₂ =>
      rw [Act.after_of_ok ht] at handed
      rw [Act.bind_of_ok ht, Act.bind_of_ok (note_apply _ d₂)]
      have finished := finish_carries reliable jid message made _ handed.handed
      exact .inl ⟨made.1, _, rfl, finished⟩

theorem Accounts.failed {r' : Relay ω} (reliable : host.Reliable) (a : Accounts c id .trying d)
    {error : String} {now : Nat}
    (queue : r'.queue = (RetryQueue.recordFailure host id error now).after d.relay.queue) :
    Accounts c id .waiting ⟨r', d.entries⟩ := by
  have own : r'.retry = ((RetryQueue.recordFailure host id error now).after d.relay.queue).own :=
    congrArg Held.own queue
  cases found : d.relay.retry.get? id with
  | none =>
    have same : r'.queue = d.relay.queue :=
      queue.trans (Act.after_of_ok (RetryQueue.recordFailure_of_none found))
    have gone : r'.retry.get? id = none := by
      rw [show r'.retry = d.relay.retry from congrArg Held.own same]
      exact found
    exact a.emptied (same ▸ refl_of (RetryQueue.Retains id) d.relay.queue) gone
  | some r =>
    obtain ⟨record, fails, put, sound⟩ :=
      RetryQueue.recordFailure_sound reliable error now a.sound found
    exact a.booked found fails (own.trans put) (queue ▸ sound)

/-- That a record is given up is written down only if it is. -/
theorem Accounts.abandoned (a : Accounts c id .waiting d) :
    Accounts c id .waiting ⟨d.relay,
      (if (d.relay.retry.get? id).any (·.state = .inactive) then [Entry.gaveUp id] else []) ++
        d.entries⟩ := by
  split
  next spent =>
    refine a.noted (by simp) (by simp) fun _ r found => ?_
    rw [found] at spent
    simpa using spent
  next => exact a

theorem settleFailure_accounts (reliable : host.Reliable) (a : Accounts c id .trying d)
    (e : Error) : ∃ d', settleFailure host id e d = .ok () d' ∧ Accounts c id .waiting d' := by
  by_cases retryable : e.isRetryable = true
  · obtain ⟨now, r₁, r', _, still, settled, queue⟩ :=
      settleFailure_of_retryable host id retryable d.relay
    have noted : Accounts c id .trying ⟨r₁, .failed id e :: d.entries⟩ :=
      (a.still still).noted (by simp) (by simp)
        fun closes => (nomatch closes.2.symm.trans retryable)
    exact ⟨_, settleFailure_apply settled, (noted.failed reliable queue).abandoned⟩
  · have final : e.isRetryable = false := by simpa using retryable
    obtain ⟨r', settled, queue⟩ := settleFailure_of_final host id final d.relay
    have gone : r'.retry.get? id = none := (dropped_of_queue queue id).trans (if_pos rfl)
    have noted : Accounts c id .waiting ⟨r', .failed id e :: d.entries⟩ :=
      (a.removed reliable queue).noted (by simp) (by simp)
        fun _ r₀ found₀ => (nomatch gone.symm.trans found₀)
    exact ⟨_, settleFailure_apply settled, noted.abandoned⟩

/-- An attempt and what is settled behind it. -/
theorem attempt_accounts (reliable : host.Reliable) (a : Accounts c id .waiting d)
    (found : d.relay.retry.get? id = some r) (active : r.state = .active) (jid : Jid)
    (message : Message) (options : RelayOptions) :
    (∃ sent d₁ d₂, relayFor host id jid message options d = .ok sent d₁ ∧
        plainly (Relay.settleDelivered host id) d₁ = .ok () d₂ ∧ Accounts c id .waiting d₂) ∨
      ∃ e d₁ d₂, relayFor host id jid message options d = .error e d₁ ∧
        settleFailure host id e d₁ = .ok () d₂ ∧ Accounts c id .waiting d₂ := by
  rcases relayFor_accounts reliable a found active jid message options with
    ⟨sent, d₁, relayed, a₁⟩ | ⟨e, d₁, relayed, a₁⟩
  · obtain ⟨r', settled, queue⟩ := settleDelivered_apply host id d₁.relay
    exact .inl ⟨sent, d₁, _, relayed, plainly_of_ok settled, a₁.removed reliable queue⟩
  · obtain ⟨d₂, settled, a₂⟩ := settleFailure_accounts reliable a₁ e
    exact .inr ⟨e, d₁, d₂, relayed, settled, a₂⟩

theorem pursue_accounts (reliable : host.Reliable) (a : Accounts c id .waiting d)
    (found : d.relay.retry.get? id = some r) (active : r.state = .active) (jid : Jid)
    (message : Message) {options : RelayOptions} (named : options.messageId = some id) :
    Accounts c id .waiting ((pursue host id jid message options).after d) := by
  rw [pursue]
  rcases attempt_accounts reliable a found active jid message options with
    ⟨sent, d₁, d₂, relayed, settled, a₂⟩ | ⟨e, d₁, d₂, relayed, settled, a₂⟩
  · obtain rfl := relay_id named ((relayFor_mirrors id jid message options).of_ok relayed)
    rw [Act.after_congr (Act.bind_of_ok (Act.attempt_of_ok relayed))]
    dsimp only
    rw [Act.after_congr (Act.bind_of_ok settled)]
    exact a₂
  · rw [Act.after_congr (Act.bind_of_ok (Act.attempt_of_error relayed))]
    dsimp only
    rw [Act.after_congr (Act.bind_of_ok settled)]
    exact a₂

theorem retryOne_accounts (reliable : host.Reliable) (now : Nat) (report : TickReport)
    (a : Accounts c id .waiting d) :
    Accounts c id .waiting ((retryOne host now report id).after d) := by
  have claimed := plainly_carries (claim_onQueue (retains_admitted reliable) id now) d a
  rw [retryOne]
  rcases claim_apply id now d.relay with ⟨idle, _⟩ | ⟨record, found, due, taken⟩
  · rw [Act.after_congr (Act.bind_of_ok (plainly_of_ok idle))]
    exact a
  rw [Act.after_of_ok (plainly_of_ok taken)] at claimed
  rw [Act.after_congr (Act.bind_of_ok (plainly_of_ok taken))]
  dsimp only
  have key : record.messageId = id := a.sound.keyed id record found
  have active : record.state = .active := by
    simp only [RetryRecord.isDue, decide_eq_true_eq] at due
    exact due.1
  have there : (d.relay.retry.put { record with inFlight := true }).get? id =
      some { record with inFlight := true } := (RetryQueue.get?_put _ _ _).trans (if_pos key)
  rcases attempt_accounts reliable claimed there active record.jid record.message record.options
    with ⟨sent, d₁, d₂, relayed, settled, a₂⟩ | ⟨e, d₁, d₂, relayed, settled, a₂⟩
  · rw [Act.after_congr (Act.bind_of_ok (Act.attempt_of_ok relayed))]
    dsimp only
    rw [Act.after_congr (Act.bind_of_ok settled)]
    exact a₂
  · rw [Act.after_congr (Act.bind_of_ok (Act.attempt_of_error relayed))]
    dsimp only
    rw [Act.after_congr (Act.bind_of_ok settled)]
    exact a₂

end Own

theorem retryOne_carries (reliable : host.Reliable) (now : Nat) (report : TickReport)
    (other : String) : (retryOne host now report other).Keeps (Carries c id .waiting) := by
  by_cases same : other = id
  · exact same ▸ fun d a => retryOne_accounts reliable now report a
  · have admits : Admits host (RetryQueue.Retains id) := retains_admitted reliable
    refine (plainly_carries (claim_onQueue admits other now)).bind fun claimed => ?_
    cases claimed with
    | none => exact .pure _
    | some record =>
      refine (relayFor_carries reliable same _ _ _).attempt.bind fun outcome => ?_
      cases outcome with
      | ok sent => exact (settleDelivered_carries reliable other).bind fun _ => .pure _
      | error e => exact (settleFailure_carries reliable same e).bind fun _ => .pure _

theorem tick_carries (reliable : host.Reliable) :
    (tick host).Keeps (Carries c id .waiting) := by
  refine (plainly_carries (now_onQueue (retains_admitted reliable))).bind fun now => ?_
  refine (plainly_carries (cleanUp_onQueue (retains_admitted reliable) now)).bind fun cleaned => ?_
  cases cleaned with
  | none => exact .pure none
  | some report =>
    refine Act.Keeps.get.bind fun d => Act.Keeps.bind ?_ fun _ => .pure _
    exact .foldlM (retryOne_carries reliable now) (d.relay.retry.due now) report

/-- A message that is new to the diary has all of its attempts left. -/
theorem Accounts.enrolled {r : Relay ω} {record : RetryRecord} (valid : c.validate = .ok ())
    (a : Accounts c id .waiting d) (unknown : Entry.enrolled id ∉ d.entries)
    (key : record.messageId = id) (untried : record.attemptCount = 0)
    (put : RetryQueue.enqueueInFlight host record d.relay.queue = .ok () r.queue) :
    Accounts c id .waiting ⟨r, .enrolled id :: d.entries⟩ ∧
      r.retry.get? id = some { record with inFlight := true } := by
  obtain ⟨own, _⟩ := RetryQueue.enqueueInFlight_eq_ok put
  obtain ⟨_, unstarted, untaken⟩ := a.unknown unknown
  have starts : (Entry.enrolled id :: d.entries).count (.started id) = 0 :=
    List.count_eq_zero.mpr (by simp [unstarted])
  have takes : (Entry.enrolled id :: d.entries).count (.taken id) = 0 :=
    List.count_eq_zero.mpr (by simp [untaken])
  have some_left : c.retry.maxAttempts.toNat ≠ 0 := fun zero =>
    RetryConfig.maxAttempts_ne_zero (Config.retry_valid valid) (UInt32.toNat_inj.mp zero)
  have there : r.retry.get? id = some { record with inFlight := true } := by
    rw [show r.retry = _ from own, RetryQueue.get?_put]
    exact if_pos key
  refine ⟨⟨(congrArg RetryQueue.home own).trans a.home,
    (congrArg RetryQueue.config own).trans a.config,
    RetryQueue.enqueueInFlight_sound put key a.sound, fun again => absurd (.head _) again, ?_, ?_,
    a.orderly.cons nofun, nofun, fun _ r' found _ => ?_⟩, there⟩
  · exact starts.trans_le (Nat.zero_le _)
  · exact takes.trans_le (Nat.zero_le _)
  · obtain rfl := Option.some.inj (there.symm.trans found)
    refine ⟨starts.trans untried.symm, ?_, by simp [untaken], fun closed => ?_⟩
    · exact untried.trans_lt (Nat.pos_of_ne_zero some_left)
    · rcases closed.of_cons with closed | ⟨closes, _⟩
      · exact unknown closed.enrolled
      · exact closes

theorem sendMessage_accounts (reliable : host.Reliable) (valid : c.validate = .ok ())
    (a : Accounts c id .waiting d) (jid : Jid) (message : Message) (options : RelayOptions)
    (once : ((sendMessage host jid message options).after d).entries.count (.enrolled id) ≤ 1) :
    Accounts c id .waiting ((sendMessage host jid message options).after d) := by
  rw [sendMessage] at once ⊢
  rcases enrol_cases host jid message options d.relay with
    ⟨other, now, r₁, r₂, h, still, put⟩ | ⟨e, r', h, still⟩
  · rw [Act.after_congr (Act.bind_of_ok (plainly_of_ok h)),
      Act.after_congr (Act.bind_of_ok (note_apply _ _))] at once ⊢
    have before : Accounts c id .waiting ⟨r₁, d.entries⟩ := a.still still
    by_cases same : other = id
    · subst same
      have unknown : Entry.enrolled other ∉ d.entries := by
        intro known
        have earlier := List.count_pos_iff.mpr known
        have twice : (Entry.enrolled other :: d.entries).count (.enrolled other) ≤ 1 := by
          refine le_trans ?_ once
          exact (pursue_mirrors other jid message _).count_le _ ⟨r₂, .enrolled other :: d.entries⟩
        rw [List.count_cons_self] at twice
        omega
      obtain ⟨begun, found⟩ := before.enrolled valid unknown rfl rfl put
      exact pursue_accounts reliable begun found rfl jid message rfl
    · have spared := ((RetryQueue.enqueueInFlight_spares same).of_ok put).retains
      have noted : Accounts c id .waiting ⟨r₂, .enrolled other :: d.entries⟩ :=
        (before.retained spared).noted (by simp) (by simp) nofun
      exact pursue_carries reliable same jid message _ _ noted
  · rw [Act.after_of_error (Act.bind_of_error (plainly_of_error h))]
    exact a.still still

/-- The life of relays with the same settings, one after another over the same store, with a diary
that goes on. -/
inductive Run (host : Host ω) (c : Config) (start : Documents) : Diary ω → Prop
  | opened {credentials : Credentials} {w w' : World ω} {r : Relay ω}
    (documents : w.documents = start) (h : create host c credentials w = .ok r w') :
    Run host c start ⟨r, []⟩
  | restarted {d : Diary ω} (run : Run host c start d) {credentials : Credentials}
    {w w' : World ω} {r : Relay ω} (documents : w.documents = d.relay.world.documents)
    (h : create host c credentials w = .ok r w') : Run host c start ⟨r, d.entries⟩
  | sent {d : Diary ω} (run : Run host c start d) (jid : Jid) (message : Message)
    (options : RelayOptions) : Run host c start ((sendMessage host jid message options).after d)
  | ticked {d : Diary ω} (run : Run host c start d) : Run host c start ((tick host).after d)
  | acknowledged {d : Diary ω} (run : Run host c start d) (id : String) :
    Run host c start ((acknowledge host id).after d)

/-- No document of a store gives a retry record of an id. -/
def Unheard (id : String) (start : Documents) : Prop :=
  ∀ key r, Storage.startsWith retryHome key = true → RetryQueue.recordAt? start key = some r →
    r.messageId ≠ id

theorem Accounts.opened {credentials : Credentials} {w w' : World ω} {r : Relay ω}
    (h : create host c credentials w = .ok r w') (unheard : Unheard id w.documents) :
    Accounts c id .waiting ⟨r, []⟩ := by
  obtain ⟨_, opened, _, world⟩ := opened_of_create h
  obtain ⟨home, config, kept, keyed, origin⟩ := openQueue_eq_ok opened
  have housed : ∀ key, RetryQueue.Houses (homeFor c) key →
      Storage.startsWith retryHome key = true := by
    rintro key ⟨start, at_home, housed⟩
    unfold homeFor at at_home
    split at at_home
    · obtain rfl := Option.some.inj at_home
      exact housed
    · cases at_home
  have absent : r.retry.get? id = none := by
    cases found : r.retry.get? id with
    | none => rfl
    | some record =>
      obtain ⟨key, at_home, read⟩ := origin id record found
      exact absurd (keyed id record found) (unheard key record (housed key at_home) read)
  refine ⟨home, config, ⟨keyed, fun key record given => ?_⟩, fun _ => ⟨absent, by simp, by simp⟩,
    by simp, by simp, fun later earlier same => by simp at same, nofun,
    fun _ record found => (nomatch absent.symm.trans found)⟩
  have read := given.read
  rw [show r.queue.world = w' from world, kept] at read
  exact absurd given.messageId (unheard key record (housed key (home ▸ given.housed)) read)

theorem Run.valid {start : Documents} (run : Run host c start d) : c.validate = .ok () := by
  induction run with
  | opened _ h => exact (opened_of_create h).1
  | restarted | sent | ticked | acknowledged => assumption

theorem Run.accounts (reliable : host.Reliable) {start : Documents} (unheard : Unheard id start)
    (run : Run host c start d) (once : d.entries.count (.enrolled id) ≤ 1) :
    Accounts c id .waiting d := by
  induction run with
  | opened documents h => exact .opened h (documents ▸ unheard)
  | @restarted d run credentials w w' r documents h ih =>
    have a := ih once
    exact a.retained (create_retained h documents a.home a.config)
  | @sent d run jid message options ih =>
    have before := ih (((sendMessage_mirrors jid message options).count_le _ d).trans once)
    exact sendMessage_accounts reliable run.valid before jid message options once
  | @ticked d run ih =>
    exact tick_carries reliable d (ih ((tick_mirrors.count_le _ d).trans once))
  | @acknowledged d run other ih =>
    have before := ih (((acknowledge_mirrors other).count_le _ d).trans once)
    exact acknowledge_carries reliable other d before

theorem Run.bounds_attempts (reliable : host.Reliable) {start : Documents}
    (unheard : Unheard id start) (run : Run host c start d)
    (once : d.entries.count (.enrolled id) = 1) :
    d.entries.count (.started id) ≤ c.retry.maxAttempts.toNat ∧
      d.entries.count (.taken id) ≤ 1 ∧
      ∀ later earlier, d.entries = later ++ .started id :: earlier → ¬Closed id earlier := by
  have a := run.accounts reliable unheard (Nat.le_of_eq once)
  exact ⟨a.starts, a.takes, a.orderly⟩

/-- A connection that breaks off after the acknowledgement of a message came in. -/
def brokenOff : Host Stage :=
  { Stage.plain with
    send := fun _ s => .acknowledged "1" s fun _ s => .settled (.error (.network "reset")) s }

/-- What is written down of a message and of the pass over the queue behind it. -/
def helloAndTick (r : Relay Stage) : Diary Stage :=
  (tick brokenOff).after
    ((sendMessage brokenOff Stage.channel (.text "hi") { messageId := some "1" }).after ⟨r, []⟩)

theorem acknowledged_hello_is_not_repeated : ∃ d : Diary Stage, Run brokenOff {} ∅ d ∧
    d.entries = [.failed "1" (.network "reset"), .acknowledged "1" true, .started "1",
      .enrolled "1"] ∧
    ∀ later earlier, d.entries = later ++ .started "1" :: earlier → ¬Closed "1" earlier := by
  have created : (create brokenOff {} ⟨Stage.own, none, []⟩).yields ⟨∅, Stage.opening⟩
      (fun r _ => (helloAndTick r).entries = [.failed "1" (.network "reset"),
        .acknowledged "1" true, .started "1", .enrolled "1"]) = true := by
    decide +kernel
  obtain ⟨r, w, h, shown⟩ := Act.yields_iff.mp created
  have entries := of_decide_eq_true shown
  have run : Run brokenOff {} ∅ (helloAndTick r) :=
    ((Run.opened rfl h).sent Stage.channel (.text "hi") { messageId := some "1" }).ticked
  have reliable : brokenOff.Reliable := fun _ _ => rfl
  have unheard : Unheard "1" ∅ := by
    intro key record _ read
    cases read
  have once : (helloAndTick r).entries.count (.enrolled "1") = 1 := by
    rw [entries]
    decide
  exact ⟨_, run, entries, (run.bounds_attempts reliable unheard once).2.2⟩

end Diary

end Fanout
