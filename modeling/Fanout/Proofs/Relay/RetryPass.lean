import Fanout.Proofs.Relay.ClockSums
import Fanout.Proofs.Relay.History
import Fanout.Proofs.Relay.RetryTurn
import Fanout.Proofs.Relay.Settlement
import Fanout.Proofs.Retry.Exclusion

namespace Fanout

open Overheard

variable {ω : Type} {host : Host ω}

namespace Relay

/-- Turns that follow each other. -/
inductive Pass (host : Host ω) :
    Relay (Overheard ω) → List Turn → Relay (Overheard ω) → Prop
  | done (r : Relay (Overheard ω)) : Pass host r [] r
  | turn {r r₁ r' : Relay (Overheard ω)} {t : Turn} {turns : List Turn} (first : Takes host r t r₁)
      (rest : Pass host r₁ turns r') : Pass host r (t :: turns) r'

section Pass

variable {r r' : Relay (Overheard ω)} {t : Turn} {turns : List Turn}

theorem Pass.heard (h : Pass host r turns r') :
    Acknowledges (Turn.heard turns) r.world.host r'.world.host := by
  induction h with
  | done r => exact .of_eq rfl
  | turn first rest ih => exact Turn.heard_cons .. ▸ first.heard.trans ih

/-- A pass up to some turn, the turn, and the pass from there. -/
theorem Pass.split {earlier later : List Turn} (h : Pass host r (earlier ++ t :: later) r') :
    ∃ m n, Pass host r earlier m ∧ Takes host m t n ∧ Pass host n later r' := by
  induction earlier generalizing r with
  | nil =>
    cases h with
    | turn first rest => exact ⟨r, _, .done r, first, rest⟩
  | cons t' earlier ih =>
    cases h with
    | turn first rest =>
      obtain ⟨m, n, before, now, after⟩ := ih rest
      exact ⟨m, n, .turn first before, now, after⟩

theorem Pass.fate (h : Pass host r turns r') (once : (turns.map Turn.id).Nodup) :
    r'.retry.config = r.retry.config ∧
      ∀ id, Fate host r.retry.config turns id (r.retry.get? id) (r'.retry.get? id) := by
  induction h with
  | done r => exact ⟨rfl, fun id => .untouched (by simp [Turn.heard]) (by simp)⟩
  | @turn r r₁ r' t turns first rest ih =>
    rw [List.map_cons, List.nodup_cons] at once
    obtain ⟨config, fates⟩ := first.fate
    obtain ⟨config', fates'⟩ := ih once.2
    rw [config] at fates'
    refine ⟨config'.trans config, fun id => (fates id).trans (fates' id) ?_⟩
    intro t' mem other mem' same
    have named : t.id = other.id := List.mem_singleton.mp mem ▸ same
    rw [named] at once
    exact once.1 (List.mem_map_of_mem mem')

/-- A record has its turn in vain only if it was acknowledged before. -/
theorem Pass.skipped_iff {earlier later : List Turn} (h : Pass host r (earlier ++ t :: later) r')
    (once : ((earlier ++ t :: later).map Turn.id).Nodup)
    (found : r.retry.get? t.id = some t.record) :
    t.outcome = .skipped ↔ t.id ∈ Turn.heard earlier := by
  obtain ⟨m, n, before, now, _⟩ := h.split
  rw [List.map_append, List.map_cons] at once
  obtain ⟨once, _, apart⟩ := List.nodup_append.mp once
  have away : t.id ∉ earlier.map Turn.id := fun mem => apart t.id mem t.id List.mem_cons_self rfl
  rw [now.skipped_iff, ((before.fate once).2 t.id).elsewhere away, found]
  split
  next heard => exact iff_of_true rfl heard
  next unheard => exact iff_of_false nofun unheard

end Pass

/-- Each of some records has its turn, if each is due and was there at first. -/
theorem foldlM_retryOne (host : Host ω) {now : Nat} {records : List RetryRecord}
    (due : ∀ record ∈ records, record.isDue now = true)
    (once : (records.map (·.messageId)).Nodup) {r : Relay (Overheard ω)}
    (pending : ∀ record ∈ records, r.retry.get? record.messageId = none ∨
      r.retry.get? record.messageId = some record) (report : TickReport) :
    ∃ turns r', (records.map (·.messageId)).foldlM (retryOne host.overhearing now) report r =
        .ok (turns.foldl .count report) r' ∧
      turns.map Turn.record = records ∧ Pass host r turns r' := by
  induction records generalizing r report with
  | nil => exact ⟨[], r, rfl, rfl, .done r⟩
  | cons record records ih =>
    rw [List.map_cons, List.nodup_cons] at once
    obtain ⟨fresh, once⟩ := once
    obtain ⟨t, r₁, tried, rfl, first⟩ := retryOne_takes host (due record List.mem_cons_self)
      (pending record List.mem_cons_self) report
    have pending' : ∀ record ∈ records, r₁.retry.get? record.messageId = none ∨
        r₁.retry.get? record.messageId = some record := by
      intro record mem
      have away : record.messageId ∉ [t].map Turn.id := by
        rw [List.map_singleton, List.mem_singleton]
        intro same
        have mem' := List.mem_map_of_mem (f := (·.messageId)) mem
        rw [same] at mem'
        exact fresh mem'
      rw [(first.fate.2 _).elsewhere away]
      split
      · exact .inl rfl
      · exact pending record (List.mem_cons_of_mem _ mem)
    obtain ⟨turns, r', rest, listed, pass⟩ := ih
      (fun record mem => due record (List.mem_cons_of_mem _ mem)) once pending' (report.count t)
    refine ⟨t :: turns, r', ?_, by rw [List.map_cons, listed], .turn first pass⟩
    rw [List.map_cons, List.foldlM_cons, Act.bind_of_ok tried]
    exact rest

section Keyed

/-- Records stay under their own ids. -/
def KeepsKeyed (s t : Held RetryQueue ω) : Prop := s.own.Keyed → t.own.Keyed

instance : IsPreorder (Held RetryQueue ω) KeepsKeyed where
  refl _ keyed := keyed
  trans _ _ _ h h' keyed := h' (h keyed)

theorem keyed_admitted (host : Host ω) : Admits host KeepsKeyed where
  aside _ _ still keyed := still.own.symm ▸ keyed
  removed id _ keyed := RetryQueue.Request.keyed_after keyed (.remove id)
  purged now _ keyed := RetryQueue.Request.keyed_after keyed (.purge now)
  claimed id now _ keyed := keyed.claimed id now

theorem keyed_failed (host : Host ω) (id error : String) (now : Nat) :
    (RetryQueue.recordFailure host id error now).Keeps KeepsKeyed :=
  fun _ keyed => RetryQueue.Request.keyed_after keyed (.fail id error now)

/-- Whatever the host does, each record of a relay stands under its own id. -/
theorem Course.keyed {r : Relay ω} (course : Course host r) : r.AtHome ∧ r.retry.Keyed := by
  have carry : ∀ {s s' : Relay ω}, s.AtHome ∧ s.retry.Keyed → OnQueue KeepsKeyed s s' →
      s'.AtHome ∧ s'.retry.Keyed := fun kept h => ⟨(h kept.1).1, (h kept.1).2 kept.2⟩
  have admits := keyed_admitted host
  induction course with
  | created h => exact ⟨.of_create h, (queue_of_create h).1⟩
  | @sent s before jid message options ih =>
    rw [sendMessage_eq]
    rcases enrol_cases host jid message options s with
      ⟨id, now, s₁, s', enrolled, still, put⟩ | ⟨e, s', refused, still⟩
    · rw [Act.after_congr (Act.bind_of_ok enrolled)]
      have started : s'.retry = _ := (RetryQueue.enqueueInFlight_eq_ok put).1
      have kept := carry ih (admits.still still)
      have home : s'.AtHome := by
        rw [AtHome, started]
        exact kept.1
      have keyed : s'.retry.Keyed := started ▸ kept.2.put _
      exact carry ⟨home, keyed⟩ (pursue_onQueue (keyed_failed host) admits id jid message _ s')
    · rw [Act.after_of_error (Act.bind_of_error refused)]
      exact carry ih (admits.still still)
  | ticked before ih => exact carry ih (tick_onQueue (keyed_failed host) admits _)
  | acknowledged before id ih => exact carry ih (acknowledge_onQueue admits id _)
  | answered before receipt ih => exact carry ih (handleRetryReceipt_onQueue admits receipt _)
  | relayed before jid message options ih =>
    exact carry ih (relay_onQueue admits jid message options _)

end Keyed

/-- A pass begins with the time, and cleans up then. -/
theorem tick_timed (host : Host ω) (r : Relay (Overheard ω)) : ∃ now r₁,
    inWorld (World.now host.overhearing) r = .ok now r₁ ∧ now = (host.clock r.world.host.inner).1 ∧
      r₁.retry = r.retry ∧ r₁.canCleanUp now = r.canCleanUp now ∧
      Acknowledges [] r.world.host r₁.world.host :=
  ⟨_, _, rfl, rfl, rfl, rfl, .of_eq rfl⟩

/-- A pass that cannot clean up has no report. Nothing was delivered then, and no record is gone
but such as were given up long ago. -/
theorem tick_breaks_off (host : Host ω) {r : Relay (Overheard ω)}
    (outgrown : r.canCleanUp (host.clock r.world.host.inner).1 = false) :
    ∃ r', tick host.overhearing r = .ok none r' ∧ Acknowledges [] r.world.host r'.world.host ∧
      (r'.retry = r.retry ∨ r'.retry = r.retry.fresh (host.clock r.world.host.inner).1) := by
  obtain ⟨now, r₁, timed, taken, retry, can, quiet⟩ := tick_timed host r
  rw [← taken] at outgrown ⊢
  rcases cleanUp_cases host.overhearing now r₁ with ⟨fits, _⟩ | ⟨_, r', cleaned, untouched⟩
  · cases (can ▸ fits).symm.trans outgrown
  · have silent : Acknowledges [] r₁.world.host r'.world.host :=
      (cleanUp_proceeds host.overhearing_keeps now).of_ok cleaned
    refine ⟨r', ?_, quiet.trans silent, untouched.imp (fun same => ?_) fun queue => ?_⟩
    · rw [tick, Act.bind_of_ok timed, Act.bind_of_ok cleaned]
      rfl
    · rw [same, retry]
    · rw [← retry]
      exact (congrArg Held.own queue).trans (RetryQueue.own_after_purge _ now r₁.queue)

/-- How a pass begins: it takes the time, drops what was given up long ago, and looks up what is due
then. -/
structure Starts (host : Host ω) (r : Relay (Overheard ω)) (now : Nat) (swept : TickReport)
    (start : Relay (Overheard ω)) : Prop where
  timed : now = (host.clock r.world.host.inner).1
  cleaned : (inWorld (World.now host.overhearing) >>= cleanUp host.overhearing) r =
    .ok (some swept) start
  purged : start.retry = r.retry.fresh now
  quiet : Acknowledges [] r.world.host start.world.host
  delivered : swept.delivered = 0
  failed : swept.failed = 0
  skipped : swept.skipped = 0
  continues : tick host.overhearing r = (do
    return some (← (start.retry.due now).foldlM (retryOne host.overhearing now) swept)) start

theorem tick_starts (host : Host ω) {r : Relay (Overheard ω)}
    (fits : r.canCleanUp (host.clock r.world.host.inner).1 = true) :
    ∃ now swept start, Starts host r now swept start := by
  obtain ⟨now, r₁, timed, taken, retry, can, quiet⟩ := tick_timed host r
  rw [← taken] at fits
  rcases cleanUp_cases host.overhearing now r₁ with
    ⟨_, purged, dropped, start, cleaned, queue⟩ | ⟨outgrown, _⟩
  · have silent : Acknowledges [] r₁.world.host start.world.host :=
      (cleanUp_proceeds host.overhearing_keeps now).of_ok cleaned
    have fresh : start.retry = r₁.retry.fresh now :=
      (congrArg Held.own queue).trans (RetryQueue.own_after_purge _ now r₁.queue)
    refine ⟨now, _, start, taken, (Act.bind_of_ok timed).trans cleaned, retry ▸ fresh,
      quiet.trans silent, rfl, rfl, rfl, ?_⟩
    rw [tick, Act.bind_of_ok timed, Act.bind_of_ok cleaned]
    rfl
  · cases (can ▸ outgrown).symm.trans fits

/-- The clock of a host and the settings, times and counts of a relay leave room for every sum that
a pass makes. -/
structure Roomy {τ : Type} (host : Host ω) (r : Relay τ) : Prop where
  early : ∀ time, host.Shows time → time < horizon
  retry : r.retry.config.Moderate
  presence : r.trackers.presence.ttl ≤ horizon
  mutations : r.trackers.mutations.ttl ≤ horizon
  recent : r.trackers.recent.ttl ≤ horizon
  receipts : r.trackers.receipts.ttl ≤ horizon
  timely : r.retry.Timely
  records : ∀ id record, r.retry.get? id = some record →
    record.Fits ∧ record.attemptCount + 1 < UInt32.size

theorem Roomy.canCleanUp {τ : Type} {r : Relay τ} (roomy : Roomy host r) {now : Nat}
    (shown : host.Shows now) : r.canCleanUp now = true := by
  have soon := roomy.early now shown
  have fits : ∀ {κ β : Type} [Ord κ] {t : TrackerTable κ β}, t.ttl ≤ horizon →
      t.expiryFits now = true := fun short => decide_eq_true (TrackerTable.expiry_lt short soon)
  rw [Relay.canCleanUp, roomy.timely.expiriesFit roomy.retry.keeps, Trackers.isSome_sweep,
    fits roomy.presence, fits roomy.mutations, fits roomy.recent, fits roomy.receipts]
  rfl

/-- How one pass over the retry queue goes. -/
structure Retries (host : Host ω) (r : Relay (Overheard ω)) (now : Nat) (swept : TickReport)
    (start : Relay (Overheard ω)) (turns : List Turn) (report : TickReport)
    (r' : Relay (Overheard ω)) : Prop where
  ticked : tick host.overhearing r = .ok (some report) r'
  starts : Starts host r now swept start
  pass : Pass host start turns r'
  /-- The records that are due then, each once and the most urgent first. -/
  lists : start.retry.Lists now (turns.map Turn.id)
  records : ∀ t ∈ turns, start.retry.get? t.id = some t.record
  heard : Acknowledges (Turn.heard turns) r.world.host r'.world.host
  skips : ∀ earlier t later, turns = earlier ++ t :: later →
    (t.outcome = .skipped ↔ t.id ∈ Turn.heard earlier)
  delivered : report.delivered = turns.countP fun t => t.outcome = .delivered
  failed : report.failed = turns.countP fun t => t.outcome.isFailure
  skipped : report.skipped = turns.countP fun t => t.outcome = .skipped
  accounts : report.delivered + report.failed + report.skipped = (start.retry.due now).length
  acknowledged : ∀ id ∈ Turn.heard turns, r'.retry.get? id = none
  settled : ∀ t ∈ turns, t.outcome.isFinal = true → r'.retry.get? t.id = none
  kept : ∀ t ∈ turns, ∀ e, t.outcome = .failed e → e.isRetryable = true →
    t.id ∉ Turn.heard turns → ∃ later booked, host.Shows later ∧ r'.retry.get? t.id = some booked ∧
      RetryQueue.Fails r.retry.config e.message later t.record booked ∧
      booked.attemptCount = t.record.attemptCount + 1 ∧ booked.Fits
  untouched : ∀ id, id ∉ turns.map Turn.id → id ∉ Turn.heard turns →
    r'.retry.get? id = (r.retry.get? id).filter fun record => !r.retry.isExpired now record

/-- Where no sum outgrows its word: first what was given up long ago is dropped. Then the records
that are due have one turn each, in order, and are relayed as they stand in the queue, but for those
that were acknowledged before their turn. What went out, cannot go out or was acknowledged is gone
behind the pass, what may go out later is back with one more attempt booked, and all else is as it
was. That each record stands under its own id holds over the whole life of a relay
(`Course.keyed`). -/
theorem tick_retries (host : Host ω) {r : Relay (Overheard ω)} (keyed : r.retry.Keyed)
    (roomy : Roomy host r) :
    ∃ now swept start turns report r', Retries host r now swept start turns report r' := by
  obtain ⟨now, swept, start, starts⟩ := tick_starts host (roomy.canCleanUp ⟨_, rfl⟩)
  have keyed' : start.retry.Keyed := starts.purged ▸ keyed.fresh now
  have found : ∀ record ∈ RetryQueue.urgent start.retry.records.values now,
      start.retry.get? record.messageId = some record := fun _ => keyed'.get?_urgent
  have due : ∀ record ∈ RetryQueue.urgent start.retry.records.values now,
      record.isDue now = true := fun _ => RetryQueue.isDue_of_mem_urgent
  obtain ⟨turns, r', folded, listed, pass⟩ := foldlM_retryOne host due
    (RetryQueue.nodup_due keyed' now) (fun record mem => .inr (found record mem)) swept
  have ids : turns.map Turn.id = start.retry.due now := by
    rw [RetryQueue.due_eq_listed, RetryQueue.listed, ← listed, List.map_map]
    rfl
  have once : (turns.map Turn.id).Nodup := ids ▸ RetryQueue.nodup_due keyed' now
  have records : ∀ t ∈ turns, start.retry.get? t.id = some t.record :=
    fun t mem => found t.record (listed ▸ List.mem_map_of_mem mem)
  obtain ⟨_, fates⟩ := pass.fate once
  obtain ⟨delivered, failed, skipped⟩ := TickReport.foldl_count turns swept
  rw [starts.delivered, Nat.zero_add] at delivered
  rw [starts.failed, Nat.zero_add] at failed
  rw [starts.skipped, Nat.zero_add] at skipped
  refine ⟨now, swept, start, turns, turns.foldl .count swept, r',
    starts.continues.trans (Act.bind_of_ok folded), starts, pass, ids ▸ keyed'.lists now, records,
    starts.quiet.trans pass.heard, ?_, delivered, failed, skipped, ?_,
    fun id => (fates id).of_heard, fun t => (fates t.id).of_final once, ?_, ?_⟩
  · rintro earlier t later rfl
    exact pass.skipped_iff once (records t (by simp))
  · rw [delivered, failed, skipped, Turn.countP_outcome, ← ids, List.length_map]
  · intro t mem e failed retryable unheard
    obtain ⟨later, booked, shown, there, fails⟩ :=
      (fates t.id).of_retryable once mem failed retryable unheard
    have enrolled := records t mem
    rw [starts.purged, RetryQueue.get?_fresh, Option.filter_eq_some_iff] at enrolled
    obtain ⟨fits, room⟩ := roomy.records t.id t.record enrolled.1
    rw [starts.purged] at fails
    exact ⟨later, booked, shown, there, fails, fails.attemptCount,
      fails.fits roomy.retry (roomy.early later shown) fits room⟩
  · intro id untried unheard
    rw [(fates id).elsewhere untried, if_neg unheard, starts.purged, RetryQueue.get?_fresh]

/-- While the stanza of one message is handed over, the other is acknowledged. The clock stands
still. -/
def crossing (time : Nat) : Host Stage :=
  { Stage.plain with
    clock := fun s => (time, s)
    send := fun n s =>
      if n.attr? "id" = some "A" then .acknowledged "B" s fun _ s => .settled (.ok ()) s
      else .settled (.ok ()) s }

/-- Two messages are due for the channel. -/
def twoDue (c : Config) : Relay (Overheard Stage) :=
  { config := c
    credentials := ⟨Stage.own, none, []⟩
    directories := { devices := ∅, groups := ∅, memory := ∅, world := ⟨∅, Stage.opening, []⟩ }
    retry := ((RetryQueue.new c.retry).put (enrolled "A" Stage.channel (.text "hi") {} 0)).put
      (enrolled "B" Stage.channel (.text "hi") {} 0)
    trackers := .new c
    running := false }

theorem keyed_twoDue (c : Config) : (twoDue c).retry.Keyed := by
  have empty : (RetryQueue.new c.retry).Keyed := fun _ _ none => (nomatch none)
  exact (empty.put _).put _

/-- None of the two was given up. -/
theorem fresh_twoDue (c : Config) (time : Nat) :
    (twoDue c).retry.fresh time = (twoDue c).retry := rfl

/-- Both were enrolled at the same time, so their ids decide. -/
theorem due_twoDue (c : Config) (time : Nat) : (twoDue c).retry.due time = ["A", "B"] := by
  have rows : ((twoDue c).retry.records.values.filter fun r => r.isDue time) =
      [enrolled "A" Stage.channel (.text "hi") {} 0,
        enrolled "B" Stage.channel (.text "hi") {} 0] := rfl
  rw [RetryQueue.due, rows]
  simp [List.mergeSort, RetryQueue.dueOrder, enrolled, RetryRecord.new]

theorem new_of_twoDue {c : Config} {id : String} {record : RetryRecord}
    (found : (twoDue c).retry.get? id = some record) :
    ∃ id, record = enrolled id Stage.channel (.text "hi") {} 0 := by
  rw [twoDue, RetryQueue.get?_put, RetryQueue.get?_put] at found
  split at found
  next => exact ⟨"B", (Option.some.inj found).symm⟩
  next =>
    split at found
    next => exact ⟨"A", (Option.some.inj found).symm⟩
    next => cases found

theorem roomy_twoDue {c : Config} (moderate : c.Moderate) {time : Nat} (soon : time < horizon) :
    Roomy (crossing time) (twoDue c) where
  early shown := by
    rintro ⟨_, rfl⟩
    exact soon
  retry := moderate.retry
  presence := moderate.presence
  mutations := moderate.mutations
  recent := moderate.recent
  receipts := moderate.receipts
  timely id record found := by
    obtain ⟨id, rfl⟩ := new_of_twoDue found
    exact fun _ none => (nomatch none)
  records id record found := by
    obtain ⟨id, rfl⟩ := new_of_twoDue found
    exact ⟨.new (Nat.two_pow_pos 64) _ _ _ _, Nat.one_lt_two_pow (Nat.succ_ne_zero 31)⟩

theorem twoDue_delivers_one : ∃ now swept start turns report r',
    Retries (crossing 0) (twoDue {}) now swept start turns report r' ∧ report.delivered = 1 ∧
      report.skipped = 1 ∧ r'.retry.size = 0 := by
  obtain ⟨now, swept, start, turns, report, r', retries⟩ :=
    tick_retries (crossing 0) (keyed_twoDue {}) (roomy_twoDue Config.moderate_default horizon_pos)
  have seen : (tick (crossing 0).overhearing).yields (twoDue {}) (fun report r =>
      report.any fun report => report.delivered = 1 ∧ report.skipped = 1 ∧ r.retry.size = 0) =
        true := by
    have step : tick (crossing 0).overhearing (twoDue {}) = (do
        return some (← ["A", "B"].foldlM (retryOne (crossing 0).overhearing 0) {}))
        { twoDue {} with trackers := ((Trackers.new {}).sweep 0).2 } := by
      rw [← due_twoDue {} 0]
      rfl
    rw [Act.yields, step]
    decide +kernel
  obtain ⟨answer, s, ticked, counts⟩ := Act.yields_iff.mp seen
  cases ticked.symm.trans retries.ticked
  exact ⟨now, swept, start, turns, report, r', retries, of_decide_eq_true counts⟩

/-- Under settings that are accepted, no pass after the first millisecond has a report, and both
messages stay where they are. -/
theorem longPresence_breaks_off : Config.longPresence.validate = .ok () ∧
    (twoDue Config.longPresence).retry.Keyed ∧
    (twoDue Config.longPresence).retry.due 1 = ["A", "B"] ∧
    (∃ r', tick (crossing 1).overhearing (twoDue Config.longPresence) = .ok none r' ∧
      Acknowledges [] (twoDue Config.longPresence).world.host r'.world.host ∧
      r'.retry.due 1 = ["A", "B"]) ∧
    ¬∃ now swept start turns report r', Retries (crossing 1) (twoDue Config.longPresence) now swept
      start turns report r' := by
  have due := due_twoDue Config.longPresence 1
  obtain ⟨r', ended, quiet, kept⟩ :=
    tick_breaks_off (crossing 1) (r := twoDue Config.longPresence) (by decide)
  refine ⟨by decide, keyed_twoDue _, due, ⟨r', ended, quiet, ?_⟩, ?_⟩
  · rcases kept with same | same
    · rw [same, due]
    · rw [same, fresh_twoDue, due]
  · rintro ⟨_, _, _, _, _, _, retries⟩
    cases ended.symm.trans retries.ticked

end Relay

end Fanout
