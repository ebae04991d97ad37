import Fanout.Proofs.Relay.Settlement

namespace Fanout

namespace Trackers

section SweepPart

variable {κ β γ : Type} [Ord κ] {part : Trackers → TrackerTable κ β}
  {replace : TrackerTable κ β → Trackers → Trackers}

/-- A sweep leaves other tables alone. -/
theorem sweepPart_other (replace : TrackerTable κ β → Trackers → Trackers) (other : Trackers → γ)
    (apart : ∀ u t, other (replace u t) = other t) (now : Nat) (a : Option Nat × Trackers) :
    other (sweepPart part replace now a).2 = other a.2 := by
  obtain ⟨_ | dropped, t⟩ := a
  · rfl
  · unfold sweepPart
    dsimp only
    split
    · exact apart _ t
    · rfl

theorem sweepPart_own (part : Trackers → TrackerTable κ β)
    (replace : TrackerTable κ β → Trackers → Trackers) (own : ∀ u t, part (replace u t) = u)
    (now : Nat) (a : Option Nat × Trackers) :
    part (sweepPart part replace now a).2 = part a.2 ∨
      part (sweepPart part replace now a).2 = (part a.2).swept now := by
  obtain ⟨_ | dropped, t⟩ := a
  · exact .inl rfl
  · unfold sweepPart
    dsimp only
    split
    · exact .inr (own _ t)
    · exact .inl rfl

theorem isSome_sweepPart (now : Nat) (a : Option Nat × Trackers) :
    (sweepPart part replace now a).1.isSome = (a.1.isSome && (part a.2).expiryFits now) := by
  obtain ⟨_ | dropped, t⟩ := a
  · rfl
  · unfold sweepPart
    dsimp only
    split
    next fits => simp [fits]
    next outgrown => simpa using outgrown

end SweepPart

theorem recent_sweep (t : Trackers) (now : Nat) :
    (t.sweep now).2.recent = t.recent ∨ (t.sweep now).2.recent = t.recent.swept now := by
  have own := sweepPart_own recent withRecent (fun _ _ => rfl) now
    (sweepPart mutations withMutations now (sweepPart presence withPresence now (some 0, t)))
  rw [sweepPart_other withMutations recent fun _ _ => rfl,
    sweepPart_other withPresence recent fun _ _ => rfl] at own
  rwa [sweep, sweepPart_other withReceipts recent fun _ _ => rfl]

theorem receipts_sweep (t : Trackers) (now : Nat) :
    (t.sweep now).2.receipts = t.receipts ∨ (t.sweep now).2.receipts = t.receipts.swept now := by
  have own := sweepPart_own receipts withReceipts (fun _ _ => rfl) now
    (sweepPart recent withRecent now
      (sweepPart mutations withMutations now (sweepPart presence withPresence now (some 0, t))))
  rwa [sweepPart_other withRecent receipts fun _ _ => rfl,
    sweepPart_other withMutations receipts fun _ _ => rfl,
    sweepPart_other withPresence receipts fun _ _ => rfl] at own

/-- Everything is swept exactly if each table can be. -/
theorem isSome_sweep (t : Trackers) (now : Nat) : (t.sweep now).1.isSome =
    (t.presence.expiryFits now && t.mutations.expiryFits now && t.recent.expiryFits now &&
      t.receipts.expiryFits now) := by
  simp only [sweep, isSome_sweepPart,
    sweepPart_other withRecent receipts fun _ _ => rfl,
    sweepPart_other withMutations receipts fun _ _ => rfl,
    sweepPart_other withMutations recent fun _ _ => rfl,
    sweepPart_other withPresence receipts fun _ _ => rfl,
    sweepPart_other withPresence recent fun _ _ => rfl,
    sweepPart_other withPresence mutations fun _ _ => rfl]
  rfl

end Trackers

namespace Relay

variable {ω : Type} {host : Host ω}

/-- What calls keep while they put stanzas together, send them and book the outcome in the retry
queue. -/
structure KeptBesides (host : Host ω) (K : Relay ω → Relay ω → Prop) : Prop where
  now : (inWorld (World.now host)).Keeps K
  noise : ∀ n, (inWorld (World.noiseBytes host n)).Keeps K
  ensure : ∀ jids force, (inWorld (Sessions.ensure host jids force)).Keeps K
  enqueue : ∀ record, (inRetry (RetryQueue.enqueueInFlight host record)).Keeps K
  fail : ∀ id error now, (inRetry (RetryQueue.recordFailure host id error now)).Keeps K
  remove : ∀ id, (inRetry (RetryQueue.remove host id)).Keeps K
  purge : ∀ now, (inRetry (RetryQueue.purge host now)).Keeps K
  claim : ∀ id now, (claim id now).Keeps K
  relay : ∀ jid message options, (relay host jid message options).Keeps K

namespace KeptBesides

variable {K : Relay ω → Relay ω → Prop}

theorem of_all (world : ∀ {α : Type} (x : Act (World ω) α), (inWorld x).Keeps K)
    (retry : ∀ {α : Type} (x : Act (Held RetryQueue ω) α), (inRetry x).Keeps K)
    (claim : ∀ id now, (Relay.claim id now).Keeps K)
    (relay : ∀ jid message options, (Relay.relay host jid message options).Keeps K) :
    KeptBesides host K where
  now := world _
  noise _ := world _
  ensure _ _ := world _
  enqueue _ := retry _
  fail _ _ _ := retry _
  remove _ := retry _
  purge _ := retry _
  claim := claim
  relay := relay

variable [IsPreorder (Relay ω) K] (kept : KeptBesides host K)

include kept

theorem chooseId (credentials : Credentials) (options : RelayOptions) :
    (Relay.chooseId host credentials options).Keeps K := by
  unfold Relay.chooseId
  split
  · exact .pure _
  · exact kept.now.bind fun _ => (kept.noise _).bind fun _ => .pure _

theorem settleDelivered (id : String) : (Relay.settleDelivered host id).Keeps K :=
  (kept.remove id).attempt.bind fun _ => .pure _

theorem settleFailure (id : String) (e : Error) : (Relay.settleFailure host id e).Keeps K :=
  .ite (kept.now.bind fun now => (kept.fail id e.message now).attempt.bind fun _ => .pure _)
    (kept.settleDelivered id)

theorem sendMessage (jid : Jid) (message : Message) (options : RelayOptions) :
    (Relay.sendMessage host jid message options).Keeps K := by
  refine Act.Keeps.get.bind fun r => (kept.chooseId _ _).bind fun id => ?_
  refine kept.now.bind fun now => (kept.enqueue _).bind fun _ => ?_
  refine (kept.relay _ _ _).attempt.bind fun outcome => ?_
  cases outcome with
  | ok id => exact (kept.settleDelivered id).bind fun _ => .pure id
  | error e => exact (kept.settleFailure id e).bind fun _ => .throw e

theorem retryOne (now : Nat) (report : TickReport) (id : String) :
    (Relay.retryOne host now report id).Keeps K := by
  refine (kept.claim id now).bind fun record => ?_
  cases record with
  | none => exact .pure _
  | some record =>
    refine (kept.relay _ _ _).attempt.bind fun outcome => ?_
    cases outcome with
    | ok sent => exact (kept.settleDelivered id).bind fun _ => .pure _
    | error e => exact (kept.settleFailure id e).bind fun _ => .pure _

/-- A pass over the queue keeps what its sweep keeps, too. -/
theorem tick (swept : ∀ (now : Nat) (r : Relay ω),
    K r { r with trackers := (r.trackers.sweep now).2 }) : (Relay.tick host).Keeps K := by
  have cleaned : ∀ now, (cleanUp host now).Keeps K := fun now =>
    Act.Keeps.get.bind fun _ =>
      .ite ((kept.purge now).guarded.bind fun purged r => swept now r) (.pure none)
  refine kept.now.bind fun now => (cleaned now).bind fun report => ?_
  cases report with
  | none => exact .pure none
  | some report =>
    exact Act.Keeps.get.bind fun r => (Act.Keeps.foldlM (kept.retryOne now) _ _).bind fun _ => .pure _

/-- An answer to a retry receipt keeps what the counting of it keeps, too. -/
theorem handleRetryReceipt (receipt : RetryReceipt)
    (counted : ∀ now, (countReceipt (ω := ω) receipt now).Keeps K) :
    (Relay.handleRetryReceipt host receipt).Keeps K := by
  refine kept.now.bind fun now => (counted now).bind fun count => ?_
  refine Act.Keeps.get.bind fun r => .ite (.pure false) ?_
  split
  · exact .pure false
  · exact (kept.ensure _ _).bind fun _ => (kept.relay _ _ _).bind fun _ => .pure true

theorem acknowledge (id : String) : (Relay.acknowledge host id).Keeps K :=
  (kept.remove id).bind fun _ => .pure _

end KeptBesides

/-- What all calls keep of which the life of a relay consists. -/
structure KeptByCalls (host : Host ω) (K : Relay ω → Relay ω → Prop) : Prop where
  relay : ∀ jid message options, (relay host jid message options).Keeps K
  sendMessage : ∀ jid message options, (sendMessage host jid message options).Keeps K
  tick : (tick host).Keeps K
  handleRetryReceipt : ∀ receipt, (handleRetryReceipt host receipt).Keeps K
  acknowledge : ∀ id, (acknowledge host id).Keeps K

/-- Neither the configuration nor a side table differs. -/
structure SameTables (r r' : Relay ω) : Prop where
  config : r'.config = r.config
  trackers : r'.trackers = r.trackers

instance : IsPreorder (Relay ω) SameTables where
  refl _ := ⟨rfl, rfl⟩
  trans _ _ _ h h' := ⟨h'.config.trans h.config, h'.trackers.trans h.trackers⟩

theorem Prepares.sameTables {R : ω → ω → Prop} {r r' : Relay ω} (h : Prepares R r r') :
    SameTables r r' := by
  rw [h.rest]
  exact ⟨rfl, rfl⟩

theorem Settles.sameTables {R : ω → ω → Prop} {r r' : Relay ω} (h : Settles R r r') :
    SameTables r r' := by
  rw [h.rest]
  exact ⟨rfl, rfl⟩

theorem inWorld_sameTables {α : Type} (x : Act (World ω) α) : (inWorld x).Keeps SameTables := by
  intro r
  rw [inWorld, Act.after_zoom]
  exact ⟨rfl, rfl⟩

theorem inRetry_sameTables {α : Type} (x : Act (Held RetryQueue ω) α) :
    (inRetry x).Keeps SameTables := by
  intro r
  rw [inRetry, Act.after_zoom]
  exact ⟨rfl, rfl⟩

/-- A relay that fails leaves the tables alone. -/
theorem sameTables_of_relay_error {jid : Jid} {message : Message} {options : RelayOptions}
    {r r' : Relay ω} {e : Error} (h : relay host jid message options r = .error e r') :
    SameTables r r' := by
  rcases relay_eq_error host.keeps_true h with unsent | ⟨prepared, r₁, made, ht⟩
  · exact unsent.sameTables
  · exact trans_of SameTables made.sameTables ((transmit_keeps _).of_error ht).sameTables

/-- A relay that goes through takes note of its message and does nothing else to the tables. -/
theorem noted_of_relay {jid : Jid} {message : Message} {options : RelayOptions} {id : String}
    {r r' : Relay ω} (h : relay host jid message options r = .ok id r') :
    r'.config = r.config ∧
      ∃ now, r'.trackers = r.trackers.note jid.withoutDevice id message now := by
  obtain ⟨r₁, prepared, d, r₂, hid, hp, ht, rfl⟩ := relay_eq_ok h
  have same : SameTables r r₂ := trans_of SameTables
    (prepares_of_ok host.keeps_true hid hp).sameTables ((transmit_keeps _).of_ok ht).sameTables
  have config : (conclude host jid.withoutDevice id message prepared.informed r₂).config =
      r₂.config := by
    rw [conclude, inDirectories, Act.after_zoom]
    rfl
  obtain ⟨now, noted⟩ := conclude_trackers host jid.withoutDevice id message prepared.informed r₂
  rw [same.trackers] at noted
  exact ⟨config.trans same.config, now, noted⟩

theorem tables_of_create {c : Config} {credentials : Credentials} {w w' : World ω} {r : Relay ω}
    (h : create host c credentials w = .ok r w') : r.config = c ∧ r.trackers = .new c := by
  obtain ⟨_, _, _, h⟩ := Act.bind_eq_ok.mp h
  obtain ⟨_, _, _, h⟩ := Act.bind_eq_ok.mp h
  obtain ⟨_, _, _, h⟩ := Act.bind_eq_ok.mp h
  cases h
  exact ⟨rfl, rfl⟩

section Receipt

variable (host : Host ω) (receipt : RetryReceipt) (r : Relay ω)

/-- The count that a receipt gets when it comes in. -/
def countOf : Nat :=
  (r.trackers.receipts.bump receipt.messageId receipt.requester (host.clock r.world.host).1).1

/-- The state in which a receipt is counted and nothing else is done about it. -/
def counted : Relay ω :=
  { r.withHost (host.clock r.world.host).2 with
    trackers := { r.trackers with
      receipts := (r.trackers.receipts.bump receipt.messageId receipt.requester
        (host.clock r.world.host).1).2 } }

/-- What is done about a receipt that is answered. -/
def resend (message : Message) : Act (Relay ω) Bool := do
  let _ ← inWorld (Sessions.ensure host [receipt.requester] true)
  let _ ← relay host receipt.remoteJid message receipt.options
  return true

theorem handleRetryReceipt_apply : handleRetryReceipt host receipt r =
    if r.config.maxRetryReceipts.toNat < countOf host receipt r then
      .ok false (counted host receipt r)
    else
      match r.trackers.recent.message? receipt.remoteJid receipt.messageId
        (host.clock r.world.host).1 with
      | none => .ok false (counted host receipt r)
      | some message => resend host receipt message (counted host receipt r) := by
  have begun : handleRetryReceipt host receipt r =
      (if r.config.maxRetryReceipts.toNat < countOf host receipt r then pure false
      else
        match r.trackers.recent.message? receipt.remoteJid receipt.messageId
          (host.clock r.world.host).1 with
        | none => pure false
        | some message => resend host receipt message) (counted host receipt r) := rfl
  rw [begun]
  split
  · rfl
  · cases r.trackers.recent.message? receipt.remoteJid receipt.messageId
      (host.clock r.world.host).1 <;> rfl

variable {host receipt r}

/-- The calls that sending a message once more is made of. -/
theorem handleRetryReceipt_calls {r' : Relay ω}
    (h : handleRetryReceipt host receipt r = .ok true r') :
    countOf host receipt r ≤ r.config.maxRetryReceipts.toNat ∧
      ∃ (message : Message) (found : Bool) (w : World ω) (id : String),
        r.trackers.recent.message? receipt.remoteJid receipt.messageId
          (host.clock r.world.host).1 = some message ∧
        Sessions.ensure host [receipt.requester] true (counted host receipt r).world =
          .ok found w ∧
        relay host receipt.remoteJid message receipt.options
          ((counted host receipt r).withWorld w) = .ok id r' := by
  rw [handleRetryReceipt_apply] at h
  split at h
  next => cases h
  next within =>
    split at h
    next => cases h
    next message kept =>
      obtain ⟨found, r₂, asked, h⟩ := Act.bind_eq_ok.mp h
      obtain ⟨w, ensured, rfl⟩ := Act.zoom_eq_ok.mp asked
      obtain ⟨id, r₃, relayed, h⟩ := Act.bind_eq_ok.mp h
      cases h
      exact ⟨Nat.le_of_not_lt within, message, found, w, id, kept, ensured, relayed⟩

end Receipt

section History

variable {τ ε : Type} (host : Host ω) (part : Trackers → τ) (Change : ε → Relay ω → Relay ω → Prop)

/-- The events that may have changed a table of a relay since it was created, the latest first.
Whatever else went on left the table and the configuration as they were. -/
inductive History : List ε → Relay ω → Prop
  | created {c : Config} {credentials : Credentials} {w w' : World ω} {r : Relay ω}
      (h : create host c credentials w = .ok r w') : History [] r
  | changed {events : List ε} {e : ε} {r r' : Relay ω} (before : History events r)
      (change : Change e r r') : History (e :: events) r'
  | aside {events : List ε} {r r' : Relay ω} (before : History events r)
      (config : r'.config = r.config) (same : part r'.trackers = part r.trackers) :
      History events r'

/-- Each history goes on from one state to the other. -/
def Continues (r r' : Relay ω) : Prop :=
  ∀ events, History host part Change events r →
    ∃ new, History host part Change (new ++ events) r'

instance : IsPreorder (Relay ω) (Continues host part Change) where
  refl _ events before := ⟨[], before⟩
  trans _ _ _ h h' events before := by
    obtain ⟨new, middle⟩ := h events before
    obtain ⟨newer, after⟩ := h' _ middle
    exact ⟨newer ++ new, List.append_assoc newer new events ▸ after⟩

variable {host part Change}

/-- What holds of a table from the start, and on as time passes and after each event, holds after a
history whose events came in the order of their times. -/
theorem History.holds (Holds : List ε → Config → τ → Nat → Prop) {time : ε → Nat}
    (start : ∀ c, Holds [] c (part (.new c)) 0)
    (wait : ∀ {events c t now later}, now ≤ later → Holds events c t now → Holds events c t later)
    (step : ∀ {events e} {r r' : Relay ω}, Holds events r.config (part r.trackers) (time e) →
      Change e r r' → Holds (e :: events) r'.config (part r'.trackers) (time e))
    {events : List ε} {r : Relay ω} (history : History host part Change events r) {now : Nat}
    (ordered : (now :: events.map time).Pairwise (· ≥ ·)) :
    Holds events r.config (part r.trackers) now := by
  induction history generalizing now with
  | created h =>
    obtain ⟨rfl, trackers⟩ := tables_of_create h
    rw [trackers]
    exact wait (Nat.zero_le now) (start _)
  | changed _ change ih =>
    obtain ⟨since, ordered⟩ := List.pairwise_cons.mp ordered
    exact wait (since _ List.mem_cons_self) (step (ih ordered) change)
  | aside _ config same ih =>
    rw [same, config]
    exact ih ordered

theorem Continues.of_same {r r' : Relay ω} (config : r'.config = r.config)
    (same : part r'.trackers = part r.trackers) : Continues host part Change r r' :=
  fun _ before => ⟨[], before.aside config same⟩

theorem Continues.of_change {e : ε} {r r' : Relay ω} (change : Change e r r') :
    Continues host part Change r r' :=
  fun _ before => ⟨[e], before.changed change⟩

/-- Histories go on through calls if they go on through relays that go through. -/
theorem Continues.besides
    (relayed : ∀ {jid message options id} {r r' : Relay ω},
      relay host jid message options r = .ok id r' → Continues host part Change r r') :
    KeptBesides host (Continues host part Change) := by
  have aside : ∀ {r r' : Relay ω}, SameTables r r' → Continues host part Change r r' :=
    fun same => .of_same same.config (congrArg part same.trackers)
  refine .of_all (fun x r => ?_) (fun x r => ?_) (fun id now r => ?_) fun jid message options => ?_
  · exact aside (inWorld_sameTables x r)
  · exact aside (inRetry_sameTables x r)
  · exact aside ⟨rfl, rfl⟩
  · exact .intro (fun r r' id h => relayed h) fun r r' e h => aside (sameTables_of_relay_error h)

/-- If histories go on through all calls, a relay has one at any time of its life. -/
theorem Course.history (kept : KeptByCalls host (Continues host part Change)) {r : Relay ω}
    (course : Course host r) : ∃ events, History host part Change events r := by
  have extend : ∀ {r r' : Relay ω}, (∃ events, History host part Change events r) →
      Continues host part Change r r' → ∃ events, History host part Change events r' := by
    rintro r r' ⟨events, before⟩ continued
    obtain ⟨new, after⟩ := continued events before
    exact ⟨_, after⟩
  induction course with
  | created h => exact ⟨[], .created h⟩
  | sent _ jid message options before => exact extend before (kept.sendMessage jid message options _)
  | ticked _ before => exact extend before (kept.tick _)
  | acknowledged _ id before => exact extend before (kept.acknowledge id _)
  | answered _ receipt before => exact extend before (kept.handleRetryReceipt receipt _)
  | relayed _ jid message options before => exact extend before (kept.relay jid message options _)

end History

end Relay

end Fanout
