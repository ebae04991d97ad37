import Fanout.Proofs.Host.Overheard
import Fanout.Proofs.Relay.RetrySession
import Fanout.Proofs.Tracker.Receipts

namespace Fanout

open ReceiptCounter TrackerTable

namespace Relay

variable {ω : Type}

/-- A retry receipt, and the relay that it comes to. -/
structure Arrival (ω : Type) where
  receipt : RetryReceipt
  before : Relay ω

def Arrival.asking (a : Arrival ω) : Asking := ⟨a.receipt.messageId, a.receipt.requester⟩

def Arrival.bump (host : Host ω) (a : Arrival ω) : Bump :=
  ⟨a.asking, (host.clock a.before.world.host).1⟩

/-- Whether the sums of the counter fit when a receipt comes in. Otherwise it gets no answer, and
nothing is done about it. -/
def Arrival.comesBack (host : Host ω) (a : Arrival ω) : Bool :=
  a.before.trackers.receipts.bumpFits a.receipt.messageId a.receipt.requester (a.bump host).time

/-- What changes the counts of retry receipts. -/
inductive CountEvent (ω : Type) where
  | arrived (a : Arrival ω)
  | swept (now : Nat)

namespace CountEvent

variable (host : Host ω)

def time : CountEvent ω → Nat
  | arrived a => (a.bump host).time
  | swept now => now

def bump? : CountEvent ω → Option Bump
  | arrived a => some (a.bump host)
  | swept _ => none

inductive Changes : CountEvent ω → Relay ω → Relay ω → Prop
  | arrived (receipt : RetryReceipt) (r : Relay ω) :
    Changes (arrived ⟨receipt, r⟩) r ((handleRetryReceipt host receipt).after r)
  | swept {r r' : Relay ω} (now : Nat) (config : r'.config = r.config)
    (receipts : r'.trackers.receipts = r.trackers.receipts.swept now) : Changes (swept now) r r'

end CountEvent

variable {host : Host ω}

/-- The receipts and sweeps since a relay was created, the latest first. -/
abbrev CountHistory (host : Host ω) : List (CountEvent ω) → Relay ω → Prop :=
  History host Trackers.receipts (CountEvent.Changes host)

/-- A history of counts goes on through all calls, among other receipts as well. -/
theorem continues_counts (host : Host ω) :
    KeptByCalls host (Continues host Trackers.receipts (CountEvent.Changes host)) := by
  have kept : KeptBesides host (Continues host Trackers.receipts (CountEvent.Changes host)) := by
    refine Continues.besides fun h => ?_
    obtain ⟨config, now, noted⟩ := noted_of_relay h
    exact .of_same config (by rw [noted]; rfl)
  refine ⟨kept.relay, kept.sendMessage, kept.tick fun now r => ?_, fun receipt r => ?_,
    kept.acknowledge⟩
  · rcases r.trackers.receipts_sweep now with kept | swept
    · exact .of_same rfl kept
    · exact .of_change (.swept now rfl swept)
  · exact .of_change (.arrived receipt r)

/-- Neither the configuration nor the counts of receipts differ. -/
structure SameCounts (r r' : Relay ω) : Prop where
  config : r'.config = r.config
  receipts : r'.trackers.receipts = r.trackers.receipts

instance : IsPreorder (Relay ω) SameCounts where
  refl _ := ⟨rfl, rfl⟩
  trans _ _ _ h h' := ⟨h'.config.trans h.config, h'.receipts.trans h.receipts⟩

theorem SameTables.sameCounts {r r' : Relay ω} (h : SameTables r r') : SameCounts r r' :=
  ⟨h.config, congrArg Trackers.receipts h.trackers⟩

theorem relay_sameCounts (jid : Jid) (message : Message) (options : RelayOptions) :
    (relay host jid message options).Keeps SameCounts := by
  refine .intro (fun r r' id h => ?_) fun r r' e h => (sameTables_of_relay_error h).sameCounts
  obtain ⟨config, now, noted⟩ := noted_of_relay h
  exact ⟨config, by rw [noted]; rfl⟩

theorem resend_sameCounts (receipt : RetryReceipt) (message : Message) :
    (resend host receipt message).Keeps SameCounts := by
  have ensured : (inWorld (Sessions.ensure host [receipt.requester] true)).Keeps SameCounts :=
    fun r => (inWorld_sameTables _ r).sameCounts
  exact ensured.bind fun _ => (relay_sameCounts _ _ _).bind fun _ => .pure true

/-- Whether a receipt is answered or not, it is counted once. -/
theorem handleRetryReceipt_counts (host : Host ω) (receipt : RetryReceipt) (r : Relay ω) :
    SameCounts (counted host receipt r) ((handleRetryReceipt host receipt).after r) := by
  have ways := handleRetryReceipt_apply host receipt r
  split at ways
  next => exact Act.after_of_ok ways ▸ refl_of SameCounts _
  next =>
    split at ways
    next => exact Act.after_of_ok ways ▸ refl_of SameCounts _
    next message _ =>
      rw [Act.after_congr ways]
      exact resend_sameCounts receipt message _

theorem CountEvent.Changes.config {e : CountEvent ω} {r r' : Relay ω}
    (h : e.Changes host r r') : r'.config = r.config := by
  cases h with
  | arrived receipt => exact (handleRetryReceipt_counts host receipt r).config
  | swept now config => exact config

namespace CountHistory

variable {events earlier : List (CountEvent ω)} {r : Relay ω} {a : Arrival ω} {now : Nat}

/-- What came before a receipt is the history of the relay that it came to. -/
theorem at_arrival (history : CountHistory host events r) (came : .arrived a :: earlier <:+ events) :
    CountHistory host earlier a.before ∧ a.before.config = r.config := by
  induction history with
  | created => simp at came
  | changed before change ih =>
    rcases List.suffix_cons_iff.mp came with same | came
    · obtain ⟨rfl, rfl⟩ := List.cons.inj same
      have config := change.config
      cases change
      exact ⟨before, config.symm⟩
    · obtain ⟨history, config⟩ := ih came
      exact ⟨history, config.trans change.config.symm⟩
  | aside _ config _ ih =>
    obtain ⟨history, config'⟩ := ih came
    exact ⟨history, config'.trans config.symm⟩

/-- The table has the counts that the receipts gave it, whatever was swept. -/
theorem tracks (history : CountHistory host events r)
    (ordered : (now :: events.map (CountEvent.time host)).Pairwise (· ≥ ·)) :
    r.trackers.receipts.ttl = r.config.retryReceiptTtlMs.toNat ∧
      Tracks r.trackers.receipts
        (deeds r.trackers.receipts.ttl (events.filterMap (CountEvent.bump? host))) now := by
  refine History.holds (fun events c t now => t.ttl = c.retryReceiptTtlMs.toNat ∧
    Tracks t (deeds t.ttl (events.filterMap (CountEvent.bump? host))) now)
    (fun _ => ⟨rfl, Tracks.new _⟩) (fun later => And.imp_right (Tracks.wait · later)) ?_ history
    ordered
  rintro events _ r r' ⟨ttl, tracks⟩ change
  cases change with
  | arrived receipt =>
    have same := handleRetryReceipt_counts host receipt r
    obtain ⟨_, bumped, kept⟩ := bump_of_tracks (b := Arrival.bump host ⟨receipt, r⟩) tracks
    rw [same.receipts, same.config]
    exact ⟨kept.trans ttl, kept ▸ bumped⟩
  | swept time config receipts =>
    rw [receipts, config]
    exact ⟨ttl, tracks.swept⟩

/-- A receipt is counted after those that came before it. -/
theorem countOf_eq (history : CountHistory host events r)
    (ordered : (events.map (CountEvent.time host)).Pairwise (· ≥ ·))
    (came : .arrived a :: earlier <:+ events) :
    a.before.trackers.receipts.ttl = r.config.retryReceiptTtlMs.toNat ∧
      countOf host a.receipt a.before = countAfter r.config.retryReceiptTtlMs.toNat
        (earlier.filterMap (CountEvent.bump? host)) (a.bump host) := by
  obtain ⟨before, config⟩ := history.at_arrival came
  obtain ⟨ttl, tracks⟩ := before.tracks (ordered.sublist (came.sublist.map _))
  obtain ⟨count, _⟩ := bump_of_tracks (b := a.bump host) tracks
  rw [config] at ttl
  exact ⟨ttl, ttl ▸ count⟩

end CountHistory

/-- At any time of a relay's life, the next receipt gets the number that it has in its streak. -/
theorem Course.numbers_receipts {r : Relay ω} (course : Course host r) :
    ∃ events, CountHistory host events r ∧ ∀ receipt,
      ((Arrival.bump host ⟨receipt, r⟩).time :: events.map (CountEvent.time host)).Pairwise
          (· ≥ ·) →
        countOf host receipt r = countAfter r.config.retryReceiptTtlMs.toNat
          (events.filterMap (CountEvent.bump? host)) (Arrival.bump host ⟨receipt, r⟩) := by
  obtain ⟨events, history⟩ := course.history (continues_counts host)
  refine ⟨events, history, fun receipt ordered => ?_⟩
  have counting : CountHistory host (.arrived ⟨receipt, r⟩ :: events) _ :=
    history.changed (.arrived receipt r)
  obtain ⟨_, counted⟩ := counting.countOf_eq ordered (List.suffix_refl _)
  rwa [(handleRetryReceipt_counts host receipt r).config] at counted

end Relay

end Fanout
