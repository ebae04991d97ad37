import Fanout.Proofs.Retry.Sums
import Fanout.Proofs.Tracker.Table
import Fanout.Tracker.Trackers

namespace Fanout

namespace TrackerTable

variable {κ β : Type} [Ord κ] {t : TrackerTable κ β}

def Call.Timely (call : Call κ β) : Prop := ∀ time, call.time? = some time → time < horizon

/-- The sums that a call makes. A sweep that comes with a write makes the same one as the write. -/
def Call.sums (t : TrackerTable κ β) : Call κ β → List Nat
  | insert _ _ now | update _ now _ | sweep now => [t.expiry now]
  | remove _ | get _ _ => []

theorem expiry_lt (short : t.ttl ≤ horizon) {now : Nat} (soon : now < horizon) :
    t.expiry now < UInt64.size := by
  rw [expiry, ← horizon_add_horizon]
  omega

theorem Call.lt_of_mem_sums (short : t.ttl ≤ horizon) {call : Call κ β} (timely : call.Timely)
    {sum : Nat} (mem : sum ∈ call.sums t) : sum < UInt64.size := by
  cases call with
  | insert k v now => exact List.mem_singleton.mp mem ▸ expiry_lt short (timely now rfl)
  | update k now change => exact List.mem_singleton.mp mem ▸ expiry_lt short (timely now rfl)
  | sweep now => exact List.mem_singleton.mp mem ▸ expiry_lt short (timely now rfl)
  | remove k => cases mem
  | get k now => cases mem

variable [Std.TransOrd κ]

/-- All the sums that are made in the course of calls. -/
def sums (t : TrackerTable κ β) : List (Call κ β) → List Nat
  | [] => []
  | call :: calls => call.sums t ++ sums (call.after t) calls

/-- Every sum that is made while every time lies below the horizon fits a word. -/
def SumsFit (t : TrackerTable κ β) : Prop :=
  ∀ calls : List (Call κ β), (∀ call ∈ calls, call.Timely) →
    ∀ sum ∈ t.sums calls, sum < UInt64.size

theorem lt_of_mem_sums (short : t.ttl ≤ horizon) {calls : List (Call κ β)}
    (timely : ∀ call ∈ calls, call.Timely) {sum : Nat} (mem : sum ∈ t.sums calls) :
    sum < UInt64.size := by
  induction calls generalizing t with
  | nil => cases mem
  | cons call calls ih =>
    obtain ⟨first, rest⟩ := List.forall_mem_cons.mp timely
    rcases List.mem_append.mp mem with now | later
    · exact Call.lt_of_mem_sums short first now
    · exact ih ((ttl_after call t).trans_le short) rest later

theorem sumsFit_iff (t : TrackerTable κ β) : t.SumsFit ↔ t.ttl ≤ horizon := by
  constructor
  · intro fit
    -- a sweep at the last time before the horizon
    have timely : ∀ call ∈ [Call.sweep (κ := κ) (β := β) (horizon - 1)], call.Timely := by
      intro call only
      cases List.mem_singleton.mp only
      exact fun time same => Option.some.inj same ▸ last_lt_horizon
    have small := fit [.sweep (horizon - 1)] timely (horizon - 1 + t.ttl) List.mem_cons_self
    rw [← horizon_add_horizon] at small
    omega
  · intro short calls timely sum mem
    exact lt_of_mem_sums short timely mem

end TrackerTable

namespace Config

/-- Every sum of a time and a duration fits a word, in the retry queue and in every side table. -/
structure SumsFit (c : Config) : Prop where
  retry : RetryQueue.SumsFit c.retry
  presence : (Trackers.new c).presence.SumsFit
  mutations : (Trackers.new c).mutations.SumsFit
  recent : (Trackers.new c).recent.SumsFit
  receipts : (Trackers.new c).receipts.SumsFit

/-- Settings that leave room for every time below the horizon. -/
structure Moderate (c : Config) : Prop where
  retry : c.retry.Moderate
  presence : c.presenceTtlMs.toNat ≤ horizon
  mutations : c.mutationTtlMs.toNat ≤ horizon
  recent : c.recentMessageTtlMs.toNat ≤ horizon
  receipts : c.retryReceiptTtlMs.toNat ≤ horizon

theorem sumsFit_iff_moderate (c : Config) : c.SumsFit ↔ c.Moderate := by
  constructor
  · intro fit
    exact {
      retry := (RetryQueue.sumsFit_iff _).mp fit.retry
      presence := (TrackerTable.sumsFit_iff _).mp fit.presence
      mutations := (TrackerTable.sumsFit_iff _).mp fit.mutations
      recent := (TrackerTable.sumsFit_iff _).mp fit.recent
      receipts := (TrackerTable.sumsFit_iff _).mp fit.receipts }
  · intro moderate
    exact {
      retry := (RetryQueue.sumsFit_iff _).mpr moderate.retry
      presence := (TrackerTable.sumsFit_iff _).mpr moderate.presence
      mutations := (TrackerTable.sumsFit_iff _).mpr moderate.mutations
      recent := (TrackerTable.sumsFit_iff _).mpr moderate.recent
      receipts := (TrackerTable.sumsFit_iff _).mpr moderate.receipts }

theorem moderate_default : ({} : Config).Moderate where
  retry := ⟨by decide, by decide⟩
  presence := by decide
  mutations := by decide
  recent := by decide
  receipts := by decide

/-- Settings under which it is remembered for as long as can be said who is available. -/
def longPresence : Config :=
  { presenceTtlMs := 18446744073709551615
    retry := { baseDelayMs := 1, maxDelayMs := 1, jitterRatio := 0, tickIntervalMs := 100 } }

def firstSweep : TrackerTable.Call Jid PresenceUpdate := .sweep 1795000000000

/-- They are accepted, and yet the next sweep after the first one is due at no time that a word
can hold. -/
theorem longPresence_outgrows_word : longPresence.validate = .ok () ∧
    (∀ call ∈ [firstSweep], call.Timely) ∧
      ∃ sum ∈ (Trackers.new longPresence).presence.sums [firstSweep], UInt64.size ≤ sum := by
  refine ⟨by decide, ?_, _, List.mem_cons_self, by decide⟩
  intro call only
  cases List.mem_singleton.mp only
  exact fun time same => Option.some.inj same ▸ by decide

end Config

end Fanout
