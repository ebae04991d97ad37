import Fanout.Config
import Fanout.Tracker.Mutations
import Fanout.Tracker.Presence
import Fanout.Tracker.Receipts

namespace Fanout

structure Trackers where
  presence : PresenceTracker
  mutations : MutationTracker
  recent : RecentMessages
  receipts : ReceiptCounter

namespace Trackers

def new (c : Config) : Trackers :=
  { presence := .new c.presenceTtlMs.toNat
    mutations := .new c.mutationTtlMs.toNat
    recent := .new c.recentMessageTtlMs.toNat
    receipts := .new c.retryReceiptTtlMs.toNat }

def withPresence (presence : PresenceTracker) (t : Trackers) : Trackers := { t with presence }

def withMutations (mutations : MutationTracker) (t : Trackers) : Trackers := { t with mutations }

def withRecent (recent : RecentMessages) (t : Trackers) : Trackers := { t with recent }

def withReceipts (receipts : ReceiptCounter) (t : Trackers) : Trackers := { t with receipts }

/-- Drops what has expired from one more table and counts it, unless the sweeps have broken off. They
do at the first table whose next sweep would be due at a time beyond the word of a clock. -/
def sweepPart {κ β : Type} [Ord κ] (part : Trackers → TrackerTable κ β)
    (replace : TrackerTable κ β → Trackers → Trackers) (now : Nat) :
    Option Nat × Trackers → Option Nat × Trackers
  | (none, t) => (none, t)
  | (some dropped, t) =>
    if (part t).expiryFits now then
      let (more, swept) := (part t).sweep now
      (some (dropped + more), replace swept t)
    else (none, t)

/-- Drops what has expired from every table and counts it; no count if the sweeps break off. -/
def sweep (t : Trackers) (now : Nat) : Option Nat × Trackers :=
  sweepPart receipts withReceipts now <| sweepPart recent withRecent now <|
    sweepPart mutations withMutations now <| sweepPart presence withPresence now (some 0, t)

/-- Takes note of a message that was handed to the connection. -/
def note (t : Trackers) (chat : Jid) (id : String) (message : Message) (now : Nat) : Trackers :=
  { t with
    recent := t.recent.remember chat id message now
    mutations := (t.mutations.observe id message now).2 }

end Trackers

end Fanout
