import Fanout.Relay.Basic

namespace Fanout

structure TickReport where
  delivered : Nat := 0
  failed : Nat := 0
  skipped : Nat := 0
  purged : Nat := 0
  swept : Nat := 0
deriving DecidableEq, Inhabited

def TickReport.toJson (r : TickReport) : Json :=
  .ofMembers [("delivered", .ofNat r.delivered), ("failed", .ofNat r.failed),
    ("skipped", .ofNat r.skipped), ("purged", .ofNat r.purged), ("swept", .ofNat r.swept)]

namespace Relay

variable {ω : Type} (host : Host ω)

def claim (id : String) (now : Nat) : Act (Relay ω) (Option RetryRecord) := fun r =>
  let (record, retry) := r.retry.claim id now
  .ok record { r with retry }

/-- Delivers one of the records that were due, unless it is gone or taken. -/
def retryOne (now : Nat) (report : TickReport) (id : String) : Act (Relay ω) TickReport := do
  match ← claim id now with
  | none => return { report with skipped := report.skipped + 1 }
  | some record =>
    match ← Act.attempt (relay host record.jid record.message record.options) with
    | .ok _ =>
      settleDelivered host id
      return { report with delivered := report.delivered + 1 }
    | .error e =>
      settleFailure host id e
      return { report with failed := report.failed + 1 }

/-- Drops what has expired; a queue that cannot be purged counts as purged of nothing. There is no
report if a time at which something expires or is swept outgrows the word of a clock: a purge then
drops nothing, and the sweeps break off. -/
def cleanUp (now : Nat) : Act (Relay ω) (Option TickReport) := do
  if (← get).retry.expiriesFit then
    let purged ← Act.guarded (inRetry (RetryQueue.purge host now))
    let (swept, trackers) := (← get).trackers.sweep now
    modify fun r => { r with trackers }
    return swept.map fun swept => { purged := purged.getD 0, swept }
  else return none

/-- Cleans up, and then tries every record that is due at the start once more. A pass that has no
report of its cleaning up ends there. -/
def tick : Act (Relay ω) (Option TickReport) := do
  let now ← inWorld (World.now host)
  match ← cleanUp host now with
  | none => return none
  | some report =>
    let due := (← get).retry.due now
    return some (← due.foldlM (retryOne host now) report)

end Relay

end Fanout
