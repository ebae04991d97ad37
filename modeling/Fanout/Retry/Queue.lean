import Fanout.Retry.Config
import Fanout.Retry.Record
import Fanout.Storage

namespace Fanout

/-- The messages whose delivery is not confirmed, with a document for each if the queue has a home in
the store. -/
structure RetryQueue where
  config : RetryConfig
  /-- What the keys of the documents begin with; a queue without a home has none. -/
  home : Option String
  records : Dict String RetryRecord
deriving Inhabited

namespace RetryQueue

variable {ω : Type} (host : Host ω)

def new (config : RetryConfig) : RetryQueue := ⟨config, none, ∅⟩

/-- The record of a document; one that is gone or cannot be read is passed over. -/
def readRecord (key : String) : Act (World ω) (Option RetryRecord) := do
  match ← Storage.get host key with
  | none => return none
  | some text => return (Json.parse? text).bind RetryRecord.ofJson?

/-- A queue at home in the store, filled with what it finds there. -/
def restore (config : RetryConfig) (home : String) : Act (World ω) RetryQueue := do
  let keys ← Storage.list host home
  let found ← keys.mapM (readRecord host)
  return ⟨config, some home, Dict.ofList (found.filterMap id |>.map fun r => (r.messageId, r))⟩

def get? (q : RetryQueue) (id : String) : Option RetryRecord := q.records.find? id

def contains (q : RetryQueue) (id : String) : Bool := q.records.contains id

def size (q : RetryQueue) : Nat := q.records.size

def put (q : RetryQueue) (r : RetryRecord) : RetryQueue :=
  { q with records := q.records.insert r.messageId r }

def drop (q : RetryQueue) (id : String) : RetryQueue := { q with records := q.records.erase id }

/-- Earlier deadlines first, then by id. -/
def dueOrder (a b : RetryRecord) : Bool :=
  a.nextAttemptAt < b.nextAttemptAt ∨ (a.nextAttemptAt = b.nextAttemptAt ∧ a.messageId ≤ b.messageId)

/-- The ids of the records to deliver at a time. -/
def due (q : RetryQueue) (now : Nat) : List String :=
  ((q.records.values.filter fun r => r.isDue now).mergeSort dueOrder).map (·.messageId)

/-- Takes a record that is due for delivery; nobody else can take it then. -/
def claim (q : RetryQueue) (id : String) (now : Nat) : Option RetryRecord × RetryQueue :=
  match q.get? id with
  | none => (none, q)
  | some r =>
    if r.isDue now then
      let r := { r with inFlight := true }
      (some r, q.put r)
    else (none, q)

/-- When a record expires that was given up at a time. -/
def expiry (q : RetryQueue) (since : Nat) : Nat := since + q.config.inactiveTtlMs.toNat

/-- Whether every record that was given up expires at a time that fits the word of a clock. If one
does not, a purge ends without an answer before it drops any. -/
def expiriesFit (q : RetryQueue) : Bool :=
  q.records.values.all fun r => r.inactiveSince.all fun since => q.expiry since < UInt64.size

def isExpired (q : RetryQueue) (now : Nat) (r : RetryRecord) : Bool :=
  r.inactiveSince.any fun since => q.expiry since ≤ now

def persist (r : RetryRecord) : Act (Held RetryQueue ω) Unit := do
  match (← Held.getOwn).home with
  | some home => Held.inWorld (Storage.save host (home ++ r.messageId) r.toJson)
  | none => return

def unpersist (id : String) : Act (Held RetryQueue ω) Unit := do
  match (← Held.getOwn).home with
  | some home => Held.inWorld (Storage.del host (home ++ id))
  | none => return

/-- Adds a record that its caller is about to deliver; the document is written first. -/
def enqueueInFlight (r : RetryRecord) : Act (Held RetryQueue ω) Unit := do
  let r := { r with inFlight := true }
  persist host r
  Held.setOwn ((← Held.getOwn).put r)

/-- Drops a record, if it is there, and then its document. -/
def remove (id : String) : Act (Held RetryQueue ω) (Option RetryRecord) := do
  match (← Held.getOwn).get? id with
  | none => return none
  | some r =>
    Held.setOwn ((← Held.getOwn).drop id)
    unpersist host id
    return some r

/-- The delay after an attempt, with a random addition; the sum is the delay of the record that
waits for it. -/
def backoff (config : RetryConfig) (attempt : Nat) : Act (World ω) Nat := do
  let base := config.baseBackoff attempt
  let bound := config.jitterBound base
  if bound = 0 then return base
  else return base + (← World.below host (bound + 1))

/-- A record after one more failed attempt: tried again after a delay, or given up. The count, the
delay and the time of the next attempt are sums, and booking ends without an answer unless what it
makes of the record fits (`RetryRecord.Fits`). -/
def failed (r : RetryRecord) (error : String) (now : Nat) : Act (Held RetryQueue ω) RetryRecord := do
  let config := (← Held.getOwn).config
  let r := { r with
    inFlight := false, attemptCount := r.attemptCount + 1, errors := r.errors ++ [error] }
  if config.maxAttempts.toNat ≤ r.attemptCount then
    return { r with state := .inactive, inactiveSince := some now }
  else
    let delay ← Held.inWorld (backoff host config r.attemptCount)
    return { r with delayMs := delay, nextAttemptAt := now + delay }

/-- Books a failed attempt in the table and then in the document. -/
def recordFailure (id error : String) (now : Nat) : Act (Held RetryQueue ω) (Option RetryState) := do
  match (← Held.getOwn).get? id with
  | none => return none
  | some r =>
    let r ← failed host r error now
    Held.setOwn ((← Held.getOwn).put r)
    persist host r
    return some r.state

/-- Drops the records that were given up long ago, and then their documents; counts them. The
documents go in the order of the ids, where any order would do: it shows only if a deletion fails,
and then only in which of these documents are left. -/
def purge (now : Nat) : Act (Held RetryQueue ω) Nat := do
  let q ← Held.getOwn
  let expired := (q.records.values.filter fun r => q.isExpired now r).map (·.messageId)
  Held.setOwn { q with records := q.records.filter fun _ r => !q.isExpired now r }
  expired.forM (unpersist host)
  return expired.length

end RetryQueue

end Fanout
