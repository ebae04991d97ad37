import Fanout.Message.Document
import Fanout.Relay.Options

namespace Fanout

inductive RetryState where
  | active
  /-- Given up. -/
  | inactive
deriving DecidableEq, Inhabited

namespace RetryState

def word : RetryState → String
  | .active => "active"
  | .inactive => "inactive"

def ofWord? (s : String) : Option RetryState := [active, inactive].find? (fun r => r.word = s)

end RetryState

structure RetryRecord where
  messageId : String
  jid : Jid
  message : Message
  options : RelayOptions
  attemptCount : Nat := 0
  nextAttemptAt : Nat
  delayMs : Nat := 0
  /-- What went wrong at each attempt. -/
  errors : List String := []
  state : RetryState := .active
  inactiveSince : Option Nat := none
  createdAt : Nat
  /-- Whether somebody is delivering the message; not part of the document. -/
  inFlight : Bool := false
deriving Inhabited

namespace RetryRecord

def new (messageId : String) (jid : Jid) (message : Message) (options : RelayOptions) (now : Nat) :
    RetryRecord :=
  { messageId, jid, message, options, nextAttemptAt := now, createdAt := now }

def isDue (r : RetryRecord) (now : Nat) : Bool :=
  r.state = .active ∧ r.inFlight = false ∧ r.nextAttemptAt ≤ now

/-- Whether the numbers of a record fit the words that hold them, in memory and in its document. -/
structure Fits (r : RetryRecord) : Prop where
  attemptCount : r.attemptCount < UInt32.size
  nextAttemptAt : r.nextAttemptAt < UInt64.size
  delayMs : r.delayMs < UInt64.size
  inactiveSince : ∀ since, r.inactiveSince = some since → since < UInt64.size
  createdAt : r.createdAt < UInt64.size

open Json

def toJson (r : RetryRecord) : Json :=
  .ofMembers ([("messageId", .ofString r.messageId), ("jid", r.jid.toJson),
    ("message", r.message.toJson), ("options", r.options.toJson),
    ("attemptCount", .ofNat r.attemptCount), ("nextAttemptAt", .ofNat r.nextAttemptAt),
    ("delayMs", .ofNat r.delayMs), ("errors", .array (r.errors.map ofString)),
    ("state", .ofString r.state.word)] ++
    member? "inactiveSince" (r.inactiveSince.map ofNat) ++ [("createdAt", .ofNat r.createdAt)])

/-- The message stands within the record, one container deeper. -/
def ofJson? (v : Json) : Option RetryRecord := do
  match ← v.fields ["messageId", "jid", "message", "options", "attemptCount", "nextAttemptAt",
    "delayMs", "errors", "state", "inactiveSince", "createdAt"] with
  | [messageId, jid, message, options, attemptCount, nextAttemptAt, delayMs, errors, state,
    inactiveSince, createdAt] =>
    return {
      messageId := ← required asString? messageId
      jid := ← required Jid.ofJson? jid
      message := ← required (Message.ofJsonWithin? 1) message
      options := ← required RelayOptions.ofJson? options
      attemptCount := ← required (asNat? UInt32.size) attemptCount
      nextAttemptAt := ← required (asNat? UInt64.size) nextAttemptAt
      delayMs := ← required (asNat? UInt64.size) delayMs
      errors := ← required (asList? asString?) errors
      state := ← required (asWord? RetryState.ofWord?) state
      inactiveSince := ← optional (asNat? UInt64.size) inactiveSince
      createdAt := ← required (asNat? UInt64.size) createdAt }
  | _ => none

end RetryRecord

end Fanout
