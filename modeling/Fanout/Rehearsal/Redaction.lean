import Fanout.Cipher.Loopback
import Fanout.Error.Document
import Fanout.Json.Whole
import Fanout.Retry.Config
import Fanout.Retry.Record

namespace Fanout.Redaction

/-- Where texts begin whose rest is hidden, and what stands for the rest. -/
def hiddenAfter : List (String × String) :=
  [("Crypto error: corrupt record: ", "<json>"), ("Config error: failed to read ", "<path>"),
    ("Config error: failed to parse ", "<path>"), ("Config error: failed to write ", "<path>")]

/-- The text of an error without what only describes a document or names a file. -/
def message (s : String) : String :=
  match hiddenAfter.find? fun e => s.startsWith e.1 with
  | some (start, rest) => start ++ rest
  | none =>
    if s.startsWith "Serialization error: v1/" then
      match s.splitOn ": " with
      | a :: b :: _ :: _ => a ++ ": " ++ b ++ ": <json>"
      | _ => s
    else s

/-- Whether a number of milliseconds is a reading of the clock. -/
def isReading (n : Nat) : Bool := 1600000000000 ≤ n ∧ n < 10000000000000

def time : Json → Json
  | .number n => if n.toNat?.any isReading then .ofString "<time>" else .number n
  | v => v

/-- A member of a document of a retry record. -/
def timed (m : Option String × Json) : Option String × Json :=
  match m.1 with
  | some "nextAttemptAt" | some "createdAt" | some "inactiveSince" => (m.1, time m.2)
  | _ => m

/-- A document of a retry record, if it is an object. -/
def document : Json → Json
  | .object ms => .object (ms.map timed)
  | v => v

/-- A member of a record whose delay was drawn: only whether the delay is a possible one is shown. -/
def drawn (c : RetryConfig) (r : RetryRecord) (m : Option String × Json) : Option String × Json :=
  match m.1 with
  | some "delayMs" => (m.1, .ofMembers [("base", .ofNat (c.baseBackoff r.attemptCount)),
      ("inRange", .bool (c.allowsDelay r.attemptCount r.delayMs))])
  | some "nextAttemptAt" => (m.1, .ofString "<jitter>")
  | _ => m

def record (c : RetryConfig) (r : RetryRecord) : Json :=
  let isDrawn := c.jitterRatio != 0 && r.delayMs != 0
  let shown := (document { r with errors := r.errors.map message }.toJson).members
  let shown := if isDrawn then shown.map (drawn c r) else shown
  .object (shown ++ [(some "inFlight", .bool r.inFlight)])

/-- A stored document of a retry queue, if it is an object. -/
def stored? (text : String) : Option Json := do
  let v ← Json.readWhole? text
  let _ ← Json.asDict? some v
  return document v

/-- The sender key that a state shows. -/
def senderKey? (state : List UInt8) : Option Loopback.SenderKey := do
  let v ← Json.readWhole? (← Utf8.decode? state)
  let _ ← Json.asDict? some v
  Loopback.SenderKey.ofJson? v

/-- Whether a state shows a key that was given and not drawn. -/
def isGivenKey (given : List (List UInt8)) (state : List UInt8) : Bool :=
  (senderKey? state).any fun k => given.contains k.key

/-- A sender-key state; of a key that was drawn only the length. -/
def senderKey (given : List (List UInt8)) (state : List UInt8) : Json :=
  match senderKey? state with
  | none => .ofMembers [("hex", .ofBytes state)]
  | some k =>
    let shown := if isGivenKey given state then Base64.encode k.key
      else "<random " ++ k.key.length.repr ++ ">"
    .ofMembers [("key", .ofString shown), ("iteration", .ofNat k.iteration)]

end Fanout.Redaction
