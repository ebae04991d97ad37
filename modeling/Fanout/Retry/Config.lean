import Fanout.Error
import Fanout.Json.Fields

namespace Fanout

structure RetryConfig where
  baseDelayMs : UInt64 := 5000
  maxDelayMs : UInt64 := 1800000
  maxAttempts : UInt32 := 5
  /-- The largest random addition to a delay, as a part of it. -/
  jitterRatio : Float := 0.1
  tickIntervalMs : UInt64 := 10000
  /-- How long a message that is given up stays in the queue. -/
  inactiveTtlMs : UInt64 := 86400000
deriving BEq, Inhabited

namespace Word

/-- One less, but never below zero. -/
def pred (n : UInt32) : UInt32 := if n = 0 then 0 else n - 1

/-- A one moved up by some places; none if it leaves the word. -/
def powerOfTwo? (places : UInt32) : Option UInt64 :=
  if places < 64 then some (1 <<< places.toUInt64) else none

/-- A product, or the largest word in place of a product that is no word. -/
def boundedMul (a b : UInt64) : UInt64 :=
  if BitVec.umulOverflow a.toBitVec b.toBitVec then .ofNat Numeral.largestWord else a * b

end Word

namespace RetryConfig

/-- The delay after an attempt: doubled with each one up to the 33rd, and cut at the largest. -/
def baseBackoff (c : RetryConfig) (attempt : Nat) : Nat :=
  min (min (c.baseDelayMs.toNat <<< min (attempt - 1) 32) Numeral.largestWord) c.maxDelayMs.toNat

/-- The same counted in words; none if a step on the way outgrows its word. -/
def backoffInWords (c : RetryConfig) (attempt : UInt32) : Option UInt64 :=
  (Word.powerOfTwo? (min (Word.pred attempt) 32)).map fun factor =>
    min (Word.boundedMul c.baseDelayMs factor) c.maxDelayMs

/-- The whole part of a share of a delay; a negative share is none. -/
def jitterBound (c : RetryConfig) (base : Nat) : Nat :=
  (Numeral.ofWord base * c.jitterRatio).toUInt64.toNat

/-- Whether a delay after an attempt is in the range of its random addition. -/
def allowsDelay (c : RetryConfig) (attempt delay : Nat) : Bool :=
  let base := c.baseBackoff attempt
  base ≤ delay ∧ delay ≤ base + c.jitterBound base

def validate (c : RetryConfig) : Except Error Unit :=
  if c.baseDelayMs = 0 ∨ c.maxDelayMs < c.baseDelayMs then
    .error (.config ("retry delays must satisfy 0 < base (" ++ c.baseDelayMs.toNat.repr ++
      ") <= max (" ++ c.maxDelayMs.toNat.repr ++ ")"))
  else if c.maxAttempts = 0 then .error (.config "max_attempts must be at least 1")
  else if ¬(0 ≤ c.jitterRatio ∧ c.jitterRatio ≤ 1) then
    .error (.config ("jitter_ratio " ++
      String.ofList (Layout.sentence.ofFloat c.jitterRatio).text ++ " outside 0..=1"))
  else if c.tickIntervalMs = 0 then .error (.config "tick_interval_ms must be positive")
  else .ok ()

def toJson (c : RetryConfig) : Json :=
  .ofMembers [("baseDelayMs", .ofNat c.baseDelayMs.toNat), ("maxDelayMs", .ofNat c.maxDelayMs.toNat),
    ("maxAttempts", .ofNat c.maxAttempts.toNat), ("jitterRatio", .ofFloat c.jitterRatio),
    ("tickIntervalMs", .ofNat c.tickIntervalMs.toNat),
    ("inactiveTtlMs", .ofNat c.inactiveTtlMs.toNat)]

def ofJson? (v : Json) : Option RetryConfig := do
  let default : RetryConfig := {}
  match ← v.fields ["baseDelayMs", "maxDelayMs", "maxAttempts", "jitterRatio", "tickIntervalMs",
    "inactiveTtlMs"] with
  | [baseDelayMs, maxDelayMs, maxAttempts, jitterRatio, tickIntervalMs, inactiveTtlMs] =>
    return {
      baseDelayMs := ← Json.withDefault default.baseDelayMs Json.asUInt64? baseDelayMs
      maxDelayMs := ← Json.withDefault default.maxDelayMs Json.asUInt64? maxDelayMs
      maxAttempts := ← Json.withDefault default.maxAttempts Json.asUInt32? maxAttempts
      jitterRatio := ← Json.withDefault default.jitterRatio Json.asFloat? jitterRatio
      tickIntervalMs := ← Json.withDefault default.tickIntervalMs Json.asUInt64? tickIntervalMs
      inactiveTtlMs := ← Json.withDefault default.inactiveTtlMs Json.asUInt64? inactiveTtlMs }
  | _ => none

end RetryConfig

end Fanout
