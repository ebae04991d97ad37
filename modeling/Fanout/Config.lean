import Fanout.Retry.Config
import Fanout.Text.Utf8

namespace Fanout

structure Config where
  retry : RetryConfig := {}
  /-- How long a query may wait for its answer. -/
  queryTimeoutMs : UInt64 := 60000
  /-- Whether retry records are kept in the store and restored from it. -/
  persistRetryQueue : Bool := true
  /-- How many retry receipts a device is answered for one message. -/
  maxRetryReceipts : UInt32 := 5
  recentMessageTtlMs : UInt64 := 86400000
  retryReceiptTtlMs : UInt64 := 3600000
  presenceTtlMs : UInt64 := 300000
  mutationTtlMs : UInt64 := 86400000
deriving BEq, Inhabited

namespace Config

def validate (c : Config) : Except Error Unit := do
  c.retry.validate
  if c.queryTimeoutMs = 0 then throw (.config "query_timeout_ms must be positive")
  if c.maxRetryReceipts = 0 then throw (.config "max_retry_receipts must be at least 1")

def toJson (c : Config) : Json :=
  .ofMembers [("retry", c.retry.toJson), ("queryTimeoutMs", .ofNat c.queryTimeoutMs.toNat),
    ("persistRetryQueue", .bool c.persistRetryQueue),
    ("maxRetryReceipts", .ofNat c.maxRetryReceipts.toNat),
    ("recentMessageTtlMs", .ofNat c.recentMessageTtlMs.toNat),
    ("retryReceiptTtlMs", .ofNat c.retryReceiptTtlMs.toNat),
    ("presenceTtlMs", .ofNat c.presenceTtlMs.toNat), ("mutationTtlMs", .ofNat c.mutationTtlMs.toNat)]

def ofJson? (v : Json) : Option Config := do
  let default : Config := {}
  match ← v.fields ["retry", "queryTimeoutMs", "persistRetryQueue", "maxRetryReceipts",
    "recentMessageTtlMs", "retryReceiptTtlMs", "presenceTtlMs", "mutationTtlMs"] with
  | [retry, queryTimeoutMs, persistRetryQueue, maxRetryReceipts, recentMessageTtlMs,
    retryReceiptTtlMs, presenceTtlMs, mutationTtlMs] =>
    return {
      retry := ← Json.withDefault default.retry RetryConfig.ofJson? retry
      queryTimeoutMs := ← Json.withDefault default.queryTimeoutMs Json.asUInt64? queryTimeoutMs
      persistRetryQueue := ← Json.withDefault default.persistRetryQueue Json.asBool? persistRetryQueue
      maxRetryReceipts := ← Json.withDefault default.maxRetryReceipts Json.asUInt32? maxRetryReceipts
      recentMessageTtlMs :=
        ← Json.withDefault default.recentMessageTtlMs Json.asUInt64? recentMessageTtlMs
      retryReceiptTtlMs :=
        ← Json.withDefault default.retryReceiptTtlMs Json.asUInt64? retryReceiptTtlMs
      presenceTtlMs := ← Json.withDefault default.presenceTtlMs Json.asUInt64? presenceTtlMs
      mutationTtlMs := ← Json.withDefault default.mutationTtlMs Json.asUInt64? mutationTtlMs }
  | _ => none

/-- What stands at the place of a settings file. -/
inductive File where
  | missing
  | directory
  | file (bytes : List UInt8)

/-- Settings from a file; without a file, the default ones. -/
def load (path : String) : File → Except Error Config
  | .missing => .ok {}
  | .directory => .error (.config ("failed to read " ++ path))
  | .file bytes =>
    match Utf8.decode? bytes with
    | none => .error (.config ("failed to read " ++ path))
    | some text =>
      match (Json.parse? text).bind ofJson? with
      | none => .error (.config ("failed to parse " ++ path))
      | some c => c.validate.map fun _ => c

/-- Settings as a file; a directory cannot be written over. -/
def save (c : Config) (path : String) : File → Except Error File
  | .directory => .error (.config ("failed to write " ++ path))
  | _ => .ok (.file (Utf8.encode c.toJson.pretty))

end Config

end Fanout
