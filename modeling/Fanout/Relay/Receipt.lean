import Fanout.Relay.Basic

namespace Fanout

structure RetryReceipt where
  messageId : String
  /-- The chat that the message was sent to. -/
  remoteJid : Jid
  /-- The device that asks, unless it is the chat itself. -/
  participant : Option Jid
  retryCount : UInt32
deriving DecidableEq, Inhabited

namespace RetryReceipt

def requester (receipt : RetryReceipt) : Jid := receipt.participant.getD receipt.remoteJid

/-- How the message is sent again: under its own id, to the asking device only. -/
def options (receipt : RetryReceipt) : RelayOptions :=
  { messageId := some receipt.messageId
    participant := some receipt.requester
    retryCount := if receipt.retryCount = 0 then 1 else receipt.retryCount }

end RetryReceipt

namespace Relay

variable {ω : Type} (host : Host ω)

def countReceipt (receipt : RetryReceipt) (now : Nat) : Act (Relay ω) Nat := fun r =>
  let (count, receipts) := r.trackers.receipts.bump receipt.messageId receipt.requester now
  .ok count { r with trackers := { r.trackers with receipts } }

/-- Sends a recent message once more to the device that asks, on a session opened anew. A device
that asks too often or for an unknown message gets nothing. -/
def handleRetryReceipt (receipt : RetryReceipt) : Act (Relay ω) Bool := do
  let now ← inWorld (World.now host)
  let count ← countReceipt receipt now
  let r ← get
  if r.config.maxRetryReceipts.toNat < count then return false
  match r.trackers.recent.message? receipt.remoteJid receipt.messageId now with
  | none => return false
  | some message =>
    let _ ← inWorld (Sessions.ensure host [receipt.requester] true)
    let _ ← relay host receipt.remoteJid message receipt.options
    return true

end Relay

end Fanout
