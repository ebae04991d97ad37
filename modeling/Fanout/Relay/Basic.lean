import Fanout.Message.Id
import Fanout.Relay.Preparation
import Fanout.Retry.Queue
import Fanout.Tracker.Trackers

namespace Fanout

/-- A relay turns a message into one stanza for all devices of its destination, hands it to the
connection, and keeps unconfirmed messages in a retry queue. -/
structure Relay (ω : Type) where
  config : Config
  credentials : Credentials
  directories : Directories ω
  retry : RetryQueue
  trackers : Trackers
  /-- Whether the retry queue is gone through from time to time. -/
  running : Bool

namespace Relay

variable {ω α : Type}

def world (r : Relay ω) : World ω := r.directories.world

def withWorld (w : World ω) (r : Relay ω) : Relay ω :=
  { r with directories := { r.directories with world := w } }

def withHost (s : ω) (r : Relay ω) : Relay ω := r.withWorld { r.world with host := s }

def inWorld (x : Act (World ω) α) : Act (Relay ω) α := Act.zoom world withWorld x

def inDirectories (x : Act (Directories ω) α) : Act (Relay ω) α :=
  Act.zoom Relay.directories (fun d r => { r with directories := d }) x

def inRetry (x : Act (Held RetryQueue ω) α) : Act (Relay ω) α :=
  Act.zoom (fun r => ⟨r.retry, r.world⟩) (fun h r => { r.withWorld h.world with retry := h.own }) x

def inCredentials (x : Act (Held Credentials ω) α) : Act (Relay ω) α :=
  Act.zoom (fun r => ⟨r.credentials, r.world⟩)
    (fun h r => { r.withWorld h.world with credentials := h.own }) x

variable (host : Host ω)

def retryHome : String := "v1/retry-queue/"

def openQueue (c : Config) : Act (World ω) RetryQueue :=
  if c.persistRetryQueue then RetryQueue.restore host c.retry retryHome else pure (.new c.retry)

/-- A relay that remembers nothing but its retry queue. -/
def create (c : Config) (credentials : Credentials) : Act (World ω) (Relay ω) := do
  Act.ofExcept c.validate
  let retry ← openQueue host c
  return {
    config := c
    credentials
    directories := { devices := ∅, groups := ∅, memory := ∅, world := ← get }
    retry
    trackers := .new c
    running := false }

/-- A new message id for a sender. -/
def newId (credentials : Credentials) : Act (Relay ω) String := do
  let now ← inWorld (World.now host)
  let noise ← inWorld (World.noiseBytes host 16)
  return MessageId.make (now / 1000) credentials.me.user noise

/-- The id that the options give, or else a new one. -/
def chooseId (credentials : Credentials) (options : RelayOptions) : Act (Relay ω) String :=
  match options.messageId with
  | some id => pure id
  | none => newId host credentials

/-- The service has a message: it needs no retry. Answers whether one was due. -/
def acknowledge (id : String) : Act (Relay ω) Bool := do
  return (← inRetry (RetryQueue.remove host id)).isSome

/-- Takes acknowledgements as they come while a stanza is being sent. -/
def deliver : Delivery ω → Act (Relay ω) Unit
  | .settled outcome s => do
    modify (withHost s)
    Act.ofExcept outcome
  | .acknowledged id s next => do
    modify (withHost s)
    let answer ← Act.attempt (acknowledge host id)
    fun r => deliver (next answer r.world.host) r

def transmit (n : Node) : Act (Relay ω) Unit := fun r => deliver host (host.send n r.world.host) r

/-- Encrypts a message for every device of its destination and hands the stanza over. What fails
after that is passed over. Answers the message's id. -/
def relay (jid : Jid) (message : Message) (options : RelayOptions) : Act (Relay ω) String := do
  let credentials := (← get).credentials
  let id ← chooseId host credentials options
  let outgoing : Outgoing := ⟨jid.withoutDevice, message, id, options⟩
  let prepared ← inDirectories (outgoing.prepare host credentials)
  transmit host prepared.node
  let _ ← Act.attempt (inDirectories (Directories.inMemory
    (SenderKeyMemory.mark host outgoing.destination prepared.informed)))
  let now ← inWorld (World.now host)
  modify fun r => { r with trackers := r.trackers.note outgoing.destination id message now }
  return id

/-- Books a failed attempt: kept for another one if that can help, dropped otherwise. -/
def settleFailure (id : String) (e : Error) : Act (Relay ω) Unit := do
  if e.isRetryable then
    let now ← inWorld (World.now host)
    let _ ← Act.attempt (inRetry (RetryQueue.recordFailure host id e.message now))
  else
    let _ ← Act.attempt (inRetry (RetryQueue.remove host id))

/-- Drops the record of a message that went out; that this fails is passed over. -/
def settleDelivered (id : String) : Act (Relay ω) Unit := do
  let _ ← Act.attempt (inRetry (RetryQueue.remove host id))

/-- Relays a message that stays in the retry queue until it went out or cannot go out. -/
def sendMessage (jid : Jid) (message : Message) (options : RelayOptions) : Act (Relay ω) String := do
  let id ← chooseId host (← get).credentials options
  let options := { options with messageId := some id }
  let now ← inWorld (World.now host)
  inRetry (RetryQueue.enqueueInFlight host (.new id jid message options now))
  match ← Act.attempt (relay host jid message options) with
  | .ok id =>
    settleDelivered host id
    return id
  | .error e =>
    settleFailure host id e
    throw e

/-- Makes the next relay to a group use a new sender key, told to every device. -/
def resetSenderKeys (group : Jid) : Act (Relay ω) Unit := do
  let credentials := (← get).credentials
  inDirectories (Directories.inMemory (SenderKeyMemory.reset host group))
  inWorld (SessionStore.deleteSenderKey host (.of group credentials.me))
  match credentials.meLid with
  | some lid => inWorld (SessionStore.deleteSenderKey host (.of group lid))
  | none => return

def invalidateDevices (user : Jid) (r : Relay ω) : Relay ω :=
  { r with directories := { r.directories with
    devices := DeviceDirectory.invalidate r.directories.devices user } }

def invalidateAllDevices (r : Relay ω) : Relay ω :=
  { r with directories := { r.directories with devices := ∅ } }

def invalidateGroup (group : Jid) (r : Relay ω) : Relay ω :=
  { r with directories := { r.directories with
    groups := GroupDirectory.invalidate r.directories.groups group } }

def updatePresence (jid : Jid) (presence : Presence) : Act (Relay ω) Unit := do
  let now ← inWorld (World.now host)
  modify fun r => { r with trackers := { r.trackers with
    presence := r.trackers.presence.observe jid presence now } }

def presence (jid : Jid) : Act (Relay ω) (Option PresenceUpdate) := do
  let now ← inWorld (World.now host)
  return (← get).trackers.presence.presence? jid now

/-- The edits, deletions and reactions that were sent about a message. -/
def mutations (id : String) : Act (Relay ω) (List Mutation) := do
  let now ← inWorld (World.now host)
  return (← get).trackers.mutations.history id now

def recent (chat : Jid) (id : String) : Act (Relay ω) (Option Message) := do
  let now ← inWorld (World.now host)
  return (← get).trackers.recent.message? chat id now

def start (r : Relay ω) : Relay ω := { r with running := true }

def stop (r : Relay ω) : Relay ω := { r with running := false }

end Relay

end Fanout
