import Fanout.Message.Padding
import Fanout.Relay.Directories
import Fanout.Relay.Outgoing

namespace Fanout

structure Prepared where
  node : Node
  /-- The devices that the stanza tells the sender key of its destination. -/
  informed : List Jid

namespace Preparation

variable {ω : Type} (host : Host ω)

/-- The plaintext of a message, padded at random. -/
def plaintext (m : Message) : Act (Directories ω) (List UInt8) := do
  let extra ← Directories.inWorld (World.below host 16)
  return m.encode (extra + 1)

def encryptFor (bytes : List UInt8) (jid : Jid) : Act (Directories ω) DeviceCiphertext := do
  let envelope ← Directories.inWorld (Repository.encrypt host jid bytes)
  return ⟨jid, envelope⟩

def ensureSessions (jids : List Jid) : Act (Directories ω) Unit := do
  let _ ← Directories.inWorld (Sessions.ensure host jids false)

def resolve (credentials : Credentials) (o : Outgoing) (jids : List Jid) (ignoreZero : Bool) :
    Act (Directories ω) (List Jid) := do
  let entries ← Directories.inDevices (DeviceDirectory.resolve host credentials jids
    o.options.useUserDevicesCache ignoreZero)
  Act.ofExcept (entries.mapM DeviceEntry.toJid)

/-- The members of a group and how they are addressed; a post goes to its list and to ourselves. -/
def members (credentials : Credentials) (o : Outgoing) :
    Act (Directories ω) (List Jid × Option AddressingMode) := do
  if o.kind = .group then
    let metadata ← Directories.inGroups (GroupDirectory.metadata host o.destination
      o.options.useCachedGroupMetadata)
    return (metadata.participantJids, some metadata.addressingMode)
  else return (o.options.statusJidList ++ [credentials.me.withoutDevice], none)

/-- Our address among members who are addressed so. -/
def senderAmong (credentials : Credentials) (mode : Option AddressingMode) : Jid :=
  match mode, credentials.meLid with
  | some .lid, some lid => lid
  | _, _ => credentials.me

def groupTargets (credentials : Credentials) (o : Outgoing) (members : List Jid) :
    Act (Directories ω) (List Jid) :=
  match o.participant with
  | some participant => pure [participant]
  | none => resolve host credentials o members false

/-- Who is to be told the sender key: the only device, or all that do not hold it yet. -/
def uninformed (o : Outgoing) (targets : List Jid) : Act (Directories ω) (List Jid) :=
  match o.participant with
  | some _ => pure targets
  | none => Directories.inMemory (SenderKeyMemory.missing host o.destination targets)

/-- The sender key, encrypted for each device. -/
def distribute (group : Jid) (distribution : List UInt8) (jids : List Jid) :
    Act (Directories ω) (List DeviceCiphertext) := do
  if jids = [] then return []
  ensureSessions host jids
  let bytes ← plaintext host (.senderKeyDistribution group (Base64.encode distribution))
  jids.mapM (encryptFor host bytes)

def withMode (mode : Option AddressingMode) (d : Stanza.Draft) : Stanza.Draft :=
  match mode with
  | some mode => d.withAttr "addressing_mode" mode.text
  | none => d

/-- One ciphertext for a whole group, and the sender key for those who need it. -/
structure GroupFanout where
  mode : Option AddressingMode
  /-- Our address in the group, whose sender key encrypts. -/
  sender : Jid
  targets : List Jid
  encrypted : Repository.GroupCiphertext
  /-- The devices that are told the sender key. -/
  informed : List Jid
  /-- The sender key for each of them. -/
  ciphertexts : List DeviceCiphertext

def gather (credentials : Credentials) (o : Outgoing) : Act (Directories ω) GroupFanout := do
  let (members, mode) ← members host credentials o
  let targets ← groupTargets host credentials o members
  let bytes ← plaintext host o.message
  let sender := senderAmong credentials mode
  let encrypted ← Directories.inWorld (Repository.encryptGroup host o.destination sender bytes)
  let informed ← uninformed host o targets
  let ciphertexts ← distribute host o.destination encrypted.distribution informed
  return { mode, sender, targets, encrypted, informed, ciphertexts }

def GroupFanout.node (f : GroupFanout) (credentials : Credentials) (o : Outgoing) : Node :=
  let mediaType := o.message.mediaType
  let draft := (((o.header credentials).withPart (.participants f.ciphertexts mediaType
    o.count)).withPart (.group f.encrypted.ciphertext mediaType)).withAttr "phash"
      (Stanza.participantHash f.targets)
  (withMode f.mode draft).build credentials.signedDeviceIdentity

def group (credentials : Credentials) (o : Outgoing) : Act (Directories ω) Prepared := do
  let f ← gather host credentials o
  return ⟨f.node credentials o, f.informed⟩

/-- Channels get the message itself. -/
def newsletter (credentials : Credentials) (o : Outgoing) : Prepared :=
  ⟨((o.header credentials).withPart (.plaintext o.message.bytes o.message.mediaType)).build [], []⟩

/-- The first occurrence of each address. -/
def distinct : List Jid → List Jid
  | [] => []
  | jid :: rest => jid :: (distinct rest).filter (fun other => other ≠ jid)

/-- The devices of the destination and of our own account, except this one. -/
def pairwiseTargets (credentials : Credentials) (o : Outgoing) : Act (Directories ω) (List Jid) := do
  match o.participant with
  | some participant => return [participant]
  | none =>
    let me := (credentials.identityFor o.destination).withoutDevice
    let primaries := if o.destination.isSameUser me then [o.destination] else [o.destination, me]
    let linked ← resolve host credentials o [me, o.destination] true
    return distinct ((primaries ++ linked).filter fun jid => !credentials.isOwnDevice jid)

/-- The message encrypted for each device; nobody asks for no plaintext. -/
def encryptAll (m : Message) (jids : List Jid) : Act (Directories ω) (List DeviceCiphertext) := do
  if jids = [] then return []
  let bytes ← plaintext host m
  jids.mapM (encryptFor host bytes)

/-- The ciphertexts of a stanza for one device stand alone. -/
def pairwisePart (o : Outgoing) (ciphertexts : List DeviceCiphertext) : Stanza.Part :=
  match o.participant, ciphertexts with
  | some _, [single] => .direct single o.message.mediaType o.count
  | _, _ => .participants ciphertexts o.message.mediaType o.count

/-- A ciphertext for each device; our own devices get the message wrapped as sent by us. -/
def pairwise (credentials : Credentials) (o : Outgoing) : Act (Directories ω) Prepared := do
  let targets ← pairwiseTargets host credentials o
  ensureSessions host targets
  let (mine, others) := targets.partition credentials.isMe
  let own ← encryptAll host (.deviceSent o.destination o.message) mine
  let foreign ← encryptAll host o.message others
  let draft := (o.header credentials).withPart (pairwisePart o (own ++ foreign))
  return ⟨draft.build credentials.signedDeviceIdentity, []⟩

end Preparation

def Outgoing.prepare {ω : Type} (host : Host ω) (credentials : Credentials) (o : Outgoing) :
    Act (Directories ω) Prepared :=
  match o.kind with
  | .group | .status => Preparation.group host credentials o
  | .newsletter => pure (Preparation.newsletter credentials o)
  | .individual | .lid => Preparation.pairwise host credentials o

end Fanout
