import Fanout.Cipher.Loopback
import Fanout.Host
import Fanout.Rehearsal.Script

namespace Fanout

/-- What the cipher is told to fail at. -/
inductive CipherFault where
  | initiate
  | encrypt
  | decrypt
  | distribution
  | groupEncrypt
  /-- Not a failure: ciphertexts between devices pass for ones of a group. -/
  | wrongKind
deriving DecidableEq

namespace CipherFault

def all : List CipherFault := [.initiate, .encrypt, .decrypt, .distribution, .groupEncrypt, .wrongKind]

def word : CipherFault → String
  | .initiate => "initiate"
  | .encrypt => "encrypt"
  | .decrypt => "decrypt"
  | .distribution => "distribution"
  | .groupEncrypt => "group_encrypt"
  | .wrongKind => "skmsg"

def ofWord? (s : String) : Option CipherFault := all.find? (fun fault => fault.word = s)

end CipherFault

/-- What happens after a stanza was sent. -/
structure SendHook where
  /-- The only stanza it happens after. -/
  stanza : Option String
  acknowledge : Option String
  /-- The start of keys that cannot be written any more. -/
  breakWrites : Option String
deriving DecidableEq

structure Stage where
  script : Script := {}
  brokenWrites : Option String := none
  brokenReads : Option String := none
  fault : Option CipherFault := none
  hook : Option SendHook := none
  time : Nat
  seed : Nat

namespace Stage

def isBroken (broken : Option String) (key : String) : Bool :=
  broken.any fun start => start.toList.isPrefixOf key.toList

def refusal (s : Stage) : StorageCall → Option Error
  | .put key | .del key =>
    if isBroken s.brokenWrites key then some (.storage ("disk full: " ++ key)) else none
  | .get key | .list key =>
    if isBroken s.brokenReads key then some (.storage ("unreadable: " ++ key)) else none

def query (n : Node) : Act Stage Node := fun s =>
  let (answer, script) := s.script.query n
  Act.ofExcept answer { s with script }

def breakWrites (start : Option String) (s : Stage) : Stage :=
  match start with
  | some start => { s with brokenWrites := some start }
  | none => s

def afterSend (n : Node) (s : Stage) : Delivery Stage :=
  match s.hook with
  | none => .settled (.ok ()) s
  | some hook =>
    if hook.stanza.any (fun id => n.attr? "id" ≠ some id) then .settled (.ok ()) s
    else match hook.acknowledge with
      | some id => .acknowledged id s fun _ s => .settled (.ok ()) (s.breakWrites hook.breakWrites)
      | none => .settled (.ok ()) (s.breakWrites hook.breakWrites)

def send (n : Node) (s : Stage) : Delivery Stage :=
  match s.script.send n with
  | (.error e, script) => .settled (.error e) { s with script }
  | (.ok (), script) => afterSend n { s with script }

def nextNoise (s : Stage) : Nat × Stage :=
  let seed := (s.seed * 6364136223846793005 + 1442695040888963407) % UInt64.size
  (seed / UInt32.size, { s with seed })

/-- An action of the cipher, unless it is told to fail at it. -/
def faultable {α : Type} (fault : CipherFault) (x : Act Stage α) : Act Stage α := fun s =>
  if s.fault = some fault then .error (.crypto (fault.word ++ " refused")) s else x s

def disguise (e : Envelope × SessionRecord) : Act Stage (Envelope × SessionRecord) := fun s =>
  .ok (if s.fault = some .wrongKind then ({ e.1 with kind := .skmsg }, e.2) else e) s

def cipher : Cipher Stage :=
  let inner := Loopback.cipher nextNoise
  { inner with
    initiate := fun address bundle => faultable .initiate (inner.initiate address bundle)
    encrypt := fun address session plaintext =>
      faultable .encrypt (inner.encrypt address session plaintext >>= disguise)
    decrypt := fun address session envelope =>
      faultable .decrypt (inner.decrypt address session envelope)
    distribution := fun name record =>
      faultable .distribution (inner.distribution name record)
    groupEncrypt := fun name record plaintext =>
      faultable .groupEncrypt (inner.groupEncrypt name record plaintext) }

def host : Host Stage where
  refuses call s := (s.refusal call, s)
  query := query
  send := send
  clock s := (s.time, s)
  noise := nextNoise
  cipher := cipher

/-- The same with a store that never fails. -/
def steady : Host Stage := { host with refuses := fun _ s => (none, s) }

end Stage

end Fanout
