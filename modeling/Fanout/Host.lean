import Fanout.Cipher.Basic
import Fanout.Node

namespace Fanout

inductive StorageCall where
  | get (key : String)
  | put (key : String)
  | del (key : String)
  | list (start : String)
deriving DecidableEq

/-- How the sending of a stanza goes. While it lasts, messages may be acknowledged; the answer to
an acknowledgement decides what follows. -/
inductive Delivery (ω : Type) where
  | settled (outcome : Except Error Unit) (host : ω)
  | acknowledged (id : String) (host : ω) (next : Except Error Bool → ω → Delivery ω)

/-- What a relay runs on, other than its documents. All of it is given, and may answer and fail as it
likes. -/
structure Host (ω : Type) where
  /-- Whether a call to the store fails, and how. A call that fails changes no document. -/
  refuses : StorageCall → ω → Option Error × ω
  query : Node → Act ω Node
  send : Node → ω → Delivery ω
  /-- The time in milliseconds. -/
  clock : ω → Nat × ω
  noise : ω → Nat × ω
  cipher : Cipher ω

abbrev Documents := Dict String String

structure World (ω : Type) where
  documents : Documents
  host : ω

namespace World

variable {ω α : Type}

def inHost (x : Act ω α) : Act (World ω) α := Act.zoom World.host (fun s w => { w with host := s }) x

def query (host : Host ω) (n : Node) : Act (World ω) Node := inHost (host.query n)

def now (host : Host ω) : Act (World ω) Nat := inHost fun s => .ok (host.clock s).1 (host.clock s).2

/-- A natural below a bound. -/
def below (host : Host ω) (bound : Nat) : Act (World ω) Nat :=
  inHost fun s => .ok ((host.noise s).1 % bound) (host.noise s).2

def noiseBytes (host : Host ω) : Nat → Act (World ω) (List UInt8)
  | 0 => pure []
  | n + 1 => do
    let b ← below host 256
    let rest ← noiseBytes host n
    return UInt8.ofNat b :: rest

end World

/-- A component's own state beside the world. -/
structure Held (κ ω : Type) where
  own : κ
  world : World ω

namespace Held

variable {κ ω α : Type}

def inWorld (x : Act (World ω) α) : Act (Held κ ω) α :=
  Act.zoom Held.world (fun w s => { s with world := w }) x

def getOwn : Act (Held κ ω) κ := do return (← get).own

def setOwn (own : κ) : Act (Held κ ω) Unit := modify fun s => { s with own := own }

end Held

end Fanout
