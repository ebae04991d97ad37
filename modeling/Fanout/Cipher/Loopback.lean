import Fanout.Cipher.Basic
import Fanout.Hash.Hkdf
import Fanout.Json.Fields
import Fanout.Text.Base64
import Fanout.Text.Utf8

namespace Fanout.Loopback

def secret : List UInt8 := [109, 100, 45, 114, 101, 108, 97, 121, 32, 108, 111, 111, 112, 98, 97, 99, 107]

/-- Blocks of 32 bytes drawn from a key for a nonce. -/
def keystream (key nonce : List UInt8) (blocks : Nat) : List UInt8 :=
  let extracted := Hkdf.extract nonce key
  (List.range blocks).flatMap fun i => Hkdf.expand extracted (BigEndian.encode 8 i)

/-- Adds the keystream to a text; a second time takes it away again. -/
def mask (key nonce data : List UInt8) : List UInt8 :=
  List.zipWith (· ^^^ ·) data (keystream key nonce ((data.length + 31) / 32))

structure Session where
  counter : Nat
  /-- Whether the other device is still to answer the handshake. -/
  pending : Bool
deriving DecidableEq, Inhabited

namespace Session

def toJson (s : Session) : Json :=
  .ofMembers [("counter", .ofNat s.counter), ("pending_prekey", .bool s.pending)]

def ofJson? (v : Json) : Option Session := do
  match ← v.fields ["counter", "pending_prekey"] with
  | [counter, pending] =>
    return ⟨← Json.required (Json.asNat? UInt64.size) counter, ← Json.required Json.asBool? pending⟩
  | _ => none

end Session

structure SenderKey where
  key : List UInt8
  iteration : Nat
deriving DecidableEq, Inhabited

namespace SenderKey

def toJson (k : SenderKey) : Json :=
  .ofMembers [("key", .ofString (Base64.encode k.key)), ("iteration", .ofNat k.iteration)]

def ofJson? (v : Json) : Option SenderKey := do
  match ← v.fields ["key", "iteration"] with
  | [key, iteration] =>
    let text ← Json.required Json.asString? key
    return ⟨← Base64.decode? text, ← Json.required (Json.asNat? UInt32.size) iteration⟩
  | _ => none

end SenderKey

def stateBytes (v : Json) : List UInt8 := Utf8.encode v.compact

def readState {α : Type} (read : Json → Option α) (data : List UInt8) : Except Error α :=
  match (Json.parseBytes? data).bind read with
  | some a => .ok a
  | none => .error (.crypto "corrupt record: unreadable state")

def splitNonce (len : Nat) (body : List UInt8) : Except Error (List UInt8 × List UInt8) :=
  if body.length < len then .error (.crypto "ciphertext too short") else .ok (body.splitAt len)

def sessionRecord (s : Session) : SessionRecord := ⟨stateBytes s.toJson⟩

def senderKeyRecord (k : SenderKey) : SenderKeyRecord := ⟨stateBytes k.toJson⟩

/-- A session whose handshake is answered. -/
def established : SessionRecord := sessionRecord ⟨0, false⟩

def initiate (bundle : PreKeyBundle) : Except Error SessionRecord :=
  if bundle.identityKey = [] ∨ bundle.signedPreKey.signature = [] then
    .error (.crypto "incomplete prekey bundle")
  else .ok (sessionRecord ⟨0, true⟩)

def encrypt (session : SessionRecord) (plaintext : List UInt8) :
    Except Error (Envelope × SessionRecord) := do
  let state ← readState Session.ofJson? session.data
  let state := { state with counter := state.counter + 1 }
  let nonce := BigEndian.encode 8 state.counter
  let kind := if state.pending then CiphertextKind.pkmsg else .msg
  return (⟨kind, nonce ++ mask secret nonce plaintext⟩, sessionRecord state)

def sessionState : Option SessionRecord → Except Error Session
  | some record => readState Session.ofJson? record.data
  | none => .ok ⟨0, false⟩

/-- To read a message answers the handshake. -/
def decrypt (session : Option SessionRecord) (envelope : Envelope) :
    Except Error (List UInt8 × SessionRecord) := do
  let state ← sessionState session
  let (nonce, ciphertext) ← splitNonce 8 envelope.body
  return (mask secret nonce ciphertext, sessionRecord { state with pending := false })

/-- A blank record takes the given key; what is distributed is the record itself. -/
def distribution (fresh : List UInt8) (record : SenderKeyRecord) : List UInt8 × SenderKeyRecord :=
  let record := if record.data = [] then senderKeyRecord ⟨fresh, 0⟩ else record
  (record.data, record)

def groupEncrypt (record : SenderKeyRecord) (plaintext : List UInt8) :
    Except Error (List UInt8 × SenderKeyRecord) := do
  let state ← readState SenderKey.ofJson? record.data
  let state := { state with iteration := state.iteration + 1 }
  let nonce := BigEndian.encode 4 state.iteration
  return (nonce ++ mask state.key nonce plaintext, senderKeyRecord state)

def acceptDistribution (distribution : List UInt8) : Except Error SenderKeyRecord := do
  let _ ← readState SenderKey.ofJson? distribution
  return ⟨distribution⟩

def groupDecrypt (record : SenderKeyRecord) (ciphertext : List UInt8) :
    Except Error (List UInt8 × SenderKeyRecord) := do
  let state ← readState SenderKey.ofJson? record.data
  let (nonce, body) ← splitNonce 4 ciphertext
  let state' := { state with iteration := max state.iteration (BigEndian.decode nonce) }
  return (mask state.key nonce body, senderKeyRecord state')

variable {ω : Type}

def noiseBytes (noise : ω → Nat × ω) : Nat → ω → List UInt8 × ω
  | 0, s => ([], s)
  | n + 1, s =>
    let (b, s) := noise s
    let (rest, s) := noiseBytes noise n s
    (UInt8.ofNat b :: rest, s)

/-- The cipher on a host with a source of noise, from which it takes new sender keys. -/
def cipher (noise : ω → Nat × ω) : Cipher ω where
  initiate _ bundle := Act.ofExcept (initiate bundle)
  encrypt _ session plaintext := Act.ofExcept (encrypt session plaintext)
  decrypt _ session envelope := Act.ofExcept (decrypt session envelope)
  distribution _ record := fun s =>
    if record.data = [] then
      let (fresh, s) := noiseBytes noise 32 s
      .ok (distribution fresh record) s
    else .ok (distribution [] record) s
  groupEncrypt _ record plaintext := Act.ofExcept (groupEncrypt record plaintext)
  acceptDistribution _ _ distribution := Act.ofExcept (acceptDistribution distribution)
  groupDecrypt _ record ciphertext := Act.ofExcept (groupDecrypt record ciphertext)

end Fanout.Loopback
