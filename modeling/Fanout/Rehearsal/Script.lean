import Fanout.Devices.Query
import Fanout.Groups.Metadata
import Fanout.Session.Prekeys

namespace Fanout

structure Script where
  answers : List (Except Error Node) := []
  sendErrors : List Error := []
  devices : Dict Jid (List UInt16) := ∅
  groups : Dict Jid (AddressingMode × List Jid) := ∅
  queries : List Node := []
  sent : List Node := []

namespace Script

/-- The n-th of a row of prekey bundles that can be told apart. -/
def sampleBundle (n : Nat) : PreKeyBundle :=
  { registrationId := UInt32.ofNat (1000 + n)
    identityKey := List.replicate 33 5
    signedPreKey := ⟨UInt32.ofNat n, List.replicate 33 (UInt8.ofNat n), List.replicate 64 7⟩
    preKey := some ⟨UInt32.ofNat (100 + n), List.replicate 33 (UInt8.ofNat (n + 1))⟩ }

/-- The addresses that a query lists. -/
def requested (query : Node) : Except Error (List Jid) :=
  (query.findAll "user").mapM fun n => do Jid.decode (← n.attr "jid")

/-- Every device but the primary one has a key index. -/
def listed (id : UInt16) : DeviceQuery.Listed := (id, if id = 0 then none else some 1)

def devicesOf (s : Script) (user : Jid) : List UInt16 :=
  (s.devices.find? user.withoutDevice).getD [0]

def answerDevices (s : Script) (query : Node) : Except Error Node := do
  let users ← requested query
  return DeviceQuery.answer (users.map fun user => (user, (s.devicesOf user).map listed))

def answerPrekeys (query : Node) : Except Error Node := do
  let users ← requested query
  return Prekeys.answer (users.zipIdx.map fun user => (user.1, sampleBundle (user.2 + 1)))

def answerGroup (s : Script) (query : Node) : Except Error Node := do
  let group ← Jid.decode (← query.attr "to")
  match s.groups.find? group with
  | some (mode, participants) =>
    return GroupQuery.answer group.user mode (participants.map Jid.encode)
  | none => throw (.serverError "404" group.encode)

def answer (s : Script) (query : Node) : Except Error Node :=
  let xmlns := query.attr? "xmlns"
  if xmlns = some DeviceQuery.xmlns then s.answerDevices query
  else if xmlns = some Prekeys.xmlns then answerPrekeys query
  else if xmlns = some GroupQuery.xmlns then s.answerGroup query
  else .error (.protocol ("no answer for xmlns " ++ Quoted.encodeOption xmlns))

def query (s : Script) (n : Node) : Except Error Node × Script :=
  let s := { s with queries := s.queries ++ [n] }
  match s.answers with
  | answer :: rest => (answer, { s with answers := rest })
  | [] => (s.answer n, s)

def send (s : Script) (n : Node) : Except Error Unit × Script :=
  match s.sendErrors with
  | e :: rest => (.error e, { s with sendErrors := rest })
  | [] => (.ok (), { s with sent := s.sent ++ [n] })

end Script

end Fanout
