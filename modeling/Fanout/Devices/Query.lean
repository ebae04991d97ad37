import Fanout.Jid.Address
import Fanout.Node

namespace Fanout.DeviceQuery

def xmlns : String := "usync"

def userNode (jid : Jid) : Node := (Node.named "user").withAttr "jid" jid.encode

def query (users : List Jid) (sid : String) : Node :=
  ((((Node.named "iq").withAttr "to" Jid.service.encode).withAttr "type" "get").withAttr "xmlns"
    xmlns).withChildren
    [((((((Node.named "usync").withAttr "sid" sid).withAttr "mode" "query").withAttr "last"
      "true").withAttr "index" "0").withAttr "context" "message").withChildren
      [(Node.named "query").withChildren [(Node.named "devices").withAttr "version" "2"],
        (Node.named "list").withChildren (users.map userNode)]]

/-- A device as an answer lists it: its number and, unless it is not yet usable, a key index. -/
abbrev Listed := UInt16 × Option Nat

def deviceNode (d : Listed) : Node :=
  let n := (Node.named "device").withAttr "id" d.1.toNat.repr
  match d.2 with
  | some index => n.withAttr "key-index" index.repr
  | none => n

def listNode (jid : Jid) (devices : List Listed) : Node :=
  (userNode jid).withChildren
    [(Node.named "devices").withChildren
      [(Node.named "device-list").withChildren (devices.map deviceNode)]]

/-- The answer that gives these devices. -/
def answer (users : List (Jid × List Listed)) : Node :=
  ((Node.named "iq").withAttr "type" "result").withChildren
    [(Node.named "usync").withChildren
      [(Node.named "list").withChildren (users.map fun u => listNode u.1 u.2)]]

/-- The individual address of a user name, or the bare service address if it is no user name. -/
def individual (user : String) : Jid :=
  match Jid.make user .individual with
  | .ok jid => jid
  | .error _ => Jid.service

def readDeviceId (jid : Jid) (raw : String) : Except Error UInt16 :=
  match Jid.readDevice? raw.toList with
  | some id => .ok id
  | none => .error (.protocol ("bad device id " ++ Quoted.encode raw ++ " for " ++ jid.encode))

/-- A device other than the primary one is usable only with a key index. -/
def readDevice (jid : Jid) (n : Node) : Except Error (Option DeviceEntry) := do
  let id ← readDeviceId jid (← n.attr "id")
  if id ≠ 0 ∧ n.attr? "key-index" = none then return none
  else return some ⟨jid.user, id, jid.server⟩

/-- A user without a devices node is passed over. -/
def readUser (n : Node) : Except Error (Option (Jid × List DeviceEntry)) := do
  let jid := (← Jid.decode (← n.attr "jid")).withoutDevice
  match n.child? "devices" with
  | none => return none
  | some devices =>
    devices.checkError
    let list ← devices.child "device-list"
    let entries ← (list.childrenTagged "device").mapM (readDevice jid)
    return some (jid, entries.filterMap id)

def parse (answer : Node) : Except Error (List (Jid × List DeviceEntry)) := do
  answer.checkError
  let list ← (← answer.child "usync").child "list"
  let users ← (list.childrenTagged "user").mapM readUser
  return users.filterMap id

end Fanout.DeviceQuery
