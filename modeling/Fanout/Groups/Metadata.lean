import Fanout.Jid.Text
import Fanout.Node

namespace Fanout

/-- The namespace that a group's members are addressed in. -/
inductive AddressingMode where
  | pn
  | lid
deriving DecidableEq, Inhabited

namespace AddressingMode

def text : AddressingMode → String
  | .pn => "pn"
  | .lid => "lid"

def ofWord? (s : String) : Option AddressingMode := [pn, lid].find? (fun m => m.text = s)

end AddressingMode

structure GroupParticipant where
  jid : Jid
  /-- Regular members have no role. -/
  role : Option String
deriving DecidableEq, Inhabited

structure GroupMetadata where
  id : Jid
  subject : String
  addressingMode : AddressingMode
  participants : List GroupParticipant
deriving DecidableEq, Inhabited

namespace GroupParticipant

def toJson (p : GroupParticipant) : Json :=
  .ofMembers ([("jid", p.jid.toJson)] ++ Json.member? "role" (p.role.map Json.ofString))

def ofJson? (v : Json) : Option GroupParticipant := do
  match ← v.fields ["jid", "role"] with
  | [jid, role] =>
    return {
      jid := ← Json.required Jid.ofJson? jid
      role := ← Json.optional Json.asString? role }
  | _ => none

end GroupParticipant

namespace GroupMetadata

def toJson (m : GroupMetadata) : Json :=
  .ofMembers [("id", m.id.toJson), ("subject", .ofString m.subject),
    ("addressingMode", .ofString m.addressingMode.text),
    ("participants", .array (m.participants.map GroupParticipant.toJson))]

def ofJson? (v : Json) : Option GroupMetadata := do
  match ← v.fields ["id", "subject", "addressingMode", "participants"] with
  | [id, subject, addressingMode, participants] =>
    return {
      id := ← Json.required Jid.ofJson? id
      subject := ← Json.required Json.asString? subject
      addressingMode := ← Json.required (Json.asWord? AddressingMode.ofWord?) addressingMode
      participants := ← Json.required (Json.asList? GroupParticipant.ofJson?) participants }
  | _ => none

def participantJids (m : GroupMetadata) : List Jid := m.participants.map (·.jid)

end GroupMetadata

namespace GroupQuery

def xmlns : String := "w:g2"

def query (group : Jid) : Node :=
  ((((Node.named "iq").withAttr "type" "get").withAttr "xmlns" xmlns).withAttr "to"
    group.encode).withChildren [(Node.named "query").withAttr "request" "interactive"]

/-- The answer that describes a group by its bare id and the texts of its members. -/
def answer (id : String) (mode : AddressingMode) (participants : List String) : Node :=
  ((Node.named "iq").withAttr "type" "result").withChildren
    [((((Node.named "group").withAttr "id" id).withAttr "subject" "test group").withAttr
      "addressing_mode" mode.text).withChildren
      (participants.map fun jid => (Node.named "participant").withAttr "jid" jid)]

/-- An id without a server is one of a group. -/
def readId (raw : String) : Except Error Jid :=
  Jid.decode (if raw.toList.contains '@' then raw else raw ++ "@" ++ Server.group.text)

/-- Only members that can have devices are kept. -/
def readParticipant (n : Node) : Except Error (Option GroupParticipant) := do
  let jid ← Jid.decode (← n.attr "jid")
  if jid.server.supportsDevices then return some ⟨jid, n.attr? "type"⟩ else return none

def parse (answer : Node) : Except Error GroupMetadata := do
  answer.checkError
  let group ← answer.child "group"
  let groupId ← readId (← group.attr "id")
  let mode := if group.attr? "addressing_mode" = some "lid" then AddressingMode.lid else .pn
  let participants ← (group.childrenTagged "participant").mapM readParticipant
  return ⟨groupId, (group.attr? "subject").getD "", mode, participants.filterMap id⟩

end GroupQuery

end Fanout
