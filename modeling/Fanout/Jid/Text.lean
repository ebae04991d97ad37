import Fanout.Error
import Fanout.Jid.Order
import Fanout.Json.Fields
import Fanout.Text.Quoted

namespace Fanout.Jid

/-- An address without a device. -/
def make (user : String) (server : Server) : Except Error Jid :=
  if clean : isUserName user = true then .ok (ofUser user server clean)
  else .error (.invalidJid ("illegal character in user " ++ Quoted.encode user))

/-- An address with a device number, zero for the primary device. -/
def withDevice (user : String) (server : Server) (device : UInt16) : Except Error Jid :=
  if allowed : server.supportsDevices = true then
    if clean : isUserName user = true then
      .ok ⟨user, server, if device = 0 then none else some device, clean, fun _ => allowed, by
        split <;> simp_all⟩
    else .error (.invalidJid ("illegal character in user " ++ Quoted.encode user))
  else .error (.invalidJid
    ("device " ++ device.toNat.repr ++ " not allowed on " ++ server.text))

def deviceText : Option UInt16 → List Char
  | none => []
  | some device => ':' :: Numeral.digits device.toNat

def chars (j : Jid) : List Char :=
  j.user.toList ++ deviceText j.device ++ '@' :: j.server.text.toList

def encode (j : Jid) : String := String.ofList j.chars

/-- The parts before and after the first occurrence of a character. -/
def splitAtFirst (c : Char) : List Char → Option (List Char × List Char)
  | [] => none
  | d :: rest =>
    if d = c then some ([], rest)
    else (splitAtFirst c rest).map fun (before, after) => (d :: before, after)

def readDevice? (ds : List Char) : Option UInt16 :=
  ((readUnsigned? ds).filter (· < UInt16.size)).map UInt16.ofNat

def decode (raw : String) : Except Error Jid :=
  match splitAtFirst '@' raw.toList with
  | none => .error (.invalidJid ("missing server in " ++ Quoted.encode raw))
  | some (userPart, serverPart) =>
    match Server.parse? (String.ofList serverPart) with
    | none => .error (.invalidJid ("unknown server in " ++ Quoted.encode raw))
    | some server =>
      match splitAtFirst ':' userPart with
      | none => make (String.ofList userPart) server
      | some (user, device) =>
        match readDevice? device with
        | none => .error (.invalidJid ("bad device in " ++ Quoted.encode raw))
        | some device => withDevice (String.ofList user) server device

def toJson (j : Jid) : Json := Json.ofString j.encode

def ofJson? (v : Json) : Option Jid := do
  let raw ← v.asString?
  (decode raw).toOption

end Fanout.Jid
