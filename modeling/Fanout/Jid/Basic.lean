import Fanout.Jid.Server

namespace Fanout

/-- A user name may hold any character but the two that separate the parts of an address. -/
def isUserName (user : String) : Bool := !user.toList.any (fun c => c = '@' ∨ c = ':')

/-- The address of a user, group or channel. A device number stands only where the namespace has
devices, and the primary device, number zero, is written as none, so each address has one form. -/
structure Jid where
  user : String
  server : Server
  device : Option UInt16
  user_clean : isUserName user = true
  device_allowed : device.isSome → server.supportsDevices = true
  device_ne_zero : device ≠ some 0
deriving DecidableEq

namespace Jid

/-- The address of an account as a whole. -/
def ofUser (user : String) (server : Server) (clean : isUserName user = true) : Jid :=
  ⟨user, server, none, clean, by simp, by simp⟩

/-- The bare address of the service, to which queries go. -/
def service : Jid := ofUser "" .individual (by decide)

def statusBroadcast : Jid := ofUser "status" .broadcast (by decide)

instance : Inhabited Jid := ⟨service⟩

/-- The device number, with the primary device spelled out as zero. -/
def deviceId (j : Jid) : UInt16 := j.device.getD 0

def withoutDevice (j : Jid) : Jid := ofUser j.user j.server j.user_clean

def isSameUser (a b : Jid) : Bool := a.user = b.user ∧ a.server = b.server

def isGroup (j : Jid) : Bool := j.server = .group

def isBroadcast (j : Jid) : Bool := j.server = .broadcast

def isStatusBroadcast (j : Jid) : Bool := j.isBroadcast ∧ j.user = "status"

def isNewsletter (j : Jid) : Bool := j.server = .newsletter

def isLid (j : Jid) : Bool := j.server = .lid

theorem ext' {a b : Jid} (hu : a.user = b.user) (hs : a.server = b.server)
    (hd : a.device = b.device) : a = b := by
  obtain ⟨_, _, _, _, _, _⟩ := a
  obtain ⟨_, _, _, _, _, _⟩ := b
  simp_all

end Jid

end Fanout
