import Fanout.Jid.Order
import Fanout.Tracker.Table

namespace Fanout

inductive Presence where
  | available
  | unavailable
  | composing
  | recording
  | paused
deriving DecidableEq, Inhabited

namespace Presence

def all : List Presence := [available, unavailable, composing, recording, paused]

def word : Presence → String
  | available => "available"
  | unavailable => "unavailable"
  | composing => "composing"
  | recording => "recording"
  | paused => "paused"

def ofWord? (s : String) : Option Presence := all.find? (fun p => p.word = s)

end Presence

structure PresenceUpdate where
  presence : Presence
  time : Nat
deriving DecidableEq, Inhabited

abbrev PresenceTracker := TrackerTable Jid PresenceUpdate

namespace PresenceTracker

def observe (t : PresenceTracker) (jid : Jid) (presence : Presence) (now : Nat) : PresenceTracker :=
  t.insert jid.withoutDevice ⟨presence, now⟩ now

def presence? (t : PresenceTracker) (jid : Jid) (now : Nat) : Option PresenceUpdate :=
  t.get? jid.withoutDevice now

end PresenceTracker

end Fanout
