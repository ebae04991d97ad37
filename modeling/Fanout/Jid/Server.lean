namespace Fanout

inductive Server where
  | individual
  | group
  | broadcast
  | newsletter
  | lid
deriving DecidableEq, Repr, Inhabited

namespace Server

def all : List Server := [.individual, .group, .broadcast, .newsletter, .lid]

def text : Server → String
  | .individual => "s.whatsapp.net"
  | .group => "g.us"
  | .broadcast => "broadcast"
  | .newsletter => "newsletter"
  | .lid => "lid"

/-- Individual addresses also go by an older name. -/
def legacyText : String := "c.us"

def parse? (s : String) : Option Server :=
  if s = legacyText then some .individual else all.find? (fun server => server.text = s)

/-- The name of the namespace in documents. -/
def word : Server → String
  | .individual => "individual"
  | .group => "group"
  | .broadcast => "broadcast"
  | .newsletter => "newsletter"
  | .lid => "lid"

def ofWord? (s : String) : Option Server := all.find? (fun server => server.word = s)

/-- Only individual and lid addresses can name a device. -/
def supportsDevices (server : Server) : Bool := server = .individual ∨ server = .lid

def rank : Server → Nat
  | .individual => 0
  | .group => 1
  | .broadcast => 2
  | .newsletter => 3
  | .lid => 4

theorem rank_inj {a b : Server} (h : a.rank = b.rank) : a = b := by
  cases a <;> cases b <;> simp_all [rank]

theorem parse?_text (server : Server) : parse? server.text = some server := by
  cases server <;> decide

end Server

end Fanout
