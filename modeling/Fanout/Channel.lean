import Fanout.Config
import Fanout.Node

namespace Fanout

structure Channel where
  timeoutMs : Nat
  /-- What the ids of queries without one begin with. -/
  tag : String
  count : Nat
  isOpen : Bool
deriving DecidableEq, Inhabited

namespace Channel

def ofConfig (c : Config) (tag : String) : Channel := ⟨c.queryTimeoutMs.toNat, tag, 0, true⟩

/-- What the worker makes of a query. -/
inductive Outcome where
  | answered (answer : Except Error Node)
  | dropped
  /-- No answer before the time is over. -/
  | silent

def close (c : Channel) : Channel := { c with isOpen := false }

/-- Gives a query an id of its own, unless it has one. -/
def identify (c : Channel) (n : Node) : Node × Channel :=
  match n.attr? "id" with
  | some _ => (n, c)
  | none => (n.withAttr "id" (c.tag ++ "." ++ c.count.repr), { c with count := c.count + 1 })

/-- How a query is named when it fails. -/
def context (n : Node) : String := "<" ++ n.tag ++ "> " ++ (n.attr? "xmlns").getD ""

def settle (n : Node) : Outcome → Except Error Node
  | .answered answer => answer
  | .dropped => .error (.network ("reply dropped for " ++ context n))
  | .silent => .error (.timeout (context n))

/-- The result of a query, the stanza that reached the worker, and the channel after it. -/
def query (c : Channel) (n : Node) (outcome : Outcome) : Except Error Node × Option Node × Channel :=
  let (n, c) := c.identify n
  if c.isOpen then (settle n outcome, some n, c)
  else (.error (.network "transport closed"), none, c)

def send (c : Channel) (n : Node) : Except Error Node :=
  if c.isOpen then .ok n else .error (.network "transport closed")

end Channel

end Fanout
