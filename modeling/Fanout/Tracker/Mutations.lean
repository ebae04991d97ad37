import Fanout.Message.Basic
import Fanout.Tracker.Table

namespace Fanout

inductive MutationKind where
  | edit
  | revoke
  | reaction
deriving DecidableEq, Inhabited

def MutationKind.word : MutationKind → String
  | edit => "edit"
  | revoke => "revoke"
  | reaction => "reaction"

structure Mutation where
  kind : MutationKind
  /-- The message that carried the mutation. -/
  messageId : String
  time : Nat
deriving DecidableEq, Inhabited

/-- The message that a message is about, and what it does to it. -/
def Message.mutates : Message → Option (String × MutationKind)
  | .edit key _ => some (key.id, .edit)
  | .revoke key => some (key.id, .revoke)
  | .reaction key _ => some (key.id, .reaction)
  | _ => none

abbrev MutationTracker := TrackerTable String (List Mutation)

namespace MutationTracker

/-- Adds a message to the history of the one it is about; answers whether there is one. -/
def observe (t : MutationTracker) (id : String) (message : Message) (now : Nat) :
    Bool × MutationTracker :=
  match message.mutates with
  | none => (false, t)
  | some (target, kind) =>
    let (_, t) := t.update target now fun history => (history.getD [] ++ [⟨kind, id, now⟩], ())
    (true, t)

def history (t : MutationTracker) (target : String) (now : Nat) : List Mutation :=
  (t.get? target now).getD []

end MutationTracker

end Fanout
