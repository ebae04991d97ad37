import Fanout.Session.Prekeys
import Fanout.Session.Repository

namespace Fanout.Sessions

variable {ω : Type} (host : Host ω)

def isMissing (force : Bool) (jid : Jid) : Act (World ω) Bool := do
  if force then return true
  else return !(← Repository.hasSession host jid)

/-- The devices to ask for, each once and in order. -/
def missing (jids : List Jid) (force : Bool) : Act (World ω) (List Jid) := do
  let wanted ← jids.filterM (isMissing host force)
  return (Dict.ofList (wanted.map fun jid => (jid, ()))).keys

/-- Opens a session for each bundle of a device that was asked for; counts them. -/
def inject (wanted : List Jid) : List (Jid × PreKeyBundle) → Act (World ω) Nat
  | [] => pure 0
  | (jid, bundle) :: rest => do
    if jid ∈ wanted then
      Repository.injectSession host jid bundle
      return (← inject wanted rest) + 1
    else inject wanted rest

/-- Fetches bundles for the devices without a session, or for all of them, in one query. Answers
whether there is a new session. -/
def ensure (jids : List Jid) (force : Bool) : Act (World ω) Bool := do
  let wanted ← missing host jids force
  if wanted = [] then return false
  let answer ← World.query host (Prekeys.query wanted)
  let bundles ← Act.ofExcept (Prekeys.parse answer)
  return 0 < (← inject host wanted bundles)

end Fanout.Sessions
