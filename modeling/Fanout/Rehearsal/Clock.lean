import Fanout.Json.Whole
import Fanout.Rehearsal.Stage
import Fanout.Relay.Tick

namespace Fanout.Relay

def retryDueAt : String := "nextAttemptAt"

/-- The text of a stored record that is due at once, its members in order of their names. -/
def dueText (text : String) : String :=
  match (Json.readWhole? text).bind (Json.asDict? some) with
  | some entries => (Json.ofMembers (entries.insert retryDueAt (.ofNat 0)).entries).compact
  | none => text

def isRetryKey (key : String) : Bool := key.startsWith retryHome

/-- Makes every stored retry record due at once. -/
def makeDue (d : Documents) : Documents :=
  .ofList (d.entries.map fun e => if isRetryKey e.1 then (e.1, dueText e.2) else e)

/-- Lets some milliseconds pass. -/
def wait (duration : Nat) : Act (Relay Stage) Unit :=
  modify fun r => r.withHost { r.world.host with time := r.world.host.time + duration }

/-- A pass of the worker that retries are scheduled on; answers whether the worker lives on. It does
not if the pass has no report. -/
def pass : Act (Relay Stage) Bool := do return (← tick Stage.host).isSome

/-- Waits from pass to pass until the retry queue is empty, for a number of passes. -/
def passUntilEmpty (interval : Nat) : Nat → Act (Relay Stage) Unit
  | 0 => pure ()
  | passes + 1 => do
    if (← get).retry.size = 0 then return
    wait interval
    if ← pass then passUntilEmpty interval passes
    else unless (← get).retry.size = 0 do wait (interval * passes)

/-- Runs the scheduled retries until none is left, or else for the whole duration. -/
def runSchedule (duration : Nat) : Act (Relay Stage) Unit := do
  let interval := max 1 (← get).config.retry.tickIntervalMs.toNat
  passUntilEmpty interval (duration / interval)
  unless (← get).retry.size = 0 do wait (duration % interval)

end Fanout.Relay
