import Fanout.Error

namespace Fanout

abbrev Act (σ α : Type) := EStateM Error σ α

namespace Act

variable {σ τ α : Type}

def ofExcept : Except Error α → Act σ α
  | .ok a => pure a
  | .error e => throw e

/-- Acts on a part of the state. -/
def zoom (part : σ → τ) (replace : τ → σ → σ) (x : Act τ α) : Act σ α := fun s =>
  match x (part s) with
  | .ok a t => .ok a (replace t s)
  | .error e t => .error e (replace t s)

/-- Acts without failing: a failure is an answer. -/
def attempt (x : Act σ α) : Act σ (Except Error α) := fun s =>
  match x s with
  | .ok a t => .ok (.ok a) t
  | .error e t => .ok (.error e) t

/-- Acts without failing: a failed action has no answer. -/
def guarded (x : Act σ α) : Act σ (Option α) := fun s =>
  match x s with
  | .ok a t => .ok (some a) t
  | .error _ t => .ok none t

end Act

end Fanout
