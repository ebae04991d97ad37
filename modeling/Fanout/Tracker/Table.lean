import Fanout.Dict

namespace Fanout

/-- A map whose entries expire a fixed time after their last write. A write also drops the expired
entries, at most once in that time, so a table that nobody sweeps stays small. -/
structure TrackerTable (κ : Type) [Ord κ] (β : Type) where
  ttl : Nat
  /-- Values with the time at which they expire. -/
  entries : Dict κ (β × Nat)
  nextSweepAt : Nat

namespace TrackerTable

variable {κ : Type} [Ord κ] [Std.TransOrd κ] {β ρ : Type}

def new (ttl : Nat) : TrackerTable κ β := ⟨ttl, ∅, 0⟩

def size (t : TrackerTable κ β) : Nat := t.entries.size

def live (now : Nat) (e : β × Nat) : Option β := if now < e.2 then some e.1 else none

/-- When a value that is written at a time expires, and when the next sweep after one at that time
is due. -/
def expiry (t : TrackerTable κ β) (now : Nat) : Nat := now + t.ttl

/-- Whether that sum fits the word of a clock. A write or a sweep that makes one that does not ends
there without an answer; what is said of its result holds only if it fits. -/
def expiryFits (t : TrackerTable κ β) (now : Nat) : Bool := t.expiry now < UInt64.size

/-- Drops what has expired. -/
def swept (t : TrackerTable κ β) (now : Nat) : TrackerTable κ β :=
  { t with entries := t.entries.filter fun _ e => now < e.2, nextSweepAt := t.expiry now }

/-- Drops what has expired and counts it. -/
def sweep (t : TrackerTable κ β) (now : Nat) : Nat × TrackerTable κ β :=
  (t.size - (t.swept now).size, t.swept now)

def sweepIfDue (t : TrackerTable κ β) (now : Nat) : TrackerTable κ β :=
  if t.nextSweepAt ≤ now then t.swept now else t

def write (t : TrackerTable κ β) (k : κ) (v : β) (now : Nat) : TrackerTable κ β :=
  { t with entries := t.entries.insert k (v, t.expiry now) }

def insert (t : TrackerTable κ β) (k : κ) (v : β) (now : Nat) : TrackerTable κ β :=
  (t.sweepIfDue now).write k v now

def get? (t : TrackerTable κ β) (k : κ) (now : Nat) : Option β :=
  (t.entries.find? k).bind (live now)

/-- Replaces a value by one made from it; an expired value counts as absent. -/
def update (t : TrackerTable κ β) (k : κ) (now : Nat) (f : Option β → β × ρ) :
    ρ × TrackerTable κ β :=
  let t := t.sweepIfDue now
  let (v, r) := f (t.get? k now)
  (r, t.write k v now)

/-- Removes a value, expired or not. -/
def remove (t : TrackerTable κ β) (k : κ) : Option β × TrackerTable κ β :=
  ((t.entries.find? k).map (·.1), { t with entries := t.entries.erase k })

end TrackerTable

end Fanout
