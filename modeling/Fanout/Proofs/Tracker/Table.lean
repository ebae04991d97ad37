import Mathlib.Data.List.TakeWhile
import Fanout.Proofs.Dict
import Fanout.Tracker.Table

namespace Fanout.TrackerTable

variable {κ β : Type}

/-- A call of a table. An update comes with what its caller makes of the value that it is handed. -/
inductive Call (κ β : Type) : Type 1 where
  | insert (k : κ) (v : β) (now : Nat)
  | update {ρ : Type} (k : κ) (now : Nat) (change : Option β → β × ρ)
  | remove (k : κ)
  | sweep (now : Nat)
  | get (k : κ) (now : Nat)

def Call.time? : Call κ β → Option Nat
  | insert _ _ now | update _ now _ | sweep now | get _ now => some now
  | remove _ => none

/-- Calls in the order of time: the first one comes no earlier than now, and the others follow. -/
theorem Call.ordered_cons {now : Nat} {call : Call κ β} {calls : List (Call κ β)}
    (ordered : (now :: (call :: calls).filterMap time?).Pairwise (· ≤ ·)) :
    (∀ time, call.time? = some time → now ≤ time) ∧
      (call.time?.getD now :: calls.filterMap time?).Pairwise (· ≤ ·) := by
  obtain ⟨from_now, ordered⟩ := List.pairwise_cons.mp ordered
  refine ⟨?_, ?_⟩
  · intro time timed
    exact from_now time (List.mem_filterMap.mpr ⟨call, List.mem_cons_self, timed⟩)
  · cases timed : call.time? with
    | none =>
      rw [List.filterMap_cons_none timed] at ordered from_now
      exact List.pairwise_cons.mpr ⟨from_now, ordered⟩
    | some time => rwa [List.filterMap_cons_some timed] at ordered

section Table

variable [Ord κ]

theorem ttl_sweepIfDue (t : TrackerTable κ β) (now : Nat) : (t.sweepIfDue now).ttl = t.ttl := by
  unfold sweepIfDue
  split <;> rfl

/-- Whether a call comes back: the end of what it writes, or of its sweep, fits the word of a
clock. -/
def Call.comesBack (t : TrackerTable κ β) : Call κ β → Bool
  | insert _ _ now | update _ now _ | sweep now => t.expiryFits now
  | remove _ | get _ _ => true

variable [Std.TransOrd κ]

def Call.after (t : TrackerTable κ β) : Call κ β → TrackerTable κ β
  | insert k v now => t.insert k v now
  | update k now change => (t.update k now change).2
  | remove k => (t.remove k).2
  | sweep now => (t.sweep now).2
  | get _ _ => t

/-- The value that a caller learns of, if the call is one that tells: what a look-up answers, and
what an update hands to its caller, who can pass it on. An update that does not come back has handed
it over if the sweep that comes with it was not due. -/
def Call.learns (t : TrackerTable κ β) : Call κ β → Option (Option β)
  | update k now change =>
    if now < t.nextSweepAt ∨ t.expiryFits now = true then
      some (t.update k now fun held => ((change held).1, held)).1
    else none
  | get k now => some (t.get? k now)
  | _ => none

/-- All that is learned in the course of calls, up to the first that does not come back. -/
def learned (t : TrackerTable κ β) : List (Call κ β) → List (Option β)
  | [] => []
  | call :: calls =>
    (call.learns t).toList ++ if call.comesBack t then learned (call.after t) calls else []

theorem ttl_after (call : Call κ β) (t : TrackerTable κ β) : (call.after t).ttl = t.ttl := by
  cases call with
  | insert k v now => exact ttl_sweepIfDue t now
  | update k now change => exact ttl_sweepIfDue t now
  | remove k => rfl
  | sweep now => rfl
  | get k now => rfl

end Table

/-- What was done to a key. -/
inductive Deed (κ β : Type) where
  | wrote (k : κ) (v : β) (time : Nat)
  | removed (k : κ)

variable [DecidableEq κ]

/-- The last write of a key after its last removal, the latest deed first. -/
def lastWrite (k : κ) : List (Deed κ β) → Option (β × Nat)
  | [] => none
  | .wrote l v time :: past => if l = k then some (v, time) else lastWrite k past
  | .removed l :: past => if l = k then none else lastWrite k past

/-- The value of a key by what was done to it. -/
def valueAt (ttl : Nat) (past : List (Deed κ β)) (k : κ) (now : Nat) : Option β :=
  (lastWrite k past).bind fun (v, time) => if now < time + ttl then some v else none

/-- What was done once a call is over. A sweep does nothing. -/
def Call.noted (ttl : Nat) (past : List (Deed κ β)) : Call κ β → List (Deed κ β)
  | insert k v now => .wrote k v now :: past
  | update k now change => .wrote k (change (valueAt ttl past k now)).1 now :: past
  | remove k => .removed k :: past
  | sweep _ | get _ _ => past

def Call.expects (ttl : Nat) (past : List (Deed κ β)) : Call κ β → Option (Option β)
  | update k now _ | get k now => some (valueAt ttl past k now)
  | _ => none

/-- All that the plain map tells in the course of calls. -/
def expected (ttl : Nat) (past : List (Deed κ β)) : List (Call κ β) → List (Option β)
  | [] => []
  | call :: calls => (call.expects ttl past).toList ++ expected ttl (call.noted ttl past) calls

variable [Ord κ]

/-- A table at a time has the last writes with their ends, and lacks only what has ended. -/
structure Tracks (t : TrackerTable κ β) (past : List (Deed κ β)) (now : Nat) : Prop where
  found : ∀ k v expiry, t.entries.find? k = some (v, expiry) →
    ∃ time, lastWrite k past = some (v, time) ∧ expiry = time + t.ttl
  lost : ∀ k v time, t.entries.find? k = none → lastWrite k past = some (v, time) →
    time + t.ttl ≤ now

variable {t : TrackerTable κ β} {past : List (Deed κ β)} {now : Nat}

theorem Tracks.new (ttl : Nat) : Tracks (new ttl : TrackerTable κ β) [] 0 :=
  ⟨fun _ _ _ none => (nomatch none), fun _ _ _ _ none => (nomatch none)⟩

theorem Tracks.wait (h : Tracks t past now) {later : Nat} (le : now ≤ later) :
    Tracks t past later := by
  refine ⟨h.found, ?_⟩
  intro k v time absent last
  have ended := h.lost k v time absent last
  omega

/-- A look-up at the end of a value finds it no more, whether it was dropped or not. -/
theorem Tracks.get? (h : Tracks t past now) (k : κ) : t.get? k now = valueAt t.ttl past k now := by
  unfold TrackerTable.get? valueAt
  cases held : t.entries.find? k with
  | some e =>
    obtain ⟨v, expiry⟩ := e
    obtain ⟨time, last, rfl⟩ := h.found k v expiry held
    rw [last]
    rfl
  | none =>
    cases last : lastWrite k past with
    | none => rfl
    | some e =>
      obtain ⟨v, time⟩ := e
      have ended := h.lost k v time held last
      have past_end : ¬now < time + t.ttl := by omega
      simp [past_end]

variable [Std.LawfulEqOrd κ]

theorem Tracks.swept (h : Tracks t past now) : Tracks (t.swept now) past now := by
  refine ⟨?_, ?_⟩
  · intro k v expiry held
    simp only [TrackerTable.swept, Dict.find?_filter, Option.filter_eq_some_iff] at held
    exact h.found k v expiry held.1
  · intro k v time gone last
    change time + t.ttl ≤ now
    cases held : t.entries.find? k with
    | none => exact h.lost k v time held last
    | some e =>
      -- what the sweep dropped had ended
      obtain ⟨w, expiry⟩ := e
      obtain ⟨time', last', rfl⟩ := h.found k w expiry held
      obtain ⟨rfl, rfl⟩ := Prod.mk.inj (Option.some.inj (last.symm.trans last'))
      simp only [TrackerTable.swept, Dict.find?_filter, held, Option.filter_eq_none_iff,
        Option.some.injEq, forall_eq', decide_eq_true_eq] at gone
      omega

theorem Tracks.sweepIfDue (h : Tracks t past now) : Tracks (t.sweepIfDue now) past now := by
  unfold TrackerTable.sweepIfDue
  split
  · exact h.swept
  · exact h

theorem Tracks.removed (h : Tracks t past now) (k : κ) :
    Tracks (t.remove k).2 (.removed k :: past) now := by
  refine ⟨?_, ?_⟩
  · intro l w expiry held
    rw [TrackerTable.remove, Dict.find?_erase] at held
    by_cases same : k = l
    · rw [if_pos same] at held
      cases held
    · rw [if_neg same] at held
      obtain ⟨time, last, ends⟩ := h.found l w expiry held
      exact ⟨time, (if_neg same).trans last, ends⟩
  · intro l w time absent last
    rw [TrackerTable.remove, Dict.find?_erase] at absent
    by_cases same : k = l
    · rw [lastWrite, if_pos same] at last
      cases last
    · rw [if_neg same] at absent
      rw [lastWrite, if_neg same] at last
      exact h.lost l w time absent last

variable [Std.TransOrd κ]

theorem Tracks.write (h : Tracks t past now) (k : κ) (v : β) :
    Tracks (t.write k v now) (.wrote k v now :: past) now := by
  refine ⟨?_, ?_⟩
  · intro l w expiry held
    rw [TrackerTable.write, Dict.find?_insert] at held
    by_cases same : k = l
    · rw [if_pos same] at held
      obtain ⟨rfl, rfl⟩ := Prod.mk.inj (Option.some.inj held)
      exact ⟨now, if_pos same, rfl⟩
    · rw [if_neg same] at held
      obtain ⟨time, last, ends⟩ := h.found l w expiry held
      exact ⟨time, (if_neg same).trans last, ends⟩
  · intro l w time absent last
    rw [TrackerTable.write, Dict.find?_insert] at absent
    by_cases same : k = l
    · rw [if_pos same] at absent
      cases absent
    · rw [if_neg same] at absent
      rw [lastWrite, if_neg same] at last
      exact h.lost l w time absent last

/-- An update hands on the value of the plain map, whatever is made of it. -/
theorem Tracks.update_eq {ρ : Type} (h : Tracks t past now) (k : κ) (change : Option β → β × ρ) :
    t.update k now change = ((change (valueAt t.ttl past k now)).2,
      (t.sweepIfDue now).write k (change (valueAt t.ttl past k now)).1 now) := by
  have handed := h.sweepIfDue.get? k
  rw [ttl_sweepIfDue] at handed
  rw [update, handed]

/-- A call that comes no earlier than the last one tells the value of the plain map, unless it breaks
off before, and leaves the table as the plain map has it. -/
theorem Tracks.step (h : Tracks t past now) (call : Call κ β)
    (ordered : ∀ time, call.time? = some time → now ≤ time) :
    (call.learns t = call.expects t.ttl past ∨
        call.learns t = none ∧ call.comesBack t = false) ∧
      Tracks (call.after t) (call.noted t.ttl past) (call.time?.getD now) := by
  cases call with
  | insert k v time =>
    have there := h.wait (ordered time rfl)
    exact ⟨.inl rfl, there.sweepIfDue.write k v⟩
  | update k time change =>
    have there := h.wait (ordered time rfl)
    refine ⟨?_, ?_⟩
    · by_cases told : time < t.nextSweepAt ∨ t.expiryFits time = true
      · rw [Call.learns, if_pos told, there.update_eq]
        exact .inl rfl
      · exact .inr ⟨if_neg told, Bool.eq_false_iff.mpr (not_or.mp told).2⟩
    · rw [Call.after, there.update_eq]
      exact there.sweepIfDue.write k _
  | remove k => exact ⟨.inl rfl, h.removed k⟩
  | sweep time => exact ⟨.inl rfl, (h.wait (ordered time rfl)).swept⟩
  | get k time =>
    have there := h.wait (ordered time rfl)
    exact ⟨.inl (congrArg some (there.get? k)), there⟩

/-- The longest time to live lets a table be written at time zero only. -/
example : (new 18446744073709551615).learned [.insert "a" 1 0, .get "a" 1, .insert "b" 2 1,
    .get "a" 2] = [some 1] := by
  decide

end Fanout.TrackerTable
