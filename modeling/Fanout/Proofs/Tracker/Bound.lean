import Mathlib.Data.List.Dedup
import Mathlib.Data.List.Perm.Subperm
import Fanout.Proofs.Tracker.Table

namespace Fanout.TrackerTable

variable {κ β : Type}

/-- The key that a call writes, and when. -/
def Call.written? : Call κ β → Option (κ × Nat)
  | insert k _ now | update k now _ => some (k, now)
  | remove _ | sweep _ | get _ _ => none

theorem Call.time?_of_written {call : Call κ β} {k : κ} {now : Nat}
    (h : call.written? = some (k, now)) : call.time? = some now := by
  cases call <;> cases h <;> rfl

/-- The key of a write, if that was not longer ago than twice the time to live. -/
def Deed.recent? (ttl now : Nat) : Deed κ β → Option κ
  | wrote k _ time => if now ≤ time + 2 * ttl then some k else none
  | removed _ => none

/-- The keys that were written lately, each once. -/
def recentKeys [DecidableEq κ] (ttl now : Nat) (past : List (Deed κ β)) : List κ :=
  (past.filterMap (Deed.recent? ttl now)).dedup

theorem mem_recentKeys [DecidableEq κ] {ttl time now : Nat} {past : List (Deed κ β)} {k : κ} {v : β}
    (last : lastWrite k past = some (v, time)) (lately : now ≤ time + 2 * ttl) :
    k ∈ recentKeys ttl now past := by
  rw [recentKeys, List.mem_dedup]
  induction past with
  | nil => cases last
  | cons deed past ih =>
    cases deed with
    | wrote l w at_time =>
      rw [lastWrite] at last
      split at last
      next same =>
        obtain ⟨_, rfl⟩ := Prod.mk.inj (Option.some.inj last)
        exact List.mem_filterMap.mpr ⟨_, List.mem_cons_self, by simp [Deed.recent?, lately, same]⟩
      next =>
        obtain ⟨deed, mem, key⟩ := List.mem_filterMap.mp (ih last)
        exact List.mem_filterMap.mpr ⟨deed, List.mem_cons_of_mem _ mem, key⟩
    | removed l =>
      rw [lastWrite] at last
      split at last
      next => cases last
      next => exact ih last

variable [Ord κ]

/-- The next sweep is due at most a time to live from now, and no entry has ended longer than that
before it. -/
structure Trim (t : TrackerTable κ β) (now : Nat) : Prop where
  soon : t.nextSweepAt ≤ now + t.ttl
  recent : ∀ k v expiry, t.entries.find? k = some (v, expiry) → t.nextSweepAt ≤ expiry + t.ttl

variable {t : TrackerTable κ β} {now : Nat}

theorem Trim.new (ttl : Nat) : Trim (new ttl : TrackerTable κ β) 0 :=
  ⟨Nat.zero_le _, fun _ _ _ _ => Nat.zero_le _⟩

theorem Trim.wait (h : Trim t now) {later : Nat} (le : now ≤ later) : Trim t later := by
  refine ⟨?_, h.recent⟩
  have soon := h.soon
  omega

theorem removed_trim [DecidableEq κ] [Std.LawfulEqOrd κ] (h : Trim t now) (k : κ) :
    Trim (t.remove k).2 now := by
  refine ⟨h.soon, ?_⟩
  intro l v expiry held
  rw [remove, Dict.find?_erase] at held
  split at held
  next => cases held
  next => exact h.recent l v expiry held

section Swept

variable [Std.LawfulEqOrd κ]

theorem find?_swept {k : κ} {v : β} {expiry : Nat}
    (held : (t.swept now).entries.find? k = some (v, expiry)) : now < expiry := by
  simp only [swept, Dict.find?_filter, Option.filter_eq_some_iff, decide_eq_true_eq] at held
  exact held.2

theorem swept_trim (t : TrackerTable κ β) (now : Nat) : Trim (t.swept now) now := by
  refine ⟨Nat.le_refl _, ?_⟩
  intro k v expiry held
  have living := find?_swept held
  change now + t.ttl ≤ expiry + t.ttl
  omega

theorem Trim.sweepIfDue (h : Trim t now) : Trim (t.sweepIfDue now) now := by
  unfold TrackerTable.sweepIfDue
  split
  · exact swept_trim t now
  · exact h

/-- A sweep that is not due yet has nothing to do that matters: what it would find has not ended
longer ago than the time to live. -/
theorem Trim.le_of_held (h : Trim t now) {k : κ} {v : β} {expiry : Nat}
    (held : (t.sweepIfDue now).entries.find? k = some (v, expiry)) : now ≤ expiry + t.ttl := by
  unfold TrackerTable.sweepIfDue at held
  split at held
  next =>
    have living := find?_swept held
    omega
  next early =>
    have recent := h.recent k v expiry held
    omega

variable [DecidableEq κ] [Std.TransOrd κ]

theorem Trim.write (h : Trim t now) (k : κ) (v : β) : Trim (t.write k v now) now := by
  refine ⟨h.soon, ?_⟩
  intro l w expiry held
  rw [TrackerTable.write, Dict.find?_insert] at held
  split at held
  next =>
    obtain ⟨_, rfl⟩ := Prod.mk.inj (Option.some.inj held)
    have soon := h.soon
    change t.nextSweepAt ≤ now + t.ttl + t.ttl
    omega
  next => exact h.recent l w expiry held

end Swept

/-- A write is a sweep, if one is due, and an entry that is put in. -/
theorem Call.after_of_written [Std.TransOrd κ] {call : Call κ β} {k : κ}
    (h : call.written? = some (k, now)) (t : TrackerTable κ β) :
    ∃ v, call.after t = (t.sweepIfDue now).write k v now := by
  cases call with
  | insert l v time =>
    cases h
    exact ⟨v, rfl⟩
  | update l time change =>
    cases h
    exact ⟨_, rfl⟩
  | remove l => cases h
  | sweep time => cases h
  | get l time => cases h

variable [DecidableEq κ] [Std.LawfulEqOrd κ] [Std.TransOrd κ]

theorem Trim.written (h : Trim t now) (call : Call κ β) {k : κ}
    (writes : call.written? = some (k, now)) : Trim (call.after t) now := by
  obtain ⟨v, after⟩ := Call.after_of_written writes t
  rw [after]
  exact h.sweepIfDue.write k v

theorem Trim.step (h : Trim t now) (call : Call κ β)
    (ordered : ∀ time, call.time? = some time → now ≤ time) :
    Trim (call.after t) (call.time?.getD now) := by
  cases call with
  | insert k v time => exact (h.wait (ordered time rfl)).written (.insert k v time) rfl
  | update k time change => exact (h.wait (ordered time rfl)).written (.update k time change) rfl
  | remove k => exact removed_trim h k
  | sweep time => exact swept_trim t time
  | get k time => exact h.wait (ordered time rfl)

/-- Every entry of a table is from its key's last write, and none of these was long ago. -/
structure Bounded (t : TrackerTable κ β) (past : List (Deed κ β)) (now : Nat) : Prop where
  lately : ∀ k v expiry, t.entries.find? k = some (v, expiry) →
    ∃ time, lastWrite k past = some (v, time) ∧ now ≤ time + 2 * t.ttl
  size_le : t.size ≤ (recentKeys t.ttl now past).length

variable {past : List (Deed κ β)}

omit [Std.TransOrd κ] in
theorem Bounded.of_lately
    (lately : ∀ k v expiry, t.entries.find? k = some (v, expiry) →
      ∃ time, lastWrite k past = some (v, time) ∧ now ≤ time + 2 * t.ttl) :
    Bounded t past now := by
  refine ⟨lately, ?_⟩
  have known : t.entries.keys ⊆ recentKeys t.ttl now past := by
    intro k mem
    obtain ⟨⟨v, expiry⟩, held⟩ := Dict.mem_keys_iff.mp mem
    obtain ⟨time, last, recent⟩ := lately k v expiry held
    exact mem_recentKeys last recent
  have counted : t.size = t.entries.keys.length := (List.length_map _).symm
  rw [counted]
  exact (List.subperm_of_subset t.entries.nodup_keys known).length_le

theorem bounded_of_written (tracks : Tracks t past now) (trim : Trim t now) {call : Call κ β}
    {k : κ} (writes : call.written? = some (k, now)) :
    Bounded (call.after t) (call.noted t.ttl past) now := by
  have timed := Call.time?_of_written writes
  obtain ⟨_, after⟩ := tracks.step call fun time same => by
    rw [timed] at same
    exact (Option.some.inj same).le
  rw [timed] at after
  apply Bounded.of_lately
  intro l v expiry held
  obtain ⟨time, last, rfl⟩ := after.found l v expiry held
  refine ⟨time, last, ?_⟩
  obtain ⟨w, wrote⟩ := Call.after_of_written writes t
  rw [ttl_after] at held ⊢
  rw [wrote, TrackerTable.write, Dict.find?_insert] at held
  split at held
  next =>
    obtain ⟨_, same⟩ := Prod.mk.inj (Option.some.inj held)
    rw [expiry, ttl_sweepIfDue] at same
    omega
  next =>
    have recent := trim.le_of_held held
    omega

/-- From any moment of a table on, in the course of calls. -/
theorem bounded_after (tracks : Tracks t past now) (trim : Trim t now) (before : List (Call κ β))
    {call : Call κ β} {k : κ} {time : Nat} (writes : call.written? = some (k, time))
    (ordered : (now :: (before ++ [call]).filterMap Call.time?).Pairwise (· ≤ ·)) :
    Bounded ((before ++ [call]).foldl Call.after t)
      ((before ++ [call]).foldl (Call.noted t.ttl) past) time := by
  induction before generalizing t past now with
  | nil =>
    obtain ⟨in_time, _⟩ := Call.ordered_cons ordered
    have le := in_time time (Call.time?_of_written writes)
    exact bounded_of_written (tracks.wait le) (trim.wait le) writes
  | cons first before ih =>
    obtain ⟨in_time, rest⟩ := Call.ordered_cons ordered
    have later := ih (tracks.step first in_time).2 (trim.step first in_time) rest
    rwa [ttl_after] at later

/-- As long as time does not run backwards, a table holds right after a write only what was written
within twice the time to live, whatever calls there were before. So, swept by anybody or not, it has
no more entries than keys were written in that time. -/
theorem bounded_without_sweeps (ttl : Nat) (before : List (Call κ β)) {call : Call κ β} {k : κ}
    {now : Nat} (writes : call.written? = some (k, now))
    (ordered : ((before ++ [call]).filterMap Call.time?).Pairwise (· ≤ ·)) :
    Bounded ((before ++ [call]).foldl Call.after (new ttl))
      ((before ++ [call]).foldl (Call.noted ttl) []) now := by
  refine bounded_after (Tracks.new ttl) (Trim.new ttl) before writes ?_
  exact List.pairwise_cons.mpr ⟨fun time _ => Nat.zero_le time, ordered⟩

/-- Three visitors, and nobody who sweeps. -/
def crowd : List (Call String Nat) := [.insert "a" 1 0, .insert "b" 1 0, .insert "c" 1 9]

/-- One who comes when the first two are long gone. -/
def latecomer : Call String Nat := .update "d" 21 fun held => (held.getD 0 + 1, ())

theorem crowd_bounded_without_sweeps :
    latecomer.written? = some ("d", 21) ∧
      ((crowd ++ [latecomer]).filterMap Call.time?).Pairwise (· ≤ ·) ∧
      recentKeys 10 21 ((crowd ++ [latecomer]).foldl (Call.noted 10) []) = ["d", "c"] ∧
      ((crowd ++ [latecomer]).foldl Call.after (new 10)).size ≤ 2 := by
  have ordered : ((crowd ++ [latecomer]).filterMap Call.time?).Pairwise (· ≤ ·) := by decide
  have lately : recentKeys 10 21 ((crowd ++ [latecomer]).foldl (Call.noted 10) []) = ["d", "c"] := by
    decide
  have writes : latecomer.written? = some ("d", 21) := rfl
  have bounded := bounded_without_sweeps 10 crowd writes ordered
  exact ⟨writes, ordered, lately, bounded.size_le.trans_eq (congrArg List.length lately)⟩

end Fanout.TrackerTable
