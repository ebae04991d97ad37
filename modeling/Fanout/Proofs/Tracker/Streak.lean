import Mathlib.Data.List.Basic

namespace Fanout

variable {α : Type} (ttl : Nat) (own : α → Bool) (time : α → Nat)

/-- The latest of our own events, on a list with the latest event first, for as long as each came
less than a time to live after the one before it. -/
def streak (now : Nat) : List α → List α
  | [] => []
  | e :: past =>
    if own e then if now < time e + ttl then e :: streak (time e) past else []
    else streak now past

variable {ttl own time}

theorem streak_of_own {now : Nat} {e : α} {past : List α} (h : own e = true) :
    streak ttl own time now (e :: past) =
      if now < time e + ttl then e :: streak ttl own time (time e) past else [] := by
  rw [streak, if_pos h]

theorem streak_of_other {now : Nat} {e : α} {past : List α} (h : ¬own e = true) :
    streak ttl own time now (e :: past) = streak ttl own time now past := by
  rw [streak, if_neg h]

/-- Nothing but our own events matters. -/
theorem streak_filter {keep : α → Bool} {past : List α}
    (h : ∀ e ∈ past, own e = true → keep e = true) (now : Nat) :
    streak ttl own time now (past.filter keep) = streak ttl own time now past := by
  induction past generalizing now with
  | nil => rfl
  | cons e past ih =>
    have rest := ih fun d hd => h d (List.mem_cons_of_mem e hd)
    by_cases mine : own e = true
    · rw [List.filter_cons_of_pos (h e List.mem_cons_self mine), streak_of_own mine,
        streak_of_own mine, rest]
    · rw [streak_of_other mine, ← rest]
      by_cases kept : keep e = true
      · rw [List.filter_cons_of_pos kept, streak_of_other mine]
      · rw [List.filter_cons_of_neg kept]

section Loud

variable {Loud : α → Prop} {limit : Nat}

end Loud

end Fanout
