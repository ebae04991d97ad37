import Fanout.Proofs.Jid.Text
import Fanout.Proofs.Tracker.Streak
import Fanout.Proofs.Tracker.Table
import Fanout.Tracker.Receipts

namespace Fanout

/-- A message and a device that asks for it. -/
structure Asking where
  id : String
  requester : Jid
deriving DecidableEq

namespace Asking

def key (a : Asking) : String := ReceiptCounter.key a.id a.requester

/-- The second has the end of the first one's message id at the start of its user name. -/
def Lends (a b : Asking) : Prop :=
  ∃ part, a.id = b.id ++ "/" ++ part ∧ b.requester.user = part ++ "/" ++ a.requester.user ∧
    b.requester.server = a.requester.server ∧ b.requester.device = a.requester.device

/-- The slash of one is where the other has one in its message id or its user name. -/
def Namesake (a b : Asking) : Prop := a.Lends b ∨ b.Lends a

theorem Lends.key_eq {a b : Asking} (h : a.Lends b) : a.key = b.key := by
  obtain ⟨part, id, user, server, device⟩ := h
  refine String.toList_injective ?_
  simp [key, ReceiptCounter.key, Jid.encode, Jid.chars, id, user, server, device]

theorem Lends.ne {a b : Asking} (h : a.Lends b) : a ≠ b := by
  rintro rfl
  obtain ⟨part, id, _⟩ := h
  have length := congrArg String.length id
  rw [String.length_append, String.length_append] at length
  have slash : "/".length = 1 := by decide
  omega

theorem Namesake.key_eq {a b : Asking} (h : a.Namesake b) : a.key = b.key :=
  h.elim Lends.key_eq fun h => h.key_eq.symm

theorem Namesake.ne {a b : Asking} (h : a.Namesake b) : a ≠ b :=
  h.elim Lends.ne fun h => h.ne.symm

theorem not_mem_digits {c : Char} (h : ¬c.isDigit = true) (n : Nat) : c ∉ Numeral.digits n :=
  fun mem => h (Numeral.isDigit_of_mem_digits mem)

/-- What stands before the server in one text and ends the like in another is a user name with a
part more before it, on the same device. -/
theorem user_of_deviceText {part : List Char} {a b : Jid}
    (h : b.user.toList ++ Jid.deviceText b.device =
      part ++ '/' :: (a.user.toList ++ Jid.deviceText a.device)) :
    b.user.toList = part ++ '/' :: a.user.toList ∧ b.device = a.device := by
  obtain ⟨_, hb⟩ := Jid.not_mem_of_isUserName b.user_clean
  obtain ⟨_, ha⟩ := Jid.not_mem_of_isUserName a.user_clean
  have colon : ∀ n, ':' ∉ Numeral.digits n := not_mem_digits (by decide)
  have slash : ∀ n, '/' ∉ Numeral.digits n := not_mem_digits (by decide)
  cases device : b.device with
  | none =>
    rw [device] at h
    have user : b.user.toList = part ++ '/' :: (a.user.toList ++ Jid.deviceText a.device) := by
      simpa [Jid.deviceText] using h
    cases device' : a.device with
    | none =>
      rw [device'] at user
      simpa [Jid.deviceText] using user
    | some d =>
      rw [device'] at user
      exact absurd (by simp [user, Jid.deviceText]) hb
  | some e =>
    rw [device] at h
    cases device' : a.device with
    | none =>
      rw [device'] at h
      simp only [Jid.deviceText, List.append_nil] at h
      -- the colon stands in the part that is put before, so the slash would stand in the number
      have mem : ':' ∈ part ++ '/' :: a.user.toList := h ▸ by simp
      have inside : ':' ∈ part := by simpa [ha] using mem
      obtain ⟨left, right, rfl⟩ := List.append_of_mem inside
      rw [List.append_assoc, List.cons_append,
        List.append_cons_inj_of_notMem hb (colon e.toNat)] at h
      exact absurd (by simp [h.2.2]) (slash e.toNat)
    | some d =>
      rw [device'] at h
      simp only [Jid.deviceText] at h
      rw [← List.cons_append, ← List.append_assoc,
        List.append_cons_inj_of_notMem hb (colon e.toNat)] at h
      obtain ⟨user, _, digits⟩ := h
      have same : e.toNat = d.toNat := by
        rw [← Numeral.value_digits e.toNat, digits, Numeral.value_digits]
      exact ⟨user, congrArg some (UInt16.toNat.inj same)⟩

/-- A text of an address at the end of another one, after a slash. -/
theorem lends_of_chars {part : List Char} {a b : Asking}
    (id : a.id.toList = b.id.toList ++ '/' :: part)
    (h : b.requester.chars = part ++ '/' :: a.requester.chars) : a.Lends b := by
  obtain ⟨hb, _⟩ := Jid.not_mem_of_isUserName b.requester.user_clean
  have at_server : ∀ server : Server, '@' ∉ server.text.toList := by
    intro server
    cases server <;> decide
  have at_device : ∀ device, '@' ∉ Jid.deviceText device := by
    intro device
    cases device with
    | none => simp [Jid.deviceText]
    | some d => simpa [Jid.deviceText] using not_mem_digits (by decide) d.toNat
  have before_at : '@' ∉ b.requester.user.toList ++ Jid.deviceText b.requester.device := by
    simpa using ⟨hb, at_device _⟩
  simp only [Jid.chars] at h
  rw [← List.cons_append, ← List.append_assoc part,
    List.append_cons_inj_of_notMem before_at (at_server _)] at h
  obtain ⟨before, _, server⟩ := h
  obtain ⟨user, device⟩ := user_of_deviceText before
  have read := congrArg Server.parse? (String.toList_injective server)
  rw [Server.parse?_text, Server.parse?_text] at read
  refine ⟨String.ofList part, ?_, ?_, Option.some.inj read, device⟩
  · exact String.toList_injective (by simpa using id)
  · exact String.toList_injective (by simpa using user)

theorem eq_or_lends {rest : List Char} {a b : Asking} (id : a.id.toList = b.id.toList ++ rest)
    (h : '/' :: b.requester.chars = rest ++ '/' :: a.requester.chars) : a = b ∨ a.Lends b := by
  cases rest with
  | nil =>
    obtain ⟨_, chars⟩ := List.cons.inj h
    have requester := Jid.encode_injective (congrArg String.ofList chars)
    rw [List.append_nil] at id
    cases a
    cases b
    exact .inl (congr (congrArg mk (String.toList_injective id)) requester.symm)
  | cons c part =>
    obtain ⟨rfl, chars⟩ := List.cons.inj h
    exact .inr (lends_of_chars id chars)

theorem key_eq_iff {a b : Asking} : a.key = b.key ↔ a = b ∨ a.Namesake b := by
  constructor
  · intro h
    have chars : a.id.toList ++ '/' :: a.requester.chars =
        b.id.toList ++ '/' :: b.requester.chars := by
      simpa [key, ReceiptCounter.key, Jid.encode] using congrArg String.toList h
    rcases List.append_eq_append_iff.mp chars with ⟨rest, id, tail⟩ | ⟨rest, id, tail⟩
    · exact (eq_or_lends id tail).imp Eq.symm .inr
    · exact (eq_or_lends id tail).imp_right .inl
  · rintro (rfl | namesake)
    · rfl
    · exact namesake.key_eq

end Asking

/-- A receipt that is counted, and when. -/
structure Bump where
  asking : Asking
  time : Nat
deriving DecidableEq

namespace ReceiptCounter

open TrackerTable

/-- The receipts under a key whose count has not ended, the latest first. -/
def streakOf (ttl : Nat) (key : String) : Nat → List Bump → List Bump :=
  streak ttl (fun b => b.asking.key = key) Bump.time

/-- What a receipt counts after earlier ones: those of its streak, and itself. -/
def countAfter (ttl : Nat) (past : List Bump) (b : Bump) : Nat :=
  (streakOf ttl b.asking.key b.time past).length + 1

/-- What receipts write, the latest first. -/
def deeds (ttl : Nat) : List Bump → List (Deed String Nat)
  | [] => []
  | b :: past => .wrote b.asking.key (countAfter ttl past b) b.time :: deeds ttl past

theorem valueAt_deeds (ttl : Nat) (past : List Bump) (key : String) (now : Nat) :
    (valueAt ttl (deeds ttl past) key now).getD 0 = (streakOf ttl key now past).length := by
  induction past with
  | nil => rfl
  | cons b past ih =>
    unfold streakOf
    by_cases same : b.asking.key = key
    · rw [streak_of_own (by simpa using same), deeds, valueAt, lastWrite, if_pos same]
      by_cases lasts : now < b.time + ttl
      · simp [lasts, countAfter, streakOf, same]
      · simp [lasts]
    · rw [streak_of_other (by simpa using same), deeds, valueAt, lastWrite, if_neg same]
      exact ih

/-- The new count is that of the streak, however much of the table was swept. -/
theorem bump_of_tracks {t : ReceiptCounter} {past : List Bump} {b : Bump}
    (h : Tracks t (deeds t.ttl past) b.time) :
    (t.bump b.asking.id b.asking.requester b.time).1 = countAfter t.ttl past b ∧
      Tracks (t.bump b.asking.id b.asking.requester b.time).2 (deeds t.ttl (b :: past)) b.time ∧
      (t.bump b.asking.id b.asking.requester b.time).2.ttl = t.ttl := by
  have counted : (valueAt t.ttl (deeds t.ttl past) (ReceiptCounter.key b.asking.id
      b.asking.requester) b.time).getD 0 + 1 = countAfter t.ttl past b :=
    congrArg (· + 1) (valueAt_deeds t.ttl past _ b.time)
  rw [bump, h.update_eq, counted]
  exact ⟨rfl, h.sweepIfDue.write _ _, ttl_sweepIfDue t b.time⟩

/-- The counts that one asking is told of in the course of receipts. -/
def countsOf (a : Asking) (t : ReceiptCounter) : List Bump → List Nat
  | [] => []
  | b :: bumps =>
    let bumped := t.bump b.asking.id b.asking.requester b.time
    (if b.asking = a then [bumped.1] else []) ++ countsOf a bumped.2 bumps

/-- The same by the streaks alone. -/
def expectedOf (a : Asking) (ttl : Nat) (past : List Bump) : List Bump → List Nat
  | [] => []
  | b :: bumps =>
    (if b.asking = a then [countAfter ttl past b] else []) ++ expectedOf a ttl (b :: past) bumps

theorem countsOf_eq (a : Asking) {t : ReceiptCounter} {past : List Bump} {now : Nat}
    (h : Tracks t (deeds t.ttl past) now) (bumps : List Bump)
    (ordered : (now :: bumps.map Bump.time).Pairwise (· ≤ ·)) :
    countsOf a t bumps = expectedOf a t.ttl past bumps := by
  induction bumps generalizing t past now with
  | nil => rfl
  | cons b bumps ih =>
    obtain ⟨from_now, ordered⟩ := List.pairwise_cons.mp ordered
    obtain ⟨count, tracks, ttl⟩ := bump_of_tracks (h.wait (from_now b.time List.mem_cons_self))
    rw [← ttl] at tracks
    have rest := ih tracks ordered
    rw [ttl] at rest
    simp only [countsOf, expectedOf, count, rest]

/-- Receipts under other keys change no count. -/
theorem expectedOf_filter (a : Asking) (ttl : Nat) {keep : Bump → Bool} (past bumps : List Bump)
    (h : ∀ b ∈ past ++ bumps, b.asking.key = a.key → keep b = true) :
    expectedOf a ttl (past.filter keep) (bumps.filter keep) = expectedOf a ttl past bumps := by
  induction bumps generalizing past with
  | nil => rfl
  | cons b bumps ih =>
    have rest := ih (b :: past) fun c hc => h c (by simp at hc ⊢; tauto)
    by_cases kept : keep b = true
    · rw [List.filter_cons_of_pos kept] at rest ⊢
      have same : b.asking = a → countAfter ttl (past.filter keep) b = countAfter ttl past b := by
        rintro rfl
        have before : ∀ c ∈ past, decide (c.asking.key = b.asking.key) = true → keep c = true :=
          fun c hc key => h c (List.mem_append_left _ hc) (of_decide_eq_true key)
        exact congrArg (List.length · + 1) (streak_filter before b.time)
      rw [expectedOf, expectedOf, rest]
      by_cases mine : b.asking = a
      · rw [if_pos mine, if_pos mine, same mine]
      · rw [if_neg mine, if_neg mine]
    · have other : ¬b.asking = a := by
        rintro rfl
        exact kept (h b (by simp) rfl)
      rw [List.filter_cons_of_neg kept] at rest ⊢
      rw [expectedOf, if_neg other, rest]
      rfl

/-- The counts of an asking are those of its own receipts, for all courses of receipts of its own
and of some others, exactly if none of these is a namesake. -/
theorem countsOf_own_iff (a : Asking) (others : Asking → Prop) :
    (∀ (ttl : Nat) (bumps : List Bump), (bumps.map Bump.time).Pairwise (· ≤ ·) →
      (∀ b ∈ bumps, b.asking = a ∨ others b.asking) →
      countsOf a (new ttl) bumps =
        countsOf a (new ttl) (bumps.filter fun b => b.asking = a)) ↔
      ∀ b, others b → ¬a.Namesake b := by
  have closed : ∀ (ttl : Nat) (bumps : List Bump), (bumps.map Bump.time).Pairwise (· ≤ ·) →
      countsOf a (new ttl) bumps = expectedOf a ttl [] bumps := by
    intro ttl bumps ordered
    have begun : Tracks (new ttl : ReceiptCounter) (deeds ttl []) 0 := Tracks.new ttl
    refine countsOf_eq a begun bumps (List.pairwise_cons.mpr ⟨?_, ordered⟩)
    intro time _
    exact Nat.zero_le time
  constructor
  · intro own b other namesake
    -- a receipt of the namesake at the same time counts, too
    have counts := own 1 [⟨b, 0⟩, ⟨a, 0⟩] (by simp) (by simp [other])
    rw [closed _ _ (by simp), closed _ _ (by simp [namesake.ne.symm])] at counts
    simp [expectedOf, countAfter, streakOf, streak, namesake.ne.symm, namesake.key_eq] at counts
  · intro apart ttl bumps ordered members
    have fewer : ((bumps.filter fun b => b.asking = a).map Bump.time).Pairwise (· ≤ ·) :=
      ordered.sublist (List.filter_sublist.map Bump.time)
    rw [closed ttl bumps ordered, closed ttl _ fewer]
    refine (expectedOf_filter a ttl [] bumps ?_).symm
    intro b mem key
    rcases members b mem with same | other
    · simpa using same
    · rcases Asking.key_eq_iff.mp key.symm with same | namesake
      · simpa using same.symm
      · exact absurd namesake (apart b.asking other)

/-- A message id with a slash in it. -/
def longId : Asking := ⟨"a/b", .ofUser "c" .individual (by decide)⟩

/-- The same text with the slash in the user name. -/
def longUser : Asking := ⟨"a", .ofUser "b/c" .individual (by decide)⟩

theorem longUser_counts_longId : longId ≠ longUser ∧
    ([⟨longId, 0⟩, ⟨longUser, 0⟩].map Bump.time).Pairwise (· ≤ ·) ∧
    countsOf longUser (new 1) [⟨longId, 0⟩, ⟨longUser, 0⟩] = [2] ∧
    countsOf longUser (new 1) ([⟨longId, 0⟩, ⟨longUser, 0⟩].filter fun b => b.asking = longUser) =
      [1] := by
  decide +kernel

end ReceiptCounter

end Fanout
