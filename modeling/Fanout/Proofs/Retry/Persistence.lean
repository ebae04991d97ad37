import Fanout.Proofs.Rehearsal.Stage
import Fanout.Proofs.Retry.Queue

namespace Fanout

/-- The same message on the same way, after at most as many attempts. -/
structure RetryRecord.Precedes (r r' : RetryRecord) : Prop where
  messageId : r.messageId = r'.messageId
  jid : r.jid = r'.jid
  message : r.message = r'.message
  options : r.options = r'.options
  attemptCount : r.attemptCount ≤ r'.attemptCount

namespace RetryQueue

variable {ω : Type} {host : Host ω} {config : RetryConfig} {home : String} {s t : Held RetryQueue ω}

/-- Whether an action goes through. -/
def succeeds {α : Type} (x : Act (Held RetryQueue ω) α) (s : Held RetryQueue ω) : Bool :=
  x.yields s fun _ _ => true

theorem succeeds_of_ok {α : Type} {x : Act (Held RetryQueue ω) α} {a : α} (h : x s = .ok a t) :
    succeeds x s = true := by
  rw [succeeds, Act.yields, h]

theorem succeeds_of_error {α : Type} {x : Act (Held RetryQueue ω) α} {e : Error}
    (h : x s = .error e t) : succeeds x s = false := by
  rw [succeeds, Act.yields, h]

/-- One call on a queue at home in the store, and whether it went through. The numbers of a record
stay within the words that hold them. -/
inductive Step (host : Host ω) (s : Held RetryQueue ω) : Bool → Held RetryQueue ω → Prop
  | enqueued (r : RetryRecord) (placeless : r.message.hasLocation = false)
    (shallow : r.toJson.depth ≤ Json.deepest) (fits : r.Fits) :
    Step host s (succeeds (enqueueInFlight host r) s) ((enqueueInFlight host r).after s)
  | claimed (id : String) (now : Nat) : Step host s true ⟨(s.own.claim id now).2, s.world⟩
  | failed (id error : String) (now : Nat)
    (fits : ∀ r, ((recordFailure host id error now).after s).own.get? id = some r → r.Fits) :
    Step host s (succeeds (recordFailure host id error now) s)
      ((recordFailure host id error now).after s)
  | removed (id : String) :
    Step host s (succeeds (remove host id) s) ((remove host id).after s)
  | purged (now : Nat) : Step host s (succeeds (purge host now) s) ((purge host now).after s)
  | aside {w : World ω} (away : ∀ key, Houses s.own.home key →
      w.documents.find? key = s.world.documents.find? key) : Step host s true ⟨s.own, w⟩

/-- The life of a queue over a store without a document at its home, and whether all of its calls
went through. -/
inductive Run (host : Host ω) (home : String) : Bool → Held RetryQueue ω → Prop
  | opened {config : RetryConfig} {w w' : World ω} {q : RetryQueue}
      (h : restore host config home w = .ok q w')
      (bare : ∀ key, Storage.startsWith home key = true → w.documents.find? key = none) :
      Run host home true ⟨q, w'⟩
  | step {smooth ok : Bool} {s t : Held RetryQueue ω} (run : Run host home smooth s)
      (step : Step host s ok t) : Run host home (smooth && ok) t

/-- What stands under an id in the table and in the store: the document is the one that the record
or an earlier state of it was written to, and that of the record as it is while all goes well. -/
structure Slot (id : String) (smooth : Bool) (slot : Option RetryRecord) (text : Option String) :
    Prop where
  sound : ∀ r, slot = some r → r.messageId = id ∧ r.Plain ∧ r.Fits
  written : ∀ r, slot = some r → ∃ r' : RetryRecord, r'.Precedes r ∧ r'.Plain ∧ r'.Fits ∧
    text = some r'.toJson.compact
  exact : smooth = true → text = slot.map fun r => r.toJson.compact

namespace Slot

variable {id : String} {smooth : Bool} {r r' : RetryRecord} {text : Option String}

theorem weaken {slot : Option RetryRecord} {smooth' : Bool} (h : Slot id smooth slot text)
    (le : smooth' = true → smooth = true) : Slot id smooth' slot text :=
  ⟨h.sound, h.written, h.exact ∘ le⟩

theorem gone : Slot id false none text :=
  ⟨fun _ h => (nomatch h), fun _ h => (nomatch h), fun smooth => (nomatch smooth)⟩

theorem empty : Slot id smooth none none :=
  ⟨fun _ h => (nomatch h), fun _ h => (nomatch h), fun _ => rfl⟩

theorem fresh (key : r.messageId = id) (plain : r.Plain) (fits : r.Fits) :
    Slot id smooth (some r) (some r.toJson.compact) := by
  refine ⟨fun _ h => ?_, fun _ h => ?_, fun _ => rfl⟩ <;> obtain rfl := Option.some.inj h
  · exact ⟨key, plain, fits⟩
  · exact ⟨r, ⟨rfl, rfl, rfl, rfl, Nat.le_refl _⟩, plain, fits, rfl⟩

/-- A document does not tell whether somebody is delivering. -/
theorem taken (h : Slot id smooth (some r) text) :
    Slot id smooth (some { r with inFlight := true }) text := by
  obtain ⟨key, plain, fits⟩ := h.sound r rfl
  refine ⟨fun _ h => ?_, fun _ found => ?_, h.exact⟩
  · obtain rfl := Option.some.inj h
    exact ⟨key, ⟨plain.placeless, plain.shallow⟩, fits.taken⟩
  · obtain rfl := Option.some.inj found
    obtain ⟨r', precedes, plain', fits', same⟩ := h.written r rfl
    exact ⟨r', ⟨precedes.messageId, precedes.jid, precedes.message, precedes.options,
      precedes.attemptCount⟩, plain', fits', same⟩

theorem booked {config : RetryConfig} {error : String} {now : Nat}
    (h : Slot id smooth (some r) text)
    (fails : Fails config error now r r') (fits : r'.Fits) : Slot id false (some r') text := by
  obtain ⟨key, plain, _⟩ := h.sound r rfl
  obtain ⟨r₀, precedes, plain₀, fits₀, same⟩ := h.written r rfl
  have later : r₀.attemptCount ≤ r.attemptCount + 1 := Nat.le_succ_of_le precedes.attemptCount
  refine ⟨fun _ h => ?_, fun _ h => ?_, fun smooth => (nomatch smooth)⟩ <;>
    obtain rfl := Option.some.inj h
  · cases fails <;> exact ⟨key, ⟨plain.placeless, plain.shallow⟩, fits⟩
  · refine ⟨r₀, ?_, plain₀, fits₀, same⟩
    cases fails <;>
      exact ⟨precedes.messageId, precedes.jid, precedes.message, precedes.options, later⟩

theorem rewritten {config : RetryConfig} {error : String} {now : Nat}
    (h : Slot id smooth (some r) text) (fails : Fails config error now r r') (fits : r'.Fits) :
    Slot id smooth (some r') (some r'.toJson.compact) := by
  obtain ⟨key, plain, _⟩ := h.sound r rfl
  cases fails <;> exact fresh key ⟨plain.placeless, plain.shallow⟩ fits

end Slot

structure Mirrored (start : String) (smooth : Bool) (s : Held RetryQueue ω) : Prop where
  home : s.own.home = some start
  slots : ∀ id, Slot id smooth (s.own.get? id) (s.world.documents.find? (start ++ id))

namespace Mirrored

variable {smooth : Bool} {start : String}

theorem weaken {smooth' : Bool} (m : Mirrored start smooth s) (own : t.own = s.own)
    (documents : t.world.documents = s.world.documents) (le : smooth' = true → smooth = true) :
    Mirrored start smooth' t := by
  refine ⟨own ▸ m.home, fun id => ?_⟩
  rw [own, documents]
  exact (m.slots id).weaken le

theorem keyed (m : Mirrored start smooth s) : s.own.Keyed :=
  fun id r found => ((m.slots id).sound r found).1

/-- A change under one id. -/
theorem change {smooth' : Bool} (m : Mirrored start smooth s) (home : t.own.home = s.own.home)
    (id : String) (others : ∀ other, id ≠ other → t.own.get? other = s.own.get? other ∧
      t.world.documents.find? (start ++ other) = s.world.documents.find? (start ++ other))
    (le : smooth' = true → smooth = true)
    (slot : Slot id smooth' (t.own.get? id) (t.world.documents.find? (start ++ id))) :
    Mirrored start smooth' t := by
  refine ⟨home.trans m.home, fun other => ?_⟩
  by_cases same : id = other
  · exact same ▸ slot
  · obtain ⟨table, document⟩ := others other same
    rw [table, document]
    exact (m.slots other).weaken le

theorem enqueued (m : Mirrored start smooth s) {r : RetryRecord}
    (plain : r.Plain) (fits : r.Fits) :
    Mirrored start (smooth && succeeds (enqueueInFlight host r) s)
      ((enqueueInFlight host r).after s) := by
  rcases enqueueInFlight_cases host r s with ⟨w, h, wrote⟩ | ⟨e, w, h, same, _⟩
  · rw [m.home] at wrote
    rw [Act.after_of_ok h, succeeds_of_ok h, Bool.and_true]
    refine m.change rfl r.messageId (fun other ne => ⟨?_, ?_⟩) id ?_
    · rw [get?_put, if_neg ne]
    · rw [wrote, filed_other ne]
    · rw [get?_put, if_pos rfl, wrote, filed_own]
      exact (Slot.fresh rfl plain fits).taken
  · rw [Act.after_of_error h, succeeds_of_error h, Bool.and_false]
    exact m.weaken rfl same fun smooth => (nomatch smooth)

theorem claimed (m : Mirrored start smooth s) (id : String) (now : Nat) :
    Mirrored start smooth ⟨(s.own.claim id now).2, s.world⟩ := by
  cases found : s.own.get? id with
  | none =>
    rw [claim, found]
    exact m
  | some r =>
    by_cases due : r.isDue now = true
    · have key := m.keyed id r found
      subst key
      simp only [claim, found, due, if_true]
      refine m.change rfl r.messageId (fun other ne => ⟨?_, rfl⟩) (fun h => h) ?_
      · exact (get?_put _ _ _).trans (if_neg ne)
      · have slot := m.slots r.messageId
        rw [found] at slot
        rw [get?_put, if_pos rfl]
        exact slot.taken
    · simp only [claim, found, due]
      exact m

theorem failed (m : Mirrored start smooth s) {id error : String} {now : Nat}
    (fits : ∀ r, ((recordFailure host id error now).after s).own.get? id = some r → r.Fits) :
    Mirrored start (smooth && succeeds (recordFailure host id error now) s)
      ((recordFailure host id error now).after s) := by
  cases found : s.own.get? id with
  | none =>
    have h : recordFailure host id error now s = .ok none s := recordFailure_of_none found
    rw [Act.after_of_ok h, succeeds_of_ok h, Bool.and_true]
    exact m
  | some r =>
    obtain ⟨r', fails, ends⟩ := recordFailure_of_some host error now found
    have slot := m.slots id
    have key : r'.messageId = id := by
      have key := m.keyed id r found
      cases fails <;> exact key
    rw [found] at slot
    rcases ends with ⟨w, h, wrote⟩ | ⟨e, w, h, same, _⟩
    · rw [m.home] at wrote
      rw [Act.after_of_ok h] at fits
      rw [Act.after_of_ok h, succeeds_of_ok h, Bool.and_true]
      have fits' := fits r' (by rw [get?_put, if_pos key])
      refine m.change rfl id (fun other ne => ⟨?_, ?_⟩) (fun h => h) ?_
      · rw [get?_put, if_neg (key ▸ ne)]
      · rw [wrote, filed_other (key ▸ ne)]
      · rw [get?_put, if_pos key, wrote, ← key, filed_own]
        exact key ▸ slot.rewritten fails fits'
    · rw [Act.after_of_error h] at fits
      rw [Act.after_of_error h, succeeds_of_error h, Bool.and_false]
      have fits' := fits r' (by rw [get?_put, if_pos key])
      refine m.change rfl id (fun other ne => ⟨?_, ?_⟩) (fun smooth => (nomatch smooth)) ?_
      · rw [get?_put, if_neg (key ▸ ne)]
      · rw [same]
      · rw [get?_put, if_pos key, same]
        exact slot.booked fails fits'

theorem removed (m : Mirrored start smooth s) (id : String) :
    Mirrored start (smooth && succeeds (remove host id) s) ((remove host id).after s) := by
  cases found : s.own.get? id with
  | none =>
    have h : remove host id s = .ok none s := remove_of_none found
    rw [Act.after_of_ok h, succeeds_of_ok h, Bool.and_true]
    exact m
  | some r =>
    rcases remove_of_some host found with ⟨w, h, wrote⟩ | ⟨e, w, h, same, _⟩
    · rw [m.home] at wrote
      rw [Act.after_of_ok h, succeeds_of_ok h, Bool.and_true]
      refine m.change rfl id (fun other ne => ⟨?_, ?_⟩) (fun h => h) ?_
      · rw [get?_drop, if_neg ne]
      · rw [wrote, unfiled_other ne]
      · rw [get?_drop, if_pos rfl, wrote, unfiled_own]
        exact .empty
    · rw [Act.after_of_error h, succeeds_of_error h, Bool.and_false]
      refine m.change rfl id (fun other ne => ⟨?_, ?_⟩) (fun smooth => (nomatch smooth)) ?_
      · rw [get?_drop, if_neg ne]
      · rw [same]
      · rw [get?_drop, if_pos rfl]
        exact .gone

theorem purged (m : Mirrored start smooth s) (now : Nat) :
    Mirrored start (smooth && succeeds (purge host now) s) ((purge host now).after s) := by
  -- what is deleted of the documents is of records that are dropped
  have kept : ∀ id r, (s.own.fresh now).get? id = some r →
      s.own.get? id = some r ∧ id ∉ s.own.expired now := by
    intro id r h
    rw [get?_fresh, Option.filter_eq_some_iff] at h
    refine ⟨h.1, fun old => ?_⟩
    obtain ⟨r', found, expired⟩ := (mem_expired m.keyed).mp old
    obtain rfl := Option.some.inj (h.1.symm.trans found)
    simp [expired] at h
  rcases purge_cases host now s with ⟨w, h, gone⟩ | ⟨e, w, some, h, part, gone, _⟩
  · rw [m.home] at gone
    rw [Act.after_of_ok h, succeeds_of_ok h, Bool.and_true]
    refine ⟨m.home, fun id => ?_⟩
    rw [gone, find?_foldl_unfiled]
    cases found : (s.own.fresh now).get? id with
    | some r =>
      obtain ⟨before, kept⟩ := kept id r found
      rw [if_neg kept, ← before]
      exact m.slots id
    | none =>
      split
      next => exact .empty
      next stays =>
        have absent : s.own.get? id = none := by
          by_contra present
          obtain ⟨r, hr⟩ := Option.ne_none_iff_exists'.mp present
          rw [get?_fresh, hr, Option.filter_eq_none_iff] at found
          exact stays ((mem_expired m.keyed).mpr ⟨r, hr, by simpa using found r rfl⟩)
        rw [← absent]
        exact m.slots id
  · rw [m.home] at gone
    rw [Act.after_of_error h, succeeds_of_error h, Bool.and_false]
    refine ⟨m.home, fun id => ?_⟩
    rw [gone, find?_foldl_unfiled]
    cases found : (s.own.fresh now).get? id with
    | some r =>
      obtain ⟨before, kept⟩ := kept id r found
      rw [if_neg fun deleted => kept (part.subset deleted), ← before]
      exact (m.slots id).weaken fun smooth => (nomatch smooth)
    | none => exact .gone

theorem step {ok : Bool} (m : Mirrored start smooth s) (step : Step host s ok t) :
    Mirrored start (smooth && ok) t := by
  cases step with
  | enqueued r placeless shallow fits => exact m.enqueued (.of_depth placeless shallow) fits
  | claimed id now =>
    rw [Bool.and_true]
    exact m.claimed id now
  | failed id error now fits => exact m.failed fits
  | removed id => exact m.removed id
  | purged now => exact m.purged now
  | aside away =>
    rw [Bool.and_true]
    refine ⟨m.home, fun id => ?_⟩
    rw [away _ (houses_append m.home id)]
    exact m.slots id

end Mirrored

theorem Run.mirrored {smooth : Bool} (run : Run host home smooth s) : Mirrored home smooth s := by
  induction run with
  | opened h bare =>
    obtain ⟨_, atHome, same, _⟩ := restore_eq_ok h
    refine ⟨atHome, fun id => ?_⟩
    have nothing := (restore_get? h id).1.mpr fun r mem => by
      obtain ⟨key, housed, read⟩ := mem_recordsFrom.mp mem
      rw [recordAt?, bare key housed] at read
      cases read
    rw [nothing, same, bare _ (Storage.startsWith_iff.mpr ⟨id, rfl⟩)]
    exact .empty
  | step _ step m => exact m.step step

theorem Slot.restored {id : String} {slot : Option RetryRecord} {text : Option String}
    (h : Slot id true slot text) :
    text.bind RetryRecord.ofText? = slot.map fun r => { r with inFlight := false } := by
  rw [h.exact rfl]
  cases found : slot with
  | none => rfl
  | some r =>
    obtain ⟨_, plain, fits⟩ := h.sound r found
    rw [Option.map_some, Option.bind_some, Option.map_some, plain.ofText?_compact fits]

/-- What any queue that is opened over the documents of a table finds there. -/
theorem Mirrored.restored {ω' : Type} {host' : Host ω'} {w w' : World ω'} {q : RetryQueue}
    (m : Mirrored home true s) (same : w.documents = s.world.documents)
    (h : restore host' config home w = .ok q w') :
    q.records = s.own.records.mapValues fun r => { r with inFlight := false } := by
  have read : ∀ id, recordAt? w.documents (home ++ id) =
      (s.own.get? id).map fun r => { r with inFlight := false } := by
    intro id
    rw [recordAt?, same]
    exact (m.slots id).restored
  have listed : ∀ r, r ∈ recordsFrom home w.documents ↔
      ∃ id r', s.own.get? id = some r' ∧ { r' with inFlight := false } = r := by
    intro r
    rw [mem_recordsFrom]
    constructor
    · rintro ⟨key, housed, found⟩
      obtain ⟨rest, rfl⟩ := Storage.startsWith_iff.mp housed
      rw [read] at found
      obtain ⟨r', there, rfl⟩ := Option.map_eq_some_iff.mp found
      exact ⟨_, r', there, rfl⟩
    · rintro ⟨id, r', there, rfl⟩
      refine ⟨home ++ id, Storage.startsWith_iff.mpr ⟨id, rfl⟩, ?_⟩
      rw [read, there]
      rfl
  refine Dict.ext_find? fun id => ?_
  rw [Dict.find?_mapValues]
  obtain ⟨absent, present⟩ := restore_get? h id
  cases found : q.get? id with
  | none =>
    have missing : s.own.get? id = none := by
      by_contra there
      obtain ⟨r, hr⟩ := Option.ne_none_iff_exists'.mp there
      exact absent.mp found _ ((listed _).mpr ⟨id, r, hr, rfl⟩) (m.keyed id r hr)
    rw [get?] at missing found
    rw [missing, found, Option.map_none]
  | some r =>
    obtain ⟨mem, key⟩ := present r found
    obtain ⟨id', r', there, rfl⟩ := (listed r).mp mem
    obtain rfl : id' = id := (m.keyed id' r' there).symm.trans key
    rw [get?] at there found
    rw [there, found, Option.map_some]

theorem Run.mirrors_table {smooth : Bool} (run : Run host home smooth s) :
    (∀ id r, s.own.get? id = some r → ∃ text r', s.world.documents.find? (home ++ id) = some text ∧
      (Json.parse? text).bind RetryRecord.ofJson? = some r' ∧ r'.messageId = id ∧ r'.Precedes r) ∧
    (smooth = true → ∀ {ω' : Type} (host' : Host ω') (config : RetryConfig) (start : ω'),
      host'.Reads → ∃ q w, restore host' config home ⟨s.world.documents, start⟩ = .ok q w ∧
        q.records = s.own.records.mapValues fun r => { r with inFlight := false }) := by
  have m := run.mirrored
  refine ⟨fun id r found => ?_, fun well ω' host' config start reads => ?_⟩
  · obtain ⟨r', precedes, plain, fits, document⟩ := (m.slots id).written r found
    have key : r'.messageId = id := precedes.messageId.trans (m.keyed id r found)
    refine ⟨_, _, document, plain.ofText?_compact fits, key, ?_⟩
    exact ⟨precedes.messageId, precedes.jid, precedes.message, precedes.options,
      precedes.attemptCount⟩
  · subst well
    obtain ⟨q, w, h⟩ := restore_of_reads reads config home ⟨s.world.documents, start⟩
    exact ⟨q, w, h, m.restored (w := ⟨s.world.documents, start⟩) rfl h⟩

/-- A greeting that nobody has sent yet. -/
def greeting : RetryRecord := .new "1" Stage.chat (.text "hi") { messageId := some "1" } 0

theorem mirrors_greeting : ∃ s : Held RetryQueue Stage, Run Stage.smooth "v1/retry-queue/" true s ∧
    s.own.get? "1" = some { greeting with inFlight := true } ∧ ∃ q w,
      restore Stage.smooth {} "v1/retry-queue/" ⟨s.world.documents, Stage.opening⟩ = .ok q w ∧
        q.records = s.own.records.mapValues fun r => { r with inFlight := false } := by
  have reliable : Stage.smooth.Reliable := fun _ _ => rfl
  obtain ⟨q, w, h⟩ := restore_of_reads reliable.reads {} "v1/retry-queue/" ⟨∅, Stage.opening⟩
  have run : Run Stage.smooth "v1/retry-queue/" true ⟨q, w⟩ := .opened h fun _ _ => rfl
  have fits : greeting.Fits := .new (Nat.two_pow_pos 64) _ _ _ _
  have next := run.step (.enqueued greeting rfl (by decide) fits)
  rcases enqueueInFlight_cases Stage.smooth greeting ⟨q, w⟩ with ⟨w', ok, _⟩ | ⟨_, _, _, _, refused⟩
  · rw [Act.after_of_ok ok, succeeds_of_ok ok] at next
    refine ⟨_, next, ?_, next.mirrors_table.2 rfl Stage.smooth {} Stage.opening reliable.reads⟩
    exact (get?_put _ _ _).trans (if_pos rfl)
  · exact absurd reliable refused

end RetryQueue

end Fanout
