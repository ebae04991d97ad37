import Fanout.Proofs.Credentials
import Fanout.Proofs.Jid.Text
import Fanout.Proofs.Rehearsal.Stage
import Fanout.Proofs.Storage

namespace Fanout.Credentials

variable {ω : Type} {host : Host ω}

@[simp] theorem regular_toJson (c : Credentials) : c.toJson.Regular := by
  cases h : c.meLid <;> simp [toJson, Json.member?, h]

@[simp] theorem ofJson?_toJson (c : Credentials) : ofJson? c.toJson = some c := by
  obtain ⟨me, meLid, identity⟩ := c
  cases meLid <;>
    simp [toJson, ofJson?, Json.member?, Json.ofMembers, Json.fields, Json.member1?]

/-- What is held is what the document reads as. -/
def Mirrored (s : Held Credentials ω) : Prop :=
  Storage.peek? ofJson? s.world.documents key = some (some s.own)

theorem mirrored_of_document {s : Held Credentials ω}
    (there : s.world.documents.find? key = some s.own.toJson.compact) : Mirrored s := by
  simp [Mirrored, Storage.peek?, there, Json.parse?_compact s.own.regular_toJson]

theorem Mirrored.congr {s t : Held Credentials ω} (h : Mirrored s) (own : t.own = s.own)
    (kept : t.world.documents.find? key = s.world.documents.find? key) : Mirrored t := by
  rwa [Mirrored, own, Storage.peek?, kept]

/-- What the edits of a caller come to: none of them is proposed unless all go through. -/
def edited (edits : Act Credentials Unit) (c : Credentials) : Except Error Credentials :=
  match edits c with
  | .ok _ next => .ok next
  | .error e _ => .error e

inductive Call where
  | update (edits : Act Credentials Unit)
  | save

def Call.run (host : Host ω) : Call → Act (Held Credentials ω) Bool
  | .update edits => Credentials.update host (edited edits)
  | .save => Credentials.save host

theorem Call.run_apart (host : Host ω) (call : Call) : (call.run host).Keeps Apart := by
  cases call with
  | update edits => exact update_apart (edited edits)
  | save => exact save_keeps_apart

/-- The credentials that a call is to write, if it comes to that. -/
def Call.proposal : Call → Credentials → Except Error Credentials
  | .update edits => edited edits
  | .save => .ok

/-- How a call ends that is to write what is proposed. -/
structure Settles (host : Host ω) (proposal : Except Error Credentials) (s : Held Credentials ω)
    (committed : Bool) (t : Held Credentials ω) : Prop where
  committed_iff : committed = true ↔
    (∃ next, proposal = .ok next) ∧ (host.refuses (.put key) s.world.host).1 = none
  dropped : committed = false → t.own = s.own ∧ t.world.documents = s.world.documents
  kept : committed = true → proposal = .ok t.own ∧
    t.world.documents = s.world.documents.insert key t.own.toJson.compact

theorem write_cases (host : Host ω) (next : Credentials) (s : Held Credentials ω) :
    (∃ w, Held.inWorld (Storage.save host key next.toJson) s = .ok () ⟨s.own, w⟩ ∧
      Settles host (.ok next) s true ⟨next, w⟩) ∨
    ∃ e w, Held.inWorld (Storage.save host key next.toJson) s = .error e ⟨s.own, w⟩ ∧
      Settles host (.ok next) s false ⟨s.own, w⟩ := by
  cases written : Storage.save host key next.toJson s.world with
  | ok _ w =>
    obtain ⟨allowed, there⟩ := Storage.put_eq_ok written
    refine .inl ⟨w, Act.zoom_eq_ok.mpr ⟨w, written, rfl⟩, by simp [allowed], nofun, fun _ => ?_⟩
    exact ⟨rfl, by rw [there]⟩
  | error e w =>
    obtain ⟨refused, unchanged⟩ := Storage.put_eq_error written
    refine .inr ⟨e, w, Act.zoom_eq_error.mpr ⟨w, written, rfl⟩, by simp [refused], fun _ => ?_,
      nofun⟩
    exact ⟨rfl, by rw [unchanged]⟩

theorem save_settles (host : Host ω) (s : Held Credentials ω) :
    ∃ committed t, save host s = .ok committed t ∧ Settles host (.ok s.own) s committed t := by
  have goes_on : (do Held.inWorld (Storage.save host key (← Held.getOwn).toJson) :
      Act (Held Credentials ω) Unit) s = Held.inWorld (Storage.save host key s.own.toJson) s :=
    Act.bind_of_ok (a := s.own) (u := s) rfl
  rcases write_cases host s.own s with ⟨w, written, settles⟩ | ⟨e, w, refused, settles⟩
  · exact ⟨true, _, Act.bind_of_ok (Act.guarded_of_ok (goes_on.trans written)), settles⟩
  · exact ⟨false, _, Act.bind_of_ok (Act.guarded_of_error (goes_on.trans refused)), settles⟩

theorem update_settles (host : Host ω) (change : Credentials → Except Error Credentials)
    (s : Held Credentials ω) : ∃ committed t, update host change s = .ok committed t ∧
      Settles host (change s.own) s committed t := by
  let attempted : Act (Held Credentials ω) Unit := do
    let next ← Act.ofExcept (change (← Held.getOwn))
    Held.inWorld (Storage.save host key next.toJson)
    Held.setOwn next
  cases proposed : change s.own with
  | error e =>
    have failed : attempted s = .error e s := by
      change (Act.ofExcept (change s.own) >>= _) s = _
      rw [proposed]
      rfl
    refine ⟨false, s, Act.bind_of_ok (Act.guarded_of_error failed), by simp, fun _ => ?_, nofun⟩
    exact ⟨rfl, rfl⟩
  | ok next =>
    have goes_on : attempted s = (do
        Held.inWorld (Storage.save host key next.toJson)
        Held.setOwn next : Act (Held Credentials ω) Unit) s :=
      Act.ofExcept_bind_of_ok proposed s
    rcases write_cases host next s with ⟨w, written, settles⟩ | ⟨e, w, refused, settles⟩
    · have done : attempted s = .ok () ⟨next, w⟩ := goes_on.trans (Act.bind_of_ok written)
      exact ⟨true, _, Act.bind_of_ok (Act.guarded_of_ok done), settles⟩
    · have failed : attempted s = .error e ⟨s.own, w⟩ := goes_on.trans (Act.bind_of_error refused)
      exact ⟨false, _, Act.bind_of_ok (Act.guarded_of_error failed), settles⟩

theorem Call.settles (host : Host ω) (call : Call) (s : Held Credentials ω) :
    ∃ committed t, call.run host s = .ok committed t ∧
      Settles host (call.proposal s.own) s committed t := by
  cases call with
  | update edits => exact update_settles host (edited edits) s
  | save => exact save_settles host s

theorem Settles.mirrored {proposal : Except Error Credentials} {s t : Held Credentials ω}
    {committed : Bool} (h : Settles host proposal s committed t)
    (before : committed = false → Mirrored s) : Mirrored t := by
  cases committed with
  | false =>
    obtain ⟨own, documents⟩ := h.dropped rfl
    exact (before rfl).congr own (congrArg (Dict.find? · key) documents)
  | true =>
    obtain ⟨_, written⟩ := h.kept rfl
    refine mirrored_of_document ?_
    rw [written, Dict.find?_insert, if_pos rfl]

/-- The life of the credentials that are held, and whether they were read from the store or written
to it so far. The rest of the world goes on meanwhile and may break the store and mend it, but it
leaves their document alone. -/
inductive Run (host : Host ω) : Bool → Held Credentials ω → Prop
  | start (s : Held Credentials ω) : Run host false s
  | loaded {w w' : World ω} {c : Credentials} (found : load host w = .ok (some c) w') :
    Run host true ⟨c, w'⟩
  | call {saved committed : Bool} {s t : Held Credentials ω} (run : Run host saved s) (call : Call)
    (done : call.run host s = .ok committed t) : Run host (saved || committed) t
  | aside {saved : Bool} {s : Held Credentials ω} {w : World ω} (run : Run host saved s)
    (away : w.documents.find? key = s.world.documents.find? key) : Run host saved ⟨s.own, w⟩

theorem Run.mirrored {saved : Bool} {s : Held Credentials ω} (run : Run host saved s)
    (written : saved = true) : Mirrored s := by
  induction run with
  | start => cases written
  | loaded found =>
    obtain ⟨asked, there⟩ := Storage.load_eq_ok found
    obtain ⟨_, rfl⟩ := Storage.allow_eq_ok.mp asked
    exact there
  | call run call done ih =>
    obtain ⟨committed, t, ended, settles⟩ := call.settles host _
    rw [done] at ended
    cases ended
    refine settles.mirrored fun dropped => ih ?_
    rwa [dropped, Bool.or_false] at written
  | aside run away ih => exact (ih written).congr rfl away

/-- A call goes well exactly if its edits and its write do, and then what was edited is held and
stored. Otherwise all is as it was. Once a write went well, the store yields what is held. -/
theorem updates_transactional {saved : Bool} {s : Held Credentials ω} (run : Run host saved s) :
    (∀ call : Call, ∃ committed t, call.run host s = .ok committed t ∧
      Settles host (call.proposal s.own) s committed t) ∧
    (saved = true → ∀ (reader : Host ω) (now : ω), (reader.refuses (.get key) now).1 = none →
      ∃ later, load reader ⟨s.world.documents, now⟩ =
        .ok (some s.own) ⟨s.world.documents, later⟩) := by
  refine ⟨fun call => call.settles host s, fun written reader now allowed => ?_⟩
  exact ⟨_, Storage.load_of_allowed allowed (run.mirrored written)⟩

/-- We learn our lid. An edit is given up after it was made, the next one is not written since the
disk is full, and the third one stays. -/
theorem lid_learned_at_third : ∃ s : Held Credentials Stage,
    Run Stage.host true s ∧ s.own = ⟨Stage.own, some Stage.ownLid, [7]⟩ ∧
    ∀ now, (Stage.host.refuses (.get key) now).1 = none → ∃ later,
      load Stage.host ⟨s.world.documents, now⟩ = .ok (some s.own) ⟨s.world.documents, later⟩ := by
  let learn : Act Credentials Unit := modify fun c => { c with meLid := some Stage.ownLid }
  let giveUp : Act Credentials Unit := do
    learn
    throw (.storage "given up")
  let full : Stage := { Stage.opening with brokenWrites := some "" }
  let known : Credentials := ⟨Stage.own, none, [7]⟩
  have start : Run Stage.host false ⟨known, ⟨∅, Stage.opening⟩⟩ := .start _
  have first : Run Stage.host false ⟨known, ⟨∅, Stage.opening⟩⟩ :=
    start.call (.update giveUp) rfl
  have second : Run Stage.host false ⟨known, ⟨∅, full⟩⟩ :=
    (first.aside (w := ⟨∅, full⟩) rfl).call (.update learn) rfl
  obtain ⟨s, done, own⟩ : ∃ s, (Call.update learn).run Stage.host ⟨known, ⟨∅, Stage.opening⟩⟩ =
      .ok true s ∧ s.own = ⟨Stage.own, some Stage.ownLid, [7]⟩ := ⟨_, rfl, rfl⟩
  have third := (second.aside (w := ⟨∅, Stage.opening⟩) rfl).call (.update learn) done
  obtain ⟨_, yields⟩ := updates_transactional third
  exact ⟨s, third, own, yields rfl Stage.host⟩

end Fanout.Credentials
