import Fanout.Proofs.Cipher.States
import Fanout.Proofs.Host.Watched

namespace Fanout

variable {ω : Type} {host : Host ω} {log : ω → List Observation}

def Host.unopening (host : Host ω) : Host ω :=
  { host with cipher := { host.cipher with
      initiate := fun _ _ => throw (.crypto "no session is opened") } }

/-- No session was opened on the way from one state to another. -/
def Unopened (log : ω → List Observation) (s t : ω) : Prop :=
  (log t).filter Observation.isOpening = (log s).filter Observation.isOpening

instance : IsPreorder ω (Unopened log) where
  refl _ := rfl
  trans _ _ _ h h' := Eq.trans h' h

theorem Unopened.of_eq {s t : ω} (same : log t = log s) : Unopened log s t :=
  congrArg (List.filter Observation.isOpening) same

theorem Unopened.of_append {s t : ω} {events : List Observation} (grown : log t = log s ++ events)
    (other : ∀ event ∈ events, event.isOpening = false) : Unopened log s t := by
  have unopened : events.filter Observation.isOpening = [] :=
    List.filter_eq_nil_iff.mpr fun event mem => by simp [other event mem]
  rw [Unopened, grown, List.filter_append, unopened, List.append_nil]

theorem Unopened.isOpening_eq_false {s t : ω} {events : List Observation} (h : Unopened log s t)
    (grown : log t = log s ++ events) : ∀ event ∈ events, event.isOpening = false := by
  rw [Unopened, grown, List.filter_append, List.append_right_eq_self,
    List.filter_eq_nil_iff] at h
  exact fun event mem => Bool.eq_false_of_not_eq_true (h event mem)

/-- The log of a host shows an opening only where its cipher opened a session. -/
structure Host.BooksOpenings (host : Host ω) (log : ω → List Observation) : Prop where
  keeps : host.unopening.Keeps (Unopened log)
  send : ∀ n s, (host.send n s).Keeps (Unopened log) s

theorem Host.BooksOpenings.recording (h : host.BooksOpenings log) :
    host.recording.BooksOpenings fun s => log s.inner where
  keeps := h.keeps.recording
  send n s := (h.send n s.inner).recorded

theorem Host.watching_booksOpenings (host : Host ω) :
    host.watching.BooksOpenings Watched.log := by
  have quiet : ∀ {α : Type} {note : α → List Observation},
      (∀ a, ∀ event ∈ note a, event.isOpening = false) → ∀ x : Act ω α,
        (Watched.lift note x).Keeps (Unopened Watched.log) := fun other x =>
    Watched.lift_keeps (fun _ _ => .of_eq) (fun a _ _ grown => .of_append grown (other a)) x
  exact
    { keeps :=
        { refuses := fun _ _ => .of_eq rfl
          query := fun _ => quiet (by simp [Observation.isOpening]) _
          clock := fun _ => .of_eq rfl
          noise := fun _ => .of_eq rfl
          cipher :=
            { initiate := fun _ _ => Act.Keeps.throw _
              encrypt := fun _ _ _ => quiet (by simp [Observation.isOpening]) _
              decrypt := fun _ _ _ => quiet (by simp) _
              distribution := fun _ _ => quiet (by simp) _
              groupEncrypt := fun _ _ _ => quiet (by simp) _
              acceptDistribution := fun _ _ _ => quiet (by simp) _
              groupDecrypt := fun _ _ _ => quiet (by simp) _ } }
      send := fun n w => (host.send n w.inner).watched_keeps (fun _ _ => .of_eq) w }

theorem Cipher.Rehearses.watching {cipher : Cipher ω} (h : cipher.Rehearses) :
    cipher.watching.Rehearses where
  initiate made := h.initiate (Watched.inner_eq_ok made)
  encrypt written := h.encrypt (Watched.inner_eq_ok written)

theorem Cipher.Rehearses.recording {cipher : Cipher ω} (h : cipher.Rehearses) :
    cipher.recording.Rehearses where
  initiate made := h.initiate (Recorded.lift_eq_ok made)
  encrypt written := h.encrypt (Recorded.lift_eq_ok written)

end Fanout
