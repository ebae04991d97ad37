import Fanout.Proofs.World.Frame

namespace Fanout

variable {ω α : Type}

structure Handed where
  stanza : Node
  /-- Whether the connection took it. -/
  accepted : Bool

structure Recorded (ω : Type) where
  inner : ω
  /-- The latest stanza last. -/
  handed : List Handed

namespace Recorded

def lift (x : Act ω α) : Act (Recorded ω) α :=
  Act.zoom Recorded.inner (fun s r => { r with inner := s }) x

def SameHanded (s t : Recorded ω) : Prop := t.handed = s.handed

instance : IsPreorder (Recorded ω) SameHanded where
  refl _ := rfl
  trans _ _ _ h h' := Eq.trans h' h

theorem lift_eq_ok {x : Act ω α} {a : α} {s t : Recorded ω} (h : lift x s = .ok a t) :
    x s.inner = .ok a t.inner := by
  obtain ⟨u, done, rfl⟩ := Act.zoom_eq_ok.mp h
  exact done

theorem lift_keeps (x : Act ω α) : (lift x).Keeps SameHanded := by
  intro s
  unfold Act.after lift Act.zoom
  cases x s.inner <;> rfl

end Recorded

/-- The stanza is booked when its sending is over; acknowledgements may come before. -/
def Delivery.recorded (n : Node) (earlier : List Handed) : Delivery ω → Delivery (Recorded ω)
  | .settled outcome s => .settled outcome ⟨s, earlier ++ [⟨n, outcome.isOk⟩]⟩
  | .acknowledged id s next =>
    .acknowledged id ⟨s, earlier⟩ fun answer r => (next answer r.inner).recorded n r.handed

def Cipher.recording (cipher : Cipher ω) : Cipher (Recorded ω) where
  initiate address bundle := Recorded.lift (cipher.initiate address bundle)
  encrypt address session plaintext := Recorded.lift (cipher.encrypt address session plaintext)
  decrypt address session envelope := Recorded.lift (cipher.decrypt address session envelope)
  distribution name record := Recorded.lift (cipher.distribution name record)
  groupEncrypt name record plaintext := Recorded.lift (cipher.groupEncrypt name record plaintext)
  acceptDistribution name record distribution :=
    Recorded.lift (cipher.acceptDistribution name record distribution)
  groupDecrypt name record ciphertext := Recorded.lift (cipher.groupDecrypt name record ciphertext)

def Host.recording (host : Host ω) : Host (Recorded ω) where
  refuses call r :=
    ((host.refuses call r.inner).1, { r with inner := (host.refuses call r.inner).2 })
  query n := Recorded.lift (host.query n)
  send n r := (host.send n r.inner).recorded n r.handed
  clock r := ((host.clock r.inner).1, { r with inner := (host.clock r.inner).2 })
  noise r := ((host.noise r.inner).1, { r with inner := (host.noise r.inner).2 })
  cipher := host.cipher.recording

theorem Host.recording_keeps (host : Host ω) : host.recording.Keeps Recorded.SameHanded where
  refuses _ _ := rfl
  query _ := Recorded.lift_keeps _
  clock _ := rfl
  noise _ := rfl
  cipher := by constructor <;> intros <;> exact Recorded.lift_keeps _

/-- What the host within keeps is kept beside the list. -/
theorem Recorded.lift_keeps_inner {R : ω → ω → Prop} {x : Act ω α} (hx : x.Keeps R) :
    (lift x).Keeps fun s t => R s.inner t.inner :=
  hx.zoom fun _ _ h => h

theorem Host.Keeps.recording {host : Host ω} {R : ω → ω → Prop} (hh : host.Keeps R) :
    host.recording.Keeps fun s t => R s.inner t.inner where
  refuses call s := hh.refuses call s.inner
  query n := Recorded.lift_keeps_inner (hh.query n)
  clock s := hh.clock s.inner
  noise s := hh.noise s.inner
  cipher :=
    { initiate := fun _ _ => Recorded.lift_keeps_inner (hh.cipher.initiate _ _)
      encrypt := fun _ _ _ => Recorded.lift_keeps_inner (hh.cipher.encrypt _ _ _)
      decrypt := fun _ _ _ => Recorded.lift_keeps_inner (hh.cipher.decrypt _ _ _)
      distribution := fun _ _ => Recorded.lift_keeps_inner (hh.cipher.distribution _ _)
      groupEncrypt := fun _ _ _ => Recorded.lift_keeps_inner (hh.cipher.groupEncrypt _ _ _)
      acceptDistribution := fun _ _ _ =>
        Recorded.lift_keeps_inner (hh.cipher.acceptDistribution _ _ _)
      groupDecrypt := fun _ _ _ => Recorded.lift_keeps_inner (hh.cipher.groupDecrypt _ _ _) }

theorem Delivery.Keeps.recorded {R : ω → ω → Prop} {d : Delivery ω} {n : Node} {s : Recorded ω}
    (h : d.Keeps R s.inner) :
    (d.recorded n s.handed).Keeps (fun s t => R s.inner t.inner) s := by
  induction d generalizing s with
  | settled outcome t => exact h
  | acknowledged id t next ih => exact ⟨h.1, fun answer u => ih answer u.inner (h.2 answer u.inner)⟩

/-- A host whose connection takes or refuses a stanza at once, without calling back. -/
def Host.Quiet (host : Host ω) : Prop :=
  ∀ n s, ∃ outcome t, host.send n s = .settled outcome t

theorem Host.Quiet.recording {host : Host ω} (hq : host.Quiet) : host.recording.Quiet := by
  intro n r
  obtain ⟨outcome, t, h⟩ := hq n r.inner
  exact ⟨outcome, ⟨t, r.handed ++ [⟨n, outcome.isOk⟩]⟩, by
    simp only [Host.recording, h, Delivery.recorded]⟩

end Fanout
