import Fanout.Proofs.Host.Recorded

namespace Fanout

variable {ω α : Type}

inductive Observation where
  | answered (question answer : Node)
  /-- A session that the cipher made from the public keys of a device. -/
  | opened (address : ProtocolAddress) (bundle : PreKeyBundle) (session : SessionRecord)
  /-- An envelope that the cipher made of a plaintext, on a session. -/
  | wrote (address : ProtocolAddress) (session : SessionRecord) (plaintext : List UInt8)
      (envelope : Envelope)

def Observation.isOpening : Observation → Bool
  | opened .. => true
  | _ => false

/-- On the way from one state to another a log grew, by these observations among others and in this
order. -/
def Saw (log : ω → List Observation) (seen : List Observation) (s t : ω) : Prop :=
  ∃ events, log t = log s ++ events ∧ seen.Sublist events

variable {log : ω → List Observation} {seen seen' : List Observation} {s t u : ω}

theorem Saw.trans (h : Saw log seen s t) (h' : Saw log seen' t u) :
    Saw log (seen ++ seen') s u := by
  obtain ⟨events, grown, among⟩ := h
  obtain ⟨events', grown', among'⟩ := h'
  exact ⟨events ++ events', by rw [grown', grown, List.append_assoc], among.append among'⟩

theorem Saw.mono (h : Saw log seen s t) (fewer : seen'.Sublist seen) : Saw log seen' s t :=
  let ⟨events, grown, among⟩ := h
  ⟨events, grown, fewer.trans among⟩

theorem Saw.of_append {events : List Observation} (h : log t = log s ++ events) :
    Saw log events s t :=
  ⟨events, h, List.Sublist.refl events⟩

theorem Saw.of_eq (h : log t = log s) : Saw log [] s t := .of_append (by rw [h, List.append_nil])

/-- Every state of a log goes on from the one before. -/
instance : IsPreorder ω (Saw log []) where
  refl _ := .of_eq rfl
  trans _ _ _ := Saw.trans

/-- A host whose log shows the answers of the service, and what became of sessions. -/
structure Host.Logs (host : Host ω) (log : ω → List Observation) : Prop where
  keeps : host.Keeps (Saw log [])
  send : ∀ n s, (host.send n s).Keeps (Saw log []) s
  query : ∀ {n answer s t}, host.query n s = .ok answer t → Saw log [.answered n answer] s t
  initiate : ∀ {address bundle session s t},
    host.cipher.initiate address bundle s = .ok session t →
      Saw log [.opened address bundle session] s t
  encrypt : ∀ {address session plaintext envelope next s t},
    host.cipher.encrypt address session plaintext s = .ok (envelope, next) t →
      Saw log [.wrote address session plaintext envelope] s t

theorem Host.Logs.recording {host : Host ω} (h : host.Logs log) :
    host.recording.Logs fun s => log s.inner where
  keeps := h.keeps.recording
  send n s := (h.send n s.inner).recorded
  query done := h.query (Recorded.lift_eq_ok done)
  initiate done := h.initiate (Recorded.lift_eq_ok done)
  encrypt done := h.encrypt (Recorded.lift_eq_ok done)

structure Watched (ω : Type) where
  inner : ω
  /-- The latest observation last. -/
  log : List Observation

namespace Watched

/-- Does what the host within does, and writes down what came of it. -/
def lift (note : α → List Observation) (x : Act ω α) : Act (Watched ω) α := fun s =>
  match x s.inner with
  | .ok a t => .ok a ⟨t, s.log ++ note a⟩
  | .error e t => .error e { s with inner := t }

theorem lift_eq_ok {note : α → List Observation} {x : Act ω α} {a : α} {s t : Watched ω}
    (h : lift note x s = .ok a t) : Saw Watched.log (note a) s t := by
  unfold lift at h
  split at h <;> cases h
  exact .of_append rfl

theorem inner_eq_ok {note : α → List Observation} {x : Act ω α} {a : α} {s t : Watched ω}
    (h : lift note x s = .ok a t) : x s.inner = .ok a t.inner := by
  unfold lift at h
  split at h <;> cases h
  assumption

/-- The log grows by what is noted, or stays as it is. -/
theorem lift_keeps {R : Watched ω → Watched ω → Prop} {note : α → List Observation}
    (same : ∀ s t, t.log = s.log → R s t) (noted : ∀ a s t, t.log = s.log ++ note a → R s t)
    (x : Act ω α) : (lift note x).Keeps R := by
  refine .intro (fun s t a h => ?_) fun s t e h => ?_
  · unfold lift at h
    split at h <;> cases h
    exact noted a _ _ rfl
  · unfold lift at h
    split at h <;> cases h
    exact same _ _ rfl

end Watched

def Delivery.watched (log : List Observation) : Delivery ω → Delivery (Watched ω)
  | .settled outcome s => .settled outcome ⟨s, log⟩
  | .acknowledged id s next =>
    .acknowledged id ⟨s, log⟩ fun answer w => (next answer w.inner).watched w.log

theorem Delivery.watched_keeps {R : Watched ω → Watched ω → Prop}
    (same : ∀ s t, t.log = s.log → R s t) (d : Delivery ω) (s : Watched ω) :
    (d.watched s.log).Keeps R s := by
  induction d generalizing s with
  | settled outcome t => exact same _ _ rfl
  | acknowledged id t next ih => exact ⟨same _ _ rfl, fun answer u => ih answer u.inner u⟩

def Cipher.watching (cipher : Cipher ω) : Cipher (Watched ω) where
  initiate address bundle :=
    Watched.lift (fun session => [.opened address bundle session]) (cipher.initiate address bundle)
  encrypt address session plaintext :=
    Watched.lift (fun out => [.wrote address session plaintext out.1])
      (cipher.encrypt address session plaintext)
  decrypt address session envelope :=
    Watched.lift (fun _ => []) (cipher.decrypt address session envelope)
  distribution name record := Watched.lift (fun _ => []) (cipher.distribution name record)
  groupEncrypt name record plaintext :=
    Watched.lift (fun _ => []) (cipher.groupEncrypt name record plaintext)
  acceptDistribution name record distribution :=
    Watched.lift (fun _ => []) (cipher.acceptDistribution name record distribution)
  groupDecrypt name record ciphertext :=
    Watched.lift (fun _ => []) (cipher.groupDecrypt name record ciphertext)

def Host.watching (host : Host ω) : Host (Watched ω) where
  refuses call w :=
    ((host.refuses call w.inner).1, { w with inner := (host.refuses call w.inner).2 })
  query n := Watched.lift (fun answer => [.answered n answer]) (host.query n)
  send n w := (host.send n w.inner).watched w.log
  clock w := ((host.clock w.inner).1, { w with inner := (host.clock w.inner).2 })
  noise w := ((host.noise w.inner).1, { w with inner := (host.noise w.inner).2 })
  cipher := host.cipher.watching

theorem Host.watching_logs (host : Host ω) : host.watching.Logs Watched.log := by
  have grows : ∀ {α : Type} (note : α → List Observation) (x : Act ω α),
      (Watched.lift note x).Keeps (Saw Watched.log []) := fun note x =>
    Watched.lift_keeps (fun _ _ => .of_eq)
      (fun _ _ _ grown => (Saw.of_append grown).mono (List.nil_sublist _)) x
  exact
    { keeps :=
        { refuses := fun _ _ => .of_eq rfl
          query := fun _ => grows _ _
          clock := fun _ => .of_eq rfl
          noise := fun _ => .of_eq rfl
          cipher := by constructor <;> intros <;> exact grows _ _ }
      send := fun n w => (host.send n w.inner).watched_keeps (fun _ _ => .of_eq) w
      query := Watched.lift_eq_ok
      initiate := Watched.lift_eq_ok
      encrypt := Watched.lift_eq_ok }

end Fanout
