import Fanout.Proofs.Storage

namespace Fanout

variable {ω α β : Type}

/-- How one action goes over two stores on the same host: both times the same way. -/
inductive Alike (x : Act (World ω) α) (d d' : Documents) (s : ω) : Prop
  | ok (a : α) (t : ω) (here : x ⟨d, s⟩ = .ok a ⟨d, t⟩) (there : x ⟨d', s⟩ = .ok a ⟨d', t⟩)
  | error (e : Error) (t : ω) (here : x ⟨d, s⟩ = .error e ⟨d, t⟩)
    (there : x ⟨d', s⟩ = .error e ⟨d', t⟩)

namespace Alike

variable {d d' : Documents} {s : ω} {host : Host ω}

theorem pure (a : α) : Alike (Pure.pure a) d d' s := .ok a s rfl rfl

theorem bind {x : Act (World ω) α} {f : α → Act (World ω) β} (hx : Alike x d d' s)
    (hf : ∀ a t, x ⟨d, s⟩ = .ok a ⟨d, t⟩ → Alike (f a) d d' t) : Alike (x >>= f) d d' s := by
  cases hx with
  | error e t here there => exact .error e t (Act.bind_of_error here) (Act.bind_of_error there)
  | ok a t here there =>
    cases hf a t here with
    | ok b u next next' =>
      exact .ok b u ((Act.bind_of_ok here).trans next) ((Act.bind_of_ok there).trans next')
    | error e u next next' =>
      exact .error e u ((Act.bind_of_ok here).trans next) ((Act.bind_of_ok there).trans next')

theorem mapM {f : α → Act (World ω) β} {as : List α} (hf : ∀ a ∈ as, ∀ t, Alike (f a) d d' t) :
    Alike (as.mapM f) d d' s := by
  induction as generalizing s with
  | nil => exact .pure []
  | cons a as ih =>
    rw [List.mapM_cons]
    refine (hf a List.mem_cons_self s).bind fun b t _ => ?_
    exact (ih fun a' mem => hf a' (List.mem_cons_of_mem a mem)).bind fun bs _ _ => .pure (b :: bs)

theorem allow (host : Host ω) (call : StorageCall) : Alike (Storage.allow host call) d d' s := by
  cases refused : (host.refuses call s).1 with
  | none =>
    have allowed : ∀ d : Documents, Storage.allow host call ⟨d, s⟩ = .ok () ⟨d, _⟩ :=
      fun d => Storage.allow_eq_ok.mpr ⟨refused, rfl⟩
    exact .ok () _ (allowed d) (allowed d')
  | some e =>
    have stopped : ∀ d : Documents, Storage.allow host call ⟨d, s⟩ = .error e ⟨d, _⟩ :=
      fun d => Storage.allow_eq_error.mpr ⟨refused, rfl⟩
    exact .error e _ (stopped d) (stopped d')

theorem get {key : String} (same : d'.find? key = d.find? key) :
    Alike (Storage.get host key) d d' s := by
  refine (allow host (.get key)).bind fun _ t _ => .ok (d.find? key) t rfl ?_
  rw [← same]
  rfl

theorem list {start : String}
    (same : ∀ key, Storage.startsWith start key = true → d'.find? key = d.find? key) :
    Alike (Storage.list host start) d d' s := by
  refine (allow host (.list start)).bind fun _ t _ => .ok (Storage.keysFrom start d) t rfl ?_
  rw [← Storage.keysFrom_congr same]
  rfl

end Alike

end Fanout
