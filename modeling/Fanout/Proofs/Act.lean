import Mathlib.Order.Defs.Unbundled
import Fanout.Act

namespace Fanout.Act

variable {σ τ α β : Type}

theorem bind_eq_ok {x : Act σ α} {f : α → Act σ β} {s t : σ} {b : β} :
    (x >>= f) s = .ok b t ↔ ∃ a u, x s = .ok a u ∧ f a u = .ok b t := by
  change EStateM.bind x f s = _ ↔ _
  unfold EStateM.bind
  cases x s <;> simp [and_assoc]

theorem bind_eq_error {x : Act σ α} {f : α → Act σ β} {s t : σ} {e : Error} :
    (x >>= f) s = .error e t ↔
      x s = .error e t ∨ ∃ a u, x s = .ok a u ∧ f a u = .error e t := by
  change EStateM.bind x f s = _ ↔ _
  unfold EStateM.bind
  cases x s <;> simp [and_assoc]

theorem bind_of_ok {x : Act σ α} {f : α → Act σ β} {s u : σ} {a : α} (h : x s = .ok a u) :
    (x >>= f) s = f a u := by
  change EStateM.bind x f s = _
  simp [EStateM.bind, h]

theorem bind_of_error {x : Act σ α} {f : α → Act σ β} {s t : σ} {e : Error} (h : x s = .error e t) :
    (x >>= f) s = .error e t :=
  bind_eq_error.mpr (.inl h)

theorem attempt_of_ok {x : Act σ α} {s t : σ} {a : α} (h : x s = .ok a t) :
    attempt x s = .ok (.ok a) t := by
  rw [attempt, h]

theorem attempt_of_error {x : Act σ α} {s t : σ} {e : Error} (h : x s = .error e t) :
    attempt x s = .ok (.error e) t := by
  rw [attempt, h]

theorem guarded_of_ok {x : Act σ α} {s t : σ} {a : α} (h : x s = .ok a t) :
    guarded x s = .ok (some a) t := by
  rw [guarded, h]

theorem guarded_of_error {x : Act σ α} {s t : σ} {e : Error} (h : x s = .error e t) :
    guarded x s = .ok none t := by
  rw [guarded, h]

theorem pure_apply (a : α) (s : σ) : (pure a : Act σ α) s = .ok a s := rfl

theorem get_apply (s : σ) : (get : Act σ σ) s = .ok s s := rfl

theorem modify_apply (f : σ → σ) (s : σ) : (modify f : Act σ PUnit) s = .ok ⟨⟩ (f s) := rfl

theorem throw_apply (e : Error) (s : σ) : (throw e : Act σ α) s = .error e s := rfl

theorem ofExcept_eq_ok {x : Except Error α} {s t : σ} {a : α} :
    (ofExcept x : Act σ α) s = .ok a t ↔ x = .ok a ∧ s = t := by
  cases x <;> simp [ofExcept, pure_apply, throw_apply]

theorem ofExcept_bind_of_ok {x : Except Error α} {f : α → Act σ β} {a : α} (h : x = .ok a)
    (s : σ) : (ofExcept x >>= f) s = f a s :=
  bind_of_ok (ofExcept_eq_ok.mpr ⟨h, rfl⟩)

theorem zoom_eq_ok {part : σ → τ} {replace : τ → σ → σ} {x : Act τ α} {s s' : σ} {a : α} :
    zoom part replace x s = .ok a s' ↔ ∃ t, x (part s) = .ok a t ∧ replace t s = s' := by
  unfold zoom
  cases x (part s) <;> simp [and_assoc]

theorem zoom_eq_error {part : σ → τ} {replace : τ → σ → σ} {x : Act τ α} {s s' : σ} {e : Error} :
    zoom part replace x s = .error e s' ↔ ∃ t, x (part s) = .error e t ∧ replace t s = s' := by
  unfold zoom
  cases x (part s) <;> simp [and_assoc]

theorem mapM_cons_eq_ok {f : α → Act σ β} {a : α} {as : List α} {bs : List β} {s t : σ} :
    ((a :: as).mapM f : Act σ (List β)) s = .ok bs t ↔
      ∃ b u rest, f a s = .ok b u ∧ as.mapM f u = .ok rest t ∧ bs = b :: rest := by
  simp only [List.mapM_cons, bind_eq_ok, pure_apply, EStateM.Result.ok.injEq]
  constructor
  · rintro ⟨b, u, hb, rest, v, hr, rfl, rfl⟩
    exact ⟨b, u, rest, hb, hr, rfl⟩
  · rintro ⟨b, u, rest, hb, hr, rfl⟩
    exact ⟨b, u, hb, rest, t, hr, rfl, rfl⟩

theorem mapM_ok {f : α → Act σ β} (h : ∀ a s, ∃ b t, f a s = .ok b t) (as : List α) (s : σ) :
    ∃ bs t, (as.mapM f : Act σ (List β)) s = .ok bs t := by
  induction as generalizing s with
  | nil => exact ⟨[], s, rfl⟩
  | cons a as ih =>
    obtain ⟨b, u, first⟩ := h a s
    obtain ⟨bs, t, rest⟩ := ih u
    exact ⟨b :: bs, t, mapM_cons_eq_ok.mpr ⟨b, u, bs, first, rest, rfl⟩⟩

theorem filterAuxM_of_test {f : α → Act σ Bool} {p : α → Bool} {P : σ → Prop}
    (h : ∀ a s, P s → ∃ t, f a s = .ok (p a) t ∧ P t) (as kept : List α) {s : σ} (hs : P s) :
    ∃ t, (as.filterAuxM f kept : Act σ (List α)) s = .ok ((as.filter p).reverse ++ kept) t ∧
      P t := by
  induction as generalizing kept s with
  | nil => exact ⟨s, rfl, hs⟩
  | cons a as ih =>
    obtain ⟨u, tested, hu⟩ := h a s hs
    cases passes : p a with
    | true =>
      rw [passes] at tested
      obtain ⟨t, rest, ht⟩ := ih (a :: kept) hu
      refine ⟨t, (bind_of_ok tested).trans ?_, ht⟩
      rw [List.filter_cons_of_pos passes, List.reverse_cons, List.append_assoc]
      exact rest
    | false =>
      rw [passes] at tested
      obtain ⟨t, rest, ht⟩ := ih kept hu
      refine ⟨t, (bind_of_ok tested).trans ?_, ht⟩
      rw [List.filter_cons_of_neg (by simp [passes])]
      exact rest

/-- Tests that go through and always find the same keep what passes. -/
theorem filterM_of_test {f : α → Act σ Bool} {p : α → Bool} {P : σ → Prop}
    (h : ∀ a s, P s → ∃ t, f a s = .ok (p a) t ∧ P t) (as : List α) {s : σ} (hs : P s) :
    ∃ t, (as.filterM f : Act σ (List α)) s = .ok (as.filter p) t ∧ P t := by
  obtain ⟨t, done, ht⟩ := filterAuxM_of_test h as [] hs
  refine ⟨t, (bind_of_ok done).trans ?_, ht⟩
  rw [List.append_nil, List.reverse_reverse, pure_apply]

theorem mem_of_filterAuxM_eq_ok {f : α → Act σ Bool} {as before kept : List α} {s t : σ}
    (h : (as.filterAuxM f before : Act σ (List α)) s = .ok kept t) {a : α} (mem : a ∈ kept) :
    a ∈ as ∨ a ∈ before := by
  induction as generalizing before s with
  | nil =>
    cases h
    exact .inr mem
  | cons b as ih =>
    obtain ⟨passes, u, _, rest⟩ := bind_eq_ok.mp h
    cases passes with
    | true =>
      rcases ih rest with later | noted
      · exact .inl (List.mem_cons_of_mem b later)
      · exact (List.mem_cons.mp noted).imp_left fun same => List.mem_cons.mpr (.inl same)
    | false => exact (ih rest).imp_left (List.mem_cons_of_mem b)

theorem mem_of_filterM_eq_ok {f : α → Act σ Bool} {as kept : List α} {s t : σ}
    (h : (as.filterM f : Act σ (List α)) s = .ok kept t) {a : α} (mem : a ∈ kept) : a ∈ as := by
  obtain ⟨found, u, filtered, done⟩ := bind_eq_ok.mp h
  cases done
  exact (mem_of_filterAuxM_eq_ok filtered (List.mem_reverse.mp mem)).resolve_right List.not_mem_nil

/-- Whether an action goes through with an answer and a state that pass a test. -/
def yields (x : Act σ α) (s : σ) (test : α → σ → Bool) : Bool :=
  match x s with
  | .ok a t => test a t
  | .error _ _ => false

theorem yields_iff {x : Act σ α} {s : σ} {test : α → σ → Bool} :
    x.yields s test = true ↔ ∃ a t, x s = .ok a t ∧ test a t = true := by
  unfold yields
  cases x s <;> simp [and_assoc]

theorem ok_of_yields [DecidableEq α] {x : Act σ α} {s : σ} {a : α}
    (h : x.yields s (fun b _ => b = a) = true) : ∃ t, x s = .ok a t := by
  obtain ⟨b, t, hb, named⟩ := yields_iff.mp h
  obtain rfl := of_decide_eq_true named
  exact ⟨t, hb⟩

/-- The state that an action leaves behind, whichever way it ends. -/
def after (x : Act σ α) (s : σ) : σ :=
  match x s with
  | .ok _ t => t
  | .error _ t => t

theorem after_of_ok {x : Act σ α} {s t : σ} {a : α} (h : x s = .ok a t) : x.after s = t := by
  simp [after, h]

theorem after_of_error {x : Act σ α} {s t : σ} {e : Error} (h : x s = .error e t) :
    x.after s = t := by
  simp [after, h]

theorem after_congr {x y : Act σ α} {s t : σ} (h : x s = y t) : x.after s = y.after t := by
  rw [after, after, h]

theorem after_zoom (part : σ → τ) (replace : τ → σ → σ) (x : Act τ α) (s : σ) :
    (zoom part replace x).after s = replace (x.after (part s)) s := by
  unfold after zoom
  cases x (part s) <;> rfl

theorem attempt_eq_ok {x : Act σ α} {s t : σ} {a : Except Error α} (h : attempt x s = .ok a t) :
    t = x.after s := by
  unfold attempt at h
  unfold after
  cases hx : x s <;> simp_all

theorem attempt_eq_error {x : Act σ α} {s t : σ} {e : Error}
    (h : attempt x s = .ok (.error e) t) : x s = .error e t := by
  unfold attempt at h
  cases hx : x s <;> simp_all

theorem attempt_apply (x : Act σ α) (s : σ) : ∃ a, attempt x s = .ok a (x.after s) := by
  unfold attempt after
  cases x s <;> simp

/-- However an action ends, the state behind it stands in a relation to the one before it. -/
def Keeps (R : σ → σ → Prop) (x : Act σ α) : Prop := ∀ s, R s (x.after s)

namespace Keeps

variable {R : σ → σ → Prop} {x : Act σ α}

theorem of_ok (hx : x.Keeps R) {s t : σ} {a : α} (h : x s = .ok a t) : R s t :=
  after_of_ok h ▸ hx s

theorem of_error (hx : x.Keeps R) {s t : σ} {e : Error} (h : x s = .error e t) : R s t :=
  after_of_error h ▸ hx s

/-- It is enough to look at each end. -/
theorem intro (ok : ∀ s t a, x s = .ok a t → R s t) (error : ∀ s t e, x s = .error e t → R s t) :
    x.Keeps R := by
  intro s
  unfold after
  split
  next a t h => exact ok s t a h
  next e t h => exact error s t e h

theorem bind [IsTrans σ R] (hx : x.Keeps R) {f : α → Act σ β} (hf : ∀ a, (f a).Keeps R) :
    (x >>= f).Keeps R := by
  apply Keeps.intro
  · intro s t b h
    obtain ⟨a, u, ha, hb⟩ := bind_eq_ok.mp h
    exact trans_of R (hx.of_ok ha) ((hf a).of_ok hb)
  · intro s t e h
    rcases bind_eq_error.mp h with h | ⟨a, u, ha, hb⟩
    · exact hx.of_error h
    · exact trans_of R (hx.of_ok ha) ((hf a).of_error hb)

theorem pure [Std.Refl R] (a : α) : (Pure.pure a : Act σ α).Keeps R := fun s => refl_of R s

theorem throw [Std.Refl R] (e : Error) : (MonadExcept.throw e : Act σ α).Keeps R :=
  fun s => refl_of R s

theorem get [Std.Refl R] : (MonadState.get : Act σ σ).Keeps R := fun s => refl_of R s

theorem modify {f : σ → σ} (h : ∀ s, R s (f s)) : (modify f : Act σ PUnit).Keeps R := h

theorem ofExcept [Std.Refl R] (y : Except Error α) : (Act.ofExcept y : Act σ α).Keeps R := by
  intro s
  cases y <;> exact refl_of R s

theorem ite {c : Prop} [Decidable c] {y : Act σ α} (hx : x.Keeps R) (hy : y.Keeps R) :
    (if c then x else y).Keeps R := by
  split
  · exact hx
  · exact hy

theorem zoom {Q : τ → τ → Prop} {part : σ → τ} {replace : τ → σ → σ} {y : Act τ α}
    (hy : y.Keeps Q) (h : ∀ s t, Q (part s) t → R s (replace t s)) :
    (Act.zoom part replace y).Keeps R := by
  intro s
  have hs := h s _ (hy (part s))
  unfold after Act.zoom at *
  cases hp : y (part s) <;> simp_all

theorem attempt (hx : x.Keeps R) : (Act.attempt x).Keeps R := by
  intro s
  obtain ⟨a, h⟩ := attempt_apply x s
  exact after_of_ok h ▸ hx s

theorem guarded (hx : x.Keeps R) : (Act.guarded x).Keeps R := by
  intro s
  have hs := hx s
  unfold after Act.guarded at *
  cases hr : x s <;> simp_all

theorem mapM [IsPreorder σ R] {f : α → Act σ β} (hf : ∀ a, (f a).Keeps R) (as : List α) :
    (as.mapM f).Keeps R := by
  induction as with
  | nil => exact Keeps.pure []
  | cons a as ih =>
    rw [List.mapM_cons]
    exact (hf a).bind fun b => ih.bind fun bs => Keeps.pure (b :: bs)

theorem forM [IsPreorder σ R] {f : α → Act σ PUnit} (hf : ∀ a, (f a).Keeps R) (as : List α) :
    (as.forM f).Keeps R := by
  induction as with
  | nil => exact Keeps.pure PUnit.unit
  | cons a as ih => exact (hf a).bind fun _ => ih

theorem filterM [IsPreorder σ R] {f : α → Act σ Bool} (hf : ∀ a, (f a).Keeps R) (as : List α) :
    (as.filterM f).Keeps R := by
  have h : ∀ kept : List α, (as.filterAuxM f kept).Keeps R := by
    induction as with
    | nil => exact fun kept => Keeps.pure kept
    | cons a as ih => exact fun kept => (hf a).bind fun b => ih _
  exact (h []).bind fun kept => Keeps.pure kept.reverse

theorem foldlM [IsPreorder σ R] {f : β → α → Act σ β} (hf : ∀ b a, (f b a).Keeps R) (as : List α)
    (b : β) : (as.foldlM f b).Keeps R := by
  induction as generalizing b with
  | nil => exact Keeps.pure b
  | cons a as ih =>
    rw [List.foldlM_cons]
    exact (hf b a).bind fun b' => ih b'

end Keeps

end Fanout.Act
