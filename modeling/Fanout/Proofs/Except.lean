namespace Fanout

variable {α β ε : Type}

theorem except_bind_eq_ok {x : Except ε α} {f : α → Except ε β} {b : β} :
    x >>= f = .ok b ↔ ∃ a, x = .ok a ∧ f a = .ok b := by
  cases x <;> simp [bind, Except.bind]

theorem except_bind_eq_error {x : Except ε α} {f : α → Except ε β} {e : ε} :
    x >>= f = .error e ↔ x = .error e ∨ ∃ a, x = .ok a ∧ f a = .error e := by
  cases x <;> simp [bind, Except.bind]

theorem except_bind_fails_iff {x : Except ε α} {f : α → Except ε β} :
    (∃ e, x >>= f = .error e) ↔ (∃ e, x = .error e) ∨ ∃ a, x = .ok a ∧ ∃ e, f a = .error e := by
  cases x <;> simp [bind, Except.bind]

theorem toOption_eq_some {x : Except ε α} {a : α} : x.toOption = some a ↔ x = .ok a := by
  cases x <;> simp [Except.toOption]

/-- What each element of a list was turned into is read one by one. -/
theorem mapM_map_of_read {γ : Type} {f : β → Except ε γ} {g : α → β} {h : α → γ}
    (read : ∀ a, f (g a) = .ok (h a)) (as : List α) : (as.map g).mapM f = .ok (as.map h) := by
  induction as with
  | nil => rfl
  | cons a as ih =>
    rw [List.map_cons, List.mapM_cons]
    exact except_bind_eq_ok.mpr ⟨h a, read a, except_bind_eq_ok.mpr ⟨as.map h, ih, rfl⟩⟩

theorem filterMap_of_mapM_eq_ok {f : α → Except ε β} {as : List α} {bs : List β}
    (h : as.mapM f = .ok bs) : bs = as.filterMap fun a => (f a).toOption := by
  induction as generalizing bs with
  | nil =>
    cases h
    rfl
  | cons a as ih =>
    rw [List.mapM_cons] at h
    obtain ⟨b, first, h⟩ := except_bind_eq_ok.mp h
    obtain ⟨rest, hr, h⟩ := except_bind_eq_ok.mp h
    cases h
    simp only [List.filterMap_cons, toOption_eq_some.mpr first, ← ih hr]

theorem mapM_eq_error_iff {f : α → Except ε β} {as : List α} :
    (∃ e, as.mapM f = .error e) ↔ ∃ a ∈ as, ∃ e, f a = .error e := by
  induction as with
  | nil => simp [pure, Except.pure]
  | cons a as ih =>
    have whole : (∃ e, (a :: as).mapM f = .error e) ↔
        (∃ e, f a = .error e) ∨ (∃ b, f a = .ok b) ∧ ∃ e, as.mapM f = .error e := by
      rw [List.mapM_cons]
      cases f a <;> cases as.mapM f <;> simp [bind, Except.bind, pure, Except.pure]
    rw [whole, ih]
    cases first : f a <;> simp [first]

/-- Reading a list fails only at one of its elements, whatever is made of what was read. -/
theorem mapM_bind_pure_fails_iff {γ : Type} {f : α → Except ε β} {g : List β → γ} {as : List α} :
    (∃ e, (as.mapM f >>= fun bs => pure (g bs)) = .error e) ↔ ∃ a ∈ as, ∃ e, f a = .error e := by
  rw [except_bind_fails_iff, mapM_eq_error_iff, or_iff_left]
  rintro ⟨bs, _, e, returned⟩
  cases returned

theorem filterAuxM_eq_ok {p : α → Except ε Bool} {as kept all : List α}
    (h : as.filterAuxM p kept = .ok all) :
    all = (as.filter fun a => (p a).toOption = some true).reverse ++ kept := by
  induction as generalizing kept with
  | nil =>
    cases h
    rfl
  | cons a as ih =>
    cases hp : p a with
    | error e =>
      rw [List.filterAuxM, hp] at h
      cases h
    | ok b =>
      rw [List.filterAuxM, hp] at h
      rw [ih h]
      cases b <;> simp [hp, Except.toOption]

theorem filterM_eq_ok {p : α → Except ε Bool} {as kept : List α}
    (h : as.filterM p = .ok kept) : kept = as.filter fun a => (p a).toOption = some true := by
  unfold List.filterM at h
  cases ha : as.filterAuxM p [] with
  | error e =>
    rw [ha] at h
    cases h
  | ok all =>
    rw [ha] at h
    cases h
    simp [filterAuxM_eq_ok ha]

theorem filterAuxM_isOk {p : α → Except ε Bool} {as kept all : List α}
    (h : as.filterAuxM p kept = .ok all) : ∀ a ∈ as, ∃ b, p a = .ok b := by
  induction as generalizing kept with
  | nil => simp
  | cons a as ih =>
    obtain ⟨b, passed, h⟩ := except_bind_eq_ok.mp h
    intro a' mem
    rcases List.mem_cons.mp mem with rfl | mem
    · exact ⟨b, passed⟩
    · exact ih h a' mem

theorem filterM_isOk {p : α → Except ε Bool} {as kept : List α}
    (h : as.filterM p = .ok kept) : ∀ a ∈ as, ∃ b, p a = .ok b := by
  obtain ⟨all, passed, _⟩ := except_bind_eq_ok.mp h
  exact filterAuxM_isOk passed

theorem filterAuxM_eq_error {p : α → Except ε Bool} {as kept : List α} {e : ε}
    (h : as.filterAuxM p kept = .error e) : ∃ a ∈ as, p a = .error e := by
  induction as generalizing kept with
  | nil => cases h
  | cons a as ih =>
    rcases except_bind_eq_error.mp h with failed | ⟨b, _, h⟩
    · exact ⟨a, List.mem_cons_self, failed⟩
    · obtain ⟨a', mem, failed⟩ := ih h
      exact ⟨a', List.mem_cons_of_mem a mem, failed⟩

theorem filterM_eq_error {p : α → Except ε Bool} {as : List α} {e : ε}
    (h : as.filterM p = .error e) : ∃ a ∈ as, p a = .error e := by
  rcases except_bind_eq_error.mp h with failed | ⟨all, _, returned⟩
  · exact filterAuxM_eq_error failed
  · cases returned

end Fanout
