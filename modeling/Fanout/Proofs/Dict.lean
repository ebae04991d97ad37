import Mathlib.Data.List.Sort
import Fanout.Dict

namespace Fanout.Dict

variable {κ : Type} [Ord κ] {β γ : Type}

theorem ext_entries {m n : Dict κ β} (h : m.entries = n.entries) : m = n := by
  cases m
  cases n
  simpa using h

section Lookup

variable [Std.LawfulEqOrd κ]

theorem findEntry_eq_some_iff {k : κ} {v : β}
    {es : List (κ × β)} (sorted : es.Pairwise fun a b => compare a.1 b.1 = .lt) :
    findEntry k es = some v ↔ (k, v) ∈ es := by
  induction es with
  | nil => simp [findEntry]
  | cons e es ih =>
    obtain ⟨l, w⟩ := e
    obtain ⟨first, sorted⟩ := List.pairwise_cons.mp sorted
    have later : (l, v) ∉ es := by
      intro mem
      have before := first _ mem
      rw [Std.ReflOrd.compare_self] at before
      cases before
    rw [findEntry, List.mem_cons]
    split
    next same =>
      obtain rfl := Std.LawfulEqOrd.eq_of_compare same
      simp [later, eq_comm]
    next differs =>
      have ne : k ≠ l := fun same => differs (by rw [same, Std.ReflOrd.compare_self])
      simp [ih sorted, ne]

theorem find?_eq_some_iff {m : Dict κ β} {k : κ} {v : β} :
    m.find? k = some v ↔ (k, v) ∈ m.entries :=
  findEntry_eq_some_iff m.sorted

theorem mem_keys_iff {m : Dict κ β} {k : κ} : k ∈ m.keys ↔ ∃ v, m.find? k = some v := by
  simp [keys, find?_eq_some_iff]

theorem nodup_keys (m : Dict κ β) : m.keys.Nodup := by
  have differ : m.entries.Pairwise fun a b => a.1 ≠ b.1 := by
    refine m.sorted.imp fun {a b} before same => ?_
    rw [same, Std.ReflOrd.compare_self] at before
    cases before
  exact List.pairwise_map.mpr differ

theorem mem_values_iff {m : Dict κ β} {v : β} : v ∈ m.values ↔ ∃ k, m.find? k = some v := by
  simp [values, find?_eq_some_iff]

theorem find?_filter {p : κ → β → Bool} {m : Dict κ β} {k : κ} :
    (m.filter p).find? k = (m.find? k).filter (p k) := by
  ext v
  rw [find?_eq_some_iff, filter, List.mem_filter, ← find?_eq_some_iff, Option.filter_eq_some_iff]

theorem find?_mapValues (f : β → γ) {m : Dict κ β} {k : κ} :
    (m.mapValues f).find? k = (m.find? k).map f := by
  ext v
  rw [find?_eq_some_iff, mapValues, List.mem_map, Option.map_eq_some_iff]
  constructor
  · rintro ⟨⟨l, w⟩, mem, same⟩
    obtain ⟨rfl, rfl⟩ := Prod.mk.inj same
    exact ⟨w, find?_eq_some_iff.mpr mem, rfl⟩
  · rintro ⟨w, found, rfl⟩
    exact ⟨(k, w), find?_eq_some_iff.mp found, rfl⟩

variable [Std.TransOrd κ]

/-- Two dictionaries with the same look-ups are equal: each lists its entries in order. -/
theorem ext_find? {m n : Dict κ β} (h : ∀ k, m.find? k = n.find? k) : m = n := by
  have : Std.Irrefl fun a b : κ × β => compare a.1 b.1 = .lt :=
    ⟨fun a before => by simp at before⟩
  have : Std.Antisymm fun a b : κ × β => compare a.1 b.1 = .lt :=
    ⟨fun a b before after => absurd (Std.OrientedCmp.gt_of_lt before) (by simp [after])⟩
  refine ext_entries (m.sorted.eq_of_mem_iff n.sorted fun e => ?_)
  rw [← find?_eq_some_iff, ← find?_eq_some_iff, h]

end Lookup

variable [Std.TransOrd κ]

theorem insertEntry_of_lt {k : κ} (v : β) {es : List (κ × β)}
    (h : ∀ e ∈ es, compare e.1 k = .lt) : insertEntry k v es = es ++ [(k, v)] := by
  induction es with
  | nil => rfl
  | cons e es ih =>
    have gt : compare k e.1 = .gt := Std.OrientedCmp.gt_of_lt (h e List.mem_cons_self)
    simp [insertEntry, gt, ih fun d hd => h d (List.mem_cons_of_mem e hd)]

/-- Entries in order are put one behind the other. -/
theorem entries_insertAll {m : Dict κ β} {es : List (κ × β)}
    (h : (m.entries ++ es).Pairwise fun a b => compare a.1 b.1 = .lt) :
    (m.insertAll es).entries = m.entries ++ es := by
  induction es generalizing m with
  | nil => simp [insertAll]
  | cons e es ih =>
    have last : ∀ d ∈ m.entries, compare d.1 e.1 = .lt :=
      fun d hd => (List.pairwise_append.mp h).2.2 d hd e List.mem_cons_self
    have put : (m.insert e.1 e.2).entries = m.entries ++ [e] := insertEntry_of_lt e.2 last
    have rest := ih (m := m.insert e.1 e.2) (by rw [put]; simpa using h)
    rw [put] at rest
    simpa [insertAll] using rest

theorem ofList_entries (m : Dict κ β) : ofList m.entries = m :=
  ext_entries (entries_insertAll (m := ∅) m.sorted)

theorem insertAll_append (m : Dict κ β) (es fs : List (κ × β)) :
    m.insertAll (es ++ fs) = (m.insertAll es).insertAll fs :=
  List.foldl_append

variable [Std.LawfulEqOrd κ] [DecidableEq κ]

/-- What is found after a list of entries was put in is one of them or was found before. -/
theorem find?_insertAll (m : Dict κ β) (es : List (κ × β)) (k : κ) :
    (∃ v, (m.insertAll es).find? k = some v ∧ (k, v) ∈ es) ∨
      (m.insertAll es).find? k = m.find? k ∧ ∀ v, (k, v) ∉ es := by
  induction es generalizing m with
  | nil => exact .inr ⟨rfl, by simp⟩
  | cons e es ih =>
    obtain ⟨l, w⟩ := e
    have step : m.insertAll ((l, w) :: es) = (m.insert l w).insertAll es := rfl
    rw [step]
    rcases ih (m.insert l w) with ⟨v, found, mem⟩ | ⟨found, absent⟩
    · exact .inl ⟨v, found, List.mem_cons_of_mem _ mem⟩
    · rw [find?_insert] at found
      by_cases same : l = k
      · subst same
        exact .inl ⟨w, by simpa using found, List.mem_cons_self⟩
      · rw [if_neg same] at found
        refine .inr ⟨found, fun v mem => ?_⟩
        rcases List.mem_cons.mp mem with here | later
        · exact same (Prod.mk.inj here).1.symm
        · exact absent v later

/-- Of the entries that are put in under a key, the last one is found. -/
theorem find?_insertAll_eq (m : Dict κ β) (es : List (κ × β)) (k : κ) :
    (m.insertAll es).find? k =
      ((es.filter fun e => e.1 = k).getLast?.map Prod.snd).or (m.find? k) := by
  induction es generalizing m with
  | nil => rfl
  | cons e es ih =>
    obtain ⟨l, w⟩ := e
    have step : m.insertAll ((l, w) :: es) = (m.insert l w).insertAll es := rfl
    rw [step, ih, find?_insert]
    by_cases same : l = k
    · rw [List.filter_cons_of_pos (by simpa using same), List.getLast?_cons, if_pos same]
      cases (es.filter fun e => e.1 = k).getLast? <;> rfl
    · rw [List.filter_cons_of_neg (by simpa using same), if_neg same]

theorem insert_comm (m : Dict κ β) {k l : κ} (ne : k ≠ l) (v w : β) :
    (m.insert k v).insert l w = (m.insert l w).insert k v := by
  refine ext_find? fun other => ?_
  simp only [find?_insert]
  by_cases first : k = other
  · subst first
    simp [ne.symm]
  · simp [first]

/-- Entries with different keys can be put in one before the other or the other way round. -/
theorem insertAll_of_perm {es fs : List (κ × β)} (same : es.Perm fs)
    (differ : (es.map Prod.fst).Nodup) (m : Dict κ β) : m.insertAll es = m.insertAll fs := by
  induction same generalizing m with
  | nil => rfl
  | cons e _ ih => exact ih (List.nodup_cons.mp differ).2 (m.insert e.1 e.2)
  | swap e f es =>
    have ne : f.1 ≠ e.1 := by
      intro same
      simp [same] at differ
    exact congrArg (·.insertAll es) (m.insert_comm ne f.2 e.2)
  | trans same _ ih ih' =>
    exact (ih differ m).trans (ih' ((same.map Prod.fst).nodup_iff.mp differ) m)

theorem find?_ofList_eq_none_iff {es : List (κ × β)} {k : κ} :
    (ofList es).find? k = none ↔ ∀ v, (k, v) ∉ es := by
  rcases find?_insertAll ∅ es k with ⟨v, found, mem⟩ | ⟨found, absent⟩
  · rw [ofList, found]
    simpa using ⟨v, mem⟩
  · rw [ofList, found]
    exact ⟨fun _ => absent, fun _ => rfl⟩

theorem mem_of_find?_ofList {es : List (κ × β)} {k : κ} {v : β}
    (h : (ofList es).find? k = some v) : (k, v) ∈ es := by
  rcases find?_insertAll ∅ es k with ⟨w, found, mem⟩ | ⟨found, _⟩
  · rw [ofList, found] at h
    exact Option.some.inj h ▸ mem
  · rw [ofList, found] at h
    cases h

end Fanout.Dict
