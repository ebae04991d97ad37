namespace Fanout

/-- Entries in strictly increasing key order, so that two maps with the same look-ups are equal. -/
structure Dict (κ : Type) [Ord κ] (β : Type) where
  entries : List (κ × β)
  sorted : entries.Pairwise (fun a b => compare a.1 b.1 = .lt)
deriving DecidableEq

namespace Dict

variable {κ : Type} [Ord κ] {β γ : Type}

def empty : Dict κ β := ⟨[], List.Pairwise.nil⟩

instance : EmptyCollection (Dict κ β) := ⟨empty⟩
instance : Inhabited (Dict κ β) := ⟨∅⟩
instance [BEq κ] [BEq β] : BEq (Dict κ β) := ⟨fun a b => a.entries == b.entries⟩

def size (m : Dict κ β) : Nat := m.entries.length

def isEmpty (m : Dict κ β) : Bool := m.entries.isEmpty

def keys (m : Dict κ β) : List κ := m.entries.map (·.1)

def values (m : Dict κ β) : List β := m.entries.map (·.2)

def findEntry (k : κ) : List (κ × β) → Option β
  | [] => none
  | (l, v) :: rest => if compare k l = .eq then some v else findEntry k rest

def find? (m : Dict κ β) (k : κ) : Option β := findEntry k m.entries

def contains (m : Dict κ β) (k : κ) : Bool := (m.find? k).isSome

/-- Puts an entry at its place, over an entry of the same key. -/
def insertEntry (k : κ) (v : β) : List (κ × β) → List (κ × β)
  | [] => [(k, v)]
  | (l, w) :: rest =>
    match compare k l with
    | .lt => (k, v) :: (l, w) :: rest
    | .eq => (k, v) :: rest
    | .gt => (l, w) :: insertEntry k v rest

theorem mem_insertEntry {k : κ} {v : β} {es : List (κ × β)} {e : κ × β}
    (h : e ∈ insertEntry k v es) : e = (k, v) ∨ e ∈ es := by
  induction es with
  | nil => simpa [insertEntry] using h
  | cons d es ih =>
    obtain ⟨l, w⟩ := d
    unfold insertEntry at h
    split at h
    · simpa using h
    · rcases List.mem_cons.mp h with h | h
      · exact .inl h
      · exact .inr (List.mem_cons_of_mem _ h)
    · rcases List.mem_cons.mp h with h | h
      · exact .inr (h ▸ List.mem_cons_self)
      · exact (ih h).imp_right (List.mem_cons_of_mem _)

theorem insertEntry_sorted [Std.TransOrd κ] (k : κ) (v : β) {es : List (κ × β)}
    (h : es.Pairwise (fun a b => compare a.1 b.1 = .lt)) :
    (insertEntry k v es).Pairwise (fun a b => compare a.1 b.1 = .lt) := by
  induction es with
  | nil => simp [insertEntry]
  | cons d es ih =>
    obtain ⟨l, w⟩ := d
    obtain ⟨hl, hs⟩ := List.pairwise_cons.mp h
    unfold insertEntry
    split
    next c =>
      refine List.pairwise_cons.mpr ⟨fun e he => ?_, h⟩
      rcases List.mem_cons.mp he with rfl | he
      · exact c
      · exact Std.TransCmp.lt_trans c (hl e he)
    next c =>
      exact List.pairwise_cons.mpr ⟨fun e he => Std.TransCmp.lt_of_eq_of_lt c (hl e he), hs⟩
    next c =>
      refine List.pairwise_cons.mpr ⟨fun e he => ?_, ih hs⟩
      rcases mem_insertEntry he with rfl | he
      · exact Std.OrientedCmp.lt_of_gt c
      · exact hl e he

def insert [Std.TransOrd κ] (m : Dict κ β) (k : κ) (v : β) : Dict κ β :=
  ⟨insertEntry k v m.entries, insertEntry_sorted k v m.sorted⟩

/-- Keeps the entries that pass a test. -/
def filter (p : κ → β → Bool) (m : Dict κ β) : Dict κ β :=
  ⟨m.entries.filter (fun e => p e.1 e.2), m.sorted.sublist List.filter_sublist⟩

def erase (m : Dict κ β) (k : κ) : Dict κ β := m.filter (fun l _ => compare k l ≠ .eq)

/-- Inserts entries one after another, so that the last entry of a key stays. -/
def insertAll [Std.TransOrd κ] (m : Dict κ β) (es : List (κ × β)) : Dict κ β :=
  es.foldl (fun m e => m.insert e.1 e.2) m

def ofList [Std.TransOrd κ] (es : List (κ × β)) : Dict κ β := (∅ : Dict κ β).insertAll es

def mapValues (f : β → γ) (m : Dict κ β) : Dict κ γ :=
  ⟨m.entries.map (fun e => (e.1, f e.2)), by
    simpa only [List.pairwise_map] using m.sorted⟩

theorem find?_empty (k : κ) : (∅ : Dict κ β).find? k = none := rfl

variable [DecidableEq κ] [Std.LawfulEqOrd κ]

theorem findEntry_insertEntry [Std.TransOrd κ] (k l : κ) (v : β) (es : List (κ × β)) :
    findEntry l (insertEntry k v es) = if k = l then some v else findEntry l es := by
  induction es with
  | nil => simp [insertEntry, findEntry, @eq_comm _ k l]
  | cons e es ih =>
    obtain ⟨m, w⟩ := e
    unfold insertEntry
    split
    next => simp [findEntry, @eq_comm _ k l]
    next c =>
      obtain rfl : k = m := Std.LawfulEqOrd.eq_of_compare c
      by_cases h : k = l
      · simp [findEntry, h]
      · simp [findEntry, h, Ne.symm h]
    next c =>
      have hne : k ≠ m := by
        rintro rfl
        simp at c
      by_cases h : l = m
      · subst h
        simp [findEntry, hne]
      · simp [findEntry, ih, h]

theorem find?_insert [Std.TransOrd κ] (m : Dict κ β) (k l : κ) (v : β) :
    (m.insert k v).find? l = if k = l then some v else m.find? l :=
  findEntry_insertEntry k l v m.entries

theorem findEntry_filter_ne (k l : κ) (es : List (κ × β)) :
    findEntry l (es.filter (fun e => compare k e.1 ≠ .eq)) =
      if k = l then none else findEntry l es := by
  induction es with
  | nil => simp [findEntry]
  | cons e es ih =>
    obtain ⟨m, w⟩ := e
    by_cases hk : k = m
    · subst hk
      rw [List.filter_cons_of_neg (by simp), ih]
      by_cases h : k = l
      · simp [h]
      · simp [findEntry, h, Ne.symm h]
    · rw [List.filter_cons_of_pos (by simpa using hk), findEntry, ih]
      by_cases h : l = m
      · subst h
        simp [findEntry, hk]
      · simp [findEntry, h]

theorem find?_erase (m : Dict κ β) (k l : κ) :
    (m.erase k).find? l = if k = l then none else m.find? l :=
  findEntry_filter_ne k l m.entries

end Dict

end Fanout
