import Fanout.Json.Fields
import Fanout.Proofs.Decimal.Numeral
import Fanout.Proofs.Dict

namespace Fanout.Json

theorem soundItems_iff {items : List Json} :
    soundItems items = true ↔ ∀ v ∈ items, v.sound = true := by
  induction items with
  | nil => simp [soundItems]
  | cons v items ih => simp [soundItems, ih]

theorem soundMembers_iff {members : List (Option String × Json)} :
    soundMembers members = true ↔ ∀ m ∈ members, m.1.isSome = true ∧ m.2.sound = true := by
  induction members with
  | nil => simp [soundMembers]
  | cons m members ih =>
    obtain ⟨name, v⟩ := m
    simp [soundMembers, ih, and_assoc]

@[simp] theorem sound_ofString (s : String) : (ofString s).sound = true := rfl

@[simp] theorem sound_bool (b : Bool) : (bool b).sound = true := rfl

theorem sound_ofNat {n : Nat} (h : n < UInt64.size) : (ofNat n).sound = true :=
  Numeral.isSome_toFloat?_ofNat h

@[simp] theorem sound_array {items : List Json} :
    (array items).sound = true ↔ ∀ v ∈ items, v.sound = true :=
  soundItems_iff

@[simp] theorem sound_ofMembers {members : List (String × Json)} :
    (ofMembers members).sound = true ↔ ∀ m ∈ members, m.2.sound = true := by
  rw [ofMembers, sound, soundMembers_iff, List.forall_mem_map]
  simp

@[simp] theorem asString?_ofString (s : String) : asString? (ofString s) = some s := rfl

@[simp] theorem asBool?_bool (b : Bool) : asBool? (bool b) = some b := rfl

theorem eq_of_asNat?_ofNat {bound n m : Nat} (h : asNat? bound (ofNat n) = some m) : n = m := by
  simp only [asNat?, ofNat, Numeral.toNat?_ofNat, Option.filter_eq_some_iff] at h
  exact Option.some.inj h.1

theorem asNat?_ofNat {bound n : Nat} (h : n < bound) : asNat? bound (ofNat n) = some n := by
  simp [asNat?, ofNat, Numeral.toNat?_ofNat, Option.filter, h]

@[simp] theorem asUInt32?_ofNat (n : UInt32) : asUInt32? (ofNat n.toNat) = some n := by
  simp [asUInt32?, asNat?_ofNat n.toNat_lt_size]

@[simp] theorem asUInt64?_ofNat (n : UInt64) : asUInt64? (ofNat n.toNat) = some n := by
  simp [asUInt64?, asNat?_ofNat n.toNat_lt_size]

@[simp] theorem required_some {α : Type} (read : Json → Option α) (v : Json) :
    required read (some v) = read v := rfl

@[simp] theorem optional_none {α : Type} (read : Json → Option α) :
    optional read none = some none := rfl

@[simp] theorem optional_ofString {α : Type} (read : Json → Option α) (s : String) :
    optional read (some (ofString s)) = (read (ofString s)).map some := rfl

@[simp] theorem withDefault_some {α : Type} (default : α) (read : Json → Option α) (v : Json) :
    withDefault default read (some v) = read v := rfl

theorem asList?_array {α : Type} {read : Json → Option α} {write : α → Json}
    (h : ∀ a, read (write a) = some a) (as : List α) :
    asList? read (array (as.map write)) = some as := by
  rw [asList?]
  induction as with
  | nil => rfl
  | cons a as ih => simp [h, ih]

/-- A value that is left out when there is none reads back if no written value is a null. -/
theorem optional_map {α : Type} {read : Json → Option α} {write : α → Json}
    (h : ∀ a, read (write a) = some a) (present : ∀ a, write a ≠ .null) (value : Option α) :
    optional read (value.map write) = some value := by
  cases value with
  | none => rfl
  | some a =>
    have given : optional read (some (write a)) = (read (write a)).map some := by
      unfold optional
      split
      next absent => cases absent
      next null => exact absurd (Option.some.inj null) (present a)
      next v same => rw [Option.some.inj same]
    rw [Option.map_some, given, h]
    rfl

theorem optional_ofNat {bound : Nat} {n : Option Nat} (h : ∀ k, n = some k → k < bound) :
    optional (asNat? bound) (n.map ofNat) = some n := by
  cases n with
  | none => rfl
  | some k => exact congrArg (Option.map some) (asNat?_ofNat (h k rfl))

theorem eq_of_optional_ofNat {bound : Nat} {n m : Option Nat}
    (h : optional (asNat? bound) (n.map ofNat) = some m) : n = m := by
  cases n with
  | none => exact Option.some.inj h
  | some k =>
    obtain ⟨l, read, rfl⟩ := Option.map_eq_some_iff.mp h
    rw [eq_of_asNat?_ofNat read]

theorem asDict?_ofMembers {α : Type} {read : Json → Option α} {write : α → Json}
    (h : ∀ a, read (write a) = some a) (m : Dict String α) :
    asDict? read (ofMembers (m.mapValues write).entries) = some m := by
  have entries : ∀ es : List (String × α),
      es.mapM (fun e => do return (← some e.1, ← read (write e.2))) = some es := by
    intro es
    induction es with
    | nil => rfl
    | cons e es ih =>
      rw [List.mapM_cons, ih, h]
      rfl
  have listed : asDict? read (ofMembers (m.mapValues write).entries) =
      some (Dict.ofList m.entries) := by
    simp only [ofMembers, asDict?, Dict.mapValues, List.mapM_map]
    exact congrArg (Option.bind · (some ∘ Dict.ofList)) (entries m.entries)
  rw [listed, Dict.ofList_entries]

theorem depth_le_depthMembers {m : Option String × Json} {members : List (Option String × Json)}
    (h : m ∈ members) : m.2.depth ≤ depthMembers members := by
  induction members with
  | nil => cases h
  | cons n members ih =>
    rw [depthMembers]
    rcases List.mem_cons.mp h with rfl | h
    · exact Nat.le_max_left _ _
    · exact Nat.le_trans (ih h) (Nat.le_max_right _ _)

theorem depth_lt_ofMembers {name : String} {v : Json} {members : List (String × Json)}
    (h : (name, v) ∈ members) : v.depth < (ofMembers members).depth := by
  have listed : (some name, v) ∈ members.map fun m => (some m.1, m.2) :=
    List.mem_map.mpr ⟨(name, v), h, rfl⟩
  rw [ofMembers, depth]
  exact Nat.lt_succ_of_le (depth_le_depthMembers listed)

/-- The members of a record, where a slot without a value is left out. -/
def filled (slots : List (String × Option Json)) : List (String × Json) :=
  slots.flatMap fun s => member? s.1 s.2

theorem mem_filled {slots : List (String × Option Json)} {name : String} {v : Json} :
    (name, v) ∈ filled slots ↔ (name, some v) ∈ slots := by
  constructor
  · intro h
    obtain ⟨⟨other, value⟩, slot, found⟩ := List.mem_flatMap.mp h
    cases value with
    | none => cases found
    | some w =>
      obtain ⟨rfl, rfl⟩ := Prod.mk.inj (List.mem_singleton.mp found)
      exact slot
  · intro h
    exact List.mem_flatMap.mpr ⟨(name, some v), h, List.mem_singleton_self _⟩

theorem member1?_filled {slots : List (String × Option Json)}
    (distinct : (slots.map (·.1)).Nodup) {name : String} {value : Option Json}
    (h : (name, value) ∈ slots) :
    member1? name ((filled slots).map fun m => (some m.1, m.2)) = some value := by
  induction slots with
  | nil => cases h
  | cons s slots ih =>
    obtain ⟨other, held⟩ := s
    obtain ⟨fresh, distinct⟩ := List.nodup_cons.mp distinct
    rcases List.mem_cons.mp h with same | h
    · obtain ⟨rfl, rfl⟩ := Prod.mk.inj same
      -- no later slot has the name
      have others : ((filled slots).map fun m => (some m.1, m.2)).filter
          (fun m => m.1 = some name) = [] := by
        rw [List.filter_eq_nil_iff, List.forall_mem_map]
        rintro ⟨later, v⟩ hm named
        have slot := mem_filled.mp hm
        obtain rfl : later = name := by simpa using named
        exact fresh (List.mem_map.mpr ⟨_, slot, rfl⟩)
      cases value with
      | none =>
        change member1? name ((filled slots).map _) = _
        rw [member1?, others]
      | some v =>
        change member1? name ((some name, v) :: (filled slots).map _) = _
        rw [member1?, List.filter_cons_of_pos (by simp), others]
    · have ne : other ≠ name := fun same => fresh (List.mem_map.mpr ⟨_, h, same.symm⟩)
      rw [← ih distinct h]
      cases held with
      | none => rfl
      | some v =>
        change member1? name ((some other, v) :: (filled slots).map _) = _
        rw [member1?, List.filter_cons_of_neg (by simpa using ne)]
        rfl

/-- A record that is written slot by slot reads back slot by slot. -/
theorem fields_filled {slots : List (String × Option Json)}
    (distinct : (slots.map (·.1)).Nodup) :
    fields (slots.map (·.1)) (ofMembers (filled slots)) = some (slots.map (·.2)) := by
  have named : ((filled slots).map fun m => (some m.1, m.2)).all (fun m => m.1.isSome) = true := by
    simp
  have each : ∀ some : List (String × Option Json), some ⊆ slots →
      (some.map (·.1)).mapM (fun name =>
        member1? name ((filled slots).map fun m => (Option.some m.1, m.2))) =
        Option.some (some.map (·.2)) := by
    intro some
    induction some with
    | nil => exact fun _ => rfl
    | cons s rest ih =>
      intro within
      obtain ⟨head, rest⟩ := List.cons_subset.mp within
      rw [List.map_cons, List.mapM_cons, member1?_filled distinct head, ih rest]
      rfl
  rw [ofMembers, fields, if_pos named]
  exact each slots (List.Subset.refl _)

end Fanout.Json
