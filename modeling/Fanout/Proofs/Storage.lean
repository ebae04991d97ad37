import Fanout.Proofs.Act
import Fanout.Proofs.Dict
import Fanout.Proofs.Json.RoundTrip
import Fanout.Proofs.Text.Base64
import Fanout.Storage

namespace Fanout

/-- A host whose store refuses no call. -/
def Host.Reliable {ω : Type} (host : Host ω) : Prop := ∀ call s, (host.refuses call s).1 = none

/-- A host whose store lists its keys and reads its documents whenever it is asked to. -/
structure Host.Reads {ω : Type} (host : Host ω) : Prop where
  list : ∀ start s, (host.refuses (.list start) s).1 = none
  get : ∀ key s, (host.refuses (.get key) s).1 = none

theorem Host.Reliable.reads {ω : Type} {host : Host ω} (reliable : host.Reliable) : host.Reads :=
  ⟨fun _ => reliable _, fun _ => reliable _⟩

namespace Storage

@[simp] theorem regular_bytesToJson (bytes : List UInt8) : (bytesToJson bytes).Regular := rfl

@[simp] theorem bytesOfJson?_bytesToJson (bytes : List UInt8) :
    bytesOfJson? (bytesToJson bytes) = some bytes :=
  Base64.decode?_encode bytes

variable {ω α : Type} {host : Host ω} {w w' : World ω}

/-- The value of a document as it stands: none if it cannot be read. -/
def peek? (read : Json → Option α) (documents : Documents) (key : String) : Option (Option α) :=
  match documents.find? key with
  | none => some none
  | some text => ((Json.parse? text).bind read).map some

theorem startsWith_append (start first rest : String) :
    startsWith start (first ++ rest) = start.toList.isPrefixOf (first.toList ++ rest.toList) := by
  rw [startsWith, String.toList_append]

theorem startsWith_iff {start key : String} :
    startsWith start key = true ↔ ∃ rest, key = start ++ rest := by
  rw [startsWith, List.isPrefixOf_iff_prefix]
  constructor
  · rintro ⟨rest, split⟩
    refine ⟨String.ofList rest, ?_⟩
    rw [← String.toList_inj, String.toList_append, String.toList_ofList, split]
  · rintro ⟨rest, rfl⟩
    rw [String.toList_append]
    exact List.prefix_append _ _

theorem append_ne {start rest key : String} (h : startsWith start key = false) :
    start ++ rest ≠ key := by
  rintro rfl
  rw [startsWith_append, List.isPrefixOf_iff_prefix.mpr (List.prefix_append _ _)] at h
  cases h

theorem takeWhile_eq_filter {α : Type} {R : α → α → Prop} {p : α → Bool} {l : List α}
    (sorted : l.Pairwise R) (down : ∀ a b, R a b → p b = true → p a = true) :
    l.takeWhile p = l.filter p := by
  induction l with
  | nil => rfl
  | cons a l ih =>
    obtain ⟨first, sorted⟩ := List.pairwise_cons.mp sorted
    by_cases h : p a = true
    · rw [List.takeWhile_cons_of_pos h, List.filter_cons_of_pos h, ih sorted]
    · have none_later : ∀ b ∈ l, ¬p b = true := fun b hb hp => h (down a b (first b hb) hp)
      rw [List.takeWhile_cons_of_neg h, List.filter_cons_of_neg h]
      exact (List.filter_eq_nil_iff.mpr none_later).symm

theorem prefix_of_between {start a b : List Char} (from_start : ¬a < start) (before : a < b)
    (h : start <+: b) : start <+: a := by
  induction start generalizing a b with
  | nil => exact List.nil_prefix
  | cons c start ih =>
    obtain ⟨rest, rfl⟩ := h
    cases a with
    | nil => exact absurd (List.nil_lt_cons c start) from_start
    | cons d a =>
      rw [List.cons_lt_cons_iff, not_or, not_and] at from_start
      rw [List.cons_append, List.cons_lt_cons_iff] at before
      rcases before with lower | ⟨rfl, before⟩
      · exact absurd lower from_start.1
      · exact List.prefix_cons_inj d |>.mpr (ih (from_start.2 rfl) before (List.prefix_append _ _))

theorem not_lt_of_prefix {start a : List Char} (h : start <+: a) : ¬a < start := by
  induction start generalizing a with
  | nil => exact List.not_lt_nil a
  | cons c start ih =>
    obtain ⟨rest, rfl⟩ := h
    rw [List.cons_append, List.cons_lt_cons_iff, not_or, not_and]
    exact ⟨Char.lt_irrefl c, fun _ => ih (List.prefix_append _ _)⟩

theorem dropWhile_eq_filter {α : Type} {R : α → α → Prop} {p : α → Bool} {l : List α}
    (sorted : l.Pairwise R) (down : ∀ a b, R a b → p b = true → p a = true) :
    l.dropWhile p = l.filter fun a => !p a := by
  induction l with
  | nil => rfl
  | cons a l ih =>
    obtain ⟨first, sorted⟩ := List.pairwise_cons.mp sorted
    by_cases h : p a = true
    · rw [List.dropWhile_cons_of_pos h, List.filter_cons_of_neg (by simp [h]), ih sorted]
    · have none_later : ∀ b ∈ a :: l, (!p b) = true := by
        intro b hb
        rcases List.mem_cons.mp hb with rfl | hb
        · simpa using h
        · simpa using fun hp => h (down a b (first b hb) hp)
      rw [List.dropWhile_cons_of_neg h, List.filter_eq_self.mpr none_later]

theorem sorted_keys (documents : Documents) : documents.keys.Pairwise (· < ·) :=
  List.pairwise_map.mpr (documents.sorted.imp fun h => compareOfLessAndEq_eq_lt.mp h)

theorem sorted_keysFrom (start : String) (documents : Documents) :
    (keysFrom start documents).Pairwise (· < ·) :=
  ((sorted_keys documents).sublist (List.dropWhile_sublist _)).sublist (List.takeWhile_sublist _)

/-- The keys that begin with a text stand together, and what comes before them is less. -/
theorem mem_keysFrom {start key : String} {documents : Documents} :
    key ∈ keysFrom start documents ↔
      startsWith start key = true ∧ ∃ text, documents.find? key = some text := by
  have sorted := sorted_keys documents
  have dropped : documents.keys.dropWhile (· < start) =
      documents.keys.filter fun k => !decide (k < start) :=
    dropWhile_eq_filter sorted fun a b before h =>
      decide_eq_true (String.lt_trans before (of_decide_eq_true h))
  have upper : (documents.keys.filter fun k => !decide (k < start)).Pairwise fun a b =>
      ¬a < start ∧ a < b := by
    refine (sorted.filter _).imp_of_mem fun {a b} ha _ before => ⟨?_, before⟩
    simpa using (List.mem_filter.mp ha).2
  have taken : keysFrom start documents =
      (documents.keys.filter fun k => !decide (k < start)).filter (startsWith start) := by
    rw [keysFrom, dropped]
    refine takeWhile_eq_filter upper fun a b ⟨above, before⟩ h => ?_
    rw [startsWith, List.isPrefixOf_iff_prefix] at h ⊢
    exact prefix_of_between (String.lt_iff.not.mp above) (String.lt_iff.mp before) h
  have above : startsWith start key = true → ¬key < start := by
    intro h before
    rw [startsWith, List.isPrefixOf_iff_prefix] at h
    exact not_lt_of_prefix h (String.lt_iff.mp before)
  rw [taken, List.mem_filter, List.mem_filter, Dict.mem_keys_iff]
  simp only [Bool.not_eq_true', decide_eq_false_iff_not]
  tauto

theorem keysFrom_congr {start : String} {documents documents' : Documents}
    (same : ∀ key, startsWith start key = true → documents'.find? key = documents.find? key) :
    keysFrom start documents' = keysFrom start documents := by
  refine (sorted_keysFrom start documents').eq_of_mem_iff (sorted_keysFrom start documents)
    fun key => ?_
  rw [mem_keysFrom, mem_keysFrom]
  exact and_congr_right fun housed => by rw [same key housed]

theorem allow_eq_ok {call : StorageCall} :
    allow host call w = .ok () w' ↔
      (host.refuses call w.host).1 = none ∧
        w' = { w with host := (host.refuses call w.host).2 } := by
  unfold allow
  rcases host.refuses call w.host with ⟨_ | e, s⟩ <;> simp [eq_comm]

theorem allow_eq_error {call : StorageCall} {e : Error} :
    allow host call w = .error e w' ↔
      (host.refuses call w.host).1 = some e ∧
        w' = { w with host := (host.refuses call w.host).2 } := by
  unfold allow
  rcases host.refuses call w.host with ⟨_ | e, s⟩ <;> simp [eq_comm]

theorem get_eq_ok {key : String} {text : Option String} :
    get host key w = .ok text w' ↔
      allow host (.get key) w = .ok () w' ∧ w.documents.find? key = text := by
  simp only [get, Act.bind_eq_ok, getThe, Act.pure_apply]
  constructor
  · rintro ⟨_, u, ha, v, _, hg, h⟩
    obtain ⟨_, rfl⟩ := allow_eq_ok.mp ha
    cases hg
    cases h
    exact ⟨ha, rfl⟩
  · rintro ⟨ha, rfl⟩
    obtain ⟨_, rfl⟩ := allow_eq_ok.mp ha
    exact ⟨(), _, ha, _, _, rfl, rfl⟩

theorem load_eq_ok {read : Json → Option α} {key : String} {a : Option α}
    (h : load host read key w = .ok a w') :
    allow host (.get key) w = .ok () w' ∧ peek? read w.documents key = some a := by
  obtain ⟨text, u, hg, h⟩ := Act.bind_eq_ok.mp h
  obtain ⟨ha, ht⟩ := get_eq_ok.mp hg
  rw [peek?, ht]
  cases text with
  | none =>
    cases h
    exact ⟨ha, rfl⟩
  | some text =>
    cases hr : (Json.parse? text).bind read with
    | none =>
      simp only [hr] at h
      cases h
    | some v =>
      simp only [hr] at h
      cases h
      exact ⟨ha, by simp [hr]⟩

theorem load_of_allowed {read : Json → Option α} {key : String} {a : Option α}
    (allowed : (host.refuses (.get key) w.host).1 = none)
    (h : peek? read w.documents key = some a) :
    load host read key w = .ok a ⟨w.documents, (host.refuses (.get key) w.host).2⟩ := by
  have got := get_eq_ok.mpr ⟨allow_eq_ok.mpr ⟨allowed, rfl⟩, rfl⟩
  rw [load, Act.bind_of_ok got]
  unfold peek? at h
  cases found : w.documents.find? key with
  | none =>
    rw [found] at h
    cases h
    rfl
  | some text =>
    rw [found] at h
    obtain ⟨v, parsed, rfl⟩ := Option.map_eq_some_iff.mp h
    simp only [parsed]
    rfl

theorem load_of_reads (reads : host.Reads) {read : Json → Option α} {key : String} {a : Option α}
    (h : peek? read w.documents key = some a) :
    ∃ s, load host read key w = .ok a ⟨w.documents, s⟩ :=
  ⟨_, load_of_allowed (reads.get key w.host) h⟩

/-- A document that can be read is not read only where the store refuses it. -/
theorem refused_of_load_eq_error {read : Json → Option α} {key : String} {a : Option α} {e : Error}
    (h : peek? read w.documents key = some a) (failed : load host read key w = .error e w') :
    (host.refuses (.get key) w.host).1 = some e := by
  cases refused : (host.refuses (.get key) w.host).1 with
  | none =>
    rw [load_of_allowed refused h] at failed
    cases failed
  | some e' =>
    have stopped : load host read key w = .error e' _ :=
      Act.bind_of_error (Act.bind_of_error (allow_eq_error.mpr ⟨refused, rfl⟩))
    rw [stopped] at failed
    cases failed
    rfl

theorem put_eq_ok {key value : String} (h : put host key value w = .ok () w') :
    (host.refuses (.put key) w.host).1 = none ∧
      w' = ⟨w.documents.insert key value, (host.refuses (.put key) w.host).2⟩ := by
  obtain ⟨_, u, ha, h⟩ := Act.bind_eq_ok.mp h
  obtain ⟨hr, rfl⟩ := allow_eq_ok.mp ha
  cases h
  exact ⟨hr, rfl⟩

theorem put_eq_error {key value : String} {e : Error} (h : put host key value w = .error e w') :
    (host.refuses (.put key) w.host).1 = some e ∧
      w' = { w with host := (host.refuses (.put key) w.host).2 } := by
  rcases Act.bind_eq_error.mp h with h | ⟨_, u, _, h⟩
  · exact allow_eq_error.mp h
  · cases h

theorem del_eq_ok {key : String} (h : del host key w = .ok () w') :
    (host.refuses (.del key) w.host).1 = none ∧
      w' = ⟨w.documents.erase key, (host.refuses (.del key) w.host).2⟩ := by
  obtain ⟨_, u, ha, h⟩ := Act.bind_eq_ok.mp h
  obtain ⟨hr, rfl⟩ := allow_eq_ok.mp ha
  cases h
  exact ⟨hr, rfl⟩

theorem del_eq_error {key : String} {e : Error} (h : del host key w = .error e w') :
    (host.refuses (.del key) w.host).1 = some e ∧
      w' = { w with host := (host.refuses (.del key) w.host).2 } := by
  rcases Act.bind_eq_error.mp h with h | ⟨_, u, _, h⟩
  · exact allow_eq_error.mp h
  · cases h

theorem put_cases (host : Host ω) (key value : String) (w : World ω) :
    (∃ w', put host key value w = .ok () w' ∧ w'.documents = w.documents.insert key value) ∨
      ∃ e w', put host key value w = .error e w' ∧ w'.documents = w.documents ∧
        ¬host.Reliable := by
  cases h : put host key value w with
  | ok _ w' => exact .inl ⟨w', rfl, by rw [(put_eq_ok h).2]⟩
  | error e w' =>
    obtain ⟨refused, rfl⟩ := put_eq_error h
    refine .inr ⟨e, _, rfl, rfl, fun reliable => ?_⟩
    rw [reliable] at refused
    cases refused

theorem del_cases (host : Host ω) (key : String) (w : World ω) :
    (∃ w', del host key w = .ok () w' ∧ w'.documents = w.documents.erase key) ∨
      ∃ e w', del host key w = .error e w' ∧ w'.documents = w.documents ∧ ¬host.Reliable := by
  cases h : del host key w with
  | ok _ w' => exact .inl ⟨w', rfl, by rw [(del_eq_ok h).2]⟩
  | error e w' =>
    obtain ⟨refused, rfl⟩ := del_eq_error h
    refine .inr ⟨e, _, rfl, rfl, fun reliable => ?_⟩
    rw [reliable] at refused
    cases refused

end Storage

end Fanout
