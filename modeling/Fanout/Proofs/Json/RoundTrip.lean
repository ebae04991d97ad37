import Mathlib.Tactic.Tauto
import Fanout.Proofs.Decimal.Numeral
import Fanout.Json.Parser
import Fanout.Json.Printer

namespace Fanout

/-- Digits where digits belong, at least one of them before the point and no needless zero first. -/
structure Numeral.Regular (n : Numeral) : Prop where
  whole_ne_nil : n.whole ≠ []
  whole_isDigit : ∀ c ∈ n.whole, c.isDigit = true
  whole_head : n.whole.head? = some '0' → n.whole = ['0']
  fraction_isDigit : ∀ c ∈ n.fraction, c.isDigit = true

theorem Numeral.regular_ofNat (n : Nat) : (Numeral.ofNat n).Regular where
  whole_ne_nil := digits_ne_nil n
  whole_isDigit _ := isDigit_of_mem_digits
  whole_head h := by
    obtain rfl := eq_zero_of_head?_digits h
    exact digits_zero
  fraction_isDigit _ h := by simp [ofNat] at h

namespace Json

mutual

/-- Whether a document is one that reads back from what is written for it. -/
def Regular : Json → Prop
  | .number n => n.Regular
  | .string text => text.isSome
  | .array items => RegularItems items
  | .object members => RegularMembers members
  | _ => True

def RegularItems : List Json → Prop
  | [] => True
  | v :: rest => v.Regular ∧ RegularItems rest

def RegularMembers : List (Option String × Json) → Prop
  | [] => True
  | (name, v) :: rest => name.isSome ∧ v.Regular ∧ RegularMembers rest

end

theorem regularItems_iff {items : List Json} : RegularItems items ↔ ∀ v ∈ items, v.Regular := by
  induction items with
  | nil => simp [RegularItems]
  | cons v items ih => simp [RegularItems, ih]

theorem regularMembers_iff {members : List (Option String × Json)} :
    RegularMembers members ↔ ∀ m ∈ members, m.1.isSome ∧ m.2.Regular := by
  induction members with
  | nil => simp [RegularMembers]
  | cons m members ih =>
    obtain ⟨name, v⟩ := m
    simp [RegularMembers, ih, and_assoc]

@[simp] theorem regular_ofString (s : String) : (ofString s).Regular := rfl

@[simp] theorem regular_ofNat (n : Nat) : (ofNat n).Regular := Numeral.regular_ofNat n

@[simp] theorem regular_bool (b : Bool) : (bool b).Regular := trivial

@[simp] theorem regular_array {items : List Json} :
    (array items).Regular ↔ ∀ v ∈ items, v.Regular :=
  regularItems_iff

@[simp] theorem regular_ofMembers {members : List (String × Json)} :
    (ofMembers members).Regular ↔ ∀ m ∈ members, m.2.Regular := by
  rw [ofMembers, Regular, regularMembers_iff, List.forall_mem_map]
  simp

theorem value?_digit : ∀ n < 16, Hex.value? (Hex.digit n) = some n := by decide

theorem readCodes_cons {c : Char} (hq : c ≠ '"') (hb : c ≠ '\\') (hc : ¬c.toNat < 32)
    (rest : List Char) :
    readCodes (c :: rest) = (readCodes rest).map fun p => (c.toNat :: p.1, p.2) := by
  rw [readCodes.eq_def]
  split
  case h_5 d ds _ _ _ same =>
    obtain ⟨rfl, rfl⟩ := List.cons.inj same
    rw [if_neg (not_or.mpr ⟨hc, hb⟩)]
    cases readCodes rest <;> rfl
  all_goals simp_all

theorem readCodes_escape (c : Char) (rest : List Char) :
    readCodes (escape c ++ rest) = (readCodes rest).map fun p => (c.toNat :: p.1, p.2) := by
  unfold escape
  split
  case h_8 _ hq hb _ _ _ _ _ =>
    split
    next hc =>
      have high := value?_digit (c.toNat / 16) (by omega)
      have low := value?_digit (c.toNat % 16) (by omega)
      have zero : Hex.value? '0' = some 0 := by decide
      have code : c.toNat / 16 * 16 + c.toNat % 16 = c.toNat := by omega
      simp only [List.cons_append, List.nil_append, readCodes, hex4?, high, low, zero]
      cases readCodes rest <;> simp [code]
    next hc => exact readCodes_cons hq hb hc rest
  all_goals
    simp only [List.cons_append, List.nil_append]
    rw [readCodes]
    · cases readCodes rest <;> rfl
    · simp

theorem readCodes_flatMap_escape (cs rest : List Char) :
    readCodes (cs.flatMap escape ++ '"' :: rest) = some (cs.map Char.toNat, rest) := by
  induction cs with
  | nil => simp [readCodes]
  | cons c cs ih => simp [readCodes_escape, ih]

theorem not_surrogate (c : Char) : isHigh c.toNat = false ∧ isLow c.toNat = false := by
  have h := c.valid
  simp only [isHigh, isLow, Char.toNat, decide_eq_false_iff_not, UInt32.isValidChar,
    Nat.isValidChar] at h ⊢
  omega

theorem joinCodes?_map_toNat (cs : List Char) : joinCodes? (cs.map Char.toNat) = some cs := by
  induction cs with
  | nil => rfl
  | cons c cs ih =>
    obtain ⟨high, low⟩ := not_surrogate c
    cases cs with
    | nil => simp [joinCodes?, high, low, Char.ofNat_toNat]
    | cons d cs =>
      simp only [List.map_cons] at ih ⊢
      simp [joinCodes?, high, low, ih, Char.ofNat_toNat]

theorem readString_quote (s : String) (rest : List Char) :
    readString (s.toList.flatMap escape ++ '"' :: rest) = some (some s, rest) := by
  simp [readString, readCodes_flatMap_escape, joinCodes?_map_toNat]

def EndsNumber (rest : List Char) : Prop :=
  ∀ c cs, rest = c :: cs → c.isDigit = false ∧ c ≠ '.' ∧ c ≠ 'e' ∧ c ≠ 'E'

theorem span_isDigit {ds rest : List Char} (hd : ∀ c ∈ ds, c.isDigit = true)
    (hr : ∀ c cs, rest = c :: cs → c.isDigit = false) :
    (ds ++ rest).takeWhile Char.isDigit = ds ∧ (ds ++ rest).dropWhile Char.isDigit = rest := by
  induction ds with
  | nil =>
    cases rest with
    | nil => simp
    | cons c cs => simp [hr c cs rfl]
  | cons d ds ih =>
    obtain ⟨ht, hw⟩ := ih fun c hc => hd c (List.mem_cons_of_mem d hc)
    have := hd d List.mem_cons_self
    simp [this, ht, hw]

def exponentChars : Option Int → List Char
  | none => []
  | some e => Numeral.exponentText e

theorem exponentChars_head (exponent : Option Int) {rest : List Char} (hr : EndsNumber rest) :
    ∀ c cs, exponentChars exponent ++ rest = c :: cs → c.isDigit = false ∧ c ≠ '.' := by
  intro c cs h
  cases exponent with
  | none => exact ⟨(hr c cs h).1, (hr c cs h).2.1⟩
  | some e =>
    obtain ⟨rfl, _⟩ := List.cons.inj h
    decide

theorem readExponent?_chars (exponent : Option Int) {rest : List Char} (hr : EndsNumber rest) :
    readExponent? (exponentChars exponent ++ rest) = some (exponent, rest) := by
  cases exponent with
  | none =>
    cases rest with
    | nil => rfl
    | cons c cs =>
      obtain ⟨_, _, he, hE⟩ := hr c cs rfl
      simp [exponentChars, readExponent?, he, hE]
  | some e =>
    obtain ⟨ht, hw⟩ := span_isDigit (fun c => Numeral.isDigit_of_mem_digits (n := e.natAbs))
      fun c cs h => (hr c cs h).1
    by_cases he : e < 0
    · have value : -(e.natAbs : Int) = e := by omega
      simp [exponentChars, Numeral.exponentText, readExponent?, he, ht, hw, Numeral.digits_ne_nil,
        Numeral.value_digits, abs_of_neg he]
    · have value : (e.natAbs : Int) = e := by omega
      simp [exponentChars, Numeral.exponentText, readExponent?, he, ht, hw, Numeral.digits_ne_nil,
        Numeral.value_digits, value]

theorem readFraction?_chars {fraction tail : List Char} (hf : ∀ c ∈ fraction, c.isDigit = true)
    (ht : ∀ c cs, tail = c :: cs → c.isDigit = false ∧ c ≠ '.') :
    readFraction? ((if fraction = [] then [] else '.' :: fraction) ++ tail) =
      some (fraction, tail) := by
  by_cases hn : fraction = []
  · subst hn
    cases tail with
    | nil => rfl
    | cons c cs => simp [readFraction?, (ht c cs rfl).2]
  · obtain ⟨hd, hw⟩ := span_isDigit hf fun c cs h => (ht c cs h).1
    simp [hn, readFraction?, hd, hw]

theorem readNumber_text {n : Numeral} (hn : n.Regular) {rest : List Char} (hr : EndsNumber rest) :
    readNumber (n.text ++ rest) = some (n, rest) := by
  obtain ⟨negative, whole, fraction, exponent⟩ := n
  obtain ⟨hne, hwd, hz, hf⟩ := hn
  simp only at hne hwd hz hf
  have tail := readFraction?_chars hf (exponentChars_head exponent hr)
  have stop : ∀ c cs, (if fraction = [] then [] else '.' :: fraction) ++
      (exponentChars exponent ++ rest) = c :: cs → c.isDigit = false := by
    intro c cs h
    split at h
    · exact (exponentChars_head exponent hr c cs h).1
    · obtain ⟨rfl, _⟩ := List.cons.inj h
      decide
  obtain ⟨ht, hw⟩ := span_isDigit hwd stop
  have guard : ¬(whole = [] ∨ (whole.head? = some '0' ∧ whole ≠ ['0'])) := by tauto
  have text : Numeral.text ⟨negative, whole, fraction, exponent⟩ ++ rest =
      (if negative then ['-'] else []) ++ (whole ++
        ((if fraction = [] then [] else '.' :: fraction) ++
        (exponentChars exponent ++ rest))) := by
    cases exponent <;> simp [Numeral.text, exponentChars]
  rw [text]
  cases negative with
  | true =>
    simp [readNumber, ht, hw, guard, tail, readExponent?_chars exponent hr]
  | false =>
    obtain ⟨c, cs, rfl⟩ := List.exists_cons_of_ne_nil hne
    have hc : c ≠ '-' := by
      rintro rfl
      simpa using hwd '-' List.mem_cons_self
    simp only [List.cons_append] at ht hw
    have first : c = '0' → cs = [] := fun h => by simpa [h] using hz
    simp [readNumber, hc, ht, hw, tail, readExponent?_chars exponent hr]
    tauto

def StartsValue (cs : List Char) : Prop :=
  ∃ c rest, cs = c :: rest ∧ isBlank c = false ∧ c ≠ ']' ∧ c ≠ '\x7d'

theorem StartsValue.append {cs : List Char} (h : StartsValue cs) (more : List Char) :
    StartsValue (cs ++ more) := by
  obtain ⟨c, rest, rfl, hb, hs, hc⟩ := h
  exact ⟨c, rest ++ more, rfl, hb, hs, hc⟩

theorem StartsValue.skipBlanks {cs : List Char} (h : StartsValue cs) : skipBlanks cs = cs := by
  obtain ⟨c, rest, rfl, hb, _, _⟩ := h
  simp [Json.skipBlanks, hb]

theorem text_head {n : Numeral} (hn : n.Regular) :
    ∃ c rest, n.text = c :: rest ∧ (c.isDigit = true ∨ c = '-') := by
  obtain ⟨negative, whole, fraction, exponent⟩ := n
  obtain ⟨d, ds, rfl⟩ := List.exists_cons_of_ne_nil hn.whole_ne_nil
  have hd := hn.whole_isDigit d List.mem_cons_self
  cases negative with
  | true => exact ⟨'-', _, rfl, .inr rfl⟩
  | false => exact ⟨d, _, rfl, .inl hd⟩

theorem startsValue_text {n : Numeral} (hn : n.Regular) : StartsValue n.text := by
  obtain ⟨c, rest, h, hc⟩ := text_head hn
  have other : ∀ d : Char, d.isDigit = false → d ≠ '-' → c ≠ d := by
    rintro d hd hm rfl
    rcases hc with hc | hc
    · simp [hd] at hc
    · exact hm hc
  refine ⟨c, rest, h, ?_, other _ (by decide) (by decide), other _ (by decide) (by decide)⟩
  have blanks := other ' ' (by decide) (by decide)
  have newlines := other '\n' (by decide) (by decide)
  have tabs := other '\t' (by decide) (by decide)
  have returns := other '\r' (by decide) (by decide)
  simp [isBlank, blanks, newlines, tabs, returns]

theorem startsValue_chars {v : Json} (hv : v.Regular) : StartsValue v.chars := by
  cases v with
  | null => exact ⟨'n', _, rfl, by decide, by decide, by decide⟩
  | bool b => cases b <;> exact ⟨_, _, rfl, by decide, by decide, by decide⟩
  | number n => exact startsValue_text hv
  | string text => exact ⟨'"', _, rfl, by decide, by decide, by decide⟩
  | array items => exact ⟨'[', _, rfl, by decide, by decide, by decide⟩
  | object members => exact ⟨'\x7b', _, rfl, by decide, by decide, by decide⟩

theorem readValue_number {n : Numeral} (hn : n.Regular) {rest : List Char} (hr : EndsNumber rest)
    (fuel : Nat) : readValue (fuel + 1) (n.text ++ rest) = some (.number n, rest) := by
  have read := readNumber_text hn hr
  have skip := ((startsValue_text hn).append rest).skipBlanks
  obtain ⟨c, tail, text, hc⟩ := text_head hn
  rw [text, List.cons_append] at read skip ⊢
  have other : ∀ (d : Char) (ds : List Char), d.isDigit = false → d ≠ '-' →
      c :: (tail ++ rest) ≠ d :: ds := by
    rintro d ds hd hm same
    obtain ⟨rfl, _⟩ := List.cons.inj same
    rcases hc with hc | hc
    · simp [hd] at hc
    · exact hm hc
  rw [readValue, skip]
  split
  case h_7 => simp [read]
  all_goals
    rename_i same
    exact absurd same (other _ _ (by decide) (by decide))

theorem endsNumber_cons {c : Char} (hc : c = ',' ∨ c = ']' ∨ c = '\x7d') (rest : List Char) :
    EndsNumber (c :: rest) := by
  rintro d ds same
  obtain ⟨rfl, _⟩ := List.cons.inj same
  rcases hc with rfl | rfl | rfl <;> decide

theorem startsValue_charsItems {v : Json} (hv : v.Regular) (items : List Json) :
    StartsValue (charsItems (v :: items)) := by
  cases items with
  | nil => exact startsValue_chars hv
  | cons w items => exact (startsValue_chars hv).append _

theorem charsMembers_head (m : Option String × Json) (members : List (Option String × Json)) :
    ∃ tail, charsMembers (m :: members) = '"' :: tail := by
  obtain ⟨name, v⟩ := m
  cases members with
  | nil => exact ⟨_, rfl⟩
  | cons w members => exact ⟨_, rfl⟩

mutual

theorem readValue_chars : ∀ {v : Json}, v.Regular → ∀ (fuel : Nat) (rest : List Char),
    2 * v.chars.length + 1 ≤ fuel → EndsNumber rest →
      readValue fuel (v.chars ++ rest) = some (v, rest)
  | .null, _, fuel + 1, rest, _, _ => rfl
  | .bool true, _, fuel + 1, rest, _, _ => rfl
  | .bool false, _, fuel + 1, rest, _, _ => rfl
  | .number n, hv, fuel + 1, rest, _, hr => readValue_number hv hr fuel
  | .string text, hv, fuel + 1, rest, _, _ => by
    obtain ⟨s, rfl⟩ := Option.isSome_iff_exists.mp hv
    simp [chars, quoteText, quote, readValue, skipBlanks, isBlank, readString_quote]
  | .array [], _, fuel + 1, rest, _, _ => rfl
  | .array (v :: items), hv, fuel + 1, rest, hf, _ => by
    have read := readItems_chars hv fuel rest (by
      simp only [chars, List.cons_append, List.length_cons, List.length_append] at hf
      omega)
    obtain ⟨c, tail, head, hb, hs, _⟩ :=
      (startsValue_charsItems hv.1 items).append (']' :: rest)
    rw [head] at read
    have text : (Json.array (v :: items)).chars ++ rest = '[' :: c :: tail := by
      rw [← head]
      simp [chars]
    have bracket : skipBlanks ('[' :: c :: tail) = '[' :: c :: tail := rfl
    have skip : skipBlanks (c :: tail) = c :: tail := by simp [skipBlanks, hb]
    rw [text]
    simp [readValue, bracket, skip, hs, read]
  | .object [], _, fuel + 1, rest, _, _ => rfl
  | .object (m :: members), hv, fuel + 1, rest, hf, _ => by
    have read := readMembers_chars hv fuel rest (by
      simp only [chars, List.cons_append, List.length_cons, List.length_append] at hf
      omega)
    obtain ⟨tail, head⟩ := charsMembers_head m members
    rw [head, List.cons_append] at read
    simp [chars, head, readValue, skipBlanks, isBlank, read]

theorem readItems_chars : ∀ {v : Json} {items : List Json}, RegularItems (v :: items) →
    ∀ (fuel : Nat) (rest : List Char), 2 * (charsItems (v :: items)).length + 2 ≤ fuel →
      readItems fuel (charsItems (v :: items) ++ ']' :: rest) = some (v :: items, rest)
  | v, [], hv, fuel + 1, rest, hf => by
    have read := readValue_chars hv.1 fuel (']' :: rest)
      (by simp only [charsItems] at hf; omega) (endsNumber_cons (by simp) _)
    simp [readItems, charsItems, read, skipBlanks, isBlank]
  | v, w :: items, hv, fuel + 1, rest, hf => by
    simp only [charsItems, List.length_append, List.length_cons] at hf
    have first := readValue_chars hv.1 fuel
      (',' :: (charsItems (w :: items) ++ ']' :: rest)) (by omega)
      (endsNumber_cons (by simp) _)
    have others := readItems_chars hv.2 fuel rest (by omega)
    simp [readItems, charsItems, first, others, skipBlanks, isBlank]

theorem readMembers_chars : ∀ {m : Option String × Json} {members : List (Option String × Json)},
    RegularMembers (m :: members) → ∀ (fuel : Nat) (rest : List Char),
      2 * (charsMembers (m :: members)).length + 2 ≤ fuel →
        readMembers fuel (charsMembers (m :: members) ++ '\x7d' :: rest) = some (m :: members, rest)
  | (name, v), [], hv, fuel + 1, rest, hf => by
    obtain ⟨s, rfl⟩ := Option.isSome_iff_exists.mp hv.1
    simp only [charsMembers, List.length_append, List.length_cons] at hf
    have read := readValue_chars hv.2.1 fuel ('\x7d' :: rest) (by omega)
      (endsNumber_cons (by simp) _)
    simp [readMembers, charsMembers, quoteText, quote, readString_quote, read, skipBlanks, isBlank]
  | (name, v), m :: members, hv, fuel + 1, rest, hf => by
    obtain ⟨s, rfl⟩ := Option.isSome_iff_exists.mp hv.1
    simp only [charsMembers, List.length_append, List.length_cons] at hf
    have first := readValue_chars hv.2.1 fuel
      (',' :: (charsMembers (m :: members) ++ '\x7d' :: rest)) (by omega)
      (endsNumber_cons (by simp) _)
    have others := readMembers_chars hv.2.2 fuel rest (by omega)
    simp [readMembers, charsMembers, quoteText, quote, readString_quote, first, others, skipBlanks,
      isBlank]

end

theorem parse?_compact {v : Json} (hv : v.Regular) : parse? v.compact = some v := by
  have read := readValue_chars hv (2 * v.chars.length + 1) [] (by omega)
    (by simp [EndsNumber])
  rw [List.append_nil] at read
  have blanks : skipBlanks [] = [] := rfl
  simp only [parse?, compact, String.toList_ofList, parseChars?, read, Option.bind_eq_bind,
    Option.bind_some, blanks, if_true]

end Json

end Fanout
