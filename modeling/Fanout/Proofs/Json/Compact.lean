import Fanout.Proofs.Json.RoundTrip

namespace Fanout.Json

mutual

/-- Whether a text has no blank outside its strings. -/
def tight : List Char → Bool
  | [] => true
  | '"' :: rest => tightWithin rest
  | c :: rest => !isBlank c && tight rest

/-- The same for a text that begins within a string: an escaped quote does not end it. -/
def tightWithin : List Char → Bool
  | [] => true
  | '"' :: rest => tight rest
  | '\\' :: _ :: rest => tightWithin rest
  | _ :: rest => tightWithin rest

end

theorem tight_cons {c : Char} (plain : isBlank c = false ∧ c ≠ '"') (rest : List Char) :
    tight (c :: rest) = tight rest := by
  rw [tight]
  · simp [plain.1]
  · exact plain.2

theorem tight_append {cs : List Char} (plain : ∀ c ∈ cs, isBlank c = false ∧ c ≠ '"')
    (rest : List Char) : tight (cs ++ rest) = tight rest := by
  induction cs with
  | nil => rfl
  | cons c cs ih =>
    have others := ih fun d member => plain d (List.mem_cons_of_mem _ member)
    rw [List.cons_append, tight_cons (plain c List.mem_cons_self), others]

theorem tightWithin_cons {c : Char} (quote : c ≠ '"') (backslash : c ≠ '\\') (rest : List Char) :
    tightWithin (c :: rest) = tightWithin rest := by
  rw [tightWithin]
  · exact quote
  · exact fun d ds same => absurd same backslash

theorem tightWithin_escape (c : Char) (rest : List Char) :
    tightWithin (escape c ++ rest) = tightWithin rest := by
  have hex : ∀ n < 16, Hex.digit n ≠ '"' ∧ Hex.digit n ≠ '\\' := by decide
  unfold escape
  split
  case h_8 _ quote backslash _ _ _ _ _ =>
    split
    -- A control is written as six characters, and the backslash takes only the next one with it.
    next control =>
      have high := hex (c.toNat / 16) (by omega)
      have low := hex (c.toNat % 16) (by omega)
      have zero : '0' ≠ '"' ∧ '0' ≠ '\\' := by decide
      simp only [List.cons_append, List.nil_append, tightWithin, tightWithin_cons zero.1 zero.2,
        tightWithin_cons high.1 high.2, tightWithin_cons low.1 low.2]
    next => exact tightWithin_cons quote backslash rest
  all_goals rfl

theorem tight_quoteText (text : Option String) (rest : List Char) :
    tight (quoteText text ++ rest) = tight rest := by
  have within : ∀ cs : List Char, tightWithin (cs.flatMap escape ++ '"' :: rest) = tight rest := by
    intro cs
    induction cs with
    | nil => rfl
    | cons c cs ih => rw [List.flatMap_cons, List.append_assoc, tightWithin_escape, ih]
  have opened : quoteText text ++ rest =
      '"' :: ((text.getD "").toList.flatMap escape ++ '"' :: rest) := by
    simp [quoteText, quote]
  rw [opened, tight]
  exact within _

theorem plain_of_isDigit {c : Char} (digit : c.isDigit = true) : isBlank c = false ∧ c ≠ '"' := by
  have other : ∀ d : Char, d.isDigit = false → c ≠ d := by
    rintro d no_digit rfl
    rw [digit] at no_digit
    cases no_digit
  have quote := other '"' (by decide)
  have space := other ' ' (by decide)
  have newline := other '\n' (by decide)
  have tab := other '\t' (by decide)
  have back := other '\r' (by decide)
  simp [isBlank, quote, space, newline, tab, back]

theorem plain_text {n : Numeral} (hn : n.Regular) :
    ∀ c ∈ n.text, isBlank c = false ∧ c ≠ '"' := by
  obtain ⟨negative, whole, fraction, exponent⟩ := n
  intro c member
  simp only [Numeral.text, List.mem_append] at member
  rcases member with ((sign | inside) | after) | power
  · cases negative with
    | true =>
      rw [List.mem_singleton.mp sign]
      decide
    | false => cases sign
  · exact plain_of_isDigit (hn.whole_isDigit c inside)
  · split at after
    next => cases after
    next =>
      rcases List.mem_cons.mp after with rfl | inside
      · decide
      · exact plain_of_isDigit (hn.fraction_isDigit c inside)
  · cases exponent with
    | none => cases power
    | some e =>
      rcases List.mem_cons.mp power with rfl | power
      · decide
      rcases List.mem_cons.mp power with rfl | inside
      · split <;> decide
      · exact plain_of_isDigit (Numeral.isDigit_of_mem_digits inside)

mutual

theorem tight_chars : ∀ {v : Json}, v.Regular → ∀ rest, tight (v.chars ++ rest) = tight rest
  | .null, _, _ => rfl
  | .bool true, _, _ => rfl
  | .bool false, _, _ => rfl
  | .number _, regular, rest => tight_append (plain_text regular) rest
  | .string text, _, rest => tight_quoteText text rest
  | .array items, regular, rest => by
    have text : (array items).chars ++ rest = '[' :: (charsItems items ++ ']' :: rest) := by
      simp [chars]
    rw [text, tight_cons (by decide), tight_charsItems regular, tight_cons (by decide)]
  | .object members, regular, rest => by
    have text : (object members).chars ++ rest =
        '\x7b' :: (charsMembers members ++ '\x7d' :: rest) := by
      simp [chars]
    rw [text, tight_cons (by decide), tight_charsMembers regular, tight_cons (by decide)]

theorem tight_charsItems : ∀ {items : List Json}, RegularItems items →
    ∀ rest, tight (charsItems items ++ rest) = tight rest
  | [], _, _ => rfl
  | [_], regular, rest => tight_chars regular.1 rest
  | v :: w :: items, regular, rest => by
    have text : charsItems (v :: w :: items) ++ rest =
        v.chars ++ ',' :: (charsItems (w :: items) ++ rest) := by
      simp [charsItems]
    rw [text, tight_chars regular.1, tight_cons (by decide), tight_charsItems regular.2]

theorem tight_charsMembers : ∀ {members : List (Option String × Json)}, RegularMembers members →
    ∀ rest, tight (charsMembers members ++ rest) = tight rest
  | [], _, _ => rfl
  | [(name, v)], regular, rest => by
    have text : charsMembers [(name, v)] ++ rest = quoteText name ++ ':' :: (v.chars ++ rest) := by
      simp [charsMembers]
    rw [text, tight_quoteText, tight_cons (by decide), tight_chars regular.2.1]
  | (name, v) :: m :: members, regular, rest => by
    have text : charsMembers ((name, v) :: m :: members) ++ rest =
        quoteText name ++ ':' :: (v.chars ++ ',' :: (charsMembers (m :: members) ++ rest)) := by
      simp [charsMembers]
    rw [text, tight_quoteText, tight_cons (by decide), tight_chars regular.2.1,
      tight_cons (by decide), tight_charsMembers regular.2.2]

end

theorem tight_compact {v : Json} (regular : v.Regular) : tight v.compact.toList = true := by
  have all := tight_chars regular []
  rw [List.append_nil] at all
  rw [compact, String.toList_ofList, all]
  rfl

end Fanout.Json
