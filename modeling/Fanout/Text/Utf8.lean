namespace Fanout.Utf8

def encode (s : String) : List UInt8 := s.toByteArray.data.toList

/-- Refuses bytes that are no text. -/
def decode? (bytes : List UInt8) : Option String := String.fromUTF8? ⟨bytes.toArray⟩

theorem decode?_encode (s : String) : decode? (encode s) = some s := by
  have h : (⟨(encode s).toArray⟩ : ByteArray) = s.toByteArray := by simp [encode]
  simp [decode?, h, String.fromUTF8?, s.isValidUTF8, String.fromUTF8]

/-- How many bytes follow the first byte of a character, and the bounds of the next one. -/
def following (first : UInt8) : Nat × UInt8 × UInt8 :=
  if first < 0xc2 then (0, 0, 0)
  else if first < 0xe0 then (1, 0x80, 0xbf)
  else if first = 0xe0 then (2, 0xa0, 0xbf)
  else if first = 0xed then (2, 0x80, 0x9f)
  else if first < 0xf0 then (2, 0x80, 0xbf)
  else if first = 0xf0 then (3, 0x90, 0xbf)
  else if first < 0xf4 then (3, 0x80, 0xbf)
  else if first = 0xf4 then (3, 0x80, 0x8f)
  else (0, 0, 0)

/-- How many bytes go on with a character that lacks `owed` of them. -/
def goOn : Nat → UInt8 → UInt8 → List UInt8 → Nat
  | owed + 1, low, high, b :: rest =>
    if low ≤ b ∧ b ≤ high then goOn owed 0x80 0xbf rest + 1 else 0
  | _, _, _, _ => 0

/-- The bytes of each character, or of the start of one that breaks off. -/
def pieces : List UInt8 → List (List UInt8)
  | [] => []
  | first :: rest =>
    let (owed, low, high) := following first
    let n := goOn owed low high rest
    (first :: rest.take n) :: pieces (rest.drop n)
termination_by bytes => bytes.length
decreasing_by simp only [List.length_drop, List.length_cons]; omega

/-- The text of bytes, with a substitute for each piece that is no character. -/
def decodeWith (substitute : String) (bytes : List UInt8) : String :=
  (decode? bytes).getD (String.join ((pieces bytes).map fun p => (decode? p).getD substitute))

theorem decodeWith_encode (substitute s : String) : decodeWith substitute (encode s) = s := by
  simp [decodeWith, decode?_encode]

end Fanout.Utf8
