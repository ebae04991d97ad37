namespace Fanout.Hex

def digit (n : Nat) : Char := Nat.digitChar n

def value? (c : Char) : Option Nat :=
  if '0' ≤ c ∧ c ≤ '9' then some (c.toNat - '0'.toNat)
  else if 'a' ≤ c ∧ c ≤ 'f' then some (c.toNat - 'a'.toNat + 10)
  else if 'A' ≤ c ∧ c ≤ 'F' then some (c.toNat - 'A'.toNat + 10)
  else none

/-- Lower-case digits, two for a byte. -/
def encode (bytes : List UInt8) : String :=
  String.ofList (bytes.flatMap fun b => [digit (b.toNat / 16), digit (b.toNat % 16)])

def encodeUpper (bytes : List UInt8) : String :=
  String.ofList (bytes.flatMap fun b =>
    [(digit (b.toNat / 16)).toUpper, (digit (b.toNat % 16)).toUpper])

def decodeChars? : List Char → Option (List UInt8)
  | [] => some []
  | [_] => none
  | a :: b :: rest => do
    let high ← value? a
    let low ← value? b
    let bytes ← decodeChars? rest
    return UInt8.ofNat (16 * high + low) :: bytes

def decode? (s : String) : Option (List UInt8) := decodeChars? s.toList

/-- The digits of a number, without leading zeros. -/
def ofNat (n : Nat) : List Char := Nat.toDigits 16 n

end Fanout.Hex
