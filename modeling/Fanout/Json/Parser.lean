import Fanout.Json.Value
import Fanout.Text.Hex
import Fanout.Text.Utf8

namespace Fanout.Json

def isBlank (c : Char) : Bool := c = ' ' ∨ c = '\n' ∨ c = '\t' ∨ c = '\r'

def skipBlanks (cs : List Char) : List Char := cs.dropWhile isBlank

def hex4? (a b c d : Char) : Option Nat := do
  let a ← Hex.value? a
  let b ← Hex.value? b
  let c ← Hex.value? c
  let d ← Hex.value? d
  return ((a * 16 + b) * 16 + c) * 16 + d

/-- The code of a character behind a backslash. -/
def unescape? : Char → Option Nat
  | '"' => some '"'.toNat
  | '\\' => some '\\'.toNat
  | '/' => some '/'.toNat
  | 'b' => some 8
  | 'f' => some 12
  | 'n' => some 10
  | 'r' => some 13
  | 't' => some 9
  | _ => none

/-- The codes of a string up to its closing quote, surrogates still apart, and what follows. -/
def readCodes : List Char → Option (List Nat × List Char)
  | [] => none
  | '"' :: rest => some ([], rest)
  | '\\' :: 'u' :: a :: b :: c :: d :: rest => do
    let code ← hex4? a b c d
    let (codes, rest) ← readCodes rest
    return (code :: codes, rest)
  | '\\' :: c :: rest => do
    let code ← unescape? c
    let (codes, rest) ← readCodes rest
    return (code :: codes, rest)
  | c :: rest =>
    if c.toNat < 32 ∨ c = '\\' then none
    else do
      let (codes, rest) ← readCodes rest
      return (c.toNat :: codes, rest)

def isHigh (code : Nat) : Bool := 0xd800 ≤ code ∧ code < 0xdc00

def isLow (code : Nat) : Bool := 0xdc00 ≤ code ∧ code < 0xe000

/-- Joins surrogate pairs; a half without its other half has no character. -/
def joinCodes? : List Nat → Option (List Char)
  | [] => some []
  | [code] => if isHigh code || isLow code then none else some [Char.ofNat code]
  | high :: low :: rest =>
    if isLow high then none
    else if isHigh high then
      if isLow low then
        (joinCodes? rest).map (Char.ofNat (0x10000 + (high - 0xd800) * 0x400 + (low - 0xdc00)) :: ·)
      else none
    else (joinCodes? (low :: rest)).map (Char.ofNat high :: ·)

/-- Reads a string whose opening quote is already read. -/
def readString (cs : List Char) : Option (Option String × List Char) :=
  (readCodes cs).map fun (codes, rest) => ((joinCodes? codes).map String.ofList, rest)

def readExponent? (cs : List Char) : Option (Option Int × List Char) :=
  match cs with
  | 'e' :: rest | 'E' :: rest =>
    let (negative, rest) := match rest with
      | '-' :: rest => (true, rest)
      | '+' :: rest => (false, rest)
      | rest => (false, rest)
    let ds := rest.takeWhile Char.isDigit
    if ds = [] then none
    else
      let e : Int := Numeral.value ds
      some (some (if negative then -e else e), rest.dropWhile Char.isDigit)
  | rest => some (none, rest)

def readFraction? (cs : List Char) : Option (List Char × List Char) :=
  match cs with
  | '.' :: rest =>
    let ds := rest.takeWhile Char.isDigit
    if ds = [] then none else some (ds, rest.dropWhile Char.isDigit)
  | rest => some ([], rest)

/-- A number's whole part has no needless leading zero. -/
def readNumber (cs : List Char) : Option (Numeral × List Char) := do
  let (negative, cs) := match cs with
    | '-' :: rest => (true, rest)
    | rest => (false, rest)
  let whole := cs.takeWhile Char.isDigit
  if whole = [] ∨ (whole.head? = some '0' ∧ whole ≠ ['0']) then none
  else
    let (fraction, cs) ← readFraction? (cs.dropWhile Char.isDigit)
    let (exponent, cs) ← readExponent? cs
    return (⟨negative, whole, fraction, exponent⟩, cs)

mutual

def readValue : Nat → List Char → Option (Json × List Char)
  | 0, _ => none
  | fuel + 1, cs =>
    match skipBlanks cs with
    | 'n' :: 'u' :: 'l' :: 'l' :: rest => some (.null, rest)
    | 't' :: 'r' :: 'u' :: 'e' :: rest => some (.bool true, rest)
    | 'f' :: 'a' :: 'l' :: 's' :: 'e' :: rest => some (.bool false, rest)
    | '"' :: rest => (readString rest).map fun (text, rest) => (.string text, rest)
    | '[' :: rest =>
      match skipBlanks rest with
      | ']' :: rest => some (.array [], rest)
      | rest => (readItems fuel rest).map fun (items, rest) => (.array items, rest)
    | '\x7b' :: rest =>
      match skipBlanks rest with
      | '\x7d' :: rest => some (.object [], rest)
      | rest => (readMembers fuel rest).map fun (members, rest) => (.object members, rest)
    | cs => (readNumber cs).map fun (n, rest) => (.number n, rest)

def readItems : Nat → List Char → Option (List Json × List Char)
  | 0, _ => none
  | fuel + 1, cs => do
    let (v, rest) ← readValue fuel cs
    match skipBlanks rest with
    | ',' :: rest =>
      let (items, rest) ← readItems fuel rest
      return (v :: items, rest)
    | ']' :: rest => return ([v], rest)
    | _ => none

def readMembers : Nat → List Char → Option (List (Option String × Json) × List Char)
  | 0, _ => none
  | fuel + 1, cs =>
    match skipBlanks cs with
    | '"' :: rest => do
      let (name, rest) ← readString rest
      match skipBlanks rest with
      | ':' :: rest =>
        let (v, rest) ← readValue fuel rest
        match skipBlanks rest with
        | ',' :: rest =>
          let (members, rest) ← readMembers fuel rest
          return ((name, v) :: members, rest)
        | '\x7d' :: rest => return ([(name, v)], rest)
        | _ => none
      | _ => none
    | _ => none

end

/-- Every step of reading a document of `n` characters takes one of `2 * n + 1` tries. -/
def parseChars? (cs : List Char) : Option Json := do
  let (v, rest) ← readValue (2 * cs.length + 1) cs
  if skipBlanks rest = [] then some v else none

def parse? (text : String) : Option Json := parseChars? text.toList

/-- What stands for bytes that are no character: it begins no token and ends no escape, and it
leaves a string without a text. -/
def noCharacter : String := "x\\udc00"

/-- Reads a document from bytes; those of a string that nobody looks at need not be a text. -/
def parseBytes? (bytes : List UInt8) : Option Json := parse? (Utf8.decodeWith noCharacter bytes)

end Fanout.Json
