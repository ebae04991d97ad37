import Fanout.Json.Value
import Fanout.Text.Hex

namespace Fanout.Json

/-- Only the quote, the backslash and controls are escaped. -/
def escape (c : Char) : List Char :=
  match c with
  | '"' => ['\\', '"']
  | '\\' => ['\\', '\\']
  | '\n' => ['\\', 'n']
  | '\r' => ['\\', 'r']
  | '\t' => ['\\', 't']
  | '\x08' => ['\\', 'b']
  | '\x0c' => ['\\', 'f']
  | c =>
    if c.toNat < 32 then
      ['\\', 'u', '0', '0', Hex.digit (c.toNat / 16), Hex.digit (c.toNat % 16)]
    else [c]

def quote (s : String) : List Char := '"' :: s.toList.flatMap escape ++ ['"']

/-- A string without a text is written as an empty one. -/
def quoteText (text : Option String) : List Char := quote (text.getD "")

mutual

def chars : Json → List Char
  | .null => ['n', 'u', 'l', 'l']
  | .bool true => ['t', 'r', 'u', 'e']
  | .bool false => ['f', 'a', 'l', 's', 'e']
  | .number n => n.text
  | .string text => quoteText text
  | .array items => '[' :: charsItems items ++ [']']
  | .object members => '\x7b' :: charsMembers members ++ ['\x7d']

def charsItems : List Json → List Char
  | [] => []
  | [v] => v.chars
  | v :: rest => v.chars ++ ',' :: charsItems rest

def charsMembers : List (Option String × Json) → List Char
  | [] => []
  | [(name, v)] => quoteText name ++ ':' :: v.chars
  | (name, v) :: rest => quoteText name ++ ':' :: v.chars ++ ',' :: charsMembers rest

end

def compact (v : Json) : String := String.ofList v.chars

def newline (level : Nat) : List Char := '\n' :: List.replicate (2 * level) ' '

mutual

def lines (level : Nat) : Json → List Char
  | .array [] => ['[', ']']
  | .array items => '[' :: linesItems (level + 1) items ++ newline level ++ [']']
  | .object [] => ['\x7b', '\x7d']
  | .object members => '\x7b' :: linesMembers (level + 1) members ++ newline level ++ ['\x7d']
  | v => v.chars

def linesItems (level : Nat) : List Json → List Char
  | [] => []
  | [v] => newline level ++ lines level v
  | v :: rest => newline level ++ lines level v ++ ',' :: linesItems level rest

def linesMembers (level : Nat) : List (Option String × Json) → List Char
  | [] => []
  | [(name, v)] => newline level ++ quoteText name ++ ':' :: ' ' :: lines level v
  | (name, v) :: rest =>
    newline level ++ quoteText name ++ ':' :: ' ' :: lines level v ++ ',' :: linesMembers level rest

end

def pretty (v : Json) : String := String.ofList (lines 0 v)

end Fanout.Json
