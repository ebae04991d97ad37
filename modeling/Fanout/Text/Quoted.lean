import Fanout.Text.Hex
import Fanout.Text.Unprintable

namespace Fanout.Quoted

def escape (c : Char) : List Char :=
  match c with
  | '\x00' => ['\\', '0']
  | '\t' => ['\\', 't']
  | '\r' => ['\\', 'r']
  | '\n' => ['\\', 'n']
  | '"' => ['\\', '"']
  | '\\' => ['\\', '\\']
  | c => if isUnprintable c then ['\\', 'u', '\x7b'] ++ Hex.ofNat c.toNat ++ ['\x7d'] else [c]

def encode (s : String) : String := String.ofList ('"' :: s.toList.flatMap escape ++ ['"'])

/-- The quoted text of an optional text, or the word for none. -/
def encodeOption : Option String → String
  | some s => "Some(" ++ encode s ++ ")"
  | none => "None"

end Fanout.Quoted
