import Fanout.Hash.Sha256
import Fanout.Text.Hex
import Fanout.Text.Utf8

namespace Fanout.MessageId

def start : String := "3EB0"

def length : Nat := start.length + 18

/-- Hashes the time in seconds, the sender and some noise. -/
def make (seconds : Nat) (user : String) (noise : List UInt8) : String :=
  let hashed := Sha256.digest (BigEndian.encode 8 seconds ++ Utf8.encode user ++ noise)
  start ++ Hex.encodeUpper (hashed.take 9)

def isUpperHex (c : Char) : Bool := c.isDigit ∨ ('A' ≤ c ∧ c ≤ 'F')

/-- Whether a text has the form of an identifier made here. -/
def isGenerated (id : String) : Bool :=
  id.startsWith start ∧ id.length = length ∧ (id.toList.drop start.length).all isUpperHex

end Fanout.MessageId
