import Fanout.Message.Document
import Fanout.Text.Utf8

namespace Fanout

/-- Appends `count` bytes, each of them the count. -/
def pad (count : Nat) (bytes : List UInt8) : List UInt8 :=
  bytes ++ List.replicate count (UInt8.ofNat count)

/-- Takes off as many bytes as the last one says. -/
def unpad (padded : List UInt8) : Except Error (List UInt8) :=
  match padded.getLast? with
  | none => .error (.serialization "empty message plaintext")
  | some last =>
    let count := last.toNat
    if count = 0 ∨ padded.length < count then
      .error (.serialization ("bad padding " ++ count.repr ++ " on " ++ padded.length.repr ++ " bytes"))
    else .ok (padded.take (padded.length - count))

namespace Message

def bytes (m : Message) : List UInt8 := Utf8.encode m.toJson.compact

def ofBytes? (bytes : List UInt8) : Option Message := do
  let text ← Utf8.decode? bytes
  let v ← Json.parse? text
  ofJson? v

def encode (count : Nat) (m : Message) : List UInt8 := pad count m.bytes

def decode (padded : List UInt8) : Except Error Message := do
  match ofBytes? (← unpad padded) with
  | some m => .ok m
  | none => .error .json

end Message

end Fanout
