namespace Fanout.BigEndian

/-- Higher bytes that do not fit are cut off. -/
def encode : Nat → Nat → List UInt8
  | 0, _ => []
  | len + 1, n => encode len (n / 256) ++ [UInt8.ofNat n]

def decode (bytes : List UInt8) : Nat := bytes.foldl (fun n b => n * 256 + b.toNat) 0

theorem length_encode (len n : Nat) : (encode len n).length = len := by
  induction len generalizing n with
  | zero => rfl
  | succ len ih => simp [encode, ih]

end Fanout.BigEndian
