import Fanout.Hash.Sha256

namespace Fanout

namespace Hmac

/-- A key as one block: a longer one is hashed, a shorter one filled up with zeros. -/
def keyBlock (key : List UInt8) : List UInt8 :=
  let key := if 64 < key.length then Sha256.digest key else key
  key ++ List.replicate (64 - key.length) 0

def digest (key message : List UInt8) : List UInt8 :=
  let block := keyBlock key
  Sha256.digest (block.map (· ^^^ 0x5c) ++ Sha256.digest (block.map (· ^^^ 0x36) ++ message))

end Hmac

namespace Hkdf

def extract (salt secret : List UInt8) : List UInt8 := Hmac.digest salt secret

/-- The first 32 bytes that an extracted key gives for a purpose. -/
def expand (key info : List UInt8) : List UInt8 := Hmac.digest key (info ++ [1])

theorem length_expand (key info : List UInt8) : (expand key info).length = 32 :=
  Sha256.length_digest _

end Hkdf

end Fanout
