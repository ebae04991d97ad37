import Fanout.Text.Base64

namespace Fanout.Base64

theorem value?_digit : ∀ n < 64, value? (digit n) = some n := by decide +kernel

theorem digit_ne_padding : ∀ n < 64, digit n ≠ '=' := by decide +kernel

theorem decodeChars?_encodeChars : ∀ bytes, decodeChars? (encodeChars bytes) = some bytes
  | [] => rfl
  | [a] => by
    have ha := a.toNat_lt
    have first := value?_digit (a.toNat / 4) (by omega)
    have second := value?_digit (a.toNat % 4 * 16) (by omega)
    have value : a.toNat / 4 * 4 + a.toNat % 4 = a.toNat := by omega
    simp [encodeChars, decodeChars?, first, second, value, -UInt8.ofNat_add]
  | [a, b] => by
    have ha := a.toNat_lt
    have hb := b.toNat_lt
    have first := value?_digit (a.toNat / 4) (by omega)
    have second := value?_digit (a.toNat % 4 * 16 + b.toNat / 16) (by omega)
    have third := value?_digit (b.toNat % 16 * 4) (by omega)
    have plain := digit_ne_padding (b.toNat % 16 * 4) (by omega)
    have value : a.toNat / 4 * 4 + (a.toNat % 4 * 16 + b.toNat / 16) / 16 = a.toNat := by omega
    have value' : b.toNat / 16 % 16 * 16 + b.toNat % 16 = b.toNat := by omega
    simp [encodeChars, decodeChars?, first, second, third, value, value', -UInt8.ofNat_add]
  | a :: b :: c :: rest => by
    have ha := a.toNat_lt
    have hb := b.toNat_lt
    have hc := c.toNat_lt
    have first := value?_digit (a.toNat / 4) (by omega)
    have second := value?_digit (a.toNat % 4 * 16 + b.toNat / 16) (by omega)
    have third := value?_digit (b.toNat % 16 * 4 + c.toNat / 64) (by omega)
    have fourth := value?_digit (c.toNat % 64) (by omega)
    have plain := digit_ne_padding (c.toNat % 64) (by omega)
    have value : a.toNat / 4 * 4 + (a.toNat % 4 * 16 + b.toNat / 16) / 16 = a.toNat := by omega
    have value' : b.toNat / 16 % 16 * 16 + (b.toNat % 16 * 4 + c.toNat / 64) / 4 = b.toNat := by
      omega
    have value'' : c.toNat / 64 % 4 * 64 + c.toNat % 64 = c.toNat := by omega
    rw [encodeChars, decodeChars?]
    · simp [first, second, third, fourth, decodeChars?_encodeChars rest, value, value', value'',
        -UInt8.ofNat_add]
    all_goals simp [plain]

theorem decode?_encode (bytes : List UInt8) : decode? (encode bytes) = some bytes := by
  simp [decode?, encode, decodeChars?_encodeChars]

end Fanout.Base64
