import Fanout.Decimal.Numeral
import Fanout.Decimal.Shortest

namespace Fanout

structure Layout where
  /-- Whether a first digit at this power of ten is written without an exponent. -/
  plain : Int → Bool
  /-- Whether a whole number keeps a zero after the point. -/
  keepsPoint : Bool
  tie : Tie

namespace Layout

/-- A number of a document: plain from five places after the point to sixteen before it. -/
def document : Layout := ⟨fun e => -5 ≤ e ∧ e < 16, true, .even⟩

/-- A number of a sentence: always plain, a whole number without a point. -/
def sentence : Layout := ⟨fun _ => true, false, .away⟩

end Layout

/-- The digits before and after a point that stands behind the digit at `exponent` zero. -/
def Decimal.split (d : Decimal) : List Char × List Char :=
  if d.exponent < 0 then
    (['0'], List.replicate ((-d.exponent).toNat - 1) '0' ++ d.digits)
  else
    let places := d.exponent.toNat + 1
    (d.digits.take places ++ List.replicate (places - d.digits.length) '0', d.digits.drop places)

def Layout.numeral (l : Layout) (negative : Bool) (d : Decimal) : Numeral :=
  if l.plain d.exponent then
    let (whole, fraction) := d.split
    ⟨negative, whole, if fraction = [] ∧ l.keepsPoint then ['0'] else fraction, none⟩
  else ⟨negative, d.digits.take 1, d.digits.drop 1, some d.exponent⟩

def Layout.ofFloat (l : Layout) (x : Float) : Numeral :=
  l.numeral (x.toBits.toNat >>> 63 = 1) (Decimal.ofFloat l.tie x)

end Fanout
