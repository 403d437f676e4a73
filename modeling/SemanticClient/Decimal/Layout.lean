import SemanticClient.Decimal.Shortest

/-!
# Writing decimals

A layout fixes what a format may choose once the digits of a number are known: which magnitudes are
written with the point in its place, and which with an exponent.
-/

namespace SemanticClient

/-- How decimals are written. A number is positional when its first digit stands for a power of ten
from `low` up to, but not including, `high`. -/
structure DecimalLayout where
  low : Int
  high : Int

namespace DecimalLayout

/-- The digits with the point after the first `n` of them, with a zero where a side has no digit. -/
def pointAfter (digits : List Char) (n : Int) : List Char :=
  if n ≤ 0 then '0' :: '.' :: (List.replicate (-n).toNat '0' ++ digits)
  else if digits.length ≤ n.toNat then
    digits ++ List.replicate (n.toNat - digits.length) '0' ++ ['.', '0']
  else digits.take n.toNat ++ '.' :: digits.drop n.toNat

/-- The digits with the point after the first, and an exponent that always has a sign. -/
def scientific (digits : List Char) (exponent : Int) : List Char :=
  let fraction := if digits.length ≤ 1 then [] else '.' :: digits.drop 1
  let sign := if exponent < 0 then '-' else '+'
  digits.take 1 ++ fraction ++ 'e' :: sign :: Nat.toDigits 10 exponent.natAbs

/-- A decimal without a sign. -/
def magnitude (l : DecimalLayout) (x : Decimal) : List Char :=
  let digits := Nat.toDigits 10 x.digits
  let first : Int := digits.length - 1 + x.exponent
  if l.low ≤ first ∧ first < l.high then pointAfter digits (first + 1) else scientific digits first

/-- The text of a double by its shortest decimal. -/
def write (l : DecimalLayout) (d : Double) : String :=
  String.ofList ((if d.isNegative then ['-'] else []) ++ l.magnitude d.shortest)

end DecimalLayout
end SemanticClient
