import SemanticClient.Decimal.Double

/-!
# Shortest decimals

The decimal with the fewest digits that reads back as a given double. A double stands for an interval of
real numbers, those that round to it; the coarsest power of ten with a multiple in that interval gives
the fewest digits, and of two such multiples the one nearer to the double is taken.

Everything is exact: lengths are counted in quarters of the last binary place, so that the ends of the
interval are whole numbers.
-/

namespace SemanticClient

/-- The number `digits · 10 ^ exponent`. -/
structure Decimal where
  digits : Nat
  exponent : Int
deriving DecidableEq, Repr

namespace Double

/-- The lower end of the interval that rounds to the magnitude, in quarters of its last place. Below a
power of two the neighbours are twice as dense. -/
def lowerEnd (d : Double) : Nat :=
  if d.fractionBits = 0 ∧ 1 < d.exponentBits then 4 * d.significand - 1 else 4 * d.significand - 2

/-- The upper end of that interval. -/
def upperEnd (d : Double) : Nat := 4 * d.significand + 2

/-- The length of a quarter of the last place, in multiples of `10 ^ k`, as a fraction. -/
def gridRatio (d : Double) (k : Int) : Nat × Nat :=
  let e := d.exponent - 2
  (Nat.pow 2 e.toNat * Nat.pow 10 (-k).toNat, Nat.pow 2 (-e).toNat * Nat.pow 10 k.toNat)

/-- Whether `c · 10 ^ k` rounds to the magnitude; the ends do if the significand is even. -/
def readsBack (d : Double) (k : Int) (c : Nat) : Bool :=
  let (u, v) := d.gridRatio k
  if d.significand % 2 = 0 then d.lowerEnd * u ≤ c * v && c * v ≤ d.upperEnd * u
  else d.lowerEnd * u < c * v && c * v < d.upperEnd * u

/-- The multiple of `10 ^ k` that reads back as the magnitude, if there is one: the nearest, and the
even one of two that are equally near. -/
def onGrid (d : Double) (k : Int) : Option Decimal :=
  let (u, v) := d.gridRatio k
  let value := 4 * d.significand * u
  let below := value / v
  match d.readsBack k below, d.readsBack k (below + 1) with
  | true, false => some ⟨below, k⟩
  | false, true => some ⟨below + 1, k⟩
  | false, false => none
  -- both neighbours of the value read back
  | true, true =>
    if 2 * value < (2 * below + 1) * v then some ⟨below, k⟩
    else if (2 * below + 1) * v < 2 * value then some ⟨below + 1, k⟩
    else if below % 2 = 0 then some ⟨below, k⟩
    else some ⟨below + 1, k⟩

/-- The shortest decimal of the magnitude, searched from a power of ten above every double down to one
that is finer than every double's last place. -/
def shortest (d : Double) : Decimal :=
  if d.isZero then ⟨0, 0⟩
  else ((List.range 651).findSome? fun (i : Nat) => d.onGrid (309 - (i : Int))).getD ⟨0, 0⟩

end Double
end SemanticClient
