/-!
# Finite doubles

The finite numbers of the 64-bit binary format, as their bit pattern: a sign, 11 bits of exponent and
52 of fraction. Two doubles are equal when their bits are, so the two zeros are told apart.

A double is `± significand · 2 ^ exponent`.
-/

namespace SemanticClient

/-- A finite double. -/
structure Double where
  /-- Sign, exponent and fraction, from the highest bit down. -/
  bits : UInt64
  /-- The exponent that infinities and NaNs have is left out. -/
  finite : (bits >>> 52) % 2048 ≠ 2047
deriving DecidableEq

namespace Double

/-- The leading one of a normal number's significand, above the 52 bits of the fraction. -/
def hiddenBit : UInt64 := 0x10000000000000

/-- The exponent as it stands in the bits. -/
def exponentBits (d : Double) : Nat := ((d.bits >>> 52) % 2048).toNat

/-- The fraction as it stands in the bits. -/
def fractionBits (d : Double) : Nat := (d.bits % hiddenBit).toNat

/-- Whether the sign bit is set; it is for the negative zero. -/
def isNegative (d : Double) : Bool := d.bits >>> 63 == 1

/-- The integer factor of the magnitude; a normal number has a leading one that is not stored. -/
def significand (d : Double) : Nat :=
  if d.exponentBits = 0 then d.fractionBits else d.fractionBits + hiddenBit.toNat

/-- The power of two of the magnitude. -/
def exponent (d : Double) : Int := (max d.exponentBits 1 : Nat) - 1075

/-- Either of the zeros. -/
def isZero (d : Double) : Bool := d.significand == 0

/-- A machine float, unless it is an infinity or no number. -/
def ofFloat? (x : Float) : Option Double :=
  if h : (x.toBits >>> 52) % 2048 ≠ 2047 then some ⟨x.toBits, h⟩ else none

end Double
end SemanticClient
