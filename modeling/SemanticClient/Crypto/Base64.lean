/-!
# Base 64

Bytes as letters: every three bytes are four characters of the standard alphabet, and a shorter end is
filled up with `=`. Reading is strict: the fill is required and its unused bits are zero, so every list
of bytes has one text.
-/

namespace SemanticClient.Crypto.Base64

/-- The alphabet, in the order of the values 0 to 63. -/
def alphabet : List Char :=
  "ABCDEFGHIJKLMNOPQRSTUVWXYZabcdefghijklmnopqrstuvwxyz0123456789+/".toList

/-- The character of a value below 64. -/
def char (n : Nat) : Char := alphabet.getD n 'A'

/-- The value of a character. -/
def value? (c : Char) : Option Nat := alphabet.findIdx? (· == c)

/-- The text of bytes. -/
def encode : List UInt8 → List Char
  | [] => []
  | [a] => [char (a.toNat / 4), char (a.toNat % 4 * 16), '=', '=']
  | [a, b] =>
    [char (a.toNat / 4), char (a.toNat % 4 * 16 + b.toNat / 16), char (b.toNat % 16 * 4), '=']
  | a :: b :: c :: bytes =>
    char (a.toNat / 4) :: char (a.toNat % 4 * 16 + b.toNat / 16) ::
      char (b.toNat % 16 * 4 + c.toNat / 64) :: char (c.toNat % 64) :: encode bytes

/-- The bytes of a text. -/
def decode? : List Char → Option (List UInt8)
  | [] => some []
  | [p, q, '=', '='] => do
    let u ← value? p
    let v ← value? q
    if v % 16 = 0 then some [UInt8.ofNat (u * 4 + v / 16)] else none
  | [p, q, r, '='] => do
    let u ← value? p
    let v ← value? q
    let w ← value? r
    if w % 4 = 0 then
      some [UInt8.ofNat (u * 4 + v / 16), UInt8.ofNat (v % 16 * 16 + w / 4)]
    else none
  | p :: q :: r :: s :: cs => do
    let u ← value? p
    let v ← value? q
    let w ← value? r
    let x ← value? s
    let bytes ← decode? cs
    return UInt8.ofNat (u * 4 + v / 16) :: UInt8.ofNat (v % 16 * 16 + w / 4) ::
      UInt8.ofNat (w % 4 * 64 + x) :: bytes
  | _ => none

end SemanticClient.Crypto.Base64
