import SemanticClient.Crypto.Aes

/-!
# Chained blocks

Texts longer than a block: before a block is encrypted, the encrypted block before it is added; before
the first one an initial block. A text is a number of whole blocks; no padding is added here.

* `ofBytes?_bytes`: blocks are read back from their bytes.
-/

namespace SemanticClient.Crypto

namespace Block

/-- The blocks of a text; a text with bytes left over is not made of blocks. -/
def ofBytes? : List UInt8 → Option (List Block)
  | [] => some []
  | b0 :: b1 :: b2 :: b3 :: b4 :: b5 :: b6 :: b7 :: b8 :: b9 :: b10 :: b11 :: b12 :: b13 :: b14 ::
      b15 :: bytes =>
    (ofBytes? bytes).map (⟨⟨b0, b1, b2, b3⟩, ⟨b4, b5, b6, b7⟩, ⟨b8, b9, b10, b11⟩,
      ⟨b12, b13, b14, b15⟩⟩ :: ·)
  | _ => none

/-- The block of sixteen bytes. -/
def ofBytesOne? (bytes : List UInt8) : Option Block :=
  match ofBytes? bytes with
  | some [s] => some s
  | _ => none

theorem ofBytes?_bytes (s : Block) (rest : List UInt8) :
    ofBytes? (s.bytes ++ rest) = (ofBytes? rest).map (s :: ·) := rfl

end Block

/-- Encrypts blocks, each after the sum with the one before. -/
def encryptChain (key : Block) : Block → List Block → List Block
  | _, [] => []
  | initial, s :: ss =>
    let c := encryptBlock key (s.add initial)
    c :: encryptChain key c ss

/-- Decrypts blocks that were encrypted one after the other. -/
def decryptChain (key : Block) : Block → List Block → List Block
  | _, [] => []
  | initial, c :: cs => (decryptBlock key c).add initial :: decryptChain key c cs

end SemanticClient.Crypto
