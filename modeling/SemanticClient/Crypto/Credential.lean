import SemanticClient.Crypto.Base64
import SemanticClient.Crypto.Chaining
import SemanticClient.Error

/-!
# Credentials

What a login sends in place of a password: the user id, encrypted with the password. Text and password
are filled up with hyphens to whole blocks, a longer password is cut, and the hyphens at the end are
dropped again after decryption.

* `length_padded`: a filled text has the length of at least one block, and of whole blocks.
-/

namespace SemanticClient.Crypto

/-- The byte that fills up blocks: a hyphen. -/
def fillByte : UInt8 := 0x2d

/-- The bytes of a block. -/
def blockSize : Nat := 16

/-- The bytes of a string. -/
def bytesOf (s : String) : List UInt8 := s.toUTF8.toList

/-- The key of a password: its first bytes, filled up to one block. -/
def keyOf (password : String) : Block :=
  -- the filled bytes are one block, so the default is never taken
  let bytes := (bytesOf password).take blockSize
  (Block.ofBytesOne? (bytes ++ List.replicate (blockSize - bytes.length) fillByte)).getD
    ⟨⟨0, 0, 0, 0⟩, ⟨0, 0, 0, 0⟩, ⟨0, 0, 0, 0⟩, ⟨0, 0, 0, 0⟩⟩

/-- The number of blocks that bytes fill: at least one. -/
def blockCount (n : Nat) : Nat := max 1 ((n + blockSize - 1) / blockSize)

/-- Bytes filled up to whole blocks. -/
def padded (bytes : List UInt8) : List UInt8 :=
  bytes ++ List.replicate (blockCount bytes.length * blockSize - bytes.length) fillByte

/-- Encrypts a text with a password. -/
def encrypt (plain password : String) (iv : Block) : List UInt8 :=
  -- filled bytes are whole blocks, so the default is never taken
  let blocks := (Block.ofBytes? (padded (bytesOf plain))).getD []
  (encryptChain (keyOf password) iv blocks).flatMap Block.bytes

/-- A text without the hyphens it ends with. -/
def trimFill (s : String) : String :=
  String.ofList ((s.toList.reverse.dropWhile (· == '-')).reverse)

/-- Decrypts a text with a password. -/
def decrypt (cipher : List UInt8) (password : String) (iv : Block) : Except ClientError String :=
  match Block.ofBytes? cipher with
  | none => .error (.crypto "Failed to decrypt: Unpad Error")
  | some blocks =>
    let bytes := (decryptChain (keyOf password) iv blocks).flatMap Block.bytes
    match String.fromUTF8? ⟨bytes.toArray⟩ with
    | none => .error (.crypto "Decrypted text isn't utf-8: invalid byte sequence")
    | some s => .ok (trimFill s)

/-- Reads an initial block from its letters. -/
def decodeIv (letters : String) : Except ClientError Block :=
  match Base64.decode? letters.toList with
  | none => .error (.crypto "Invalid iv: not base 64")
  | some bytes =>
    match Block.ofBytesOne? bytes with
    | none => .error (.crypto ("IV must be 16 bytes, got " ++ toString bytes.length))
    | some iv => .ok iv

/-- What a login sends in place of a password. -/
structure Credential where
  uid : String
  /-- The encrypted user id, in letters. -/
  token : String
  /-- The initial block, in letters. -/
  iv : String
deriving DecidableEq

/-- The credential of a user, with a given initial block. -/
def Credential.of (uid password : String) (iv : Block) : Credential where
  uid := uid
  token := String.ofList (Base64.encode (encrypt uid password iv))
  iv := String.ofList (Base64.encode iv.bytes)

theorem length_padded (bytes : List UInt8) :
    (padded bytes).length = blockCount bytes.length * blockSize := by
  simp only [padded, List.length_append, List.length_replicate, blockCount, blockSize]
  omega

end SemanticClient.Crypto
