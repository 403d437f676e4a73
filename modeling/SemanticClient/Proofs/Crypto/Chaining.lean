import SemanticClient.Crypto.Chaining
import SemanticClient.Proofs.Crypto.Aes

/-!
# Chains are undone block by block

* `exists_blocks_of_length`: bytes whose number is a multiple of sixteen are the bytes of blocks.
* `decryptChain_encryptChain`: a chain of any length is undone, given the block it started from.
-/

namespace SemanticClient.Crypto

namespace Block

theorem length_bytes (s : Block) : s.bytes.length = 16 := rfl

theorem length_flatMap_bytes (ss : List Block) : (ss.flatMap bytes).length = 16 * ss.length := by
  induction ss with
  | nil => rfl
  | cons s ss ih => rw [List.flatMap_cons, List.length_append, ih, length_bytes, List.length_cons]; omega

/-- Blocks are read back from their bytes. -/
theorem ofBytes?_flatMap_bytes (ss : List Block) : ofBytes? (ss.flatMap bytes) = some ss := by
  induction ss with
  | nil => rfl
  | cons s ss ih => rw [List.flatMap_cons, ofBytes?_bytes, ih, Option.map_some]

theorem ofBytesOne?_bytes (s : Block) : ofBytesOne? s.bytes = some s := by
  have h := ofBytes?_flatMap_bytes [s]
  rw [List.flatMap_singleton] at h
  rw [ofBytesOne?, h]

theorem exists_bytes_eq (bytes : List UInt8) (h : bytes.length = 16) : ∃ s : Block, s.bytes = bytes :=
  match bytes, h with
  | [b0, b1, b2, b3, b4, b5, b6, b7, b8, b9, b10, b11, b12, b13, b14, b15], _ =>
    ⟨⟨⟨b0, b1, b2, b3⟩, ⟨b4, b5, b6, b7⟩, ⟨b8, b9, b10, b11⟩, ⟨b12, b13, b14, b15⟩⟩, rfl⟩

/-- **Whole blocks.** Bytes whose number is a multiple of sixteen are the bytes of blocks. -/
theorem exists_blocks_of_length {n : Nat} :
    ∀ bytes : List UInt8, bytes.length = 16 * n →
      ∃ ss : List Block, ss.flatMap Block.bytes = bytes ∧ ss.length = n := by
  induction n with
  | zero =>
    intro bytes h
    exact ⟨[], by rw [List.length_eq_zero_iff.1 h]; rfl, rfl⟩
  | succ n ih =>
    intro bytes h
    obtain ⟨s, hs⟩ := exists_bytes_eq (bytes.take 16) (by rw [List.length_take]; omega)
    obtain ⟨ss, hss, hn⟩ := ih (bytes.drop 16) (by rw [List.length_drop]; omega)
    refine ⟨s :: ss, ?_, by rw [List.length_cons, hn]⟩
    rw [List.flatMap_cons, hs, hss, List.take_append_drop]

end Block

theorem length_encryptChain (key : Block) (ss : List Block) :
    ∀ initial, (encryptChain key initial ss).length = ss.length := by
  induction ss with
  | nil => intro initial; rfl
  | cons s ss ih => intro initial; simp only [encryptChain, List.length_cons, ih]

/-- **A chain is undone block by block.** Each block was added to the encrypted one before it, which
decryption still has. -/
theorem decryptChain_encryptChain (key : Block) (ss : List Block) :
    ∀ initial, decryptChain key initial (encryptChain key initial ss) = ss := by
  induction ss with
  | nil => intro initial; rfl
  | cons s ss ih =>
    intro initial
    simp only [encryptChain, decryptChain]
    rw [decryptBlock_encryptBlock, Block.add_add_cancel, ih]

end SemanticClient.Crypto
