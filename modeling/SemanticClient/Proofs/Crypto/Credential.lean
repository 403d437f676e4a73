import SemanticClient.Proofs.Crypto.Base64
import SemanticClient.Proofs.Crypto.Chaining
import SemanticClient.Proofs.Crypto.Utf8

/-!
# Credentials reach the server

What the server gets out of a credential, for every user id, password and initial block. The hyphens that
fill up the last block are text like any other (`padded_bytesOf`), so decryption gives the user id with
hyphens at its end, and dropping those drops the user id's own as well (`trimFill_append_fill`).

* `exists_blocks_padded`: filled bytes are whole blocks, so no text is too short or too long to encrypt.
* `decrypt_encrypt`: decryption gives the text back without the hyphens it ends with.
* `Credential.of_intact`: what the letters of a credential hold.
-/

namespace SemanticClient.Crypto

/-! ## The text that fills up blocks -/

/-- A number of hyphens. -/
def fill (n : Nat) : String := String.ofList (List.replicate n '-')

theorem toList_fill (n : Nat) : (fill n).toList = List.replicate n '-' := String.toList_ofList

theorem bytesOf_fill (n : Nat) : bytesOf (fill n) = List.replicate n fillByte := by
  have hc : String.utf8EncodeChar '-' = [fillByte] := by decide
  unfold fill
  rw [bytesOf_ofList]
  induction n with
  | zero => rfl
  | succ n ih => rw [List.replicate_succ, List.flatMap_cons, ih, hc]; rfl

/-- A filled text is a text with hyphens at its end. -/
theorem padded_bytesOf (s : String) : ∃ n, padded (bytesOf s) = bytesOf (s ++ fill n) := by
  refine ⟨blockCount (bytesOf s).length * blockSize - (bytesOf s).length, ?_⟩
  rw [padded, bytesOf_append, bytesOf_fill]

/-- **Filled bytes are whole blocks**, as many as are counted. -/
theorem exists_blocks_padded (bytes : List UInt8) :
    ∃ ss, Block.ofBytes? (padded bytes) = some ss ∧ ss.flatMap Block.bytes = padded bytes ∧
      ss.length = blockCount bytes.length := by
  have hlen : (padded bytes).length = 16 * blockCount bytes.length := by
    rw [length_padded, blockSize, Nat.mul_comm]
  obtain ⟨ss, hss, hn⟩ := Block.exists_blocks_of_length (padded bytes) hlen
  refine ⟨ss, ?_, hss, hn⟩
  rw [← hss, Block.ofBytes?_flatMap_bytes]

/-- **A key is the first bytes of its password**, filled up to one block; a character may be cut. -/
theorem bytes_keyOf (password : String) :
    (keyOf password).bytes =
      (bytesOf password ++ List.replicate blockSize fillByte).take blockSize := by
  have hle : ((bytesOf password).take blockSize).length ≤ blockSize := by
    rw [List.length_take]; omega
  obtain ⟨s, hs⟩ := Block.exists_bytes_eq
    ((bytesOf password).take blockSize ++
      List.replicate (blockSize - ((bytesOf password).take blockSize).length) fillByte)
    (by rw [List.length_append, List.length_replicate]; unfold blockSize at *; omega)
  have hkey : keyOf password = s := by
    unfold keyOf
    simp only
    rw [← hs, Block.ofBytesOne?_bytes, Option.getD_some]
  rw [hkey, hs, List.take_append, List.take_replicate, List.length_take]
  congr 2
  omega

/-! ## Dropping hyphens -/

theorem trimFill_append_fill (s : String) (n : Nat) : trimFill (s ++ fill n) = trimFill s := by
  have hd : ∀ l, (List.replicate n '-' ++ l).dropWhile (· == '-') = l.dropWhile (· == '-') := by
    intro l
    induction n with
    | zero => rfl
    | succ n ih => rw [List.replicate_succ, List.cons_append, List.dropWhile_cons_of_pos rfl, ih]
  unfold trimFill
  rw [String.toList_append, List.reverse_append, toList_fill, List.reverse_replicate, hd]

/-- What is dropped is hyphens. -/
theorem eq_trimFill_append_fill (s : String) : ∃ n, s = trimFill s ++ fill n := by
  have hr : s.toList.reverse.takeWhile (· == '-') =
      List.replicate (s.toList.reverse.takeWhile (· == '-')).length '-' := by
    have hall := List.all_takeWhile (p := (· == '-')) (l := s.toList.reverse)
    rw [List.eq_replicate_iff]
    exact ⟨rfl, fun c hc => by simpa using List.all_eq_true.1 hall c hc⟩
  refine ⟨(s.toList.reverse.takeWhile (· == '-')).length, ?_⟩
  apply String.toList_inj.1
  have hs := congrArg List.reverse
    (List.takeWhile_append_dropWhile (p := (· == '-')) (l := s.toList.reverse))
  rw [List.reverse_append, List.reverse_reverse] at hs
  rw [String.toList_append, toList_fill, trimFill, String.toList_ofList, ← List.reverse_replicate,
    ← hr, hs]

/-- No hyphen is left at the end. -/
theorem getLast?_trimFill (s : String) : (trimFill s).toList.getLast? ≠ some '-' := by
  unfold trimFill
  rw [String.toList_ofList, List.getLast?_reverse]
  intro h
  have hd := List.head?_dropWhile_not (· == '-') s.toList.reverse
  rw [h] at hd
  simp at hd

theorem trimFill_eq_self_iff (s : String) : trimFill s = s ↔ s.toList.getLast? ≠ some '-' := by
  constructor
  · intro h
    rw [← h]
    exact getLast?_trimFill s
  · intro h
    obtain ⟨n, hn⟩ := eq_trimFill_append_fill s
    cases n with
    | zero =>
      rw [fill, List.replicate_zero, String.ofList_nil, String.append_empty] at hn
      exact hn.symm
    | succ n =>
      refine absurd ?_ h
      rw [hn, String.toList_append, toList_fill, List.replicate_succ', ← List.append_assoc,
        List.getLast?_concat]

/-! ## The round trip -/

/-- The bytes of a text that was encrypted are as many as its blocks hold. -/
theorem length_encrypt (plain password : String) (iv : Block) :
    (encrypt plain password iv).length = 16 * blockCount plain.utf8ByteSize := by
  obtain ⟨ss, hss, -, hn⟩ := exists_blocks_padded (bytesOf plain)
  unfold encrypt
  rw [hss, Block.length_flatMap_bytes, length_encryptChain, Option.getD_some, hn, length_bytesOf]

/-- **Decryption gives the text back**, without the hyphens it ends with. -/
theorem decrypt_encrypt (plain password : String) (iv : Block) :
    decrypt (encrypt plain password iv) password iv = .ok (trimFill plain) := by
  obtain ⟨ss, hss, hbytes, -⟩ := exists_blocks_padded (bytesOf plain)
  obtain ⟨n, hn⟩ := padded_bytesOf plain
  have hcipher : encrypt plain password iv =
      (encryptChain (keyOf password) iv ss).flatMap Block.bytes := by
    unfold encrypt
    rw [hss, Option.getD_some]
  unfold decrypt
  rw [hcipher, Block.ofBytes?_flatMap_bytes]
  simp only [decryptChain_encryptChain]
  rw [hbytes, hn, fromUTF8?_bytesOf]
  simp only [trimFill_append_fill]

/-- The initial block is read back from its letters. -/
theorem decodeIv_encode (iv : Block) :
    decodeIv (String.ofList (Base64.encode iv.bytes)) = .ok iv := by
  unfold decodeIv
  rw [String.toList_ofList, Base64.decode?_encode]
  simp only [Block.ofBytesOne?_bytes]

/-- **A credential reaches the server intact.** Its text fills whole blocks; its initial block is read
back; its letters give bytes, at least one block of them and no more than the user id needs; and these
bytes decrypt to the user id without the hyphens it ends with, so to the user id itself exactly if it
does not end with one. -/
theorem Credential.of_intact (uid password : String) (iv : Block) :
    (∃ ss, Block.ofBytes? (padded (bytesOf uid)) = some ss) ∧
    (keyOf password).bytes =
      (bytesOf password ++ List.replicate blockSize fillByte).take blockSize ∧
    (Credential.of uid password iv).uid = uid ∧
    decodeIv (Credential.of uid password iv).iv = .ok iv ∧
    ∃ cipher text,
      Base64.decode? (Credential.of uid password iv).token.toList = some cipher ∧
      cipher.length = 16 * max 1 ((uid.utf8ByteSize + 15) / 16) ∧
      decrypt cipher password iv = .ok text ∧
      (∃ n, uid.toList = text.toList ++ List.replicate n '-') ∧
      text.toList.getLast? ≠ some '-' ∧
      (text = uid ↔ uid.toList.getLast? ≠ some '-') := by
  obtain ⟨ss, hss, -, -⟩ := exists_blocks_padded (bytesOf uid)
  obtain ⟨n, hn⟩ := eq_trimFill_append_fill uid
  refine ⟨⟨ss, hss⟩, bytes_keyOf password, rfl, decodeIv_encode iv, encrypt uid password iv,
    trimFill uid, ?_, ?_, decrypt_encrypt uid password iv, ⟨n, ?_⟩, getLast?_trimFill uid,
    trimFill_eq_self_iff uid⟩
  · rw [Credential.of, String.toList_ofList, Base64.decode?_encode]
  · rw [length_encrypt, blockCount, blockSize]
    rfl
  · rw [← toList_fill, ← String.toList_append, ← hn]

end SemanticClient.Crypto
