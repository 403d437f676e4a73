import SemanticClient.Crypto.Credential

/-!
# The bytes of a text

* `fromUTF8?_bytesOf`: a text is read back from its bytes.
* `bytesOf_append`, `length_bytesOf`: the bytes of two texts in a row, and the number of bytes.
-/

namespace SemanticClient.Crypto

theorem toList_loop (b : ByteArray) :
    ∀ (n i : Nat) (r : List UInt8), b.size = i + n →
      ByteArray.toList.loop b i r = r.reverse ++ b.data.toList.drop i := by
  intro n
  induction n with
  | zero =>
    intro i r h
    have hd : b.data.toList.drop i = [] := List.drop_of_length_le (by simp at h ⊢; omega)
    rw [ByteArray.toList.loop, if_neg (by omega), hd, List.append_nil]
  | succ n ih =>
    intro i r h
    have hi : i < b.data.toList.length := by simp at h ⊢; omega
    have hget : b.get! i = b.data.toList[i] := by
      show b.data[i]! = _
      rw [getElem!_pos b.data i (by simpa using hi), Array.getElem_toList]
    rw [ByteArray.toList.loop, if_pos (by omega), ih (i + 1) _ (by omega), hget,
      List.drop_eq_getElem_cons hi, List.reverse_cons, List.append_assoc, List.singleton_append]

theorem bytesOf_eq (s : String) : bytesOf s = s.toByteArray.data.toList := by
  unfold bytesOf
  rw [String.toUTF8_eq_toByteArray, ByteArray.toList, toList_loop _ _ 0 [] (Nat.zero_add _).symm]
  rfl

/-- The bytes of a text, character by character. -/
theorem bytesOf_ofList (cs : List Char) :
    bytesOf (String.ofList cs) = cs.flatMap String.utf8EncodeChar := by
  rw [bytesOf_eq, String.toByteArray_ofList, List.utf8Encode, List.toList_data_toByteArray]

/-- The number of bytes of a text. -/
theorem length_bytesOf (s : String) : (bytesOf s).length = s.utf8ByteSize := by
  rw [bytesOf_eq]
  rfl

/-- The bytes of two texts in a row. -/
theorem bytesOf_append (s t : String) : bytesOf (s ++ t) = bytesOf s ++ bytesOf t := by
  rw [bytesOf_eq, bytesOf_eq, bytesOf_eq, String.toByteArray_append, ByteArray.toList_data_append]

/-- **A text is read back from its bytes.** -/
theorem fromUTF8?_bytesOf (s : String) : String.fromUTF8? ⟨(bytesOf s).toArray⟩ = some s := by
  have h : (⟨(bytesOf s).toArray⟩ : ByteArray) = s.toByteArray := by rw [bytesOf_eq]
  rw [h, String.fromUTF8?, dif_pos s.isValidUTF8]
  rfl

end SemanticClient.Crypto
