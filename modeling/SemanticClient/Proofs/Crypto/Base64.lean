import SemanticClient.Crypto.Base64

/-!
# Letters give their bytes back

* `value?_char`: the alphabet numbers its characters.
* `decode?_encode`: every list of bytes is read back from its letters, whatever its length.
-/

namespace SemanticClient.Crypto.Base64

/-- **The alphabet numbers its characters.** -/
theorem value?_char {n : Nat} (hn : n < 64) : value? (char n) = some n := by
  have h : ∀ n : Fin 64, value? (char n) = some n.val := by decide +kernel
  exact h ⟨n, hn⟩

/-- The fill is no character of the alphabet. -/
theorem char_ne_fill {n : Nat} (hn : n < 64) : char n ≠ '=' := by
  have h : ∀ n : Fin 64, char n ≠ '=' := by decide +kernel
  exact h ⟨n, hn⟩

variable (a b c : UInt8)

/-! ## The six bits of each letter -/

theorem first_lt : a.toNat / 4 < 64 := by
  have := a.toNat_lt; omega

theorem second_lt : a.toNat % 4 * 16 + b.toNat / 16 < 64 := by
  have := b.toNat_lt; omega

theorem third_lt : b.toNat % 16 * 4 + c.toNat / 64 < 64 := by
  have := c.toNat_lt; omega

theorem fourth_lt : c.toNat % 64 < 64 := by omega

/-! ## The bytes of each group -/

theorem ofNat_eq_of_toNat {n : Nat} (h : n = a.toNat) : UInt8.ofNat n = a := by
  rw [h, UInt8.ofNat_toNat]

theorem first_byte : UInt8.ofNat (a.toNat / 4 * 4 + (a.toNat % 4 * 16 + b.toNat / 16) / 16) = a := by
  apply ofNat_eq_of_toNat
  have := b.toNat_lt; omega

theorem second_byte :
    UInt8.ofNat ((a.toNat % 4 * 16 + b.toNat / 16) % 16 * 16 +
      (b.toNat % 16 * 4 + c.toNat / 64) / 4) = b := by
  apply ofNat_eq_of_toNat
  have := b.toNat_lt; have := c.toNat_lt; omega

theorem third_byte :
    UInt8.ofNat ((b.toNat % 16 * 4 + c.toNat / 64) % 4 * 64 + c.toNat % 64) = c := by
  apply ofNat_eq_of_toNat
  have := c.toNat_lt; omega

/-! ## The round trip -/

/-- **Bytes are read back from their letters.** -/
theorem decode?_encode (bytes : List UInt8) : decode? (encode bytes) = some bytes := by
  fun_induction encode bytes with
  | case1 => rfl
  | case2 a =>
    have h1 := value?_char (first_lt a)
    have h2 := value?_char (second_lt a 0)
    have hb := first_byte a 0
    simp only [UInt8.toNat_zero, Nat.zero_div, Nat.add_zero] at h2 hb
    rw [decode?.eq_2, h1, h2]
    have h0 : a.toNat % 4 * 16 % 16 = 0 := by omega
    simp only [Option.bind_eq_bind, Option.bind_some, h0, if_true, hb]
  | case3 a b =>
    have h1 := value?_char (first_lt a)
    have h2 := value?_char (second_lt a b)
    have h3 := value?_char (third_lt b 0)
    have hne := char_ne_fill (third_lt b 0)
    have hb := second_byte a b 0
    simp only [UInt8.toNat_zero, Nat.zero_div, Nat.add_zero] at h3 hne hb
    rw [decode?.eq_3 _ _ _ hne, h1, h2, h3]
    have h0 : b.toNat % 16 * 4 % 4 = 0 := by omega
    simp only [Option.bind_eq_bind, Option.bind_some, h0, if_true, hb, first_byte]
  | case4 a b c bytes ih =>
    have h4 := fourth_lt c
    rw [decode?.eq_4 _ _ _ _ _ (fun _ h => absurd h (char_ne_fill h4))
      (fun h => absurd h (char_ne_fill h4)), value?_char (first_lt a), value?_char (second_lt a b),
      value?_char (third_lt b c), value?_char h4, ih]
    simp only [Option.bind_eq_bind, Option.bind_some, Option.pure_def, first_byte, second_byte,
      third_byte]

end SemanticClient.Crypto.Base64
