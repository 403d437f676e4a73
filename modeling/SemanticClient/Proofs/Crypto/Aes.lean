import Mathlib.Data.LawfulXor.Basic
import SemanticClient.Crypto.Aes

/-!
# Decryption undoes encryption

For every key and every block. The layers of a round are undone one by one:

* `unsubstitute_substitute`: the two byte tables undo each other.
* `Column.mix_mix`: mixing twice doubles no byte alone, only the sums of opposite bytes; so mixing four
  times is no mixing (`Column.unmix_mix`).
* `undoRounds_rounds`: a stack of rounds is undone key by key.
* `decryptBlock_encryptBlock`: decryption undoes encryption.
-/

namespace SemanticClient.Crypto

/-! ## Bytes -/

theorem getD_toList (t : Array UInt8) (i : Nat) : t.getD i 0 = t.toList.getD i 0 := by
  rw [Array.getD_eq_getD_getElem?, List.getD_eq_getElem?_getD, Array.getElem?_toList]

/-- The table read backwards, byte by byte. -/
theorem inverseTable_substitutionTable :
    substitutionTable.toList.map (fun b => inverseTable.toList.getD b.toNat 0) =
      (List.range 256).map UInt8.ofNat := by
  decide +kernel

/-- **The two byte tables undo each other.** -/
theorem unsubstitute_substitute (b : UInt8) : unsubstitute (substitute b) = b := by
  have h := congrArg (fun l => l[b.toNat]?) inverseTable_substitutionTable
  simp only [List.getElem?_map, List.getElem?_range b.toNat_lt, Option.map_some,
    UInt8.ofNat_toNat] at h
  obtain ⟨c, hc, hb⟩ := Option.map_eq_some_iff.1 h
  have hs : substitute b = c := by
    unfold substitute
    rw [getD_toList, List.getD_eq_getElem?_getD, hc, Option.getD_some]
  rw [hs]
  unfold unsubstitute
  rw [getD_toList, hb]

theorem lt_0x80_iff (a : UInt8) : a < 0x80 ↔ a.toBitVec.msb = false := by
  rw [BitVec.msb_eq_decide, UInt8.lt_iff_toNat_lt]
  simp

/-- The top bit of a sum is clear exactly when the two top bits agree. -/
theorem xor_lt_0x80_iff (a b : UInt8) : a ^^^ b < 0x80 ↔ (a < 0x80 ↔ b < 0x80) := by
  simp [lt_0x80_iff]

theorem shiftLeft_xor (a b : UInt8) : (a ^^^ b) <<< 1 = (a <<< 1) ^^^ (b <<< 1) := by
  apply UInt8.toBitVec_inj.1
  simp [BitVec.shiftLeft_xor_distrib]

theorem xor_left_comm (a b c : UInt8) : a ^^^ (b ^^^ c) = b ^^^ (a ^^^ c) := by
  rw [← UInt8.xor_assoc, UInt8.xor_comm a b, UInt8.xor_assoc]

/-- What overflows when a sum is doubled is the sum of what overflows on both sides. -/
theorem overflow_xor (a b : UInt8) :
    (if a ^^^ b < 0x80 then 0 else 0x1b : UInt8) =
      (if a < 0x80 then 0 else 0x1b) ^^^ (if b < 0x80 then 0 else 0x1b) := by
  have hab := xor_lt_0x80_iff a b
  by_cases ha : a < 0x80 <;> by_cases hb : b < 0x80 <;> simp only [ha, hb, hab] <;> decide

/-- **Doubling is additive.** -/
theorem double_xor (a b : UInt8) : double (a ^^^ b) = double a ^^^ double b := by
  unfold double
  rw [shiftLeft_xor, overflow_xor]
  simp only [UInt8.xor_assoc, xor_left_comm]

/-! ## Columns -/

namespace Column

theorem map_map_of_left_inverse {f g : UInt8 → UInt8} (h : ∀ b, g (f b) = b) (k : Column) :
    (k.map f).map g = k := by
  simp [map, h]

theorem add_add_cancel (k l : Column) : (k.add l).add l = k := by
  simp [add]

/-- The first byte of a column that is mixed twice. -/
theorem first_mix_mix (a b c d : UInt8) :
    double ((double (a ^^^ b) ^^^ b ^^^ c ^^^ d) ^^^ (double (b ^^^ c) ^^^ c ^^^ d ^^^ a)) ^^^
        (double (b ^^^ c) ^^^ c ^^^ d ^^^ a) ^^^ (double (c ^^^ d) ^^^ d ^^^ a ^^^ b) ^^^
        (double (d ^^^ a) ^^^ a ^^^ b ^^^ c) =
      double (double (a ^^^ c)) ^^^ a := by
  simp only [double_xor, UInt8.xor_assoc, UInt8.xor_comm, xor_left_comm, xor_cancel_left]

/-- **Mixing twice** adds to every byte four times the sum of it and the opposite byte. -/
theorem mix_mix (k : Column) :
    k.mix.mix =
      ⟨double (double (k.a ^^^ k.c)) ^^^ k.a, double (double (k.b ^^^ k.d)) ^^^ k.b,
       double (double (k.c ^^^ k.a)) ^^^ k.c, double (double (k.d ^^^ k.b)) ^^^ k.d⟩ := by
  simp only [mix, mk.injEq]
  -- every byte comes first once the bytes are moved up to it
  exact ⟨first_mix_mix k.a k.b k.c k.d, first_mix_mix k.b k.c k.d k.a, first_mix_mix k.c k.d k.a k.b,
    first_mix_mix k.d k.a k.b k.c⟩

/-- The sum of opposite bytes is left alone by mixing twice. -/
theorem opposite_xor (a c : UInt8) :
    double (double (a ^^^ c)) ^^^ a ^^^ (double (double (c ^^^ a)) ^^^ c) = a ^^^ c := by
  rw [UInt8.xor_comm c a, UInt8.xor_assoc, xor_left_comm a, xor_cancel_left]

/-- So mixing twice more takes back what was added. -/
theorem unmix_mix (k : Column) : k.mix.unmix = k := by
  unfold unmix
  rw [mix_mix k.mix.mix, mix_mix k]
  simp only [opposite_xor, xor_cancel_left]

end Column

/-! ## Blocks -/

namespace Block

theorem map_map_of_left_inverse {f g : Column → Column} (h : ∀ k, g (f k) = k) (s : Block) :
    (s.map f).map g = s := by
  simp [map, h]

theorem unshiftRows_shiftRows (s : Block) : s.shiftRows.unshiftRows = s := rfl

theorem add_add_cancel (s t : Block) : (s.add t).add t = s := by
  simp [add, Column.add_add_cancel]

/-- Replacing every byte of a block is undone. -/
theorem unsubstitute_substitute (s : Block) :
    (s.map (·.map substitute)).map (·.map unsubstitute) = s :=
  map_map_of_left_inverse
    (fun k => k.map_map_of_left_inverse Crypto.unsubstitute_substitute) s

theorem unmix_mix (s : Block) : (s.map Column.mix).map Column.unmix = s :=
  map_map_of_left_inverse Column.unmix_mix s

end Block

/-! ## Rounds -/

theorem rounds_cons_cons (k l : Block) (ks : List Block) (s : Block) :
    rounds (k :: l :: ks) s =
      rounds (l :: ks) ((((s.map (·.map substitute)).shiftRows).map Column.mix).add k) := rfl

theorem undoRounds_singleton (k s : Block) :
    undoRounds [k] s = ((s.add k).unshiftRows).map (·.map unsubstitute) := rfl

theorem undoRounds_cons_cons (k l : Block) (ks : List Block) (s : Block) :
    undoRounds (k :: l :: ks) s =
      ((((undoRounds (l :: ks) s).add k).map Column.unmix).unshiftRows).map (·.map unsubstitute) :=
  rfl

/-- **A stack of rounds is undone key by key.** -/
theorem undoRounds_rounds (ks : List Block) (s : Block) : undoRounds ks (rounds ks s) = s := by
  induction ks generalizing s with
  | nil => rfl
  | cons k ks ih =>
    cases ks with
    | nil =>
      -- the last round does not mix
      rw [undoRounds_singleton, rounds, Block.add_add_cancel, Block.unshiftRows_shiftRows,
        Block.unsubstitute_substitute]
    | cons l ks =>
      rw [undoRounds_cons_cons, rounds_cons_cons, ih, Block.add_add_cancel, Block.unmix_mix,
        Block.unshiftRows_shiftRows, Block.unsubstitute_substitute]

/-- **Decryption undoes encryption**, whatever the key. -/
theorem decryptBlock_encryptBlock (key s : Block) : decryptBlock key (encryptBlock key s) = s := by
  unfold decryptBlock encryptBlock
  rw [undoRounds_rounds, Block.add_add_cancel]

end SemanticClient.Crypto
