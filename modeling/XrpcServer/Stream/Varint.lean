import Mathlib.Algebra.Group.Nat.Defs

/-!
# Numbers of seven bits a byte

The lowest seven bits come first, and every byte but the last has its highest bit set.
-/

namespace XrpcServer.Stream

/-- The number in at most `size` bytes. -/
def encodeVarint : ℕ → ℕ → List UInt8
  | 0, _ => []
  | size + 1, n =>
    if n < 128 then [UInt8.ofNat n] else UInt8.ofNat (n % 128 + 128) :: encodeVarint size (n / 128)

/-- The number in at most `size` bytes at the front of the input. -/
def decodeVarint : ℕ → List UInt8 → Option (ℕ × List UInt8)
  | 0, _ => none
  | _ + 1, [] => none
  | size + 1, byte :: input =>
    if byte.toNat < 128 then some (byte.toNat, input)
    else (decodeVarint size input).map fun (n, rest) => (byte.toNat - 128 + 128 * n, rest)

/-- What is read is taken off the input. -/
theorem decodeVarint_rest {size n : ℕ} {input rest : List UInt8}
    (h : decodeVarint size input = some (n, rest)) : rest.length < input.length := by
  induction size generalizing input n with
  | zero => simp [decodeVarint] at h
  | succ size ih =>
    cases input with
    | nil => simp [decodeVarint] at h
    | cons byte input =>
      rw [decodeVarint] at h
      split at h
      · cases h
        simp
      · obtain ⟨⟨n', rest'⟩, hdecode, heq⟩ := Option.map_eq_some_iff.mp h
        cases heq
        have := ih hdecode
        simp only [List.length_cons]
        omega

/-- A number is read back by a reader that may read as many bytes as were written. -/
theorem decodeVarint_encodeVarint {size size' n : ℕ} (hpos : 0 < size) (hsize : size ≤ size')
    (hn : n < 128 ^ size) (rest : List UInt8) : decodeVarint size' (encodeVarint size n ++ rest) = some (n, rest) := by
  induction size generalizing size' n with
  | zero => omega
  | succ size ih =>
    obtain ⟨size', rfl⟩ : ∃ k, size' = k + 1 := ⟨size' - 1, by omega⟩
    rw [encodeVarint]
    split
    · rename_i hlt
      have hbyte : (UInt8.ofNat n).toNat = n := by
        rw [UInt8.toNat_ofNat']
        omega
      simp [decodeVarint, hbyte, hlt]
    · rename_i hlt
      have hbyte : (UInt8.ofNat (n % 128 + 128)).toNat = n % 128 + 128 := by
        rw [UInt8.toNat_ofNat']
        omega
      have hdiv : n / 128 < 128 ^ size := by
        rw [Nat.div_lt_iff_lt_mul (by omega), ← Nat.pow_succ]
        exact hn
      have hmore : 0 < size := by
        apply Nat.pos_of_ne_zero
        intro hzero
        rw [hzero, Nat.pow_zero] at hdiv
        omega
      rw [List.cons_append, decodeVarint, hbyte, if_neg (by omega), ih hmore (by omega) hdiv]
      simp only [Option.map_some, Option.some.injEq, Prod.mk.injEq, and_true]
      omega

end XrpcServer.Stream
