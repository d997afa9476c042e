import XrpcServer.Text.Bytes
import Mathlib.Tactic.Linarith

/-!
# Decimal numerals and the prefix reader `stoll`

`IsNumeral` is the strict notion: the whole string is an optional minus sign and digits.
`stoll` is the standard library's lenient one: it skips leading white space, accepts either
sign, reads the longest digit prefix and ignores the rest. The two agree on numerals that
fit 64 bits, and nothing more can be said of a string that `stoll` merely accepts.
-/

namespace XrpcServer.Text

/-- Why a conversion to an integer failed. -/
inductive ConversionError where
  | invalidArgument
  | outOfRange
deriving DecidableEq, Repr

/-- An ASCII decimal digit. -/
def isDigit (b : UInt8) : Bool := 48 ≤ b && b ≤ 57

/-- A white-space byte of the C locale. -/
def isSpace (b : UInt8) : Bool := b == 32 || (9 ≤ b && b ≤ 13)

/-- The number denoted by a digit string, most significant digit first. -/
def digitsValue (digits : Bytes) : ℕ := digits.foldl (fun n d => 10 * n + (d.toNat - 48)) 0

/-- Split off an optional sign; `true` stands for minus. -/
def readSign (s : Bytes) : Bool × Bytes :=
  match s with
  | [] => (false, [])
  | b :: rest => if b = 45 then (true, rest) else if b = 43 then (false, rest) else (false, b :: rest)

/-- The integer written by a sign and a digit string. -/
def signedValue (minus : Bool) (digits : Bytes) : ℤ :=
  if minus then -(digitsValue digits : ℤ) else digitsValue digits

/-- Representability in a signed 64-bit integer. -/
def FitsInt64 (v : ℤ) : Prop := -2 ^ 63 ≤ v ∧ v < 2 ^ 63

instance (v : ℤ) : Decidable (FitsInt64 v) := inferInstanceAs (Decidable (_ ∧ _))

/-- `std::stoll` in base ten. -/
def stoll (s : Bytes) : Except ConversionError ℤ :=
  let signed := readSign (s.dropWhile isSpace)
  let digits := signed.2.takeWhile isDigit
  if digits = [] then .error .invalidArgument
  else if FitsInt64 (signedValue signed.1 digits) then .ok (signedValue signed.1 digits)
  else .error .outOfRange

/-- The whole string is a nonempty digit string, possibly after a minus sign, denoting `a`. -/
def IsNumeral (s : Bytes) (a : ℤ) : Prop :=
  ∃ minus digits, digits ≠ [] ∧ (∀ b ∈ digits, isDigit b) ∧
    s = (if minus then 45 :: digits else digits) ∧ a = signedValue minus digits

/-- No white space precedes a digit string. -/
theorem isSpace_of_isDigit {b : UInt8} (h : isDigit b) : isSpace b = false := by
  simp only [isDigit, Bool.and_eq_true, decide_eq_true_eq, UInt8.le_iff_toNat_le] at h
  simp only [isSpace, Bool.or_eq_false_iff, beq_eq_false_iff_ne, ne_eq, ← UInt8.toNat_inj,
    Bool.and_eq_false_iff, decide_eq_false_iff_not, UInt8.le_iff_toNat_le]
  simp only [UInt8.reduceToNat] at *
  omega

/-- A digit is neither sign. -/
theorem ne_sign_of_isDigit {b : UInt8} (h : isDigit b) : b ≠ 45 ∧ b ≠ 43 := by
  constructor <;> intro hsign <;> subst hsign <;> exact absurd h (by decide)

/-- The reader consumes a numeral entirely. -/
theorem readSign_of_numeral {minus : Bool} {digits : Bytes} (hne : digits ≠ [])
    (hdigits : ∀ b ∈ digits, isDigit b) :
    readSign ((if minus then 45 :: digits else digits).dropWhile isSpace) = (minus, digits) := by
  obtain ⟨d, rest, rfl⟩ := List.exists_cons_of_ne_nil hne
  have hd : isDigit d := hdigits d List.mem_cons_self
  cases minus with
  | true => rfl
  | false =>
    obtain ⟨hminus, hplus⟩ := ne_sign_of_isDigit hd
    simp [isSpace_of_isDigit hd, readSign, hminus, hplus]

/-- On a numeral the lenient reader succeeds exactly when the value fits, with that value. -/
theorem stoll_of_isNumeral {s : Bytes} {a : ℤ} (h : IsNumeral s a) :
    stoll s = if FitsInt64 a then .ok a else .error .outOfRange := by
  obtain ⟨minus, digits, hne, hdigits, rfl, rfl⟩ := h
  have htake : digits.takeWhile isDigit = digits := List.takeWhile_eq_self_iff.mpr hdigits
  simp only [stoll, readSign_of_numeral hne hdigits, htake, if_neg hne]

/-- The lenient reader cannot read two different numbers from a numeral. -/
theorem IsNumeral.eq_of_stoll {s : Bytes} {a v : ℤ} (h : IsNumeral s a) (hv : stoll s = .ok v) :
    a = v := by
  rw [stoll_of_isNumeral h] at hv
  split_ifs at hv
  cases hv
  rfl

/-- Only decimal digits, and not all of them zero. -/
def PositiveDigits (s : Bytes) : Prop := (∀ b ∈ s, isDigit b) ∧ 0 < digitsValue s

instance (s : Bytes) : Decidable (PositiveDigits s) := inferInstanceAs (Decidable (_ ∧ _))

/-- A positive numeral has no sign. -/
theorem positiveDigits_iff {s : Bytes} : PositiveDigits s ↔ ∃ a, 0 < a ∧ IsNumeral s a := by
  constructor
  · intro hpositive
    obtain ⟨hdigits, hpos⟩ := hpositive
    refine ⟨digitsValue s, by exact_mod_cast hpos, false, s, ?_, hdigits, rfl, rfl⟩
    intro hempty
    subst hempty
    exact absurd hpos (by decide)
  · intro hnumeral
    obtain ⟨a, hpos, minus, digits, -, hdigits, rfl, rfl⟩ := hnumeral
    cases minus with
    | true =>
      simp only [signedValue, if_true] at hpos
      omega
    | false =>
      refine ⟨hdigits, ?_⟩
      simpa [signedValue] using hpos

/-- Texts put together. -/
theorem str_append (s t : String) : str (s ++ t) = str s ++ str t := by
  rw [str, String.toByteArray_append, ByteArray.toList_data_append]
  rfl

/-- The text of a single digit denotes that digit. -/
theorem str_digitChar : ∀ d < 10, str (.singleton (Nat.digitChar d)) = [UInt8.ofNat (48 + d)] ∧
    isDigit (UInt8.ofNat (48 + d)) ∧ (UInt8.ofNat (48 + d)).toNat - 48 = d := by
  decide

/-- Another digit at the end. -/
theorem digitsValue_append (digits : Bytes) (b : UInt8) :
    digitsValue (digits ++ [b]) = 10 * digitsValue digits + (b.toNat - 48) := by
  simp [digitsValue]

/-- The text of a natural number consists of digits that denote it. -/
theorem digits_decimalText (n : ℕ) : decimalText n ≠ [] ∧ (∀ b ∈ decimalText n, isDigit b) ∧
    digitsValue (decimalText n) = n := by
  change str n.repr ≠ [] ∧ (∀ b ∈ str n.repr, isDigit b) ∧ digitsValue (str n.repr) = n
  induction n using Nat.strong_induction_on with
  | _ n ih =>
    by_cases hlt : n < 10
    · obtain ⟨htext, hdigit, hvalue⟩ := str_digitChar n hlt
      rw [Nat.repr_of_lt hlt, htext]
      exact ⟨by simp, by simpa using hdigit, by simpa [digitsValue] using hvalue⟩
    · have hge : 10 ≤ n := Nat.le_of_not_lt hlt
      obtain ⟨-, hdigits, hvalue⟩ := ih (n / 10) (by omega)
      obtain ⟨htext, hdigit, hlast⟩ := str_digitChar (n % 10) (by omega)
      rw [Nat.repr_of_ge hge, str_append, htext]
      refine ⟨by simp, ?_, ?_⟩
      · intro c hc
        rcases List.mem_append.mp hc with hc | hc
        · exact hdigits c hc
        · rwa [List.mem_singleton.mp hc]
      · rw [digitsValue_append, hvalue, hlast]
        omega

example : stoll (str " \t-12abc") = .ok (-12) := by decide
example : stoll (str "abc") = .error .invalidArgument := by decide
example : stoll (str "9223372036854775808") = .error .outOfRange := by decide

end XrpcServer.Text
