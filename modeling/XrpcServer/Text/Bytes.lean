import Mathlib.Data.List.TakeWhile
import Mathlib.Data.Int.Basic

/-!
# Byte strings

A `std::string` is a sequence of arbitrary bytes, embedded zeros included. Source literals
enter through `str`, which is injective, so comparing two literals is comparing their texts.
-/

namespace XrpcServer.Text

/-- The contents of a `std::string`. -/
abbrev Bytes := List UInt8

/-- The bytes of a string literal. -/
def str (s : String) : Bytes := s.toByteArray.data.toList

/-- Distinct literals have distinct bytes. -/
@[simp] theorem str_inj {s t : String} : str s = str t ↔ s = t := by
  rw [← String.toByteArray_inj, ByteArray.ext_iff, str, str, Array.toList_inj]

/-- The decimal text produced by `std::to_string`. -/
def decimalText (n : ℤ) : Bytes := str (toString n)

/-- The part of a string that a `const char*` reader sees: everything before the first zero byte. -/
def cString (s : Bytes) : Bytes := s.takeWhile (· ≠ 0)

end XrpcServer.Text
