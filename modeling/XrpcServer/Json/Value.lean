import XrpcServer.Json.Members
import Mathlib.Data.Nat.Cast.Order.Ring
import Mathlib.Data.Rat.Defs
import Mathlib.Algebra.Order.Ring.Rat

/-!
# JSON values and their throwing conversions

The value kinds of jsoncpp with the accessors the server uses. Each accessor states when it
throws: `operator[]` and `append` on a value of another kind, the `as*` conversions on a
value that has no counterpart in the target type. A real is the rational a finite double
denotes; only its printed form is left to the library.
-/

namespace XrpcServer.Json

open XrpcServer.Text

/-- Which accessor refused a value. -/
inductive JsonError where
  | notObject
  | notArray
  | notString
  | notConvertible
  | outOfRange
deriving DecidableEq, Repr

/-- A JSON value; `xJson::Value`. -/
inductive Value where
  | null
  | boolean (b : Bool)
  | int (i : ℤ)
  | real (q : ℚ)
  | string (s : Bytes)
  | array (items : List Value)
  | object (members : List (Bytes × Value))
deriving Inhabited

namespace Value

/-- The members of a value that `operator[]` accepts: null counts as the empty object. -/
def fields : Value → Option (List (Bytes × Value))
  | .null => some []
  | .object members => some members
  | _ => none

/-- A null value is an object without members. -/
@[simp] theorem fields_null : fields .null = some [] := rfl

/-- The members of an object. -/
@[simp] theorem fields_object (members : List (Bytes × Value)) :
    fields (.object members) = some members := rfl

/-- The member a key denotes, null when absent. -/
def member (members : List (Bytes × Value)) (key : Bytes) : Value :=
  (members.lookup key).getD .null

/-- `value[key]` read as a value. -/
def get (v : Value) (key : Bytes) : Except JsonError Value :=
  match v.fields with
  | some members => .ok (member members key)
  | none => .error .notObject

/-- `value[key] = x`. -/
def set (v : Value) (key : Bytes) (x : Value) : Except JsonError Value :=
  match v.fields with
  | some members => .ok (.object (insertMember key x members))
  | none => .error .notObject

/-- The null member that reading a missing key through a mutable reference leaves behind. -/
def touch (v : Value) (key : Bytes) : Value :=
  match v.fields with
  | some members =>
    .object (if (members.lookup key).isSome then members else insertMember key .null members)
  | none => v

/-- `value.append(x)`. -/
def append (v : Value) (x : Value) : Except JsonError Value :=
  match v with
  | .null => .ok (.array [x])
  | .array items => .ok (.array (items ++ [x]))
  | _ => .error .notArray

/-- `value.empty()`: null or a container without elements. -/
def isEmpty : Value → Bool
  | .null => true
  | .array items => items.isEmpty
  | .object members => members.isEmpty
  | _ => false

/-- `value.asString()`; `print` renders a double. -/
def asString (print : ℚ → Bytes) : Value → Except JsonError Bytes
  | .null => .ok []
  | .boolean b => .ok (if b then str "true" else str "false")
  | .int i => .ok (decimalText i)
  | .real q => .ok (print q)
  | .string s => .ok s
  | .array _ => .error .notConvertible
  | .object _ => .error .notConvertible

/-- `value.asCString()`, which only a string has, seen up to its first zero byte. -/
def asCString : Value → Except JsonError Bytes
  | .string s => .ok (cString s)
  | _ => .error .notString

/-- Conversion to an integer type with the given range. -/
def asInteger (lowest highest : ℤ) : Value → Except JsonError ℤ
  | .null => .ok 0
  | .boolean b => .ok (if b then 1 else 0)
  | .int i => if lowest ≤ i ∧ i ≤ highest then .ok i else .error .outOfRange
  | .real q =>
    if (lowest : ℚ) ≤ q ∧ q ≤ highest then .ok (q.num.tdiv q.den) else .error .outOfRange
  | .string _ => .error .notConvertible
  | .array _ => .error .notConvertible
  | .object _ => .error .notConvertible

/-- `value.asInt()`. -/
def asInt (v : Value) : Except JsonError ℤ := v.asInteger (-2 ^ 31) (2 ^ 31 - 1)

/-- `value.asInt64()`. -/
def asInt64 (v : Value) : Except JsonError ℤ := v.asInteger (-2 ^ 63) (2 ^ 63 - 1)

/-- Not a container, hence printable as a string. -/
def IsScalar : Value → Prop
  | .array _ => False
  | .object _ => False
  | _ => True

/-- Convertible to an integer type with the given range: null, a boolean, or a number in range. -/
def IsInteger (lowest highest : ℤ) : Value → Prop
  | .null => True
  | .boolean _ => True
  | .int i => lowest ≤ i ∧ i ≤ highest
  | .real q => (lowest : ℚ) ≤ q ∧ q ≤ highest
  | _ => False

/-- A string value. -/
def IsString : Value → Prop
  | .string _ => True
  | _ => False

/-- `asString` throws exactly on containers. -/
theorem asString_ok_iff (print : ℚ → Bytes) (v : Value) :
    (∃ s, v.asString print = .ok s) ↔ v.IsScalar := by
  cases v <;> simp [asString, IsScalar]

/-- `asCString` throws exactly on everything but strings. -/
theorem asCString_ok_iff (v : Value) : (∃ s, v.asCString = .ok s) ↔ v.IsString := by
  cases v <;> simp [asCString, IsString]

/-- An integer conversion throws exactly on strings, containers and numbers out of range. -/
theorem asInteger_ok_iff (lowest highest : ℤ) (v : Value) :
    (∃ i, v.asInteger lowest highest = .ok i) ↔ v.IsInteger lowest highest := by
  cases v with
  | int i => by_cases h : lowest ≤ i ∧ i ≤ highest <;> simp [asInteger, IsInteger, h]
  | real q => by_cases h : (lowest : ℚ) ≤ q ∧ q ≤ highest <;> simp [asInteger, IsInteger, h]
  | _ => simp [asInteger, IsInteger]

/-- A conversion to an integer type stays in the range of the type. -/
theorem asInteger_mem {lowest highest : ℤ} (hlow : lowest ≤ 0) (hhigh : 1 ≤ highest) {v : Value}
    {i : ℤ} (h : v.asInteger lowest highest = .ok i) : lowest ≤ i ∧ i ≤ highest := by
  cases v with
  | null =>
    cases h
    omega
  | boolean b =>
    cases b <;> cases h <;> simp <;> omega
  | int j =>
    simp only [asInteger] at h
    split_ifs at h with hrange
    cases h
    exact hrange
  | real q =>
    simp only [asInteger] at h
    split_ifs at h with hrange
    cases h
    -- rounding towards zero stays between two integer bounds
    have hden : (0 : ℚ) ≤ q.den := Nat.cast_nonneg _
    have hpos : (0 : ℤ) < q.den := by exact_mod_cast q.den_pos
    have hnum : q * q.den = q.num := Rat.mul_den_eq_num q
    have hlower : lowest * q.den ≤ q.num := by
      have := mul_le_mul_of_nonneg_right hrange.1 hden
      rw [hnum] at this
      exact_mod_cast this
    have hupper : q.num ≤ highest * q.den := by
      have := mul_le_mul_of_nonneg_right hrange.2 hden
      rw [hnum] at this
      exact_mod_cast this
    constructor
    · exact Int.le_tdiv_of_mul_le hpos hlower
    · calc q.num.tdiv q.den ≤ (highest * q.den).tdiv q.den := Int.tdiv_le_tdiv hpos hupper
        _ = highest := Int.mul_tdiv_cancel highest hpos.ne'
  | string s => cases h
  | array items => cases h
  | object members => cases h

/-- A value that prints as a C string also prints as that string when it has no zero byte. -/
theorem asString_of_asCString {print : ℚ → Bytes} {v : Value} {c : Bytes}
    (h : v.asCString = .ok c) : ∃ s, v.asString print = .ok s ∧ c = cString s := by
  cases v with
  | string s => exact ⟨s, rfl, by simpa [asCString] using h.symm⟩
  | _ => simp [asCString] at h

end Value

end XrpcServer.Json
