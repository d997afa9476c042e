import Mathlib.Data.List.Basic
import Mathlib.Data.List.Infix

/-!
# Reading a chunked stream up to a delimiter

A reader owns a buffer and receives chunks until the buffer is ready, for instance until it
contains a delimiter; what was received beyond that stays in the buffer. Where the stream is
cut decides how much that is. Readers in sequence, each needing more than the one before,
are one reader that waits for the last.
-/

namespace XrpcServer.Stream

variable {α : Type} [DecidableEq α]

/-- The number of elements up to the end of the first occurrence of the delimiter. -/
def firstEnd (delimiter buffer : List α) : Option ℕ :=
  (List.range (buffer.length + 1)).find? fun n => delimiter.isSuffixOf (buffer.take n)

/-- The first position at which the delimiter ends. -/
theorem firstEnd_eq_some_iff {delimiter buffer : List α} {n : ℕ} :
    firstEnd delimiter buffer = some n ↔ n ≤ buffer.length ∧ delimiter <:+ buffer.take n ∧
      ∀ m < n, ¬delimiter <:+ buffer.take m := by
  simp only [firstEnd, List.find?_range_eq_some, List.mem_range, Bool.not_eq_eq_eq_not, Bool.not_true,
    List.isSuffixOf_iff_suffix, Nat.lt_succ_iff]
  constructor
  · intro h
    obtain ⟨hsuffix, hle, hbefore⟩ := h
    refine ⟨hle, hsuffix, fun m hm hends => ?_⟩
    have := hbefore m hm
    simp [List.isSuffixOf_iff_suffix.mpr hends] at this
  · intro h
    obtain ⟨hle, hsuffix, hbefore⟩ := h
    refine ⟨hsuffix, hle, fun m hm => ?_⟩
    rw [Bool.eq_false_iff, ne_eq, List.isSuffixOf_iff_suffix]
    exact hbefore m hm

/-- Nothing ends where the delimiter does not occur. -/
theorem firstEnd_eq_none_iff {delimiter buffer : List α} :
    firstEnd delimiter buffer = none ↔ ¬delimiter <:+: buffer := by
  simp only [firstEnd, List.find?_range_eq_none, Bool.not_eq_true', Bool.eq_false_iff, ne_eq,
    List.isSuffixOf_iff_suffix]
  constructor
  · intro hnone hinfix
    obtain ⟨front, back, rfl⟩ := hinfix
    have hlength : (front ++ delimiter).length < (front ++ delimiter ++ back).length + 1 := by
      simp only [List.length_append]
      omega
    apply hnone _ hlength
    rw [List.take_append_of_le_length le_rfl, List.take_length]
    exact List.suffix_append front delimiter
  · intro hnone n _ hsuffix
    exact hnone (hsuffix.isInfix.trans (List.take_prefix n buffer).isInfix)

/-- More elements do not move the first occurrence. -/
theorem firstEnd_append {delimiter buffer : List α} {n : ℕ} (h : firstEnd delimiter buffer = some n)
    (more : List α) : firstEnd delimiter (buffer ++ more) = some n := by
  obtain ⟨hle, hsuffix, hbefore⟩ := firstEnd_eq_some_iff.mp h
  have htake : ∀ m ≤ n, (buffer ++ more).take m = buffer.take m :=
    fun m hm => List.take_append_of_le_length (hm.trans hle)
  refine firstEnd_eq_some_iff.mpr ⟨?_, ?_, fun m hm => ?_⟩
  · simp only [List.length_append]
    omega
  · rwa [htake n le_rfl]
  · rw [htake m hm.le]
    exact hbefore m hm

/-- A single element is found at its first occurrence. -/
theorem firstEnd_singleton {a : α} {front : List α} (h : a ∉ front) (back : List α) :
    firstEnd [a] (front ++ a :: back) = some (front.length + 1) := by
  refine firstEnd_eq_some_iff.mpr ⟨by simp, ⟨front, ?_⟩, fun m hm hsuffix => ?_⟩
  · rw [List.take_append, List.take_of_length_le (by simp)]
    simp
  · rw [List.take_append_of_le_length (by omega)] at hsuffix
    exact h (List.mem_of_mem_take (hsuffix.subset List.mem_cons_self))

section Receiving

variable {β : Type}

/-- Receive chunks until the buffer is ready. -/
def receiveUntil (ready : List β → Bool) :
    List β → List (List β) → Option (List β × List (List β))
  | buffer, [] => if ready buffer then some (buffer, []) else none
  | buffer, chunk :: rest =>
    if ready buffer then some (buffer, chunk :: rest) else receiveUntil ready (buffer ++ chunk) rest

variable {ready : List β → Bool} {buffer : List β} {chunks rest : List (List β)}

/-- A ready buffer receives nothing more. -/
theorem receiveUntil_of_ready (h : ready buffer = true) (chunks : List (List β)) :
    receiveUntil ready buffer chunks = some (buffer, chunks) := by
  cases chunks <;> simp [receiveUntil, h]

/-- Any other buffer takes the next chunk. -/
theorem receiveUntil_cons (h : ready buffer = false) (chunk : List β) (rest : List (List β)) :
    receiveUntil ready buffer (chunk :: rest) = receiveUntil ready (buffer ++ chunk) rest := by
  simp [receiveUntil, h]

/-- Without chunks it is never ready. -/
theorem receiveUntil_nil (h : ready buffer = false) : receiveUntil ready buffer [] = none := by
  simp [receiveUntil, h]

/-- Nothing is lost or invented, and what ends the reading is a ready buffer. -/
theorem receiveUntil_spec {buf : List β} (h : receiveUntil ready buffer chunks = some (buf, rest)) :
    buf ++ rest.flatten = buffer ++ chunks.flatten ∧ ready buf = true := by
  induction chunks generalizing buffer with
  | nil =>
    cases hready : ready buffer with
    | false => simp [receiveUntil_nil hready] at h
    | true =>
      rw [receiveUntil_of_ready hready] at h
      cases h
      exact ⟨rfl, hready⟩
  | cons chunk more ih =>
    cases hready : ready buffer with
    | false =>
      rw [receiveUntil_cons hready] at h
      simpa using ih h
    | true =>
      rw [receiveUntil_of_ready hready] at h
      cases h
      exact ⟨rfl, hready⟩

/-- A buffer is ready at some point if the whole stream is. -/
theorem exists_receiveUntil (h : ready (buffer ++ chunks.flatten) = true) :
    ∃ buf rest, receiveUntil ready buffer chunks = some (buf, rest) := by
  induction chunks generalizing buffer with
  | nil => exact ⟨buffer, [], receiveUntil_of_ready (by simpa using h) []⟩
  | cons chunk more ih =>
    cases hready : ready buffer with
    | true => exact ⟨buffer, chunk :: more, receiveUntil_of_ready hready _⟩
    | false =>
      rw [receiveUntil_cons hready]
      exact ih (by simpa using h)

variable (ready) in
/-- A reader that needs more than another one may let that one read first. -/
theorem receiveUntil_bind {ready' : List β → Bool}
    (himp : ∀ buf, buf <+: buffer ++ chunks.flatten → ready' buf = true → ready buf = true) :
    receiveUntil ready' buffer chunks =
      (receiveUntil ready buffer chunks).bind fun r => receiveUntil ready' r.1 r.2 := by
  induction chunks generalizing buffer with
  | nil =>
    cases hready : ready buffer with
    | true => rw [receiveUntil_of_ready hready, Option.bind_some]
    | false =>
      have hready' : ready' buffer = false := by
        rw [Bool.eq_false_iff]
        intro h
        rw [himp buffer (by simp) h] at hready
        cases hready
      rw [receiveUntil_nil hready, receiveUntil_nil hready', Option.bind_none]
  | cons chunk more ih =>
    cases hready : ready buffer with
    | true => rw [receiveUntil_of_ready hready, Option.bind_some]
    | false =>
      have hready' : ready' buffer = false := by
        rw [Bool.eq_false_iff]
        intro h
        rw [himp buffer (List.prefix_append _ _) h] at hready
        cases hready
      rw [receiveUntil_cons hready, receiveUntil_cons hready']
      apply ih
      intro buf hbuf
      exact himp buf (by simpa using hbuf)

/-- Elements that are consumed before reading on may as well stay. -/
theorem receiveUntil_drop {n : ℕ} (hn : n ≤ buffer.length) :
    receiveUntil ready (buffer.drop n) chunks =
      (receiveUntil (fun buf => ready (buf.drop n)) buffer chunks).map fun r => (r.1.drop n, r.2) := by
  induction chunks generalizing buffer with
  | nil => cases hready : ready (buffer.drop n) <;> simp [receiveUntil, hready]
  | cons chunk more ih =>
    cases hready : ready (buffer.drop n) with
    | true => simp [receiveUntil, hready]
    | false =>
      have happend : buffer.drop n ++ chunk = (buffer ++ chunk).drop n :=
        (List.drop_append_of_le_length hn).symm
      rw [receiveUntil_cons hready, happend, ih (by simp; omega)]
      simp [receiveUntil, hready]

/-- The last chunk received is the first one that makes the buffer ready. -/
theorem receiveUntil_eq_some_iff (hmono : ∀ buf more, ready buf = true → ready (buf ++ more) = true)
    (hstart : ready buffer = false) {buf : List β} :
    receiveUntil ready buffer chunks = some (buf, rest) ↔ ∃ before chunk,
      chunks = before ++ chunk :: rest ∧ buf = buffer ++ before.flatten ++ chunk ∧
        ready (buffer ++ before.flatten) = false ∧ ready buf = true := by
  induction chunks generalizing buffer with
  | nil => simp [receiveUntil_nil hstart]
  | cons chunk more ih =>
    rw [receiveUntil_cons hstart]
    cases hready : ready (buffer ++ chunk) with
    | true =>
      rw [receiveUntil_of_ready hready]
      constructor
      · intro h
        cases h
        exact ⟨[], chunk, rfl, by simp, by simpa using hstart, hready⟩
      · intro h
        obtain ⟨before, last, hchunks, rfl, hbefore, -⟩ := h
        cases before with
        | nil =>
          obtain ⟨rfl, rfl⟩ := List.cons.inj hchunks
          simp
        | cons first before =>
          -- the buffer was ready after the first chunk
          obtain ⟨rfl, -⟩ := List.cons.inj hchunks
          have := hmono _ before.flatten hready
          simp_all
    | false =>
      rw [ih hready]
      constructor
      · intro h
        obtain ⟨before, last, rfl, rfl, hbefore, hlast⟩ := h
        exact ⟨chunk :: before, last, rfl, by simp, by simpa using hbefore, hlast⟩
      · intro h
        obtain ⟨before, last, hchunks, rfl, hbefore, hlast⟩ := h
        cases before with
        | nil =>
          obtain ⟨rfl, rfl⟩ := List.cons.inj hchunks
          simp [hready] at hlast
        | cons first before =>
          obtain ⟨rfl, rfl⟩ := List.cons.inj hchunks
          exact ⟨before, last, rfl, by simp, by simpa using hbefore, hlast⟩

end Receiving

end XrpcServer.Stream
