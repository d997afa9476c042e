import Mathlib.Data.List.Basic
import Mathlib.Data.List.Forall2
import Mathlib.Data.List.TakeDrop
import Mathlib.Tactic.Ring

/-!
# Windows and pages of a list

A loop that counts the elements it passes and keeps those whose position satisfies a condition
computes a window of its list. An interval of positions is a slice, and consecutive pages of
one size put together are the list.
-/

namespace XrpcServer.Paging

variable {α : Type}

/-- The elements whose position satisfies a condition, the first one being at position `i`. -/
def windowFrom (inside : ℕ → Bool) : ℕ → List α → List α
  | _, [] => []
  | i, x :: rest => if inside i then x :: windowFrom inside (i + 1) rest else windowFrom inside (i + 1) rest

/-- The elements whose position satisfies a condition. -/
def window (inside : ℕ → Bool) (xs : List α) : List α := windowFrom inside 0 xs

/-- Conditions that agree on the positions of a list have the same window. -/
theorem windowFrom_congr {inside inside' : ℕ → Bool} {i : ℕ} {xs : List α}
    (h : ∀ j < xs.length, inside (i + j) = inside' (i + j)) :
    windowFrom inside i xs = windowFrom inside' i xs := by
  induction xs generalizing i with
  | nil => rfl
  | cons x rest ih =>
    have hhead : inside i = inside' i := h 0 (by simp)
    have htail : windowFrom inside (i + 1) rest = windowFrom inside' (i + 1) rest := by
      apply ih
      intro j hj
      have := h (j + 1) (by simpa using hj)
      rwa [← Nat.add_assoc, Nat.add_right_comm] at this
    simp only [windowFrom, hhead, htail]

/-- A window of a list consists of elements of the list. -/
theorem mem_of_mem_windowFrom {inside : ℕ → Bool} {i : ℕ} {xs : List α} {x : α}
    (h : x ∈ windowFrom inside i xs) : x ∈ xs := by
  induction xs generalizing i with
  | nil => exact h
  | cons y rest ih =>
    unfold windowFrom at h
    split_ifs at h
    · rcases List.mem_cons.mp h with rfl | hrest
      · exact List.mem_cons_self
      · exact List.mem_cons_of_mem _ (ih hrest)
    · exact List.mem_cons_of_mem _ (ih h)

/-- A window is empty when no position of the list satisfies its condition. -/
theorem windowFrom_eq_nil_iff {inside : ℕ → Bool} {i : ℕ} {xs : List α} :
    windowFrom inside i xs = [] ↔ ∀ j < xs.length, inside (i + j) = false := by
  induction xs generalizing i with
  | nil => simp [windowFrom]
  | cons x rest ih =>
    have hshift : (∀ j < rest.length, inside (i + 1 + j) = false) ↔
        ∀ j < rest.length, inside (i + (j + 1)) = false := by
      simp only [Nat.add_assoc, Nat.add_comm 1]
    rw [windowFrom, List.length_cons, Nat.forall_lt_succ_left, ← hshift, ← ih]
    cases inside i <;> simp

/-- The window of an interval is a slice. -/
theorem windowFrom_interval (first last : ℕ) (i : ℕ) (xs : List α) :
    windowFrom (fun j => decide (first ≤ j ∧ j < last)) i xs = (xs.take (last - i)).drop (first - i) := by
  induction xs generalizing i with
  | nil => simp [windowFrom]
  | cons x rest ih =>
    rw [windowFrom, ih]
    by_cases hlast : i < last
    · have htake : last - i = (last - (i + 1)) + 1 := by omega
      by_cases hfirst : first ≤ i
      · have hzero : first - i = 0 := by omega
        have hzero' : first - (i + 1) = 0 := by omega
        simp [hfirst, hlast, htake, hzero, hzero']
      · have hdrop : first - i = (first - (i + 1)) + 1 := by omega
        simp [hfirst, htake, hdrop]
    · have htake : last - i = 0 := by omega
      have htake' : last - (i + 1) = 0 := by omega
      simp [hlast, htake, htake']

/-- Page `c` of a list cut into pages of `p` elements. -/
def page (p c : ℕ) (xs : List α) : List α := (xs.take ((c + 1) * p)).drop (c * p)

/-- A page is the window of its interval. -/
theorem window_page (p c : ℕ) (xs : List α) :
    window (fun j => decide (c * p ≤ j ∧ j < (c + 1) * p)) xs = page p c xs := by
  rw [window, windowFrom_interval, page, Nat.sub_zero, Nat.sub_zero]

/-- A page has as many elements as it has room for and the list still offers. -/
theorem length_page (p c : ℕ) (xs : List α) :
    (page p c xs).length = min p (xs.length - c * p) := by
  have hroom : (c + 1) * p = c * p + p := by ring
  rw [page, List.length_drop, List.length_take, hroom]
  omega

/-- The first pages put together are the front of the list. -/
theorem flatten_pages (p k : ℕ) (xs : List α) :
    ((List.range k).map fun c => page p c xs).flatten = xs.take (k * p) := by
  induction k with
  | zero => simp
  | succ k ih =>
    rw [List.range_succ, List.map_append, List.flatten_append, ih]
    have hfront : xs.take (k * p) = (xs.take ((k + 1) * p)).take (k * p) := by
      rw [List.take_take]
      congr 1
      have : (k + 1) * p = k * p + p := by ring
      omega
    simp only [List.map_cons, List.map_nil, List.flatten_cons, List.flatten_nil, List.append_nil]
    rw [hfront]
    exact List.take_append_drop (k * p) (xs.take ((k + 1) * p))

/-- Enough pages put together are the list. -/
theorem flatten_pages_eq {p k : ℕ} {xs : List α} (h : xs.length ≤ k * p) :
    ((List.range k).map fun c => page p c xs).flatten = xs := by
  rw [flatten_pages, List.take_of_length_le h]

/-- What corresponds to the pages of a list, put together, corresponds to the list. -/
theorem forall₂_flatten_pages {β : Type} {R : β → α → Prop} {rows : ℕ → List β} {p k : ℕ} {xs : List α}
    (hrows : ∀ c < k, List.Forall₂ R (rows c) (page p c xs)) (hcover : xs.length ≤ k * p) :
    List.Forall₂ R ((List.range k).map rows).flatten xs := by
  have hpages : List.Forall₂ (List.Forall₂ R) ((List.range k).map rows)
      ((List.range k).map fun c => page p c xs) := by
    rw [List.forall₂_map_left_iff, List.forall₂_map_right_iff, List.forall₂_same]
    intro c hc
    exact hrows c (List.mem_range.mp hc)
  have hall := List.rel_flatten hpages
  rwa [flatten_pages_eq hcover] at hall

end XrpcServer.Paging
