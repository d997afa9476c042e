import Mathlib.Data.List.Basic

/-!
# Reading a message field by field

A decoder reads one field after another into a state until it meets the end of its input or
something it refuses. Each turn that goes on leaves less input, so the loop ends. A code is read
off as an update when the loop, started before it, is the loop started after it on the updated
state; such codes compose, and a refused code behind one that is read off is refused as well.
-/

namespace XrpcServer.Stream

variable {α σ ρ ε : Type}

/-- What one turn of the loop comes to. -/
inductive Turn (α σ ρ ε : Type) where
  | finished (result : ρ)
  | failed (error : ε)
  | next (rest : List α) (state : σ)

/-- A loop body that leaves less input whenever the loop goes on. -/
structure FieldLoop (α σ ρ ε : Type) where
  turn : List α → σ → Turn α σ ρ ε
  consumes {input rest : List α} {s s' : σ} : turn input s = .next rest s' → rest.length < input.length

namespace FieldLoop

/-- Take turns until one of them ends the loop. -/
def run (loop : FieldLoop α σ ρ ε) (input : List α) (s : σ) : Except ε ρ :=
  match _ : loop.turn input s with
  | .finished result => .ok result
  | .failed error => .error error
  | .next rest s' => loop.run rest s'
termination_by input.length
decreasing_by exact loop.consumes (by assumption)

variable {loop : FieldLoop α σ ρ ε} {input rest code code' : List α} {s s' : σ} {f g : σ → σ}

/-- The loop ends with a result. -/
theorem run_finished {result : ρ} (h : loop.turn input s = .finished result) :
    loop.run input s = .ok result := by
  rw [run]
  split <;> simp_all

/-- The loop ends with an error. -/
theorem run_failed {error : ε} (h : loop.turn input s = .failed error) :
    loop.run input s = .error error := by
  rw [run]
  split <;> simp_all

/-- The loop goes on with what is left. -/
theorem run_next (h : loop.turn input s = .next rest s') : loop.run input s = loop.run rest s' := by
  rw [run]
  split <;> simp_all

/-- What every turn that goes on preserves, and the last turn turns into a fact on the result. -/
theorem run_of_invariant (invariant : σ → Prop) (post : ρ → Prop)
    (hnext : ∀ input s rest s', invariant s → loop.turn input s = .next rest s' → invariant s')
    (hfinished : ∀ input s result, invariant s → loop.turn input s = .finished result → post result)
    {result : ρ} (hinv : invariant s) (h : loop.run input s = .ok result) : post result := by
  induction input, s using run.induct loop with
  | case1 input s result' hturn =>
    rw [run_finished hturn] at h
    cases h
    exact hfinished input s _ hinv hturn
  | case2 input s error hturn =>
    rw [run_failed hturn] at h
    cases h
  | case3 input s rest s' hturn ih =>
    rw [run_next hturn] at h
    exact ih (hnext input s rest s' hinv hturn) h

/-- The code is read off as an update of the state, whatever follows it. -/
def Reads (loop : FieldLoop α σ ρ ε) (code : List α) (f : σ → σ) : Prop :=
  ∀ rest s, loop.run (code ++ rest) s = loop.run rest (f s)

/-- The code is refused, whatever follows it. -/
def Refuses (loop : FieldLoop α σ ρ ε) (code : List α) (error : ε) : Prop :=
  ∀ rest s, loop.run (code ++ rest) s = .error error

/-- Nothing is read of nothing. -/
theorem Reads.nil : loop.Reads [] id := fun _ _ => rfl

/-- One turn suffices. -/
theorem Reads.of_turn (h : ∀ rest s, loop.turn (code ++ rest) s = .next rest (f s)) :
    loop.Reads code f := fun rest s => run_next (h rest s)

/-- What one turn fails on is refused. -/
theorem Refuses.of_turn {error : ε} (h : ∀ rest s, loop.turn (code ++ rest) s = .failed error) :
    loop.Refuses code error := fun rest s => run_failed (h rest s)

/-- Codes in a row are updates in a row. -/
theorem Reads.append (hf : loop.Reads code f) (hg : loop.Reads code' g) :
    loop.Reads (code ++ code') (g ∘ f) := by
  intro rest s
  rw [List.append_assoc, hf, hg, Function.comp_apply]

/-- A refused code stays refused behind others. -/
theorem Reads.append_refuses {error : ε} (hf : loop.Reads code f) (hrefused : loop.Refuses code' error) :
    loop.Refuses (code ++ code') error := by
  intro rest s
  rw [List.append_assoc, hf, hrefused]

/-- What follows something refused does not matter. -/
theorem Refuses.append {error : ε} (h : loop.Refuses code error) (code' : List α) :
    loop.Refuses (code ++ code') error := by
  intro rest s
  rw [List.append_assoc, h]

/-- A list of codes folds its updates. -/
theorem Reads.flatMap {β : Type} {encode : β → List α} {update : β → σ → σ} (xs : List β)
    (h : ∀ x ∈ xs, loop.Reads (encode x) (update x)) :
    loop.Reads (xs.flatMap encode) fun s => xs.foldl (fun s x => update x s) s := by
  induction xs with
  | nil => exact Reads.nil
  | cons x xs ih =>
    intro rest s
    simp only [List.flatMap_cons, List.append_assoc, List.foldl_cons]
    rw [h x List.mem_cons_self, ih fun y hy => h y (List.mem_cons_of_mem _ hy)]

end FieldLoop

end XrpcServer.Stream
