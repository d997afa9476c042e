import XrpcServer.Interaction.Program
import Mathlib.Algebra.BigOperators.Group.Finset.Basic
import Mathlib.Logic.Hydra

/-!
# Draining a pool of tasks

Parties have tasks of their own, and there is a pool they take tasks from. A step may put any
finite number of tasks in the place of one, all of a lower rank, or of its rank and one reply further on
in its program. Whatever is scheduled, such steps come to an end.
-/

namespace XrpcServer.Interaction

variable {Op : Type} {Reply : Op → Type} {α : Type}

/-- The program after one reply. -/
inductive Program.Continues : Program Op Reply α → Program Op Reply α → Prop
  | reply {op : Op} {next : Reply op → Program Op Reply α} (reply : Reply op) :
    Continues (next reply) (.call op next)

/-- Every program comes to its end. -/
theorem Program.wellFounded_continues :
    WellFounded (Program.Continues : Program Op Reply α → Program Op Reply α → Prop) := by
  apply WellFounded.intro
  intro p
  induction p with
  | ret value =>
    apply Acc.intro
    intro p' hp'
    cases hp'
  | call op next ih =>
    apply Acc.intro
    intro p' hp'
    cases hp' with
    | reply reply => exact ih reply

/-- A task has a rank and a program it is at. -/
abbrev Task (Op : Type) (Reply : Op → Type) (α : Type) := ℕ × Program Op Reply α

/-- A lower rank comes before, and at one rank what the program goes on with. -/
def Task.Before : Task Op Reply α → Task Op Reply α → Prop := Prod.Lex (· < ·) Program.Continues

/-- No task has infinitely many before it. -/
theorem Task.wellFounded_before :
    WellFounded (Task.Before : Task Op Reply α → Task Op Reply α → Prop) :=
  WellFounded.prod_lex wellFounded_lt Program.wellFounded_continues

/-- A lower rank comes before. -/
theorem Task.before_of_rank {task task' : Task Op Reply α} (h : task.1 < task'.1) : task.Before task' :=
  Prod.lex_def.mpr (.inl h)

/-- At one rank, what is left of a program comes before it. -/
theorem Task.before_of_continues {task task' : Task Op Reply α} (hrank : task.1 = task'.1)
    (h : task.2.Continues task'.2) : task.Before task' :=
  Prod.lex_def.mpr (.inr ⟨hrank, h⟩)

section Pools

variable {τ Party State : Type*} {before : τ → τ → Prop}

/-- Steps that put earlier tasks in the place of one come to an end. -/
theorem acc_of_cutExpand (hbefore : WellFounded before) {step : State → State → Prop}
    (invariant : State → Prop) (tasks : State → Multiset τ)
    (hstep : ∀ s s', invariant s → step s s' →
      invariant s' ∧ Relation.CutExpand before (tasks s') (tasks s))
    {s : State} (hs : invariant s) : Acc (fun s' s => step s s') s := by
  generalize htasks : tasks s = ts
  induction hbefore.cutExpand.apply ts generalizing s with
  | intro ts _ ih =>
    apply Acc.intro
    intro s' hs'
    obtain ⟨hinvariant, hcut⟩ := hstep s s' hs hs'
    exact ih (tasks s') (htasks ▸ hcut) hinvariant rfl

/-- However the steps are chosen, the goal is reached. -/
inductive Inevitable (step : State → State → Prop) (goal : State → Prop) : State → Prop
  | now {s : State} (hgoal : goal s) : Inevitable step goal s
  | later {s : State} (hmoves : ∃ s', step s s') (hnext : ∀ s', step s s' → Inevitable step goal s') :
    Inevitable step goal s

/-- Where the steps short of a goal come to an end, and every stuck state meets it, the goal is
inevitable. -/
theorem inevitable_of_acc_short {step : State → State → Prop} {goal : State → Prop} (invariant : State → Prop)
    (hstep : ∀ s s', invariant s → step s s' → invariant s')
    (hstuck : ∀ s, invariant s → (∀ s', ¬step s s') → goal s)
    {s : State} (hacc : Acc (fun s' s => step s s' ∧ invariant s ∧ ¬goal s) s) (hs : invariant s) :
    Inevitable step goal s := by
  induction hacc with
  | intro s _ ih =>
    by_cases hgoal : goal s
    · exact .now hgoal
    · apply Inevitable.later
      · by_contra hmoves
        exact hgoal (hstuck s hs fun s' hs' => hmoves ⟨s', hs'⟩)
      · exact fun s' hs' => ih s' ⟨hs', hs, hgoal⟩ (hstep s s' hs hs')

/-- Where steps come to an end, a goal that every stuck state meets is inevitable. -/
theorem inevitable_of_acc {step : State → State → Prop} {goal : State → Prop} (invariant : State → Prop)
    (hstep : ∀ s s', invariant s → step s s' → invariant s')
    (hstuck : ∀ s, invariant s → (∀ s', ¬step s s') → goal s)
    {s : State} (hacc : Acc (fun s' s => step s s') s) (hs : invariant s) : Inevitable step goal s :=
  inevitable_of_acc_short invariant hstep hstuck (Subrelation.accessible And.left hacc) hs

/-- What does not change beside a cut does not matter. -/
theorem cutExpand_of_eq {tasks tasks' new rest : Multiset τ} {task : τ} (hold : tasks = {task} + rest)
    (hnew : tasks' = new + rest) (hearlier : ∀ task' ∈ new, before task' task) :
    Relation.CutExpand before tasks' tasks := by
  rw [hold, hnew]
  exact (Relation.cutExpand_add_right rest).mpr (Relation.cutExpand_singleton hearlier)

variable [Fintype Party] [DecidableEq Party]

/-- Only one party's tasks and the pool change. -/
theorem cutExpand_of_party {own own' : Party → Multiset τ} {pool pool' new rest : Multiset τ} {task : τ}
    (p : Party) (hothers : ∀ p', p' ≠ p → own' p' = own p') (hold : own p + pool = {task} + rest)
    (hnew : own' p + pool' = new + rest) (hearlier : ∀ task' ∈ new, before task' task) :
    Relation.CutExpand before (∑ p, own' p + pool') (∑ p, own p + pool) := by
  have hrest : ∑ p' ∈ Finset.univ.erase p, own' p' = ∑ p' ∈ Finset.univ.erase p, own p' := by
    apply Finset.sum_congr rfl
    intro p' hp'
    exact hothers p' (Finset.ne_of_mem_erase hp')
  have hsum (own : Party → Multiset τ) (pool : Multiset τ) :
      ∑ p, own p + pool = own p + pool + ∑ p' ∈ Finset.univ.erase p, own p' := by
    rw [← Finset.add_sum_erase Finset.univ own (Finset.mem_univ p), add_right_comm]
  have hold' : ∑ p, own p + pool = {task} + (rest + ∑ p' ∈ Finset.univ.erase p, own p') := by
    rw [hsum, hold, add_assoc]
  have hnew' : ∑ p, own' p + pool' = new + (rest + ∑ p' ∈ Finset.univ.erase p, own p') := by
    rw [hsum, hnew, hrest, add_assoc]
  exact cutExpand_of_eq hold' hnew' hearlier

end Pools

end XrpcServer.Interaction
