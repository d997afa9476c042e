import XrpcServer.Interaction.Execution
import Mathlib.Logic.Relation

/-!
# Programs that keep a journal

Programs start at any time and take turns, one operation at a time. Each keeps a journal of the
operations it has performed, and what an operation does to the shared state may depend on it. An
invariant of the shared state holds throughout when every program keeps it, whatever the others do
in between.
-/

namespace XrpcServer.Interaction

variable {Op : Type} {Reply : Op → Type} {Shared α β σ ε : Type}

/-- A program that has started: the operations it has performed, and what is left of it. -/
structure Underway (Op : Type) (Reply : Op → Type) (α : Type) where
  journal : List (Event Op Reply)
  rest : Program Op Reply α

/-- What an operation does to the shared state, given the journal of the program it belongs to;
nothing where the shared state rules the reply out. -/
abbrev Records (Op : Type) (Reply : Op → Type) (Shared : Type) :=
  List (Event Op Reply) → Shared → Event Op Reply → Option Shared

/-- The shared state with all programs that have started. -/
structure Crew (Op : Type) (Reply : Op → Type) (Shared α : Type) where
  shared : Shared
  programs : List (Underway Op Reply α)

section Crews

variable (records : Records Op Reply Shared) (startable : Program Op Reply α → Prop)

/-- A program starts, or one that has started performs its next operation. -/
inductive Crew.Step : Crew Op Reply Shared α → Crew Op Reply Shared α → Prop
  | start {c : Shared} {programs : List (Underway Op Reply α)} {p : Program Op Reply α}
    (hstart : startable p) : Step ⟨c, programs⟩ ⟨c, programs ++ [⟨[], p⟩]⟩
  | perform {c c' : Shared} {before after : List (Underway Op Reply α)} {journal : List (Event Op Reply)}
    {op : Op} {next : Reply op → Program Op Reply α} {reply : Reply op}
    (hrecords : records journal c ⟨op, reply⟩ = some c') :
    Step ⟨c, before ++ ⟨journal, .call op next⟩ :: after⟩
      ⟨c', before ++ ⟨journal ++ [⟨op, reply⟩], next reply⟩ :: after⟩

/-- The states reached from a shared state before any program has started. -/
def Crew.Reached (c : Shared) (crew : Crew Op Reply Shared α) : Prop :=
  Relation.ReflTransGen (Crew.Step records startable) ⟨c, []⟩ crew

/-- An operation keeps an invariant, whatever the reply. -/
def keeps (invariant : Shared → Prop) : OpSpec Op Reply (List (Event Op Reply)) :=
  fun op post journal => ∀ c reply c', invariant c →
    records journal c ⟨op, reply⟩ = some c' → invariant c' ∧ post reply (journal ++ [⟨op, reply⟩])

variable {records startable} {invariant : Shared → Prop}

/-- A weaker continuation is met as well. -/
theorem keeps_mono : (keeps records invariant).Mono := by
  intro op post post' journal himp h c reply c' hc hrecords
  obtain ⟨hc', hpost⟩ := h c reply c' hc hrecords
  exact ⟨hc', himp reply _ hpost⟩

/-- Every program of a crew keeps the invariant from where it is. -/
def Crew.Kept (records : Records Op Reply Shared) (invariant : Shared → Prop)
    (crew : Crew Op Reply Shared α) : Prop :=
  invariant crew.shared ∧ ∀ u ∈ crew.programs, u.rest.wp (keeps records invariant) (fun _ _ => True) u.journal

/-- One step keeps the invariant. -/
theorem Crew.Kept.step {crew crew' : Crew Op Reply Shared α} (h : crew.Kept records invariant)
    (hstartable : ∀ p, startable p → p.wp (keeps records invariant) (fun _ _ => True) [])
    (hstep : Crew.Step records startable crew crew') : crew'.Kept records invariant := by
  obtain ⟨hinvariant, hprograms⟩ := h
  cases hstep with
  | start hstart =>
    refine ⟨hinvariant, ?_⟩
    intro u hu
    rcases List.mem_append.mp hu with hu | hu
    · exact hprograms u hu
    · rw [List.mem_singleton.mp hu]
      exact hstartable _ hstart
  | @perform c c' before after journal op next reply hrecords =>
    have hcall : (Program.call op next).wp (keeps records invariant) (fun _ _ => True) journal :=
      hprograms ⟨journal, .call op next⟩ (by simp)
    obtain ⟨hinvariant', hnext⟩ := hcall c reply c' hinvariant hrecords
    refine ⟨hinvariant', ?_⟩
    intro u hu
    rcases List.mem_append.mp hu with hu | hu
    · exact hprograms u (by simp [hu])
    · rcases List.mem_cons.mp hu with rfl | hu
      · exact hnext
      · exact hprograms u (by simp [hu])

/-- The invariant holds in every state reached. -/
theorem Crew.Reached.keeps_invariant {c : Shared} {crew : Crew Op Reply Shared α}
    (h : Crew.Reached records startable c crew) (hc : invariant c)
    (hstartable : ∀ p, startable p → p.wp (keeps records invariant) (fun _ _ => True) []) :
    invariant crew.shared := by
  suffices hkept : crew.Kept records invariant from hkept.1
  induction h with
  | refl => exact ⟨hc, by simp⟩
  | tail _ hstep ih => exact ih.step hstartable hstep

/-- What a program's operations, performed one after the other, do to the shared state. -/
def replay (records : Records Op Reply Shared) (journal : List (Event Op Reply)) (c : Shared) :
    List (Event Op Reply) → Option Shared
  | [] => some c
  | e :: events => records journal c e >>= fun c' => replay records (journal ++ [e]) c' events

/-- A program may start last and run to its end without a break. -/
theorem Crew.Reached.alone {c c' c'' : Shared} {programs : List (Underway Op Reply α)}
    (h : Crew.Reached records startable c ⟨c', programs⟩) {p : Program Op Reply α} (hstart : startable p)
    {events : List (Event Op Reply)} {value : α} (hyields : p.Yields events value)
    (hreplay : replay records [] c' events = some c'') :
    ∃ programs', Crew.Reached records startable c ⟨c'', programs'⟩ := by
  have hruns (journal : List (Event Op Reply))
      (hat : Crew.Reached records startable c ⟨c', programs ++ [⟨journal, p⟩]⟩)
      (hrest : replay records journal c' events = some c'') :
      Crew.Reached records startable c ⟨c'', programs ++ [⟨journal ++ events, .ret value⟩]⟩ := by
    clear hstart hreplay h
    induction hyields generalizing journal c' with
    | ret value =>
      cases hrest
      rwa [List.append_nil]
    | call reply hyields ih =>
      obtain ⟨next, hrecords, hrest⟩ := Option.bind_eq_some_iff.mp hrest
      have hperformed := ih _ (hat.tail (.perform hrecords)) hrest
      rwa [List.append_assoc, List.singleton_append] at hperformed
  exact ⟨_, hruns [] (h.tail (.start hstart)) hreplay⟩

end Crews

namespace Routine

variable (records : Records Op Reply Shared) (invariant : Shared → Prop)

/-- Wherever it starts and whatever was performed before, the routine keeps the invariant. -/
def Keeps (m : Routine Op Reply σ ε α) : Prop :=
  ∀ s journal, m.wp (keeps records invariant) (fun _ _ _ => True) (fun _ _ _ => True) s journal

variable {records invariant}

/-- What both parts keep, the sequence keeps. -/
theorem Keeps.bind {m : Routine Op Reply σ ε α} {f : α → Routine Op Reply σ ε β}
    (hm : Keeps records invariant m) (hf : ∀ a, Keeps records invariant (f a)) :
    Keeps records invariant (m >>= f) := by
  intro s journal
  rw [wp_bind]
  exact wp_mono keeps_mono m (fun a s' journal' _ => hf a s' journal') (fun _ _ _ h => h) (hm s journal)

/-- Operations that change nothing keep the invariant. -/
theorem Keeps.of_uses {allowed : Op → Prop} {m : Routine Op Reply σ ε α} (hm : m.Uses allowed)
    (hallowed : ∀ op, allowed op → ∀ journal c reply c', invariant c →
      records journal c ⟨op, reply⟩ = some c' → invariant c') :
    Keeps records invariant m := by
  intro s journal
  have hs := hm s
  rw [wp]
  generalize m s = p at hs
  induction p generalizing journal with
  | ret value =>
    rcases value with ⟨e | a, s'⟩ <;> trivial
  | call op next ih =>
    intro c reply c' hc hrecords
    exact ⟨hallowed op hs.1 journal c reply c' hc hrecords, ih reply _ (hs.2 reply)⟩

end Routine

end XrpcServer.Interaction
