import XrpcServer.Interaction.Routine

/-!
# Programs running under interference

Several programs share a state that also moves by itself. Each operation is one atomic step,
answered in the state current at that moment; between two operations of a program anything
the others and the environment may do can happen. What a program is allowed to rely on is an
invariant of the shared state and a preorder along which it grows; in return every step of
the program keeps both. A pool of such programs keeps the invariant in every reachable state.
-/

namespace XrpcServer.Interaction

variable {Op : Type} {Reply : Op → Type} {Shared σ ε α : Type}

/-- How operations are answered: in this state, with this reply, moving to that state. -/
abbrev Commits (Op : Type) (Reply : Op → Type) (Shared : Type) :=
  Shared → (op : Op) → Reply op → Shared → Prop

/-- What the programs of a pool may rely on and have to respect. -/
structure Sharing (Shared : Type) where
  valid : Shared → Prop
  grows : Shared → Shared → Prop
  refl : ∀ c, grows c c
  trans : ∀ {a b c}, grows a b → grows b c → grows a c

namespace Sharing

variable (sharing : Sharing Shared) (commits : Commits Op Reply Shared)

/-- An operation is performed in some later valid state, and whatever it commits is respectful. -/
def spec : OpSpec Op Reply Shared := fun op post c =>
  ∀ before, sharing.valid before → sharing.grows c before → ∀ reply after,
    commits before op reply after →
      sharing.valid after ∧ sharing.grows before after ∧ post reply after

/-- A weaker continuation is met as well. -/
theorem spec_mono : (sharing.spec commits).Mono := by
  intro op post post' c himp h before hvalid hgrows reply after hcommits
  obtain ⟨hvalid', hgrows', hpost⟩ := h before hvalid hgrows reply after hcommits
  exact ⟨hvalid', hgrows', himp reply after hpost⟩

/-- An operation that only reads continues from some later valid state. -/
theorem spec_of_reads {op : Op} (hreads : ∀ c reply c', commits c op reply c' → c' = c)
    {post : Reply op → Shared → Prop} {c : Shared}
    (h : ∀ reply later, sharing.valid later → sharing.grows c later →
      commits later op reply later → post reply later) : sharing.spec commits op post c := by
  intro before hvalid hgrows reply after hcommits
  obtain rfl := hreads before reply after hcommits
  exact ⟨hvalid, sharing.refl after, h reply after hvalid hgrows hcommits⟩

/-- Every path of the program respects the sharing from this state on. -/
def Safe (p : Program Op Reply α) (c : Shared) : Prop := p.wp (sharing.spec commits) (fun _ _ => True) c

/-- Safety survives whatever happens in between. -/
theorem Safe.of_grows {p : Program Op Reply α} {c c' : Shared} (h : sharing.Safe commits p c)
    (hgrows : sharing.grows c c') : sharing.Safe commits p c' := by
  cases p with
  | ret value => trivial
  | call op next => exact fun before hvalid hlater => h before hvalid (sharing.trans hgrows hlater)

end Sharing

/-- A shared state with the programs still running over it. -/
structure Pool (Op : Type) (Reply : Op → Type) (Shared α : Type) where
  shared : Shared
  threads : List (Program Op Reply α)

section Pools

variable (commits : Commits Op Reply Shared) (environment : Shared → Shared → Prop)
  (spawnable : Program Op Reply α → Prop)

/-- One step of a pool: a program starts, some program performs its next operation, or the
environment moves the shared state. -/
inductive Pool.Step : Pool Op Reply Shared α → Pool Op Reply Shared α → Prop
  | spawn {c : Shared} {threads : List (Program Op Reply α)} (p : Program Op Reply α)
    (hspawn : spawnable p) : Step ⟨c, threads⟩ ⟨c, p :: threads⟩
  | perform {c c' : Shared} {front back : List (Program Op Reply α)} {op : Op}
    {next : Reply op → Program Op Reply α} (reply : Reply op)
    (hcommits : commits c op reply c') :
    Step ⟨c, front ++ .call op next :: back⟩ ⟨c', front ++ next reply :: back⟩
  | interfere {c c' : Shared} {threads : List (Program Op Reply α)} (henv : environment c c') :
    Step ⟨c, threads⟩ ⟨c', threads⟩

/-- Pools reachable from an initial shared state, before any program has started. -/
inductive Pool.Reachable (initial : Shared → Prop) : Pool Op Reply Shared α → Prop
  | start {c : Shared} (hinitial : initial c) : Reachable initial ⟨c, []⟩
  | step {pool pool' : Pool Op Reply Shared α} (h : Reachable initial pool)
    (hstep : Pool.Step commits environment spawnable pool pool') : Reachable initial pool'

/-- The shared state is valid and every running program is safe in it. -/
def Pool.Sound (sharing : Sharing Shared) (pool : Pool Op Reply Shared α) : Prop :=
  sharing.valid pool.shared ∧ ∀ p ∈ pool.threads, sharing.Safe commits p pool.shared

variable {commits environment spawnable} {sharing : Sharing Shared}

/-- One step keeps a pool sound. -/
theorem Pool.Sound.step
    (henvironment : ∀ c c', sharing.valid c → environment c c' → sharing.valid c' ∧ sharing.grows c c')
    (hspawnable : ∀ p, spawnable p → ∀ c, sharing.valid c → sharing.Safe commits p c)
    {pool pool' : Pool Op Reply Shared α} (hsound : pool.Sound commits sharing)
    (hstep : Pool.Step commits environment spawnable pool pool') : pool'.Sound commits sharing := by
  obtain ⟨hvalid, hsafe⟩ := hsound
  cases hstep with
  | spawn p hspawn =>
    refine ⟨hvalid, fun q hq => ?_⟩
    rcases List.mem_cons.mp hq with rfl | hq
    · exact hspawnable q hspawn _ hvalid
    · exact hsafe q hq
  | @perform c c' front back op next reply hcommits =>
    have hcall : sharing.Safe commits (.call op next) c := hsafe _ (by simp)
    obtain ⟨hvalid', hgrows, hnext⟩ := hcall c hvalid (sharing.refl c) reply c' hcommits
    refine ⟨hvalid', fun q hq => ?_⟩
    rcases List.mem_append.mp hq with hq | hq
    · exact (hsafe q (by simp [hq])).of_grows sharing commits hgrows
    · rcases List.mem_cons.mp hq with rfl | hq
      · exact hnext
      · exact (hsafe q (by simp [hq])).of_grows sharing commits hgrows
  | interfere henv =>
    obtain ⟨hvalid', hgrows⟩ := henvironment _ _ hvalid henv
    exact ⟨hvalid', fun q hq => (hsafe q hq).of_grows sharing commits hgrows⟩

/-- Every reachable pool is sound. -/
theorem Pool.Reachable.sound {initial : Shared → Prop} (hinitial : ∀ c, initial c → sharing.valid c)
    (henvironment : ∀ c c', sharing.valid c → environment c c' → sharing.valid c' ∧ sharing.grows c c')
    (hspawnable : ∀ p, spawnable p → ∀ c, sharing.valid c → sharing.Safe commits p c)
    {pool : Pool Op Reply Shared α}
    (h : Pool.Reachable commits environment spawnable initial pool) : pool.Sound commits sharing := by
  induction h with
  | start hstart => exact ⟨hinitial _ hstart, by simp⟩
  | step _ hstep ih => exact ih.step henvironment hspawnable hstep

/-- The operation a program is about to perform. -/
def Program.awaits : Program Op Reply α → Option Op
  | .ret _ => none
  | .call op _ => some op

/-- Let a program run through the operations of a kind, up to the first other one. -/
def Program.advance (kind : Op → Bool) (answer : (op : Op) → Reply op) : Program Op Reply α → Program Op Reply α
  | .ret value => .ret value
  | .call op next => if kind op then (next (answer op)).advance kind answer else .call op next

/-- The program started last performs its next operation. -/
theorem Pool.Reachable.perform {initial : Shared → Prop} {c c' : Shared} {op : Op}
    {next : Reply op → Program Op Reply α} {threads : List (Program Op Reply α)}
    (h : Pool.Reachable commits environment spawnable initial ⟨c, .call op next :: threads⟩)
    {reply : Reply op} (hcommits : commits c op reply c') :
    Pool.Reachable commits environment spawnable initial ⟨c', next reply :: threads⟩ := by
  have hstep : Pool.Step commits environment spawnable ⟨c, [] ++ .call op next :: threads⟩
      ⟨c', [] ++ next reply :: threads⟩ := .perform reply hcommits
  exact h.step hstep

/-- It may be scheduled alone while its operations leave the shared state as it is. -/
theorem Pool.Reachable.advance {initial : Shared → Prop} (kind : Op → Bool)
    (answer : (op : Op) → Reply op) {c : Shared} {threads : List (Program Op Reply α)}
    (hcommits : ∀ op, kind op → commits c op (answer op) c) {p : Program Op Reply α}
    (h : Pool.Reachable commits environment spawnable initial ⟨c, p :: threads⟩) :
    Pool.Reachable commits environment spawnable initial ⟨c, p.advance kind answer :: threads⟩ := by
  induction p with
  | ret value => exact h
  | call op next ih =>
    rw [Program.advance]
    split
    · next hkind => exact ih _ (h.perform (hcommits op hkind))
    · exact h

end Pools

end XrpcServer.Interaction
