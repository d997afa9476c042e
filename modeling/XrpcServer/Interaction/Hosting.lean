import XrpcServer.Interaction.Interference
import Mathlib.Algebra.Order.Group.Multiset
import Mathlib.Logic.Relation

/-!
# Systems that run programs

A server does not run a pool of programs as such: its programs stand somewhere in the states of its
threads or of its event loop. All that such a host does to the state its programs share, and to the
programs, is start one, let one perform its next operation, drop one, or nothing. Then a pool can go
along with it, and whatever holds of every pool of these programs holds of the host.
-/

namespace XrpcServer.Interaction

variable {Op : Type} {Reply : Op → Type} {Shared α : Type}

/-- What the programs share, and the programs a host is running. -/
structure Load (Op : Type) (Reply : Op → Type) (Shared α : Type) where
  shared : Shared
  running : Multiset (Program Op Reply α)

section Hosts

variable (commits : Commits Op Reply Shared) (environment : Shared → Shared → Prop)
  (spawnable : Program Op Reply α → Prop)

/-- What one step of a host may do. -/
inductive Load.Step : Load Op Reply Shared α → Load Op Reply Shared α → Prop
  | rests (load : Load Op Reply Shared α) : Step load load
  | starts {c : Shared} {running : Multiset (Program Op Reply α)} (p : Program Op Reply α)
    (hspawn : spawnable p) : Step ⟨c, running⟩ ⟨c, p ::ₘ running⟩
  | performs {c c' : Shared} {others : Multiset (Program Op Reply α)} {op : Op}
    {next : Reply op → Program Op Reply α} (reply : Reply op) (hcommits : commits c op reply c') :
    Step ⟨c, .call op next ::ₘ others⟩ ⟨c', next reply ::ₘ others⟩
  | drops {c : Shared} {others : Multiset (Program Op Reply α)} (p : Program Op Reply α) :
    Step ⟨c, p ::ₘ others⟩ ⟨c, others⟩
  | interferes {c c' : Shared} {running : Multiset (Program Op Reply α)} (henv : environment c c') :
    Step ⟨c, running⟩ ⟨c', running⟩

/-- Some reachable pool with the same shared state runs everything the host runs. -/
def Load.Covered (initial : Shared → Prop) (load : Load Op Reply Shared α) : Prop :=
  ∃ threads : List (Program Op Reply α),
    Pool.Reachable commits environment spawnable initial ⟨load.shared, threads⟩ ∧ load.running ≤ threads

variable {commits environment spawnable} {initial : Shared → Prop} {load load' : Load Op Reply Shared α}

/-- A host that runs nothing yet is covered by the pool that has not started. -/
theorem Load.Covered.start {c : Shared} (hinitial : initial c) :
    Load.Covered commits environment spawnable initial ⟨c, 0⟩ :=
  ⟨[], .start hinitial, Multiset.zero_le _⟩

/-- The program a host runs next is one of the pool's. -/
theorem exists_front_back {p : Program Op Reply α} {others : Multiset (Program Op Reply α)}
    {threads : List (Program Op Reply α)} (h : p ::ₘ others ≤ threads) :
    ∃ front back, threads = front ++ p :: back ∧ others ≤ ↑(front ++ back) := by
  have hmem : p ∈ threads := Multiset.mem_of_le h (Multiset.mem_cons_self p others)
  obtain ⟨front, back, rfl⟩ := List.append_of_mem hmem
  have hmiddle : ((front ++ p :: back : List _) : Multiset (Program Op Reply α)) = p ::ₘ ↑(front ++ back) :=
    Multiset.coe_eq_coe.mpr List.perm_middle
  rw [hmiddle, Multiset.cons_le_cons_iff] at h
  exact ⟨front, back, rfl, h⟩

/-- The pool goes along with each step of the host. -/
theorem Load.Covered.step (h : load.Covered commits environment spawnable initial)
    (hstep : Load.Step commits environment spawnable load load') :
    load'.Covered commits environment spawnable initial := by
  obtain ⟨threads, hreachable, hrunning⟩ := h
  cases hstep with
  | rests => exact ⟨threads, hreachable, hrunning⟩
  | starts p hspawn =>
    exact ⟨p :: threads, hreachable.step (.spawn p hspawn), Multiset.cons_le_cons p hrunning⟩
  | @performs c c' others op next reply hcommits =>
    obtain ⟨front, back, rfl, hothers⟩ := exists_front_back hrunning
    refine ⟨front ++ next reply :: back, hreachable.step (.perform reply hcommits), ?_⟩
    have hmiddle : ((front ++ next reply :: back : List _) : Multiset (Program Op Reply α)) =
        next reply ::ₘ ↑(front ++ back) := Multiset.coe_eq_coe.mpr List.perm_middle
    rw [hmiddle]
    exact Multiset.cons_le_cons _ hothers
  | drops p => exact ⟨threads, hreachable, (Multiset.le_cons_self _ p).trans hrunning⟩
  | interferes henv => exact ⟨threads, hreachable.step (.interfere henv), hrunning⟩

/-- So it goes along with every run of the host, whose invariant may help to see what its steps do. -/
theorem Load.Covered.run {State : Type*} {step : State → State → Prop} {invariant : State → Prop}
    {load : State → Load Op Reply Shared α} {s₀ s : State}
    (hkeeps : ∀ s s', invariant s → step s s' → invariant s')
    (hhosts : ∀ s s', invariant s → step s s' →
      Load.Step commits environment spawnable (load s) (load s'))
    (hstart : invariant s₀) (hcovered : (load s₀).Covered commits environment spawnable initial)
    (hrun : Relation.ReflTransGen step s₀ s) :
    invariant s ∧ (load s).Covered commits environment spawnable initial := by
  induction hrun with
  | refl => exact ⟨hstart, hcovered⟩
  | tail _ hstep ih => exact ⟨hkeeps _ _ ih.1 hstep, ih.2.step (hhosts _ _ ih.1 hstep)⟩

/-- What every pool keeps valid, the host does. -/
theorem Load.Covered.sound (h : load.Covered commits environment spawnable initial) (sharing : Sharing Shared)
    (hinitial : ∀ c, initial c → sharing.valid c)
    (henvironment : ∀ c c', sharing.valid c → environment c c' → sharing.valid c' ∧ sharing.grows c c')
    (hspawnable : ∀ p, spawnable p → ∀ c, sharing.valid c → sharing.Safe commits p c) :
    sharing.valid load.shared ∧ ∀ p ∈ load.running, sharing.Safe commits p load.shared := by
  obtain ⟨threads, hreachable, hrunning⟩ := h
  obtain ⟨hvalid, hsafe⟩ := hreachable.sound hinitial henvironment hspawnable
  exact ⟨hvalid, fun p hp => hsafe p (Multiset.mem_of_le hrunning hp)⟩

end Hosts

end XrpcServer.Interaction
