import XrpcServer.Interaction.Program

/-!
# Routines with private state and exceptions

A routine is a program that also carries a private state and may stop with an exception;
the private state survives the exception, as the members of an object do. The two
continuations of `Routine.wp` are the normal and the exceptional exit. Its rules hold for
every operation specification, so one symbolic execution serves all of them.
-/

namespace XrpcServer.Interaction

universe u

variable {Op : Type} {Reply : Op → Type} {σ ε α β γ : Type} {Config : Type u}

/-- A program that threads a private state and may throw. -/
def Routine (Op : Type) (Reply : Op → Type) (σ ε α : Type) :=
  σ → Program Op Reply (Except ε α × σ)

namespace Routine

/-- Finish normally. -/
def done (a : α) : Routine Op Reply σ ε α := fun s => .ret (.ok a, s)

/-- Stop with an exception, keeping the private state. -/
def raise (e : ε) : Routine Op Reply σ ε α := fun s => .ret (.error e, s)

/-- Continue after a normal exit and pass an exception on. -/
def andThen (m : Routine Op Reply σ ε α) (f : α → Routine Op Reply σ ε β) :
    Routine Op Reply σ ε β := fun s =>
  (m s).bind fun
    | (.ok a, s') => f a s'
    | (.error e, s') => .ret (.error e, s')

instance : Monad (Routine Op Reply σ ε) where
  pure := done
  bind := andThen

/-- Read the private state. -/
def read : Routine Op Reply σ ε σ := fun s => .ret (.ok s, s)

/-- Update the private state. -/
def update (f : σ → σ) : Routine Op Reply σ ε Unit := fun s => .ret (.ok (), f s)

/-- Perform one operation of the signature. -/
def perform (op : Op) : Routine Op Reply σ ε (Reply op) := fun s =>
  .call op fun reply => .ret (.ok reply, s)

/-- Embed a pure computation that may throw. -/
def ofExcept : Except ε α → Routine Op Reply σ ε α
  | .ok a => done a
  | .error e => raise e

/-- Precondition for meeting the normal or the exceptional postcondition. -/
def wp (spec : OpSpec Op Reply Config) (m : Routine Op Reply σ ε α)
    (ok : α → σ → Config → Prop) (err : ε → σ → Config → Prop) (s : σ) : Config → Prop :=
  (m s).wp spec fun
    | (.ok a, s') => ok a s'
    | (.error e, s') => err e s'

/-- Sequencing is associative, so nested blocks may be flattened. -/
theorem bind_assoc (m : Routine Op Reply σ ε α) (f : α → Routine Op Reply σ ε β)
    (g : β → Routine Op Reply σ ε γ) : m >>= f >>= g = m >>= fun a => f a >>= g := by
  funext s
  change ((m s).bind _).bind _ = (m s).bind _
  rw [Program.bind_assoc]
  refine congrArg (m s).bind (funext fun r => ?_)
  rcases r with ⟨e | a, s'⟩ <;> rfl

/-- A property of routines that sequencing preserves. -/
structure Compositional (P : (α : Type) → Routine Op Reply σ ε α → Prop) : Prop where
  pure : ∀ {α : Type} (a : α), P α (pure a)
  bind : ∀ {α β : Type} {m : Routine Op Reply σ ε α} {f : α → Routine Op Reply σ ε β},
    P α m → (∀ a, P β (f a)) → P β (m >>= f)

/-- A choice has the property when both of its branches do. -/
theorem Compositional.ite {P : (α : Type) → Routine Op Reply σ ε α → Prop} (_ : Compositional P)
    {α : Type} {c : Prop} [Decidable c] {m m' : Routine Op Reply σ ε α} (h : P α m) (h' : P α m') :
    P α (if c then m else m') := by
  split
  · exact h
  · exact h'

section Rules

variable (spec : OpSpec Op Reply Config) (ok : α → σ → Config → Prop)
  (err : ε → σ → Config → Prop) (s : σ) (config : Config)

/-- The precondition of returning. -/
@[simp] theorem wp_pure (a : α) :
    (pure a : Routine Op Reply σ ε α).wp spec ok err s config ↔ ok a s config := Iff.rfl

/-- The precondition of throwing. -/
@[simp] theorem wp_raise (e : ε) :
    (raise e : Routine Op Reply σ ε α).wp spec ok err s config ↔ err e s config := Iff.rfl

/-- The precondition of reading the members. -/
@[simp] theorem wp_read (ok : σ → σ → Config → Prop) :
    (read : Routine Op Reply σ ε σ).wp spec ok err s config ↔ ok s s config := Iff.rfl

/-- The precondition of writing the members. -/
@[simp] theorem wp_update (f : σ → σ) (ok : Unit → σ → Config → Prop) :
    (update f : Routine Op Reply σ ε Unit).wp spec ok err s config ↔ ok () (f s) config := Iff.rfl

/-- The precondition of an operation is that of its specification. -/
@[simp] theorem wp_perform (op : Op) (ok : Reply op → σ → Config → Prop) :
    (perform op : Routine Op Reply σ ε _).wp spec ok err s config ↔
      spec op (fun r c => ok r s c) config := Iff.rfl

/-- Both exits of an embedded computation, each under the result that takes it. -/
@[simp] theorem wp_ofExcept (x : Except ε α) :
    (ofExcept x : Routine Op Reply σ ε α).wp spec ok err s config ↔
      (∀ a, x = .ok a → ok a s config) ∧ ∀ e, x = .error e → err e s config := by
  cases x with
  | ok a =>
    simp only [Except.ok.injEq, reduceCtorEq, forall_eq', false_implies, implies_true, and_true]
    rfl
  | error e =>
    simp only [Except.error.injEq, reduceCtorEq, forall_eq', false_implies, implies_true, true_and]
    rfl

/-- The normal exit of the first routine is the entry of the second. -/
@[simp] theorem wp_bind (m : Routine Op Reply σ ε β) (f : β → Routine Op Reply σ ε α) :
    (m >>= f).wp spec ok err s config ↔
      m.wp spec (fun b s' c => (f b).wp spec ok err s' c) err s config := by
  change ((m s).bind _).wp spec _ config ↔ (m s).wp spec _ config
  rw [Program.wp_bind]
  refine iff_of_eq (congrArg (fun post => (m s).wp spec post config) ?_)
  funext r
  rcases r with ⟨e | a, s'⟩ <;> rfl

/-- The precondition of a branch. -/
@[simp] theorem wp_ite (c : Prop) [Decidable c] (m m' : Routine Op Reply σ ε α) :
    (if c then m else m').wp spec ok err s config ↔
      (c → m.wp spec ok err s config) ∧ (¬c → m'.wp spec ok err s config) := by
  split <;> simp_all

/-- The precondition of a branch that names its condition. -/
@[simp] theorem wp_dite (c : Prop) [Decidable c] (m : c → Routine Op Reply σ ε α)
    (m' : ¬c → Routine Op Reply σ ε α) :
    (if h : c then m h else m' h).wp spec ok err s config ↔
      (∀ h : c, (m h).wp spec ok err s config) ∧ (∀ h : ¬c, (m' h).wp spec ok err s config) := by
  split <;> simp_all

/-- Weaker postconditions have a weaker precondition. -/
theorem wp_mono {spec : OpSpec Op Reply Config} (hspec : spec.Mono)
    (m : Routine Op Reply σ ε α) {ok ok' : α → σ → Config → Prop} {err err' : ε → σ → Config → Prop}
    (hok : ∀ a s config, ok a s config → ok' a s config)
    (herr : ∀ e s config, err e s config → err' e s config) {s : σ} {config : Config}
    (h : m.wp spec ok err s config) : m.wp spec ok' err' s config := by
  refine Program.wp_mono hspec (m s) (fun r config hr => ?_) h
  rcases r with ⟨e | a, s'⟩
  · exact herr e s' config hr
  · exact hok a s' config hr

end Rules

end Routine

end XrpcServer.Interaction
