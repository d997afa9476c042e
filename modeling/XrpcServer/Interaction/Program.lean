import Mathlib.Logic.Function.Basic

/-!
# Programs over an operation signature

A program either returns or performs one operation and continues with the reply. Nothing
is said here about what an operation does: an `OpSpec` assigns each operation a predicate
transformer on an arbitrary configuration type, and `Program.wp` folds it over the tree.
Sequential execution, footprints and execution under interference are all instances.
-/

namespace XrpcServer.Interaction

universe u

/-- A finite-depth computation that talks to its surroundings by typed operations. -/
inductive Program (Op : Type) (Reply : Op → Type) (α : Type u) where
  | ret (value : α)
  | call (op : Op) (next : Reply op → Program Op Reply α)

/-- What one operation guarantees, as a predicate transformer on configurations. -/
def OpSpec (Op : Type) (Reply : Op → Type) (Config : Type u) :=
  (op : Op) → (Reply op → Config → Prop) → Config → Prop

variable {Op : Type} {Reply : Op → Type} {Config : Type u} {α β γ : Type}

/-- Weakening the continuation of an operation never invalidates it. -/
def OpSpec.Mono (spec : OpSpec Op Reply Config) : Prop :=
  ∀ op (post post' : Reply op → Config → Prop) config,
    (∀ reply config, post reply config → post' reply config) →
      spec op post config → spec op post' config

namespace Program

/-- Run the first program and continue with its value. -/
def bind : Program Op Reply α → (α → Program Op Reply β) → Program Op Reply β
  | .ret value, next => next value
  | .call op rest, next => .call op fun reply => (rest reply).bind next

instance : Monad (Program Op Reply) where
  pure := .ret
  bind := bind

/-- Sequencing is associative, so nested blocks may be flattened. -/
theorem bind_assoc (p : Program Op Reply α) (f : α → Program Op Reply β)
    (g : β → Program Op Reply γ) :
    (p.bind f).bind g = p.bind fun a => (f a).bind g := by
  induction p with
  | ret value => rfl
  | call op rest ih =>
    simp only [bind]
    congr 1
    funext reply
    exact ih reply

/-- The precondition under which every path of the program meets its postcondition. -/
def wp (spec : OpSpec Op Reply Config) :
    Program Op Reply α → (α → Config → Prop) → Config → Prop
  | .ret value, post => post value
  | .call op next, post => spec op fun reply => (next reply).wp spec post

variable (spec : OpSpec Op Reply Config)

/-- Preconditions compose along sequencing. -/
@[simp] theorem wp_bind (p : Program Op Reply α) (f : α → Program Op Reply β)
    (post : β → Config → Prop) :
    (p.bind f).wp spec post = p.wp spec fun a => (f a).wp spec post := by
  induction p with
  | ret value => rfl
  | call op next ih =>
    simp only [bind, wp]
    congr 1
    funext reply
    exact ih reply

/-- A weaker postcondition has a weaker precondition. -/
theorem wp_mono {spec : OpSpec Op Reply Config} (hspec : spec.Mono) (p : Program Op Reply α)
    {post post' : α → Config → Prop} (h : ∀ a config, post a config → post' a config)
    {config : Config} (hp : p.wp spec post config) : p.wp spec post' config := by
  induction p generalizing config with
  | ret value => exact h value config hp
  | call op next ih => exact hspec op _ _ config (fun reply _ hr => ih reply hr) hp

end Program

end XrpcServer.Interaction
