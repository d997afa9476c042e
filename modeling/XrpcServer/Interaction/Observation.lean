import XrpcServer.Interaction.Transcript
import XrpcServer.Interaction.Interference

/-!
# Observing operations

Operations of a kind are observed when, from every configuration with an invariant, they lead to
configurations with it, nothing known is forgotten, and what was asked and replied becomes known.
What is known is left open: the events of a transcript, or facts about a shared state that outlive
whatever happens to it.
-/

namespace XrpcServer.Interaction

universe u

variable {Op : Type} {Reply : Op → Type} {Config : Type u} {Shared σ ε α : Type}

/-- Operations of this kind keep the invariant and add to what is known. -/
structure Observing (spec : OpSpec Op Reply Config) (kind : Op → Prop) (invariant : Config → Prop)
    (known : Event Op Reply → Config → Prop) : Prop where
  mono : spec.Mono
  observe : ∀ op, kind op → ∀ (post : Reply op → Config → Prop) config, invariant config →
    (∀ reply later, invariant later → (∀ e, known e config → known e later) → known ⟨op, reply⟩ later →
      post reply later) → spec op post config

/-- The observed operations among the routine's are all there is to know of it. -/
theorem Observing.wp_of_uses {spec : OpSpec Op Reply Config} {kind : Op → Prop} {invariant : Config → Prop}
    {known : Event Op Reply → Config → Prop} (h : Observing spec kind invariant known)
    {m : Routine Op Reply σ ε α} (hm : m.Uses kind) {ok : α → σ → Config → Prop}
    {err : ε → σ → Config → Prop} {s : σ} {config : Config} (hinv : invariant config)
    (hok : ∀ a s' later, invariant later → ok a s' later)
    (herr : ∀ e s' later, invariant later → err e s' later) : m.wp spec ok err s config := by
  have hs := hm s
  rw [Routine.wp]
  generalize m s = p at hs
  induction p generalizing config with
  | ret value =>
    rcases value with ⟨e | a, s'⟩
    · exact herr e s' config hinv
    · exact hok a s' config hinv
  | call op next ih =>
    apply h.observe op hs.1 _ config hinv
    intro reply later hlater _ _
    exact ih reply hlater (hs.2 reply)

/-- A routine without operations leaves the configuration as it is. -/
theorem Routine.wp_of_uses_none (spec : OpSpec Op Reply Config) {m : Routine Op Reply σ ε α}
    (hm : m.Uses fun _ => False) {ok : α → σ → Config → Prop} {err : ε → σ → Config → Prop} {s : σ}
    {config : Config} (hok : ∀ a s', ok a s' config) (herr : ∀ e s', err e s' config) :
    m.wp spec ok err s config := by
  have hs := hm s
  rw [wp]
  generalize m s = p at hs
  cases p with
  | ret value =>
    rcases value with ⟨e | a, s'⟩
    · exact herr e s'
    · exact hok a s'
  | call op next => exact hs.1.elim

/-- Written down, an event stays known. -/
theorem transcribing_observes {kind : Op → Prop} {invariant : List (Event Op Reply) → Prop}
    (hkept : ∀ op, kind op → ∀ transcript (reply : Reply op), invariant transcript →
      invariant (transcript ++ [⟨op, reply⟩])) :
    Observing transcribing kind invariant fun e transcript => e ∈ transcript where
  mono := transcribing_mono
  observe op hop post transcript hinv hpost reply := by
    apply hpost reply _ (hkept op hop transcript reply hinv)
    · exact fun e he => List.mem_append_left _ he
    · simp

/-- Reading a shared state teaches what its growth preserves. -/
theorem Sharing.observes (sharing : Sharing Shared) {commits : Commits Op Reply Shared} {kind : Op → Prop}
    (hreads : ∀ op, kind op → ∀ c reply c', commits c op reply c' → c' = c)
    {known : Event Op Reply → Shared → Prop}
    (hstable : ∀ e c c', sharing.grows c c' → known e c → known e c')
    (hlearns : ∀ op, kind op → ∀ c reply, sharing.valid c → commits c op reply c → known ⟨op, reply⟩ c) :
    Observing (sharing.spec commits) kind (fun _ => True) known where
  mono := sharing.spec_mono commits
  observe op hop post c _ hpost := by
    apply sharing.spec_of_reads commits (hreads op hop)
    intro reply later hvalid hgrows hcommits
    apply hpost reply later trivial
    · exact fun e he => hstable e c later hgrows he
    · exact hlearns op hop later reply hvalid hcommits

end XrpcServer.Interaction
