import XrpcServer.Interaction.Routine

/-!
# Sequential execution against a deterministic service

A service answers every operation from a world and says how the world moves on. Running a
program against it yields its value, the final world and the trace of all operations with
their replies. `Routine.run_iff_wp` turns any property of that outcome into a precondition,
and `Routine.trace_of_uses` bounds the trace by the footprint of the program text alone.
-/

namespace XrpcServer.Interaction

variable {Op : Type} {Reply : Op → Type} {World σ ε α β : Type}

/-- A deterministic provider of the operations of a signature. -/
structure Service (Op : Type) (Reply : Op → Type) (World : Type) where
  answer : World → (op : Op) → Reply op
  after : World → Op → World

/-- One performed operation together with its reply. -/
abbrev Event (Op : Type) (Reply : Op → Type) := (op : Op) × Reply op

/-- The world of a service and the events performed so far. -/
abbrev Traced (Op : Type) (Reply : Op → Type) (World : Type) := World × List (Event Op Reply)

/-- Answer one operation and record it. -/
def Service.spec (service : Service Op Reply World) : OpSpec Op Reply (Traced Op Reply World) :=
  fun op post config =>
    post (service.answer config.1 op)
      (service.after config.1 op, config.2 ++ [⟨op, service.answer config.1 op⟩])

/-- An operation is answered, and recorded with its answer. -/
@[simp] theorem Service.spec_apply (service : Service Op Reply World) (op : Op)
    (post : Reply op → Traced Op Reply World → Prop) (w : World) (t : List (Event Op Reply)) :
    service.spec op post (w, t) =
      post (service.answer w op) (service.after w op, t ++ [⟨op, service.answer w op⟩]) := rfl

/-- The deterministic specification is monotone. -/
theorem Service.spec_mono (service : Service Op Reply World) : service.spec.Mono :=
  fun _ _ _ _ h hp => h _ _ hp

/-- Run a program to its value against a service. -/
def Program.exec (service : Service Op Reply World) :
    Program Op Reply α → Traced Op Reply World → α × Traced Op Reply World
  | .ret value, config => (value, config)
  | .call op next, config =>
      (next (service.answer config.1 op)).exec service
        (service.after config.1 op, config.2 ++ [⟨op, service.answer config.1 op⟩])

/-- The program performs exactly these operations, gets these replies, and returns this value. -/
inductive Program.Yields : Program Op Reply α → List (Event Op Reply) → α → Prop
  | ret (value : α) : Yields (.ret value) [] value
  | call {op : Op} {next : Reply op → Program Op Reply α} {events : List (Event Op Reply)} {value : α}
    (reply : Reply op) (h : Yields (next reply) events value) : Yields (.call op next) (⟨op, reply⟩ :: events) value

/-- The value is determined by the replies. -/
theorem Program.Yields.unique {p : Program Op Reply α} {events : List (Event Op Reply)} {value value' : α}
    (h : p.Yields events value) (h' : p.Yields events value') : value = value' := by
  induction h with
  | ret value =>
    cases h'
    rfl
  | call reply _ ih =>
    cases h' with
    | call _ hrest => exact ih hrest

/-- A run yields its value by the operations it has performed. -/
theorem Program.yields_exec (service : Service Op Reply World) (p : Program Op Reply α)
    (config : Traced Op Reply World) :
    ∃ events, (p.exec service config).2.2 = config.2 ++ events ∧ p.Yields events (p.exec service config).1 := by
  induction p generalizing config with
  | ret value => exact ⟨[], (List.append_nil _).symm, .ret value⟩
  | call op next ih =>
    obtain ⟨events, htrace, hyields⟩ := ih (service.answer config.1 op)
      (service.after config.1 op, config.2 ++ [⟨op, service.answer config.1 op⟩])
    refine ⟨⟨op, service.answer config.1 op⟩ :: events, ?_, .call _ hyields⟩
    rw [Program.exec, htrace, List.append_assoc, List.singleton_append]

/-- For a deterministic service the precondition is the postcondition of the one run. -/
theorem Program.wp_iff_exec (service : Service Op Reply World) (p : Program Op Reply α)
    (post : α → Traced Op Reply World → Prop) (config : Traced Op Reply World) :
    p.wp service.spec post config ↔ post (p.exec service config).1 (p.exec service config).2 := by
  induction p generalizing config with
  | ret value => rfl
  | call op next ih => exact ih _ _

/-- How a routine ended, with everything it left behind. -/
structure Outcome (Op : Type) (Reply : Op → Type) (σ ε World α : Type) where
  result : Except ε α
  state : σ
  world : World
  trace : List (Event Op Reply)

/-- Run a routine from a private state and a world, with an empty trace. -/
def Routine.run (service : Service Op Reply World) (m : Routine Op Reply σ ε α) (s : σ) (w : World) :
    Outcome Op Reply σ ε World α :=
  let r := (m s).exec service (w, [])
  ⟨r.1.1, r.1.2, r.2.1, r.2.2⟩

/-- A property of the outcome is a precondition of the routine, and conversely. -/
theorem Routine.run_iff_wp (service : Service Op Reply World) (m : Routine Op Reply σ ε α)
    (s : σ) (w : World) (property : Outcome Op Reply σ ε World α → Prop) :
    property (m.run service s w) ↔
      m.wp service.spec (fun a s' c => property ⟨.ok a, s', c.1, c.2⟩)
        (fun e s' c => property ⟨.error e, s', c.1, c.2⟩) s (w, []) := by
  rw [Routine.wp, Program.wp_iff_exec, Routine.run]
  rcases ((m s).exec service (w, [])).1 with ⟨e | a, s'⟩ <;> rfl

/-- Every operation of the program text is allowed, whatever the replies. -/
def Program.Uses (allowed : Op → Prop) : Program Op Reply α → Prop
  | .ret _ => True
  | .call op next => allowed op ∧ ∀ reply, (next reply).Uses allowed

/-- Footprints compose along sequencing. -/
theorem Program.Uses.bind {allowed : Op → Prop} {p : Program Op Reply α}
    {f : α → Program Op Reply β} (hp : p.Uses allowed) (hf : ∀ a, (f a).Uses allowed) :
    (p.bind f).Uses allowed := by
  induction p with
  | ret value => exact hf value
  | call op next ih => exact ⟨hp.1, fun reply => ih reply (hp.2 reply)⟩

/-- A run performs only operations of the footprint. -/
theorem Program.exec_trace_of_uses (service : Service Op Reply World) {allowed : Op → Prop}
    (p : Program Op Reply α) (hp : p.Uses allowed) (config : Traced Op Reply World) :
    ∃ events, (p.exec service config).2.2 = config.2 ++ events ∧ ∀ e ∈ events, allowed e.1 := by
  induction p generalizing config with
  | ret value => exact ⟨[], by simp [Program.exec], by simp⟩
  | call op next ih =>
    obtain ⟨events, heq, hall⟩ := ih _ (hp.2 (service.answer config.1 op))
      (service.after config.1 op, config.2 ++ [⟨op, service.answer config.1 op⟩])
    refine ⟨⟨op, service.answer config.1 op⟩ :: events, ?_, ?_⟩
    · simpa [Program.exec] using heq
    · intro e he
      rcases List.mem_cons.mp he with rfl | he
      · exact hp.1
      · exact hall e he

namespace Routine

/-- Footprint of a routine, from every private state. -/
def Uses (allowed : Op → Prop) (m : Routine Op Reply σ ε α) : Prop :=
  ∀ s, (m s).Uses allowed

variable {allowed : Op → Prop}

/-- Returning uses no operation. -/
theorem Uses.pure (a : α) : (pure a : Routine Op Reply σ ε α).Uses allowed := fun _ => trivial

/-- Reading the members uses none. -/
theorem Uses.read : (read : Routine Op Reply σ ε σ).Uses allowed := fun _ => trivial

/-- Writing the members uses none. -/
theorem Uses.update (f : σ → σ) : (update f : Routine Op Reply σ ε Unit).Uses allowed :=
  fun _ => trivial

/-- A pure computation uses none. -/
theorem Uses.ofExcept (x : Except ε α) : (ofExcept x : Routine Op Reply σ ε α).Uses allowed := by
  cases x <;> exact fun _ => trivial

/-- An operation uses itself. -/
theorem Uses.perform {op : Op} (h : allowed op) :
    (perform op : Routine Op Reply σ ε _).Uses allowed := fun _ => ⟨h, fun _ => trivial⟩

/-- A sequence uses what its parts use. -/
theorem Uses.bind {m : Routine Op Reply σ ε α} {f : α → Routine Op Reply σ ε β}
    (hm : m.Uses allowed) (hf : ∀ a, (f a).Uses allowed) : (m >>= f).Uses allowed := by
  intro s
  refine Program.Uses.bind (hm s) fun r => ?_
  rcases r with ⟨e | a, s'⟩
  · trivial
  · exact hf a s'

/-- A branch uses what either side uses. -/
theorem Uses.ite {c : Prop} [Decidable c] {m m' : Routine Op Reply σ ε α}
    (h : m.Uses allowed) (h' : m'.Uses allowed) : (if c then m else m').Uses allowed := by
  split
  · exact h
  · exact h'

/-- A larger set of allowed operations admits the same routines. -/
theorem Uses.mono {allowed' : Op → Prop} (himp : ∀ op, allowed op → allowed' op)
    {m : Routine Op Reply σ ε α} (h : m.Uses allowed) : m.Uses allowed' := by
  intro s
  have hs := h s
  generalize m s = p at hs
  induction p with
  | ret value => trivial
  | call op next ih => exact ⟨himp op hs.1, fun reply => ih reply (hs.2 reply)⟩

/-- The trace of a run contains only operations of the footprint. -/
theorem trace_of_uses (service : Service Op Reply World) {m : Routine Op Reply σ ε α}
    (h : m.Uses allowed) (s : σ) (w : World) : ∀ e ∈ (m.run service s w).trace, allowed e.1 := by
  obtain ⟨events, heq, hall⟩ := (m s).exec_trace_of_uses service (h s) (w, [])
  intro e he
  apply hall e
  simpa [Routine.run, heq] using he

/-- However it ends, a routine extends the trace by operations of its footprint. -/
theorem wp_of_uses (service : Service Op Reply World) {m : Routine Op Reply σ ε α}
    (h : m.Uses allowed) {ok : α → σ → Traced Op Reply World → Prop}
    {err : ε → σ → Traced Op Reply World → Prop} {s : σ} {w : World} {t : List (Event Op Reply)}
    (hok : ∀ a s' w' events, (∀ e ∈ events, allowed e.1) → ok a s' (w', t ++ events))
    (herr : ∀ e s' w' events, (∀ e ∈ events, allowed e.1) → err e s' (w', t ++ events)) :
    m.wp service.spec ok err s (w, t) := by
  obtain ⟨events, heq, hall⟩ := (m s).exec_trace_of_uses service (h s) (w, t)
  rw [wp, Program.wp_iff_exec]
  generalize (m s).exec service (w, t) = result at heq ⊢
  obtain ⟨⟨e | a, s'⟩, w', t'⟩ := result
  · cases heq
    exact herr e s' w' events hall
  · cases heq
    exact hok a s' w' events hall

end Routine

end XrpcServer.Interaction
