import XrpcServer.Interaction.Transcript
import Mathlib.Data.List.Pairwise

/-!
# Transcripts that replay against a service

The replies of a transcript may have come from a service that others were changing all the time. If
no operation is asked twice and none disturbs what is asked after it, then some world answers all of
them, and the transcript is that of an undisturbed run from there.
-/

namespace XrpcServer.Interaction

variable {Op : Type} {Reply : Op → Type} {World σ ε α β : Type}

section Replay

variable {service : Service Op Reply World} {events : List (Event Op Reply)} {w w' : World}

/-- The service gives these replies one after the other, and moves from the first world to the second. -/
inductive Service.Replays (service : Service Op Reply World) :
    World → List (Event Op Reply) → World → Prop
  | nil (w : World) : Replays service w [] w
  | cons {w w' : World} {events : List (Event Op Reply)} (op : Op)
    (h : Replays service (service.after w op) events w') :
    Replays service w (⟨op, service.answer w op⟩ :: events) w'

/-- What a program yields to these replies it computes against the service. -/
theorem Service.Replays.exec (h : service.Replays w events w') {p : Program Op Reply α} {value : α}
    (hyields : p.Yields events value) (transcript : List (Event Op Reply)) :
    p.exec service (w, transcript) = (value, w', transcript ++ events) := by
  induction h generalizing p transcript with
  | nil w =>
    cases hyields
    rw [List.append_nil]
    rfl
  | cons op _ ih =>
    cases hyields with
    | call reply hrest =>
      rw [Program.exec, ih hrest, List.append_assoc, List.singleton_append]

/-- The same for a routine, whose outcome is then known in full. -/
theorem Service.Replays.run (h : service.Replays w events w') {m : Routine Op Reply σ ε α} {s s' : σ}
    {result : Except ε α} (hyields : (m s).Yields events (result, s')) :
    m.run service s w = ⟨result, s', w', events⟩ := by
  rw [Routine.run, h.exec hyields []]
  rfl

/-- The first operation does not change what the second is answered. -/
def Service.Spares (service : Service Op Reply World) (op op' : Op) : Prop :=
  ∀ w, service.answer (service.after w op) op' = service.answer w op'

/-- Replies that one world gives are replayed from it if no operation disturbs a later one. -/
theorem Service.exists_replays (hanswers : ∀ e ∈ events, service.answer w e.1 = e.2)
    (hspares : events.Pairwise fun e e' => service.Spares e.1 e'.1) : ∃ w', service.Replays w events w' := by
  induction events generalizing w with
  | nil => exact ⟨w, .nil w⟩
  | cons e rest ih =>
    obtain ⟨hfirst, hrest⟩ := List.pairwise_cons.mp hspares
    have hlater : ∀ e' ∈ rest, service.answer (service.after w e.1) e'.1 = e'.2 := by
      intro e' he'
      rw [hfirst e' he' w]
      exact hanswers e' (List.mem_cons_of_mem _ he')
    obtain ⟨w', hreplays⟩ := ih hlater hrest
    obtain ⟨op, reply⟩ := e
    have hreply : service.answer w op = reply := hanswers _ List.mem_cons_self
    exact ⟨w', hreply ▸ hreplays.cons op⟩

end Replay

section Recorded

variable {events : List (Event Op Reply)} {op : Op} {reply : Reply op}

open Classical in
/-- A value with a property, and another one if there is none. -/
noncomputable def someOr (p : α → Prop) (otherwise : α) : α := if h : ∃ a, p a then h.choose else otherwise

/-- The only thing with the property is chosen. -/
theorem someOr_eq {p : α → Prop} {a : α} (otherwise : α) (h : p a) (hunique : ∀ b, p b → b = a) :
    someOr p otherwise = a := by
  have hexists : ∃ a, p a := ⟨a, h⟩
  rw [someOr, dif_pos hexists]
  exact hunique _ hexists.choose_spec

/-- Where nothing has the property, the default is. -/
theorem someOr_of_not {p : α → Prop} (otherwise : α) (h : ∀ a, ¬p a) : someOr p otherwise = otherwise :=
  dif_neg fun ⟨a, ha⟩ => h a ha

/-- The reply a transcript holds for an operation, and another one for operations it does not hold. -/
noncomputable def recorded (events : List (Event Op Reply)) (otherwise : (op : Op) → Reply op)
    (op : Op) : Reply op :=
  someOr (fun reply => ⟨op, reply⟩ ∈ events) (otherwise op)

/-- One reply is recorded for an operation that is asked once only. -/
theorem recorded_eq (otherwise : (op : Op) → Reply op) (h : ⟨op, reply⟩ ∈ events)
    (honce : ∀ reply', ⟨op, reply'⟩ ∈ events → reply' = reply) :
    recorded events otherwise op = reply :=
  someOr_eq (otherwise op) h honce

/-- An operation that comes once in the transcript has one reply in it. -/
theorem reply_unique (exempt : Op → Prop) (hdistinct : events.Pairwise fun e e' => e.1 = e'.1 → exempt e.1)
    (hop : ¬exempt op) {reply' : Reply op} (h : ⟨op, reply⟩ ∈ events)
    (h' : ⟨op, reply'⟩ ∈ events) : reply' = reply := by
  have hsame : events.Pairwise fun e e' => e.1 = e'.1 → exempt e.1 ∨ e = e' :=
    hdistinct.imp fun himp heq => Or.inl (himp heq)
  have hsymmetric : Std.Symm fun e e' : Event Op Reply => e.1 = e'.1 → exempt e.1 ∨ e = e' := by
    refine ⟨fun e e' himp heq => ?_⟩
    rw [heq]
    exact (himp heq.symm).imp_right Eq.symm
  have heither := List.Pairwise.forall_of_forall (fun e _ _ => Or.inr rfl) hsame h' h rfl
  exact eq_of_heq (Sigma.mk.inj (heither.resolve_left hop)).2

end Recorded

/-- A program performs only operations of its footprint, whatever is replied. -/
theorem Program.Yields.of_uses {allowed : Op → Prop} {p : Program Op Reply α} (hp : p.Uses allowed)
    {events : List (Event Op Reply)} {value : α} (h : p.Yields events value) :
    ∀ e ∈ events, allowed e.1 := by
  induction h with
  | ret value => exact fun _ he => absurd he List.not_mem_nil
  | call reply _ ih =>
    intro e he
    rcases List.mem_cons.mp he with rfl | he
    · exact hp.1
    · exact ih (hp.2 reply) e he

section Order

variable {precedes : Op → Op → Prop} {allowed allowed' : Op → Prop} {events events' : List (Event Op Reply)}

/-- Only allowed operations, each of them before others it may precede. -/
def Ordered (precedes : Op → Op → Prop) (allowed : Op → Prop) (events : List (Event Op Reply)) : Prop :=
  (∀ e ∈ events, allowed e.1) ∧ events.Pairwise fun e e' => precedes e.1 e'.1

/-- No events are in order. -/
theorem ordered_nil : Ordered precedes allowed ([] : List (Event Op Reply)) :=
  ⟨fun _ he => absurd he List.not_mem_nil, List.Pairwise.nil⟩

/-- The operations before may all precede those after. -/
theorem Ordered.append (h : Ordered precedes allowed events) (h' : Ordered precedes allowed' events')
    (hprecedes : ∀ op op', allowed op → allowed' op' → precedes op op') :
    Ordered precedes (fun op => allowed op ∨ allowed' op) (events ++ events') := by
  apply And.intro
  · intro e he
    exact (List.mem_append.mp he).imp (h.1 e) (h'.1 e)
  · refine List.pairwise_append.mpr ⟨h.2, h'.2, ?_⟩
    exact fun e he e' he' => hprecedes _ _ (h.1 e he) (h'.1 e' he')

namespace Routine

/-- Whatever is replied, the operations of the routine are allowed and ordered. -/
def InOrder (precedes : Op → Op → Prop) (allowed : Op → Prop) (m : Routine Op Reply σ ε α) : Prop :=
  ∀ s events value, (m s).Yields events value → Ordered precedes allowed events

/-- Nothing is out of order where nothing is performed. -/
theorem InOrder.of_uses_none {m : Routine Op Reply σ ε α} (h : m.Uses fun _ => False) :
    m.InOrder precedes allowed := by
  intro s events value hyields
  have hnone := hyields.of_uses (h s)
  cases events with
  | nil => exact ordered_nil
  | cons e rest => exact (hnone e List.mem_cons_self).elim

/-- A single operation is in order. -/
theorem InOrder.perform {op : Op} (h : allowed op) :
    (perform op : Routine Op Reply σ ε _).InOrder precedes allowed := by
  intro s events value hyields
  cases hyields with
  | call reply hrest =>
    cases hrest
    exact ⟨fun e he => List.mem_singleton.mp he ▸ h, List.pairwise_singleton _ _⟩

/-- Order passes along sequencing if the first routine may precede the second. -/
theorem InOrder.bind {m : Routine Op Reply σ ε α} {f : α → Routine Op Reply σ ε β}
    (hm : m.InOrder precedes allowed) (hf : ∀ a, (f a).InOrder precedes allowed')
    (hprecedes : ∀ op op', allowed op → allowed' op' → precedes op op') :
    (m >>= f).InOrder precedes fun op => allowed op ∨ allowed' op := by
  intro s events value hyields
  obtain ⟨e, s', -, hraised⟩ | ⟨before, after, a, s', rfl, hbefore, hafter⟩ := yields_cases hyields
  · obtain ⟨hallowed, hordered⟩ := hm s events _ hraised
    exact ⟨fun e he => Or.inl (hallowed e he), hordered⟩
  · exact (hm s before _ hbefore).append (hf a s' after value hafter) hprecedes

/-- Both branches have to be in order. -/
theorem InOrder.ite {c : Prop} [Decidable c] {m m' : Routine Op Reply σ ε α}
    (h : m.InOrder precedes allowed) (h' : m'.InOrder precedes allowed) :
    (if c then m else m').InOrder precedes allowed := by
  split
  · exact h
  · exact h'

/-- More may be allowed than is performed. -/
theorem InOrder.mono {m : Routine Op Reply σ ε α} (h : m.InOrder precedes allowed)
    (himp : ∀ op, allowed op → allowed' op) : m.InOrder precedes allowed' := by
  intro s events value hyields
  obtain ⟨hallowed, hordered⟩ := h s events value hyields
  exact ⟨fun e he => himp _ (hallowed e he), hordered⟩

/-- A routine that performs nothing may come first. -/
theorem InOrder.after_none {m : Routine Op Reply σ ε α} {f : α → Routine Op Reply σ ε β}
    (hm : m.Uses fun _ => False) (hf : ∀ a, (f a).InOrder precedes allowed) :
    (m >>= f).InOrder precedes allowed := by
  have hnone : m.InOrder precedes fun _ => False := InOrder.of_uses_none hm
  exact (hnone.bind hf fun _ _ hop => hop.elim).mono fun _ hop => hop.resolve_left id

/-- A routine that performs nothing may come last. -/
theorem InOrder.before_none {m : Routine Op Reply σ ε α} {f : α → Routine Op Reply σ ε β}
    (hm : m.InOrder precedes allowed) (hf : ∀ a, (f a).Uses fun _ => False) :
    (m >>= f).InOrder precedes allowed := by
  have hnone : ∀ a, (f a).InOrder precedes fun _ => False := fun a => InOrder.of_uses_none (hf a)
  exact (hm.bind hnone fun _ _ _ hop => hop.elim).mono fun _ hop => hop.resolve_right id

/-- It is enough that every transcript is in order at either exit. -/
theorem InOrder.of_wp {m : Routine Op Reply σ ε α}
    (h : ∀ s, m.wp transcribing (fun _ _ => Ordered precedes allowed)
      (fun _ _ => Ordered precedes allowed) s []) : m.InOrder precedes allowed := by
  intro s events value hyields
  have hexit := (wp_transcribing_iff m _ _ s []).mp (h s) events value.1 value.2 hyields
  rw [List.nil_append] at hexit
  cases hresult : value.1 with
  | ok a => simpa only [hresult] using hexit
  | error e => simpa only [hresult] using hexit

end Routine

end Order

end XrpcServer.Interaction
