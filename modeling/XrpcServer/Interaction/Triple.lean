import XrpcServer.Interaction.Execution

/-!
# Triples over arbitrary replies

A triple relates the private state before a routine to the value and the state of its normal
exit, whatever is replied to its operations. Exceptions are left open: a triple says what
holds if the routine returns. Triples compose like the routines do.
-/

namespace XrpcServer.Interaction

variable {Op : Type} {Reply : Op → Type} {World σ ε α β : Type}

/-- Every reply is possible. -/
def anyReply : OpSpec Op Reply Unit := fun _ post config => ∀ reply, post reply config

/-- Whatever the reply, the postcondition has to hold. -/
@[simp] theorem anyReply_apply (op : Op) (post : Reply op → Unit → Prop) (config : Unit) :
    anyReply op post config ↔ ∀ reply, post reply config := Iff.rfl

/-- Demanding all replies is monotone. -/
theorem anyReply_mono : (anyReply : OpSpec Op Reply Unit).Mono :=
  fun _ _ _ _ h hp reply => h reply _ (hp reply)

/-- What holds for any reply holds for the replies of a service. -/
theorem Program.exec_of_anyReply (service : Service Op Reply World) (p : Program Op Reply α)
    {post : α → Unit → Prop} (h : p.wp anyReply post ()) (config : Traced Op Reply World) :
    post (p.exec service config).1 () := by
  induction p generalizing config with
  | ret value => exact h
  | call op next ih => exact ih _ (h (service.answer config.1 op)) _

namespace Routine

/-- From every state with the precondition a normal exit meets the postcondition. -/
def Triple (pre : σ → Prop) (m : Routine Op Reply σ ε α) (post : α → σ → Prop) : Prop :=
  ∀ s, pre s → m.wp anyReply (fun a s' _ => post a s') (fun _ _ _ => True) s ()

variable {pre : σ → Prop} {mid : α → σ → Prop} {post : α → σ → Prop} {postβ : β → σ → Prop}

/-- The rule of returning. -/
theorem Triple.pure {a : α} (h : ∀ s, pre s → post a s) :
    Triple pre (pure a : Routine Op Reply σ ε α) post := h

/-- The rule of reading the members. -/
theorem Triple.read {post : σ → σ → Prop} (h : ∀ s, pre s → post s s) :
    Triple pre (read : Routine Op Reply σ ε σ) post := h

/-- The rule of writing the members. -/
theorem Triple.update {f : σ → σ} {post : Unit → σ → Prop} (h : ∀ s, pre s → post () (f s)) :
    Triple pre (update f : Routine Op Reply σ ε Unit) post := h

/-- The rule of a pure computation that may fail. -/
theorem Triple.ofExcept {x : Except ε α} (h : ∀ a s, x = .ok a → pre s → post a s) :
    Triple pre (ofExcept x : Routine Op Reply σ ε α) post := by
  intro s hs
  rw [wp_ofExcept]
  exact ⟨fun a ha => h a s ha hs, fun _ _ => True.intro⟩

/-- The rule of an operation. -/
theorem Triple.perform {op : Op} {post : Reply op → σ → Prop} (h : ∀ reply s, pre s → post reply s) :
    Triple pre (perform op : Routine Op Reply σ ε _) post := fun s hs reply => h reply s hs

/-- The postcondition of the first routine is the precondition of the second. -/
theorem Triple.bind {m : Routine Op Reply σ ε α} {f : α → Routine Op Reply σ ε β}
    (hm : Triple pre m mid) (hf : ∀ a, Triple (mid a) (f a) postβ) : Triple pre (m >>= f) postβ := by
  intro s hs
  rw [wp_bind]
  exact wp_mono anyReply_mono m (fun a s' _ ha => hf a s' ha) (fun _ _ _ h => h) (hm s hs)

/-- The rule of a branch. -/
theorem Triple.ite {c : Prop} [Decidable c] {m m' : Routine Op Reply σ ε α}
    (h : Triple pre m post) (h' : Triple pre m' post) : Triple pre (if c then m else m') post := by
  split
  · exact h
  · exact h'

/-- Nothing is claimed of the exit. -/
theorem Triple.trivial (m : Routine Op Reply σ ε α) : Triple pre m fun _ _ => True := by
  intro s _
  change (m s).wp anyReply _ ()
  generalize m s = p
  induction p with
  | ret value =>
    rcases value with ⟨e | a, s'⟩ <;> exact True.intro
  | call op next ih => exact fun reply => ih reply

/-- What the last routine establishes from any state is established by the sequence. -/
theorem Triple.after {m : Routine Op Reply σ ε α} {f : α → Routine Op Reply σ ε β}
    (hf : ∀ a, Triple (fun _ => True) (f a) postβ) : Triple pre (m >>= f) postβ :=
  (Triple.trivial m).bind hf

/-- A run that returns meets the postcondition. -/
theorem Triple.of_run {m : Routine Op Reply σ ε α} (h : Triple pre m post)
    (service : Service Op Reply World) {s : σ} (hs : pre s) (w : World) {a : α}
    (hresult : (m.run service s w).result = .ok a) : post a (m.run service s w).state := by
  have hexec := (m s).exec_of_anyReply service (h s hs) (w, [])
  simp only [run] at hresult ⊢
  generalize ((m s).exec service (w, [])).1 = r at hexec hresult ⊢
  rcases r with ⟨e | b, s'⟩
  · cases hresult
  · cases hresult
    exact hexec

end Routine

end XrpcServer.Interaction
