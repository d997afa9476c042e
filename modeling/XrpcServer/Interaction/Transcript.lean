import XrpcServer.Interaction.Execution

/-!
# Transcripts under arbitrary replies

Any reply may come to any operation, and the configuration is the transcript of what was asked and
replied so far. A precondition for this specification is a statement about every way the program
can go, so it holds of the program among others, whatever they do between two of its operations.
-/

namespace XrpcServer.Interaction

variable {Op : Type} {Reply : Op → Type} {σ ε α β : Type}

/-- Every reply is possible, and all replies are written down. -/
def transcribing : OpSpec Op Reply (List (Event Op Reply)) :=
  fun op post transcript => ∀ reply, post reply (transcript ++ [⟨op, reply⟩])

/-- Whatever the reply, it is written down. -/
@[simp] theorem transcribing_apply (op : Op) (post : Reply op → List (Event Op Reply) → Prop)
    (transcript : List (Event Op Reply)) :
    transcribing op post transcript ↔ ∀ reply, post reply (transcript ++ [⟨op, reply⟩]) := Iff.rfl

/-- Demanding all replies is monotone. -/
theorem transcribing_mono : (transcribing : OpSpec Op Reply (List (Event Op Reply))).Mono :=
  fun _ _ _ _ h hp reply => h reply _ (hp reply)

/-- A precondition for every reply is a postcondition of every transcript. -/
theorem Program.wp_transcribing_iff (p : Program Op Reply α) (post : α → List (Event Op Reply) → Prop)
    (transcript : List (Event Op Reply)) :
    p.wp transcribing post transcript ↔
      ∀ events value, p.Yields events value → post value (transcript ++ events) := by
  induction p generalizing transcript with
  | ret value =>
    constructor
    · intro h events value' hyields
      cases hyields
      rwa [List.append_nil]
    · intro h
      have hret := h [] value (.ret value)
      rwa [List.append_nil] at hret
  | call op next ih =>
    constructor
    · intro h events value hyields
      cases hyields with
      | call reply hrest =>
        have hnext := (ih reply _).mp (h reply) _ value hrest
        rwa [List.append_assoc, List.singleton_append] at hnext
    · intro h reply
      rw [ih reply]
      intro events value hyields
      have hcall := h (⟨op, reply⟩ :: events) value (.call reply hyields)
      rwa [List.append_assoc, List.singleton_append]

/-- What a sequence yields was yielded by its parts, one after the other. -/
theorem Program.yields_bind {p : Program Op Reply α} {f : α → Program Op Reply β}
    {events : List (Event Op Reply)} {value : β} (h : (p.bind f).Yields events value) :
    ∃ before after a, events = before ++ after ∧ p.Yields before a ∧ (f a).Yields after value := by
  induction p generalizing events with
  | ret a => exact ⟨[], events, a, rfl, .ret a, h⟩
  | call op next ih =>
    cases h with
    | call reply hrest =>
      obtain ⟨before, after, a, hevents, hp, hf⟩ := ih reply hrest
      exact ⟨⟨op, reply⟩ :: before, after, a, by rw [hevents, List.cons_append], .call reply hp, hf⟩

/-- And what the parts yield, the sequence yields. -/
theorem Program.Yields.bind {p : Program Op Reply α} {f : α → Program Op Reply β}
    {before after : List (Event Op Reply)} {a : α} {value : β} (h : p.Yields before a)
    (hf : (f a).Yields after value) : (p.bind f).Yields (before ++ after) value := by
  induction h with
  | ret a => exact hf
  | call reply _ ih => exact .call reply (ih hf)

namespace Routine

variable {m : Routine Op Reply σ ε α} {f : α → Routine Op Reply σ ε β} {s s' : σ}
  {events before after : List (Event Op Reply)} {value : Except ε β × σ}

/-- An exception of the first routine is one of the sequence. -/
theorem yields_raised {e : ε} (h : (m s).Yields events (.error e, s')) :
    ((m >>= f) s).Yields events (.error e, s') := by
  have hraised : (Program.ret (.error e, s') : Program Op Reply (Except ε β × σ)).Yields [] (.error e, s') := .ret _
  rw [← List.append_nil events]
  exact h.bind hraised

/-- After a normal exit the sequence goes on with the second routine. -/
theorem yields_returned {a : α} (h : (m s).Yields before (.ok a, s')) (hf : (f a s').Yields after value) :
    ((m >>= f) s).Yields (before ++ after) value := h.bind hf

/-- There are these two ways for a sequence to go. -/
theorem yields_cases (h : ((m >>= f) s).Yields events value) :
    (∃ e s', value = (.error e, s') ∧ (m s).Yields events (.error e, s')) ∨
      ∃ before after a s', events = before ++ after ∧ (m s).Yields before (.ok a, s') ∧
        (f a s').Yields after value := by
  obtain ⟨before, after, ⟨result, s'⟩, hevents, hm, hf⟩ := Program.yields_bind h
  cases result with
  | ok a => exact Or.inr ⟨before, after, a, s', hevents, hm, hf⟩
  | error e =>
    cases hf
    rw [List.append_nil] at hevents
    exact Or.inl ⟨e, s', rfl, hevents ▸ hm⟩

/-- However it goes, the routine meets the postcondition of its exit. -/
theorem wp_transcribing_iff (m : Routine Op Reply σ ε α) (ok : α → σ → List (Event Op Reply) → Prop)
    (err : ε → σ → List (Event Op Reply) → Prop) (s : σ) (transcript : List (Event Op Reply)) :
    m.wp transcribing ok err s transcript ↔
      ∀ events result s', (m s).Yields events (result, s') →
        match result with
        | .ok a => ok a s' (transcript ++ events)
        | .error e => err e s' (transcript ++ events) := by
  rw [wp, Program.wp_transcribing_iff]
  constructor
  · intro h events result s' hyields
    have hexit := h events (result, s') hyields
    cases result <;> exact hexit
  · intro h events value hyields
    have hexit := h events value.1 value.2 hyields
    rcases value with ⟨e | a, s'⟩ <;> exact hexit

end Routine

end XrpcServer.Interaction
