import XrpcServer.Interaction.Execution

/-!
# What a program can ask about

A program is confined when it performs only allowed operations as long as the replies are those
relied on. Nobody who replies to it as is relied on can make it ask for anything else, so that nothing
else can matter to it.
-/

namespace XrpcServer.Interaction

variable {Op : Type} {Reply : Op → Type} {World α : Type}

section Relying

variable {rely : (op : Op) → Reply op → Prop} {allowed : Op → Prop}

/-- Every operation has to be allowed, and any reply relied on may come. -/
def relying (rely : (op : Op) → Reply op → Prop) (allowed : Op → Prop) : OpSpec Op Reply Unit :=
  fun op post config => allowed op ∧ ∀ reply, rely op reply → post reply config

/-- Demanding the replies relied on is monotone. -/
theorem relying_mono : (relying rely allowed).Mono :=
  fun _ _ _ _ h hp => ⟨hp.1, fun reply hreply => h reply _ (hp.2 reply hreply)⟩

/-- As long as the replies are those relied on, the operations are allowed. -/
theorem Program.Yields.confined {p : Program Op Reply α} {events : List (Event Op Reply)} {value : α}
    (h : p.Yields events value) {post : α → Unit → Prop} (hp : p.wp (relying rely allowed) post ())
    (hrely : ∀ e ∈ events, allowed e.1 → rely e.1 e.2) : ∀ e ∈ events, allowed e.1 := by
  induction h with
  | ret value => exact fun _ he => absurd he List.not_mem_nil
  | @call op next rest value reply _ ih =>
    have hreply := hrely ⟨op, reply⟩ List.mem_cons_self hp.1
    have hrest := ih (hp.2 reply hreply) fun e he => hrely e (List.mem_cons_of_mem _ he)
    intro e he
    rcases List.mem_cons.mp he with rfl | he
    · exact hp.1
    · exact hrest e he

end Relying

/-- Every reply of a run came from a world of the service. -/
theorem Program.replies_exec (service : Service Op Reply World) (p : Program Op Reply α)
    (config : Traced Op Reply World) :
    ∀ e ∈ (p.exec service config).2.2, e ∈ config.2 ∨ ∃ w, service.answer w e.1 = e.2 := by
  induction p generalizing config with
  | ret value => exact fun _ he => Or.inl he
  | call op next ih =>
    intro e he
    obtain he | hreplied := ih _ _ e he
    · obtain he | he := List.mem_append.mp he
      · exact Or.inl he
      · rw [List.mem_singleton.mp he]
        exact Or.inr ⟨config.1, rfl⟩
    · exact Or.inr hreplied

end XrpcServer.Interaction
