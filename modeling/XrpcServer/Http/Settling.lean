import XrpcServer.Http.AcceptCount
import XrpcServer.Http.Isolation
import XrpcServer.Interaction.Draining

/-!
# Connections come to rest

If no further connection comes in, the callbacks of those that are there come to an end, in whatever
order they run and whichever of them throw, whatever accepts fail and however often the loop goes round
between them. Then nothing is outstanding on any connection, and on each has happened what its buffer
and its segments had in store for it. Every read that is outstanding is taken to complete or to fail in
the end: a client that neither sends nor closes keeps its connection waiting.
-/

namespace XrpcServer.Http

open XrpcServer.Text XrpcServer.Stream XrpcServer.Handler XrpcServer.Interaction

/-- Something happens, but no connection comes in. -/
def Moves (lib : Externals) (s s' : Server) : Prop := ∃ event, event.creates = none ∧ LoopStep lib s event s'

/-- Nothing is outstanding any more, and what the first state had in store for one world has happened. -/
def AtRest (lib : Externals) (c c' : Connection) : Prop :=
  c'.outstanding = 0 ∧ ∃ w, effects (handlerAnswer lib w) c = (c'.started, c'.handled)

/-- What holds while the server moves on from a state: a stopped `io_service` has nothing outstanding
on them, and each is in a run of its own. -/
structure Moving (lib : Externals) (s s' : Server) : Prop where
  idle : s'.stopped = true → s'.pending = 0
  separate : List.Forall₂ (Private lib) s.connections s'.connections

/-- A bound on the number of events left on all connections. -/
def Server.fuel (s : Server) : ℕ := (s.connections.map Connection.fuel).sum

section Steps

variable {lib : Externals} {s s' : Server} {start c c' : Connection}

/-- From any of its states a connection is in a run of its own. -/
theorem Private.restart (h : Private lib start c) : Private lib c c := by
  cases h with
  | unhandled hhandled _ => exact .unhandled hhandled fun _ => .refl
  | handled w hhandled hreading _ => exact .handled w hhandled hreading .refl

/-- After a callback a stopped `io_service` has nothing outstanding. -/
theorem pending_of_stopped (threw : Bool) (hrunning : s.stopped = false)
    (hstopped : (afterCallback threw s).stopped = true) : (afterCallback threw s).pending = 0 := by
  have hsettled : (settle s).stopped = true := by
    rw [afterCallback] at hstopped
    split at hstopped <;> exact hstopped
  have hidle : s.accepts + s.pending = 0 := by
    simpa [settle, hrunning] using hsettled
  rw [Server.pending, connections_afterCallback]
  exact (Nat.add_eq_zero_iff.mp hidle).2

/-- A stopped `io_service` has nothing outstanding on its connections. -/
theorem Counted.pending_eq {history : List Event} (h : Counted lib history s) (hstopped : s.stopped = true) :
    s.pending = 0 := by
  cases h with
  | running hrunning _ _ =>
    rw [hrunning] at hstopped
    cases hstopped
  | stopped _ _ _ hpending => exact hpending

/-- An event keeps what holds. -/
theorem Moves.moving {s₀ : Server} (h : Moving lib s₀ s) (hmoves : Moves lib s s') : Moving lib s₀ s' := by
  obtain ⟨event, hcreates, hstep⟩ := hmoves
  cases hstep with
  | accepted | acceptThrew => cases hcreates
  | acceptFailed hrunning =>
    apply Moving.mk
    · exact pending_of_stopped _ hrunning
    · rw [connections_afterCallback]
      exact h.separate
  | connection hrunning hconnections hstep =>
    apply Moving.mk
    · exact pending_of_stopped _ hrunning
    · rw [connections_afterCallback]
      have hseparate := h.separate
      rw [hconnections] at hseparate
      exact forall₂_update (fun _ hprivate => hprivate.step hstep) hseparate
  | returned hstopped => exact ⟨fun _ => h.idle hstopped, h.separate⟩

/-- While something is outstanding on a connection, a failed accept leaves the `io_service` running, with one
accept less. -/
theorem afterCallback_acceptFailed (hrunning : s.stopped = false) (hpending : 0 < s.pending) :
    afterCallback false (acceptFailed s) = acceptFailed s := by
  have hwork : (acceptFailed s).accepts + (acceptFailed s).pending ≠ 0 :=
    (Nat.add_pos_right _ hpending).ne'
  rw [afterCallback, settle_of_work hwork, acceptFailed, hrunning]
  rfl

/-- While something is outstanding on a connection, every event uses some fuel, or an accept. -/
theorem Moves.lex {s₀ : Server} (h : Moving lib s₀ s) (hpending : 0 < s.pending) (hmoves : Moves lib s s') :
    Prod.Lex (· < ·) (· < ·) (s'.fuel, s'.accepts) (s.fuel, s.accepts) := by
  obtain ⟨event, hcreates, hstep⟩ := hmoves
  cases hstep with
  | accepted | acceptThrew => cases hcreates
  | acceptFailed hrunning harmed =>
    rw [afterCallback_acceptFailed hrunning hpending]
    exact .right _ (Nat.sub_lt harmed Nat.one_pos)
  | connection hrunning hconnections hstep =>
    apply Prod.Lex.left
    have hless := hstep.fuel_lt
    rw [Server.fuel, Server.fuel, connections_afterCallback, hconnections]
    simp only [List.map_append, List.map_cons, List.sum_append, List.sum_cons]
    omega
  | returned hstopped => exact absurd (h.idle hstopped) hpending.ne'

/-- A connection of a running `io_service` moves on until nothing is outstanding on it. -/
theorem outstanding_of_stuck (hrunning : s.stopped = false) (hstuck : ∀ s', ¬Moves lib s s')
    (hc : c ∈ s.connections) : c.outstanding = 0 := by
  obtain ⟨before, after, hconnections⟩ := List.append_of_mem hc
  have hfinished : Finished (handlerAnswer lib sampleWorld) c := by
    intro c' hstep
    exact hstuck _ ⟨.connection sampleWorld c c' false, rfl, .connection hrunning hconnections hstep⟩
  have hwriting : c.writing = 0 := by
    by_contra hwriting
    exact hfinished _ (.writeDone (Nat.pos_of_ne_zero hwriting))
  rw [Connection.outstanding, hfinished.reading_eq, hwriting]
  rfl

/-- Where something is outstanding on a connection, the server can move on. -/
theorem Moving.pending_eq {s₀ : Server} (h : Moving lib s₀ s) (hstuck : ∀ s', ¬Moves lib s s') : s.pending = 0 := by
  cases hstopped : s.stopped with
  | false =>
    rw [Server.pending, List.sum_eq_zero_iff]
    intro n hn
    obtain ⟨c, hc, rfl⟩ := List.mem_map.mp hn
    exact outstanding_of_stuck hstopped hstuck hc
  | true => exact h.idle hstopped

/-- A connection of its own has come to rest when nothing is outstanding on it. -/
theorem Private.atRest (h : Private lib c c') (houtstanding : c'.outstanding = 0) : AtRest lib c c' := by
  obtain ⟨-, w, hrun, heffects⟩ := h.alone
  refine ⟨houtstanding, w, ?_⟩
  have hreading : c'.reading = none := by
    cases hreading : c'.reading with
    | none => rfl
    | some stage => simp [Connection.outstanding, hreading] at houtstanding
  rw [← heffects, effects, remaining, hreading]
  simp

/-- All connections start anew. -/
theorem separate_restart {starts connections : List Connection}
    (h : List.Forall₂ (Private lib) starts connections) : List.Forall₂ (Private lib) connections connections := by
  induction h with
  | nil => exact .nil
  | cons hfirst _ ih => exact .cons hfirst.restart ih

/-- All connections have come to rest. -/
theorem forall₂_atRest {connections connections' : List Connection}
    (h : List.Forall₂ (Private lib) connections connections')
    (hpending : (connections'.map Connection.outstanding).sum = 0) :
    List.Forall₂ (AtRest lib) connections connections' := by
  induction h with
  | nil => exact .nil
  | cons hfirst _ ih =>
    rw [List.map_cons, List.sum_cons] at hpending
    exact .cons (hfirst.atRest (Nat.eq_zero_of_add_eq_zero_right hpending))
      (ih (Nat.eq_zero_of_add_eq_zero_left hpending))

/-- What holds in a state the server has got to. -/
theorem moving_of_trail {before after : List (Event × Server)} {entry : Event × Server}
    (h : Trail (LoopStep lib) .started (before ++ entry :: after)) : Moving lib entry.2 entry.2 := by
  apply Moving.mk
  · intro hstopped
    have hstarted : Counted lib [] .started := .running rfl List.not_mem_nil rfl
    have hcounted := h.told (fun _ _ _ _ hcounted hstep => hcounted.step hstep) hstarted rfl
    exact hcounted.pending_eq hstopped
  · have hstarted : Separate lib [] .started := .nil
    exact separate_restart (h.told (fun _ _ _ _ hseparate hstep => hseparate.step hstep) hstarted rfl)

end Steps

/-- Whatever state the server has got to: if no further connection comes in, its connections come to
rest, each with the effects it had in store, whatever accepts fail and however often the loop goes round
on the way. The reads outstanding are taken to complete or to fail in the end. -/
theorem connections_settle (lib : Externals) (before after : List (Event × Server)) (entry : Event × Server)
    (h : Trail (LoopStep lib) .started (before ++ entry :: after)) :
    Inevitable (Moves lib) (fun s' => List.Forall₂ (AtRest lib) entry.2.connections s'.connections)
      entry.2 := by
  apply inevitable_of_acc_short (Moving lib entry.2) _ _ _ (moving_of_trail h)
  · exact fun s s' hs hmoves => hmoves.moving hs
  · exact fun s hs hstuck => forall₂_atRest hs.separate (hs.pending_eq hstuck)
  · have hwf := InvImage.wf (fun s : Server => (s.fuel, s.accepts))
      (WellFounded.prod_lex wellFounded_lt wellFounded_lt)
    refine Subrelation.accessible ?_ (hwf.apply entry.2)
    rintro s' s ⟨hmoves, hs, hshort⟩
    apply hmoves.lex hs
    apply Nat.pos_of_ne_zero
    exact fun hidle => hshort (forall₂_atRest hs.separate hidle)

/-- A client that has sent its method, with another connection accepted after it. -/
theorem connections_settle_sample : Inevitable (Moves sampleExternals)
    (fun s' => List.Forall₂ (AtRest sampleExternals) [optionsConnection, handleAccept false (.accepted [])]
      s'.connections) ⟨1, [optionsConnection, handleAccept false (.accepted [])], false⟩ := by
  have htrail : Trail (LoopStep sampleExternals) .started acceptedTwo :=
    .cons (.accepted rfl (by decide)) (.cons (.accepted rfl (by decide)) (.nil _))
  exact connections_settle sampleExternals
    [(.accepted [str "OPTIONS "] false, ⟨1, [optionsConnection], false⟩)] [] _ htrail

end XrpcServer.Http
