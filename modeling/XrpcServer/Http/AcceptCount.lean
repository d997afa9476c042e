import XrpcServer.Http.AcceptLoop

/-!
# How many accepts are outstanding

Every exception that leaves a callback of a connection arms one accept more, every accept that fails
is one less, and nothing else changes their number. Once nothing is outstanding the `io_service`
stops for good: from then on the loop arms an accept each time round, and none of them completes.
-/

namespace XrpcServer.Http

open XrpcServer.Text XrpcServer.Chain XrpcServer.Handler XrpcServer.Interaction

/-- `async_accept` completes with an error. -/
def Event.isFailure : Event → Bool
  | .acceptFailed => true
  | _ => false

/-- An exception leaves the callback of a connection. -/
def Event.throws (lib : Externals) : Event → Bool
  | .connection w c c' fails => fails || handlerThrew lib w c c'
  | _ => false

/-- What the events so far, the last one first, tell of the accepts. -/
inductive Counted (lib : Externals) : List Event → Server → Prop
  | running {history : List Event} {s : Server} (hrunning : s.stopped = false)
    (hnever : .returned ∉ history)
    (hcount : s.accepts + history.countP Event.isFailure = 1 + history.countP (Event.throws lib)) :
    Counted lib history s
  /-- The loop has gone round `n` times since the `io_service` has stopped. -/
  | stopped {n : ℕ} {history : List Event} {s : Server} (hstopped : s.stopped = true)
    (hnever : .returned ∉ history) (haccepts : s.accepts = n + 1) (hpending : s.pending = 0) :
    Counted lib (List.replicate n .returned ++ history) s

section Steps

variable {lib : Externals} {s s' : Server} {history : List Event} {event : Event}

/-- With nothing outstanding the `io_service` stops. -/
theorem settle_of_idle (h : s.accepts + s.pending = 0) : settle s = { s with stopped := true } := by
  rw [settle, decide_eq_true h, Bool.or_true]

/-- With something outstanding it does not. -/
theorem settle_of_work (h : s.accepts + s.pending ≠ 0) : settle s = s := by
  rw [settle, decide_eq_false h, Bool.or_false]

/-- The first stop leaves one accept, armed by the loop. -/
theorem counted_stop (hnever : .returned ∉ history) (hidle : s.accepts + s.pending = 0) :
    Counted lib history (doAccept { s with stopped := true }) := by
  have hstopped : Counted lib (List.replicate 0 .returned ++ history) (doAccept { s with stopped := true }) := by
    apply Counted.stopped rfl hnever
    · simp only [doAccept]
      omega
    · change s.pending = 0
      omega
  exact hstopped

/-- A callback that returns. -/
theorem counted_afterCallback_false (hnever : .returned ∉ history) (hrunning : s.stopped = false)
    (hcount : s.accepts + history.countP Event.isFailure = 1 + history.countP (Event.throws lib)) :
    Counted lib history (afterCallback false s) := by
  by_cases hwork : s.accepts + s.pending = 0
  · rw [afterCallback, settle_of_idle hwork]
    exact counted_stop hnever hwork
  · rw [afterCallback, settle_of_work hwork, hrunning]
    exact .running hrunning hnever hcount

/-- A callback that throws arms one accept more. -/
theorem counted_afterCallback_true (hnever : .returned ∉ history) (hrunning : s.stopped = false)
    (hcount : s.accepts + 1 + history.countP Event.isFailure = 1 + history.countP (Event.throws lib)) :
    Counted lib history (afterCallback true s) := by
  by_cases hwork : s.accepts + s.pending = 0
  · rw [afterCallback, settle_of_idle hwork]
    exact counted_stop hnever hwork
  · rw [afterCallback, settle_of_work hwork]
    exact .running hrunning hnever hcount

/-- What is told of the accepts is told after each event. -/
theorem Counted.step (h : Counted lib history s) (hstep : LoopStep lib s event s') :
    Counted lib (event :: history) s' := by
  cases h with
  | running hrunning hnever hcount =>
    cases hstep with
    | accepted _ harmed =>
      apply counted_afterCallback_false
      · simp [hnever]
      · exact hrunning
      · simp [acceptCompleted, doAccept, Event.isFailure, Event.throws]
        omega
    | acceptThrew _ harmed _ =>
      apply counted_afterCallback_true
      · simp [hnever]
      · exact hrunning
      · simp [acceptInterrupted, Event.isFailure, Event.throws]
        omega
    | acceptFailed _ harmed =>
      apply counted_afterCallback_false
      · simp [hnever]
      · exact hrunning
      · simp [Http.acceptFailed, List.countP_cons, Event.isFailure, Event.throws]
        omega
    | @connection before after w c c' fails _ hconnections _ =>
      cases hthrows : fails || handlerThrew lib w c c' with
      | true =>
        apply counted_afterCallback_true
        · simp [hnever]
        · exact hrunning
        · simp [Event.isFailure, Event.throws, hthrows]
          omega
      | false =>
        apply counted_afterCallback_false
        · simp [hnever]
        · exact hrunning
        · simp [Event.isFailure, Event.throws, hthrows]
          omega
    | returned hstopped =>
      rw [hrunning] at hstopped
      cases hstopped
  | @stopped n history _ hstopped hnever haccepts hpending =>
    cases hstep with
    | returned _ =>
      rw [← List.cons_append, ← List.replicate_succ]
      exact .stopped hstopped hnever (congrArg Nat.succ haccepts) hpending
    | accepted hrunning _ | acceptThrew hrunning _ _ | acceptFailed hrunning _ | connection hrunning _ _ =>
      rw [hstopped] at hrunning
      cases hrunning

end Steps

/-- The accepts outstanding in any state of a run, counted by the events that have led to it. -/
theorem accepts_counted (lib : Externals) (before after : List (Event × Server)) (entry : Event × Server)
    (h : Trail (LoopStep lib) .started (before ++ entry :: after)) :
    Counted lib (entry.1 :: (before.map Prod.fst).reverse) entry.2 := by
  have hstarted : Counted lib [] .started := .running rfl List.not_mem_nil rfl
  have htold := h.told (fun _ _ _ _ hcounted hstep => hcounted.step hstep) hstarted rfl
  rwa [List.append_nil] at htold

/-- The first accept fails, and the loop goes round twice. -/
theorem accepts_counted_sample : Counted sampleExternals [.returned, .acceptFailed] ⟨2, [], true⟩ := by
  have htrail : Trail (LoopStep sampleExternals) .started failedTrail :=
    .cons (.acceptFailed rfl (by decide)) (.cons (.returned rfl) (.nil _))
  exact accepts_counted sampleExternals [(.acceptFailed, ⟨1, [], true⟩)] [] _ htrail

end XrpcServer.Http
