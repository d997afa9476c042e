import XrpcServer.Http.AcceptLoop
import Mathlib.Data.List.Forall2

/-!
# Many connections on one server

All connections share the `io_service`, but nothing one of them does shows on another. In any run
of the server, with exceptions, failed accepts and restarts of the loop, the events on a connection
make up a run of that connection alone, against what its one handler was answered.
-/

namespace XrpcServer.Http

open XrpcServer.Text XrpcServer.Stream XrpcServer.Handler XrpcServer.Interaction

/-- The connection an event creates, as `handle_accept` leaves it. -/
def Event.creates : Event → Option Connection
  | .accepted segments parsed => some (handleAccept parsed (.accepted segments))
  | .acceptThrew c => some c
  | _ => none

/-- The connection is in a run of its own, against one world, with the effects of that run, and its
handler has run at most once. -/
def Alone (lib : Externals) (start c : Connection) : Prop :=
  c.handled.length ≤ 1 ∧ ∃ w, Relation.ReflTransGen (Step (handlerAnswer lib w)) start c ∧
    effects (handlerAnswer lib w) c = effects (handlerAnswer lib w) start

/-- As long as no handler has run, its answers do not matter; after that, no read is outstanding. -/
inductive Private (lib : Externals) (start c : Connection) : Prop
  | unhandled (hhandled : c.handled = []) (hrun : ∀ answer, Relation.ReflTransGen (Step answer) start c)
  | handled (w : World) (hhandled : c.handled.length = 1) (hreading : c.reading = none)
    (hrun : Relation.ReflTransGen (Step (handlerAnswer lib w)) start c)

section Steps

variable {lib : Externals} {start c c' : Connection}

/-- The effects of a run are those of each of its states. -/
theorem effects_of_run {answer : Bytes → Option Bytes} (h : Relation.ReflTransGen (Step answer) start c) :
    effects answer c = effects answer start := by
  induction h with
  | refl => rfl
  | tail _ hstep ih => rw [hstep.effects_eq, ih]

/-- A connection of its own could have been the only one. -/
theorem Private.alone (h : Private lib start c) : Alone lib start c := by
  cases h with
  | unhandled hhandled hrun =>
    have hrun := hrun (handlerAnswer lib sampleWorld)
    exact ⟨by rw [hhandled]; exact Nat.zero_le 1, sampleWorld, hrun, effects_of_run hrun⟩
  | handled w hhandled _ hrun => exact ⟨hhandled.le, w, hrun, effects_of_run hrun⟩

/-- The handler has run. -/
theorem bodyRead_handled (answer : Bytes → Option Bytes) (c : Connection) :
    (bodyRead answer c).handled = c.handled ++ [c.request] ∧ (bodyRead answer c).reading = c.reading := by
  rw [bodyRead]
  cases answer c.request <;> exact ⟨rfl, rfl⟩

/-- What the completion of another read does is the same for all answers, and no handler runs in it. -/
theorem readCompleted_handled (answer answer' : Bytes → Option Bytes) (n : ℕ) {stage : Reading}
    (hstage : stage ≠ .body) (c : Connection) : readCompleted answer n stage c = readCompleted answer' n stage c ∧
      (readCompleted answer n stage c).handled = c.handled := by
  cases stage with
  | method =>
    change methodRead n c = methodRead n c ∧ (methodRead n c).handled = c.handled
    rw [methodRead]
    split_ifs <;> exact ⟨rfl, rfl⟩
  | head => exact ⟨rfl, rfl⟩
  | body => exact absurd rfl hstage

/-- One event on the connection. -/
theorem Private.step (h : Private lib start c) {w : World} (hstep : Step (handlerAnswer lib w) c c') :
    Private lib start c' := by
  cases h with
  | unhandled hhandled hrun =>
    cases hstep with
    | receive hreading hwaits hsocket =>
      exact .unhandled hhandled fun answer => (hrun answer).tail (.receive hreading hwaits hsocket)
    | readFailed hreading hwaits hsocket =>
      exact .unhandled hhandled fun answer => (hrun answer).tail (.readFailed hreading hwaits hsocket)
    | writeDone hwriting => exact .unhandled hhandled fun answer => (hrun answer).tail (.writeDone hwriting)
    | @readDone stage n hreading hfound =>
      by_cases hstage : stage = .body
      · subst hstage
        obtain ⟨hhandled', hreading'⟩ := bodyRead_handled (handlerAnswer lib w) { c with reading := none }
        refine .handled w ?_ hreading' ((hrun _).tail (.readDone hreading hfound))
        change (bodyRead (handlerAnswer lib w) { c with reading := none }).handled.length = 1
        rw [hhandled', hhandled]
        rfl
      · have hsame := fun answer =>
          readCompleted_handled (handlerAnswer lib w) answer n hstage { c with reading := none }
        refine .unhandled ((hsame (handlerAnswer lib w)).2.trans hhandled) fun answer => ?_
        rw [(hsame answer).1]
        exact (hrun answer).tail (.readDone hreading hfound)
  | handled w' hhandled hreading hrun =>
    cases hstep with
    | receive hsome _ _ | readFailed hsome _ _ | readDone hsome _ =>
      rw [hreading] at hsome
      cases hsome
    | writeDone hwriting => exact .handled w' hhandled hreading (hrun.tail (.writeDone hwriting))

/-- No handler has run on a connection that was just created. -/
theorem Interrupted.handled_eq (h : Interrupted c) : c.handled = [] := by
  obtain ⟨segments, rfl | rfl | ⟨parsed, rfl⟩⟩ := h
  · rfl
  · rfl
  · cases parsed <;> rfl

/-- One of the connections moves on. -/
theorem forall₂_update {R : Connection → Connection → Prop} (hstep : ∀ start, R start c → R start c')
    {starts before after : List Connection} (h : List.Forall₂ R starts (before ++ c :: after)) :
    List.Forall₂ R starts (before ++ c' :: after) := by
  induction before generalizing starts with
  | nil =>
    cases h with
    | cons hfirst hrest => exact .cons (hstep _ hfirst) hrest
  | cons first before ih =>
    cases h with
    | cons hfirst hrest => exact .cons hfirst (ih hrest)

end Steps

/-- The connections are those the events so far, the last one first, have created. -/
def Separate (lib : Externals) (history : List Event) (s : Server) : Prop :=
  List.Forall₂ (Private lib) (history.reverse.filterMap Event.creates) s.connections

section Runs

variable {lib : Externals} {s s' : Server} {history : List Event} {event : Event}

/-- The loop leaves the connections as they are. -/
theorem connections_afterCallback (threw : Bool) : (afterCallback threw s).connections = s.connections := by
  rw [afterCallback]
  split <;> rfl

/-- Each event leaves the connections separate. -/
theorem Separate.step (h : Separate lib history s) (hstep : LoopStep lib s event s') :
    Separate lib (event :: history) s' := by
  have hnone (hcreates : event.creates = none) : event.creates.toList = [] := by rw [hcreates]; rfl
  have hcreated : ((event :: history).reverse.filterMap Event.creates) =
      history.reverse.filterMap Event.creates ++ event.creates.toList := by
    rw [List.reverse_cons, List.filterMap_append]
    cases hcreates : event.creates <;> simp [hcreates]
  rw [Separate, hcreated]
  cases hstep with
  | @accepted segments parsed _ _ =>
    rw [connections_afterCallback]
    have hhandled : (handleAccept parsed (.accepted segments)).handled = [] :=
      Interrupted.handled_eq ⟨segments, .inr (.inr ⟨parsed, rfl⟩)⟩
    exact List.rel_append h (.cons (.unhandled hhandled fun _ => .refl) .nil)
  | acceptThrew _ _ hinterrupted =>
    rw [connections_afterCallback]
    exact List.rel_append h (.cons (.unhandled hinterrupted.handled_eq fun _ => .refl) .nil)
  | acceptFailed _ _ =>
    rw [connections_afterCallback, hnone rfl, List.append_nil]
    exact h
  | connection _ hconnections hmoves =>
    rw [connections_afterCallback, hnone rfl, List.append_nil]
    rw [Separate, hconnections] at h
    exact forall₂_update (fun _ hprivate => hprivate.step hmoves) h
  | returned _ =>
    rw [hnone rfl, List.append_nil]
    exact h

end Runs

/-- In every state of every run of the server, the connections stand, one for one and in the order they
were accepted in, in states of runs of their own, with the effects of such a run. -/
theorem connections_separate (lib : Externals) (before after : List (Event × Server))
    (entry : Event × Server) (h : Trail (LoopStep lib) .started (before ++ entry :: after)) :
    List.Forall₂ (Alone lib) (((before ++ [entry]).map Prod.fst).filterMap Event.creates)
      entry.2.connections := by
  have hstarted : Separate lib [] .started := .nil
  have htold := h.told (fun _ _ _ _ hseparate hstep => hseparate.step hstep) hstarted rfl
  rw [Separate, List.append_nil, List.reverse_cons, List.reverse_reverse, ← List.map_singleton,
    ← List.map_append] at htold
  exact htold.imp fun _ _ hprivate => hprivate.alone

/-- A connection to which a method is sent, before and after it has received it. -/
def optionsConnection : Connection := handleAccept false (.accepted [str "OPTIONS "])

def optionsReceived : Connection := { optionsConnection with request := str "OPTIONS ", socket := [] }

/-- Another connection is accepted after it. -/
def acceptedTwo : List (Event × Server) :=
  [(.accepted [str "OPTIONS "] false, ⟨1, [optionsConnection], false⟩),
    (.accepted [] false, ⟨1, [optionsConnection, handleAccept false (.accepted [])], false⟩)]

/-- The first connection receives its method when both are there. -/
theorem connections_separate_sample : Alone sampleExternals optionsConnection optionsReceived := by
  have hreceives : Step (handlerAnswer sampleExternals sampleWorld) optionsConnection optionsReceived :=
    .receive rfl (by decide) rfl
  have htrail : Trail (LoopStep sampleExternals) .started (acceptedTwo ++
      [(.connection sampleWorld optionsConnection optionsReceived false,
        afterCallback (false || handlerThrew sampleExternals sampleWorld optionsConnection optionsReceived)
          ⟨1, [optionsReceived, handleAccept false (.accepted [])], false⟩)]) :=
    .cons (.accepted rfl (by decide)) (.cons (.accepted rfl (by decide))
      (.cons (.connection rfl (show _ = [] ++ optionsConnection :: _ from rfl) hreceives) (.nil _)))
  have hseparate := connections_separate sampleExternals acceptedTwo [] _ htrail
  rw [connections_afterCallback] at hseparate
  cases hseparate with
  | cons hfirst _ => exact hfirst

end XrpcServer.Http
