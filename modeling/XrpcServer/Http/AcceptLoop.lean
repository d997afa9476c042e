import XrpcServer.Http.OneResponse
import XrpcServer.Interaction.Trail

/-!
# The accept loop

`xrpc_server::run` arms one accept and enters `io_service.run()`, again and again. The accept is
armed once more by its own completion handler, unless it failed, and by the loop, whenever
`io_service.run()` returns or throws. The states are those in which `io_service.run()` has been
entered; one callback leads from one to the next.

An `io_service` stops once no operation is outstanding, is never reset, and runs no callback
after that. An exception leaves the other operations outstanding.
-/

namespace XrpcServer.Http

open XrpcServer.Text XrpcServer.Chain XrpcServer.Handler XrpcServer.Interaction

/-- Operations outstanding on a connection. -/
def Connection.outstanding (c : Connection) : ℕ := (if c.reading.isSome then 1 else 0) + c.writing

/-- The members of `xrpc_server`, with what is outstanding on its `io_service`. -/
structure Server where
  /-- Outstanding `async_accept` operations. -/
  accepts : ℕ
  connections : List Connection
  /-- `m_io_service` is stopped. -/
  stopped : Bool

/-- Operations outstanding on the connections. -/
def Server.pending (s : Server) : ℕ := (s.connections.map Connection.outstanding).sum

/-- `xrpc_server::do_accept`. -/
def doAccept (s : Server) : Server := { s with accepts := s.accepts + 1 }

/-- `xrpc_connection::handle_accept`, given the value that `parse_method` does not return. -/
def handleAccept (parsed : Bool) : Connection → Connection := doRead parsed

/-- The completion handler of `async_accept` without an error. -/
def acceptCompleted (segments : List Bytes) (parsed : Bool) (s : Server) : Server :=
  doAccept { s with
    accepts := s.accepts - 1
    connections := s.connections ++ [handleAccept parsed (.accepted segments)] }

/-- The completion handler of `async_accept` up to an exception, which leaves this connection. -/
def acceptInterrupted (c : Connection) (s : Server) : Server :=
  { s with accepts := s.accepts - 1, connections := s.connections ++ [c] }

/-- The completion handler of `async_accept` with an error, which is only logged. -/
def acceptFailed (s : Server) : Server := { s with accepts := s.accepts - 1 }

/-- `io_service.run()` after a callback: without outstanding operations it stops. -/
def settle (s : Server) : Server := { s with stopped := s.stopped || decide (s.accepts + s.pending = 0) }

/-- After a callback `io_service.run()` goes on, unless it throws or returns; then
`xrpc_server::run` arms an accept and enters it again. -/
def afterCallback (threw : Bool) (s : Server) : Server :=
  if threw || (settle s).stopped then doAccept (settle s) else settle s

/-- `xrpc_server::run` has armed its first accept and entered `io_service.run()`. -/
def Server.started : Server := doAccept ⟨0, [], false⟩

/-- A new connection after some of the statements of `handle_accept`. -/
def Interrupted (c : Connection) : Prop :=
  ∃ segments, c = .accepted segments ∨ c = parseMethod (.accepted segments) ∨
    ∃ parsed, c = handleAccept parsed (.accepted segments)

/-- The completion handler has run the request handler, and an exception has left it. -/
def handlerThrew (lib : Externals) (w : World) (c c' : Connection) : Bool :=
  decide (c'.handled ≠ c.handled) && (handlerAnswer lib w c.request).isNone

/-- What happens in a state. -/
inductive Event where
  | accepted (segments : List Bytes) (parsed : Bool)
  /-- An exception leaves the completion handler of a successful accept. -/
  | acceptThrew (c : Connection)
  | acceptFailed
  /-- A connection moves on; its callback may fail for a reason of its own. -/
  | connection (w : World) (c c' : Connection) (fails : Bool)
  /-- `io_service.run()` returns because it is stopped. -/
  | returned

/-- One event, up to the next state in which `io_service.run()` has been entered. -/
inductive LoopStep (lib : Externals) : Server → Event → Server → Prop
  | accepted {s : Server} {segments : List Bytes} {parsed : Bool} (hrunning : s.stopped = false)
    (harmed : 0 < s.accepts) :
    LoopStep lib s (.accepted segments parsed) (afterCallback false (acceptCompleted segments parsed s))
  | acceptThrew {s : Server} {c : Connection} (hrunning : s.stopped = false) (harmed : 0 < s.accepts)
    (hinterrupted : Interrupted c) :
    LoopStep lib s (.acceptThrew c) (afterCallback true (acceptInterrupted c s))
  | acceptFailed {s : Server} (hrunning : s.stopped = false) (harmed : 0 < s.accepts) :
    LoopStep lib s .acceptFailed (afterCallback false (acceptFailed s))
  | connection {s : Server} {before after : List Connection} {w : World} {c c' : Connection} {fails : Bool}
    (hrunning : s.stopped = false) (hconnections : s.connections = before ++ c :: after)
    (hstep : Step (handlerAnswer lib w) c c') :
    LoopStep lib s (.connection w c c' fails)
      (afterCallback (fails || handlerThrew lib w c c') { s with connections := before ++ c' :: after })
  | returned {s : Server} (hstopped : s.stopped = true) : LoopStep lib s .returned (doAccept s)

/-- One accept is outstanding, and the `io_service` runs. -/
def Armed (s : Server) : Prop := s.accepts = 1 ∧ s.stopped = false

/-- No accept fails, an exception between two accepts leaves something outstanding, and no
callback of a connection throws: the requests handled can be answered. -/
def Harmless (lib : Externals) (s : Server) : Event → Prop
  | .accepted _ _ => True
  | .acceptThrew c => 0 < s.pending + c.outstanding
  | .acceptFailed => False
  | .connection w c c' fails =>
    fails = false ∧ (c'.handled ≠ c.handled → Answerable lib w (lib.parse c.request).2 lib.freshTransaction)
  | .returned => False

section Steps

variable {lib : Externals} {s : Server}

/-- A callback that returns has to leave one accept. -/
theorem armed_afterCallback_false : Armed (afterCallback false s) ↔ Armed s := by
  cases hsettled : (settle s).stopped with
  | true =>
    have hstopped : s.accepts = 1 → s.stopped = true := by
      intro haccepts
      simpa [settle, haccepts] using hsettled
    simpa [afterCallback, doAccept, Armed, hsettled] using hstopped
  | false =>
    have hrunning : s.stopped = false := (Bool.or_eq_false_iff.mp hsettled).1
    have haccepts : (settle s).accepts = s.accepts := rfl
    simp [afterCallback, Armed, hsettled, hrunning, haccepts]

/-- A callback that throws has to leave something outstanding, but no accept. -/
theorem armed_afterCallback_true :
    Armed (afterCallback true s) ↔ s.stopped = false ∧ s.accepts = 0 ∧ 0 < s.pending := by
  have hafter : afterCallback true s = doAccept (settle s) := rfl
  rw [hafter, Armed, doAccept, settle, Bool.or_eq_false_iff, decide_eq_false_iff_not]
  constructor
  · intro harmed
    obtain ⟨haccepts, hrunning, hwork⟩ := harmed
    have hnone : s.accepts = 0 := Nat.succ.inj haccepts
    exact ⟨hrunning, hnone, by omega⟩
  · intro hleft
    obtain ⟨hrunning, hnone, hpending⟩ := hleft
    exact ⟨congrArg Nat.succ hnone, hrunning, by omega⟩

/-- A request handler that is run throws on the requests that cannot be answered. -/
theorem handlerThrew_eq_false_iff {w : World} {c c' : Connection} : handlerThrew lib w c c' = false ↔
    (c'.handled ≠ c.handled → Answerable lib w (lib.parse c.request).2 lib.freshTransaction) := by
  rw [← handlerAnswer_eq_some_iff, ← Option.isSome_iff_exists, handlerThrew]
  cases handlerAnswer lib w c.request <;> simp

/-- An armed server stays armed exactly in the harmless steps. -/
theorem LoopStep.armed_iff {s' : Server} {event : Event} (hs : Armed s) (h : LoopStep lib s event s') :
    Armed s' ↔ Harmless lib s event := by
  obtain ⟨haccepts, hstopped⟩ := hs
  cases h with
  | accepted _ _ =>
    rw [armed_afterCallback_false]
    simp [Armed, acceptCompleted, doAccept, Harmless, haccepts, hstopped]
  | acceptThrew _ _ _ =>
    rw [armed_afterCallback_true]
    simp [acceptInterrupted, Server.pending, Harmless, haccepts, hstopped]
  | acceptFailed _ _ =>
    rw [armed_afterCallback_false]
    simp [Armed, Http.acceptFailed, Harmless, haccepts]
  | @connection before after w c c' fails _ hconnections hstep =>
    rw [Harmless, ← handlerThrew_eq_false_iff, ← Bool.or_eq_false_iff]
    cases fails || handlerThrew lib w c c' with
    | true =>
      rw [armed_afterCallback_true]
      simp [haccepts]
    | false =>
      rw [armed_afterCallback_false]
      simp [Armed, haccepts, hstopped]
  | returned hreturned =>
    rw [hreturned] at hstopped
    cases hstopped

end Steps

/-- Every state of the trail is armed, the first one included. -/
def AlwaysArmed (trail : List (Event × Server)) : Prop :=
  Armed .started ∧ ∀ entry ∈ trail, Armed entry.2

/-- One accept is outstanding throughout a run exactly when each of its events is harmless. -/
theorem alwaysArmed_iff (lib : Externals) (trail : List (Event × Server))
    (h : Trail (LoopStep lib) .started trail) :
    AlwaysArmed trail ↔ EachStep (Harmless lib) .started trail := by
  have hstarted : Armed .started := ⟨rfl, rfl⟩
  rw [AlwaysArmed, and_iff_right hstarted]
  exact h.always_iff (fun s event s' hs hstep => hstep.armed_iff hs) hstarted

section Sample

/-- A connection whose request is answered. -/
def acceptedTrail : List (Event × Server) :=
  [(.accepted [] false, ⟨1, [handleAccept false (.accepted [])], false⟩)]

/-- A run that accepts one connection. -/
theorem alwaysArmed_iff_sample : AlwaysArmed acceptedTrail ↔
    EachStep (Harmless sampleExternals) .started acceptedTrail :=
  alwaysArmed_iff sampleExternals acceptedTrail (.cons (.accepted rfl (by decide)) (.nil _))

/-- The first accept fails. -/
def failedTrail : List (Event × Server) := [(.acceptFailed, ⟨1, [], true⟩), (.returned, ⟨2, [], true⟩)]

/-- The loop arms accepts that will never complete. -/
theorem failedTrail_not_armed : Trail (LoopStep sampleExternals) .started failedTrail ∧
    ¬AlwaysArmed failedTrail := by
  refine ⟨.cons (.acceptFailed rfl (by decide)) (.cons (.returned rfl) (.nil _)), ?_⟩
  intro harmed
  have hstopped := (harmed.2 (.acceptFailed, ⟨1, [], true⟩) (by simp [failedTrail])).2
  cases hstopped

end Sample

end XrpcServer.Http
