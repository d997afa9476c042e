import XrpcServer.Http.AcceptLoop
import XrpcServer.Handler.Undisturbed

/-!
# The server on a node that others change

One thread serves all connections, but other threads may change the node while a handler runs, between
any two of its questions. The states such a server gets to are those of a server whose handlers are run
at one go, each of them against a world of its own.
-/

namespace XrpcServer.Http

open XrpcServer.Text XrpcServer.Stream XrpcServer.Handler XrpcServer.Interaction

/-- A handler may answer this to a string, whatever it is replied; nothing when an exception leaves it. -/
def MayAnswer (lib : Externals) (input : Bytes) (answered : Option Bytes) : Prop :=
  ∃ events result final, (serve lib input (HandlerState.initial lib)).Yields events (result, final) ∧
    MemoryAgrees events ∧ answered = result.toOption

/-- An event of the server, during which others may change the node. -/
inductive DisturbedStep (lib : Externals) : Server → Server → Prop
  | accepted {s : Server} {segments : List Bytes} {parsed : Bool} (hrunning : s.stopped = false)
    (harmed : 0 < s.accepts) :
    DisturbedStep lib s (afterCallback false (acceptCompleted segments parsed s))
  | acceptThrew {s : Server} {c : Connection} (hrunning : s.stopped = false) (harmed : 0 < s.accepts)
    (hinterrupted : Interrupted c) : DisturbedStep lib s (afterCallback true (acceptInterrupted c s))
  | acceptFailed {s : Server} (hrunning : s.stopped = false) (harmed : 0 < s.accepts) :
    DisturbedStep lib s (afterCallback false (acceptFailed s))
  | connection {s : Server} {before after : List Connection} {answer : Bytes → Option Bytes}
    {c c' : Connection} {fails : Bool} (hrunning : s.stopped = false)
    (hconnections : s.connections = before ++ c :: after) (hanswer : MayAnswer lib c.request (answer c.request))
    (hstep : Step answer c c') :
    DisturbedStep lib s
      (afterCallback (fails || (decide (c'.handled ≠ c.handled) && (answer c.request).isNone))
        { s with connections := before ++ c' :: after })
  | returned {s : Server} (hstopped : s.stopped = true) : DisturbedStep lib s (doAccept s)

section Steps

variable {lib : Externals} {answer answer' : Bytes → Option Bytes} {c c' : Connection} {s s' : Server}

/-- A handler that was disturbed has answered what it would answer to one world. -/
theorem MayAnswer.exists_world {input : Bytes} {answered : Option Bytes} (h : MayAnswer lib input answered) :
    ∃ w, handlerAnswer lib w input = answered := by
  obtain ⟨events, result, final, hyields, hmemory, rfl⟩ := h
  obtain ⟨last, hrun⟩ := run_replying lib input sampleWorld hyields hmemory
  exact ⟨_, by rw [handlerAnswer, hrun]⟩

/-- Only the answer to what is in the buffer matters to an event. -/
theorem Step.congr (hsame : answer' c.request = answer c.request) (h : Step answer c c') : Step answer' c c' := by
  cases h with
  | receive hreading hwaits hsocket => exact .receive hreading hwaits hsocket
  | @readDone stage n hreading hfound =>
    have hcompleted : readCompleted answer n stage { c with reading := none } =
        readCompleted answer' n stage { c with reading := none } := by
      cases stage with
      | method => rfl
      | head => rfl
      | body =>
        simp only [readCompleted, bodyRead, hsame]
    rw [hcompleted]
    exact .readDone hreading hfound
  | readFailed hreading hwaits hsocket => exact .readFailed hreading hwaits hsocket
  | writeDone hwriting => exact .writeDone hwriting

/-- Each event of the disturbed server is one of the other server. -/
theorem DisturbedStep.exists_loopStep (h : DisturbedStep lib s s') : ∃ event, LoopStep lib s event s' := by
  cases h with
  | accepted hrunning harmed => exact ⟨_, .accepted hrunning harmed⟩
  | acceptThrew hrunning harmed hinterrupted => exact ⟨_, .acceptThrew hrunning harmed hinterrupted⟩
  | acceptFailed hrunning harmed => exact ⟨_, .acceptFailed hrunning harmed⟩
  | @connection before after answer c c' fails hrunning hconnections hanswer hstep =>
    obtain ⟨w, hworld⟩ := hanswer.exists_world
    have hthrew : handlerThrew lib w c c' = (decide (c'.handled ≠ c.handled) && (answer c.request).isNone) := by
      rw [handlerThrew, hworld]
    rw [← hthrew]
    exact ⟨.connection w c c' fails, .connection hrunning hconnections (hstep.congr hworld)⟩
  | returned hstopped => exact ⟨_, .returned hstopped⟩

end Steps

/-- Whatever others do to the node, a run of the server passes through the states of a run in which every
handler meets one world. -/
theorem disturbed_refines (lib : Externals) {trail : List (Unit × Server)} {s : Server}
    (h : Trail (fun s _ s' => DisturbedStep lib s s') s trail) :
    ∃ trail', Trail (LoopStep lib) s trail' ∧ trail'.map Prod.snd = trail.map Prod.snd := by
  induction h with
  | nil s => exact ⟨[], .nil s, rfl⟩
  | cons hstep _ ih =>
    obtain ⟨event, hloop⟩ := hstep.exists_loopStep
    obtain ⟨trail', htrail, hstates⟩ := ih
    exact ⟨(event, _) :: trail', .cons hloop htrail, by simp [hstates]⟩

/-- A connection whose body has come. -/
def bodyConnection : Connection := { Connection.accepted [] with request := str "\x7d", reading := some .body }

/-- Its handler looks an account up while others change the node. -/
theorem disturbed_refines_sample : ∃ answered trail', MayAnswer infoExternals bodyConnection.request answered ∧
    Trail (LoopStep infoExternals) ⟨1, [bodyConnection], false⟩ trail' ∧ trail'.length = 1 := by
  obtain ⟨events, result, final, hyields, hmemory, -⟩ := info_disturbed
  have hanswer : MayAnswer infoExternals bodyConnection.request result.toOption :=
    ⟨events, result, final, hyields, hmemory, rfl⟩
  have hstep : Step (fun _ => result.toOption) bodyConnection _ := .readDone rfl (show _ = some 1 by decide)
  have hdisturbed := @DisturbedStep.connection infoExternals ⟨1, [bodyConnection], false⟩ [] [] _ _ _ false
    rfl rfl hanswer hstep
  have htrail : Trail (fun s (_ : Unit) s' => DisturbedStep infoExternals s s') _ [((), _)] :=
    .cons hdisturbed (.nil _)
  obtain ⟨trail', hrun, hstates⟩ := disturbed_refines infoExternals htrail
  have hlength := congrArg List.length hstates
  rw [List.length_map, List.length_map] at hlength
  exact ⟨_, trail', hanswer, hrun, hlength⟩

end XrpcServer.Http
