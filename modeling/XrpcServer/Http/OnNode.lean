import XrpcServer.Http.Interleaving
import XrpcServer.Http.Isolation
import XrpcServer.Interaction.Hosting

/-!
# The server on a node

The callback of a body read works through its handler while the rest of the server stands still, but
not the node: before each operation of the handler others may have changed it. So the server is at any
time a host of one handler at most, and seen from outside its callbacks it is a server whose handlers
are run at one go.
-/

namespace XrpcServer.Http

open XrpcServer.Text XrpcServer.Stream XrpcServer.Handler XrpcServer.Interaction

/-- The callback of a body read that has not returned: its connection among the others, the bytes
transferred, and how far its handler has come. -/
structure Callback where
  before : List Connection
  connection : Connection
  after : List Connection
  bytesTransferred : ℕ
  handling : Program Op Reply (Except Exc Bytes × HandlerState)
  /-- The operations of the handler so far. -/
  performed : List HandlerEvent

/-- The server, and the node its handlers ask. -/
structure OnNode (Node : Type) where
  node : Node
  server : Server
  callback : Option Callback

/-- The strings handlers were constructed from so far. -/
def Server.handled (s : Server) : List Bytes := s.connections.flatMap Connection.handled

/-- The connection once its handler has answered, or an exception has left it. -/
def Callback.answered (callback : Callback) (answer : Option Bytes) : Connection :=
  readCompleted (fun _ => answer) callback.bytesTransferred .body { callback.connection with reading := none }

section Steps

variable {Node : Type} (lib : Externals) (commits : Commits Op Reply Node) (environment : Node → Node → Prop)
  (spawnable : Program Op Reply (Except Exc Bytes × HandlerState) → Prop)

/-- An event of the server, an operation of the handler that runs, or a step of others on the node. -/
inductive NodeStep : OnNode Node → OnNode Node → Prop
  /-- An event in which no handler is run. -/
  | turns {c : Node} {s s' : Server} (event : Event) (hstep : LoopStep lib s event s')
    (hquiet : s'.handled = s.handled) : NodeStep ⟨c, s, none⟩ ⟨c, s', none⟩
  /-- A body read completes, and its callback constructs the handler. -/
  | calls {c : Node} {s : Server} {before after : List Connection} {connection : Connection} {n : ℕ}
    (hrunning : s.stopped = false) (hconnections : s.connections = before ++ connection :: after)
    (hreading : connection.reading = some .body)
    (hfound : firstEnd Reading.body.delimiter connection.request = some n)
    (hspawnable : spawnable (serve lib connection.request (HandlerState.initial lib))) :
    NodeStep ⟨c, s, none⟩
      ⟨c, s, some ⟨before, connection, after, n, serve lib connection.request (HandlerState.initial lib), []⟩⟩
  /-- The handler performs an operation; reads past the end of a string find the same bytes again. -/
  | asks {c c' : Node} {s : Server} {callback : Callback} {op : Op}
    {next : Reply op → Program Op Reply (Except Exc Bytes × HandlerState)} (reply : Reply op)
    (hhandling : callback.handling = .call op next) (hcommits : commits c op reply c')
    (hmemory : MemoryAgrees (callback.performed ++ [⟨op, reply⟩])) :
    NodeStep ⟨c, s, some callback⟩
      ⟨c', s, some { callback with handling := next reply, performed := callback.performed ++ [⟨op, reply⟩] }⟩
  /-- The callback returns, or an exception leaves it; it may fail for a reason of its own. -/
  | returns {c : Node} {s : Server} {callback : Callback} {result : Except Exc Bytes} {final : HandlerState}
    (fails : Bool) (hhandling : callback.handling = .ret (result, final)) :
    NodeStep ⟨c, s, some callback⟩
      ⟨c, afterCallback (fails || result.toOption.isNone)
        { s with connections := callback.before ++ callback.answered result.toOption :: callback.after }, none⟩
  | interferes {c c' : Node} {s : Server} {callback : Option Callback} (henv : environment c c') :
    NodeStep ⟨c, s, callback⟩ ⟨c', s, callback⟩

variable {lib commits environment spawnable} {initial : Node → Prop} {s s' : OnNode Node}

variable (lib) in
/-- The callback is one of the connection's, and its handler has come as far as its operations say. -/
structure Callback.Fits (callback : Callback) (s : Server) : Prop where
  running : s.stopped = false
  connections : s.connections = callback.before ++ callback.connection :: callback.after
  reading : callback.connection.reading = some .body
  found : firstEnd Reading.body.delimiter callback.connection.request = some callback.bytesTransferred
  memory : MemoryAgrees callback.performed
  yields : ∀ events result, callback.handling.Yields events result →
    (serve lib callback.connection.request (HandlerState.initial lib)).Yields
      (callback.performed ++ events) result

/-- What its handler has answered could have been answered at one go. -/
theorem Callback.Fits.mayAnswer {callback : Callback} {server : Server} (h : callback.Fits lib server)
    {result : Except Exc Bytes} {final : HandlerState} (hhandling : callback.handling = .ret (result, final)) :
    MayAnswer lib callback.connection.request result.toOption := by
  have hyields := h.yields [] (result, final) (hhandling ▸ .ret _)
  rw [List.append_nil] at hyields
  exact ⟨callback.performed, result, final, hyields, h.memory, rfl⟩

/-- When the callback returns, the server has taken the step of a server that runs its handler at one go. -/
theorem Callback.Fits.returned {callback : Callback} {server : Server} (h : callback.Fits lib server)
    {result : Except Exc Bytes} {final : HandlerState} (fails : Bool)
    (hhandling : callback.handling = .ret (result, final)) :
    ∃ event, LoopStep lib server event (afterCallback (fails || result.toOption.isNone)
      { server with connections := callback.before ++ callback.answered result.toOption :: callback.after }) := by
  obtain ⟨w, hworld⟩ := (h.mayAnswer hhandling).exists_world
  have hstep : Step (fun _ => result.toOption) callback.connection (callback.answered result.toOption) :=
    .readDone h.reading h.found
  have hhandled : (callback.answered result.toOption).handled ≠ callback.connection.handled := by
    have hread := (bodyRead_handled (fun _ => result.toOption) { callback.connection with reading := none }).1
    change (bodyRead _ _).handled ≠ _
    rw [hread]
    simp
  have hthrew : handlerThrew lib w callback.connection (callback.answered result.toOption) =
      result.toOption.isNone := by
    rw [handlerThrew, hworld, decide_eq_true hhandled, Bool.true_and]
  rw [← hthrew]
  exact ⟨_, .connection h.running h.connections (hstep.congr hworld)⟩

variable (lib) in
/-- The server has come here by events in which handlers are run at one go, and the callback that has not
returned is one of its connections'. -/
structure OnNode.Fits (s : OnNode Node) : Prop where
  reached : Relation.ReflTransGen (fun s s' => ∃ event, LoopStep lib s event s') .started s.server
  callback : ∀ callback, s.callback = some callback → callback.Fits lib s.server

/-- Each step leads to such a state. -/
theorem OnNode.Fits.step (h : s.Fits lib) (hstep : NodeStep lib commits environment spawnable s s') :
    s'.Fits lib := by
  cases hstep with
  | turns event hstep hquiet =>
    refine ⟨h.reached.tail ⟨event, hstep⟩, fun callback hcallback => ?_⟩
    cases hcallback
  | calls hrunning hconnections hreading hfound hspawnable =>
    refine ⟨h.reached, fun callback hcallback => ?_⟩
    cases hcallback
    have hmemory : MemoryAgrees [] := by
      rintro s i byte byte' ⟨_, _, hread, _⟩
      exact absurd hread List.not_mem_nil
    exact ⟨hrunning, hconnections, hreading, hfound, hmemory, fun _ _ hresult => hresult⟩
  | @asks c c' s callback op next reply hhandling hcommits hmemory =>
    refine ⟨h.reached, fun callback' hcallback => ?_⟩
    cases hcallback
    have hfits := h.callback callback rfl
    refine ⟨hfits.running, hfits.connections, hfits.reading, hfits.found, hmemory, fun events result hresult => ?_⟩
    rw [List.append_assoc]
    exact hfits.yields _ result (hhandling ▸ .call reply hresult)
  | returns fails hhandling =>
    refine ⟨h.reached.tail ((h.callback _ rfl).returned fails hhandling), fun callback hcallback => ?_⟩
    cases hcallback
  | interferes henv => exact ⟨h.reached, h.callback⟩

/-- The handler that runs, if there is one. -/
def OnNode.load (s : OnNode Node) : Load Op Reply Node (Except Exc Bytes × HandlerState) :=
  ⟨s.node, (s.callback.map Callback.handling).toList⟩

/-- A server in a callback runs one handler. -/
theorem OnNode.load_callback (c : Node) (server : Server) (callback : Callback) :
    OnNode.load ⟨c, server, some callback⟩ = ⟨c, callback.handling ::ₘ 0⟩ := rfl

/-- Each step of the server is one a host may take. -/
theorem NodeStep.hosts (hstep : NodeStep lib commits environment spawnable s s') :
    Load.Step commits environment spawnable s.load s'.load := by
  cases hstep with
  | turns event hstep hquiet => exact .rests _
  | calls hrunning hconnections hreading hfound hspawnable => exact .starts _ hspawnable
  | @asks c c' s callback op next reply hhandling hcommits hmemory =>
    rw [OnNode.load_callback, OnNode.load_callback, hhandling]
    exact .performs reply hcommits
  | @returns c s callback result final fails hhandling =>
    rw [OnNode.load_callback]
    exact .drops callback.handling
  | interferes henv => exact .interferes henv

/-- Whatever the server does, a pool goes along with it. -/
theorem nodeSteps_covered {c : Node} (hinitial : initial c)
    (h : Relation.ReflTransGen (NodeStep lib commits environment spawnable) ⟨c, .started, none⟩ s) :
    s.Fits lib ∧ s.load.Covered commits environment spawnable initial := by
  have hcovered : (OnNode.load ⟨c, .started, none⟩).Covered commits environment spawnable initial :=
    .start hinitial
  have hstart : OnNode.Fits lib (⟨c, .started, none⟩ : OnNode Node) := by
    refine ⟨.refl, fun callback hcallback => ?_⟩
    cases hcallback
  exact hcovered.run (fun _ _ hs hstep => hs.step hstep) (fun _ _ _ hstep => hstep.hosts) hstart h

/-- On a node that others change too, the server passes through the states of one whose handlers are run at
one go, each against a world of its own, and it does nothing to the node that a pool of handlers started
from its requests could not do. -/
theorem server_covered (lib : Externals) (commits : Commits Op Reply Node) (environment : Node → Node → Prop)
    (spawnable : Program Op Reply (Except Exc Bytes × HandlerState) → Prop) (initial : Node → Prop) (c : Node)
    (s : OnNode Node) (hinitial : initial c)
    (h : Relation.ReflTransGen (NodeStep lib commits environment spawnable) ⟨c, .started, none⟩ s) :
    Relation.ReflTransGen (fun s s' => ∃ event, LoopStep lib s event s') .started s.server ∧
      s.load.Covered commits environment spawnable initial := by
  obtain ⟨hfits, hcovered⟩ := nodeSteps_covered hinitial h
  exact ⟨hfits.reached, hcovered⟩

end Steps

section Sample

/-- A connection on which a request comes in at one go. -/
def postConnection : Connection := handleAccept false (.accepted [str "POST \r\n\r\n\x7d"])

/-- It has received the request, then read the method, then the head. -/
def postReceived : Connection := { postConnection with request := str "POST \r\n\r\n\x7d", socket := [] }

def methodDone : Connection := { postReceived with reading := some .head }

def headDone : Connection := { methodDone with request := str "\x7d", reading := some .body }

/-- A server with this one connection goes on after an event in which no handler is run. -/
theorem afterCallback_one (c : Connection) : afterCallback false ⟨1, [c], false⟩ = ⟨1, [c], false⟩ := by
  simp [afterCallback, settle, Server.pending]

/-- The events up to there, in which no handler is run. -/
theorem nodeSteps_headDone {Node : Type} (commits : Commits Op Reply Node) (environment : Node → Node → Prop)
    (spawnable : Program Op Reply (Except Exc Bytes × HandlerState) → Prop) (lib : Externals) (c : Node) :
    Relation.ReflTransGen (NodeStep lib commits environment spawnable) ⟨c, .started, none⟩
      ⟨c, ⟨1, [headDone], false⟩, none⟩ := by
  have hturns (before after : Connection) (hstep : Step (handlerAnswer lib sampleWorld) before after)
      (hhandled : after.handled = before.handled) : NodeStep lib commits environment spawnable
        ⟨c, ⟨1, [before], false⟩, none⟩ ⟨c, ⟨1, [after], false⟩, none⟩ := by
    have hthrew : handlerThrew lib sampleWorld before after = false := by simp [handlerThrew, hhandled]
    have hloop := @LoopStep.connection lib ⟨1, [before], false⟩ [] [] sampleWorld before after false rfl rfl hstep
    rw [hthrew] at hloop
    exact .turns _ (afterCallback_one after ▸ hloop) (by simp [Server.handled, hhandled])
  have haccepted : NodeStep lib commits environment spawnable ⟨c, .started, none⟩
      ⟨c, ⟨1, [postConnection], false⟩, none⟩ :=
    .turns (.accepted [str "POST \r\n\r\n\x7d"] false) (.accepted rfl (by decide)) rfl
  have hreceived := hturns postConnection postReceived (.receive rfl (by decide) rfl) rfl
  have hmethod := hturns postReceived methodDone (@Step.readDone _ postReceived .method 5 rfl (by decide)) rfl
  have hhead := hturns methodDone headDone (@Step.readDone _ methodDone .head 9 rfl (by decide)) rfl
  exact .tail (.tail (.tail (.single haccepted) hreceived) hmethod) hhead

/-- The handler has asked its first question. -/
theorem server_covered_sample : ∃ s : OnNode Unit, (∃ callback, s.callback = some callback ∧
    callback.performed.map (fun e => e.1.kind) = [.getAccountSnapInfo]) ∧
    s.load.Covered (fun _ op reply _ => reply = sampleWorld.answer op) (fun _ _ => True) (fun _ => True)
      fun _ => True := by
  have h := nodeSteps_headDone (fun _ op reply _ => reply = sampleWorld.answer op) (fun _ _ => True)
    (fun _ => True) infoExternals ()
  have h := h.tail (.calls rfl (show _ = [] ++ headDone :: [] from rfl) rfl (show _ = some 1 by decide) trivial)
  have h := h.tail (@NodeStep.asks Unit infoExternals _ _ _ () () _ _ _ _
    (sampleWorld.answer (.getAccountSnapInfo (str "T-alice"))) rfl rfl (memoryAgrees_of_kinds rfl (by decide)))
  exact ⟨_, ⟨_, rfl, rfl⟩, (server_covered infoExternals _ _ _ _ () _ trivial h).2⟩

end Sample

end XrpcServer.Http
