import XrpcServer.Grpc.Draining
import XrpcServer.Interaction.Hosting

/-!
# The asynchronous calls on a node

The handlers of all threads ask one node, which others change as well. Each operation of a handler is
one step, answered in the state the node has then. To the node it makes no difference by which thread,
in which call of `Proceed` and for which object a handler runs: the threads are a host of handlers, each
of them started from a request that has come in.
-/

namespace XrpcServer.Grpc

open XrpcServer.Text XrpcServer.Interaction XrpcServer.Handler

/-- The threads, and the node their handlers ask. -/
structure OnNode (Node : Type) (Thread : Type*) where
  node : Node
  system : System Thread

/-- The handler a call of `Proceed` has not returned from. -/
def Frame.running : Frame → Option Handling
  | .handle _ handling _ => some handling
  | _ => none

/-- The operation performed in the step. -/
def Frame.asks (frame : Frame) : Option Op := frame.running.bind Program.awaits

section Steps

variable {Node : Type} {Thread : Type*} [DecidableEq Thread] (lib : Externals)
  (commits : Commits Op Reply Node) (environment : Node → Node → Prop) (spawnable : Handling → Prop)

/-- What is asked, the node replies; where nothing is asked, it stays as it is. -/
def Replies (answer : (op : Op) → Reply op) (c c' : Node) : Option Op → Prop
  | some op => commits c op (answer op) c'
  | none => c' = c

/-- A step of a thread, of the runtime, or of others on the node. -/
inductive NodeStep : OnNode Node Thread → OnNode Node Thread → Prop
  | begins {c : Node} {s : System Thread} {t : Thread} (hnew : (s.workers t).begun = false) :
    NodeStep ⟨c, s⟩ ⟨c, s.moved t ⟨true, true, [.proceed s.shared.allocated]⟩ s.shared.allocate⟩
  | proceeds {c c' : Node} {s : System Thread} {t : Thread} {begun owes : Bool} {frame : Frame}
    {frames rest : List Frame} {sh : Shared} (answer : (op : Op) → Reply op)
    (now : UInt64) (hworker : s.workers t = ⟨begun, owes, frame :: rest⟩)
    (hadvance : frame.advance lib answer now s.shared = some (frames, sh))
    (hreplies : Replies commits answer c c' frame.asks) :
    NodeStep ⟨c, s⟩ ⟨c', s.moved t ⟨begun, owes && !frame.registers, frames ++ rest⟩ sh⟩
  | takes {c : Node} {s : System Thread} {t : Thread} {owes : Bool} {op : Operation}
    {queue : Multiset Operation} (hworker : s.workers t = ⟨true, owes, []⟩)
    (hcompleted : op.completed = true) (hqueue : s.shared.queue = op ::ₘ queue) :
    NodeStep ⟨c, s⟩
      ⟨c, s.moved t ⟨true, owes || op.isRegistration, [.proceed op.tag]⟩ (s.shared.leave queue)⟩
  | fails {c : Node} {s : System Thread} {t : Thread} {owes : Bool} {p : ℕ} {queue : Multiset Operation}
    (hworker : s.workers t = ⟨true, owes, []⟩) (hqueue : s.shared.queue = .finish p ::ₘ queue) :
    NodeStep ⟨c, s⟩ ⟨c, s.moved t ⟨true, owes, [.aborted p]⟩ (s.shared.leave queue)⟩
  /-- A request of the kind under consideration comes in. -/
  | arrives {c : Node} {s : System Thread} {p : ℕ} {queue : Multiset Operation} (request : Bytes)
    (hspawnable : spawnable (serve lib request (HandlerState.initial lib)))
    (hqueue : s.shared.queue = .registration p ::ₘ queue) :
    NodeStep ⟨c, s⟩ ⟨c, ⟨s.shared.arrive p request queue, s.workers⟩⟩
  | interferes {c c' : Node} {s : System Thread} (henv : environment c c') : NodeStep ⟨c, s⟩ ⟨c', s⟩

variable {lib commits environment spawnable} {s s' : OnNode Node Thread}

variable (lib spawnable) in
/-- The threads have come here by steps of theirs, and the requests in the objects are of the kind under
consideration. -/
structure OnNode.Admitted (s : OnNode Node Thread) : Prop where
  reachable : Reachable lib s.system
  requests : ∀ p, ∀ request ∈ (s.system.shared.objects p).received,
    spawnable (serve lib request (HandlerState.initial lib))

/-- Steps of the threads bring in no requests. -/
theorem OnNode.Admitted.thread {c c' : Node} {t t' : System Thread}
    (h : OnNode.Admitted lib spawnable ⟨c, t⟩) (hstep : ThreadStep lib t t') :
    OnNode.Admitted lib spawnable ⟨c', t'⟩ where
  reachable := h.reachable.tail (step_iff.mpr (.inl hstep))
  requests p request hrequest := by
    rcases hstep.received.2 p with hkept | ⟨-, hnew⟩
    · exact h.requests p request (hkept ▸ hrequest)
    · rw [hnew] at hrequest
      exact absurd hrequest List.not_mem_nil

/-- And those that come in are of the kind. -/
theorem OnNode.Admitted.step (h : s.Admitted lib spawnable)
    (hstep : NodeStep lib commits environment spawnable s s') : s'.Admitted lib spawnable := by
  cases hstep with
  | begins hnew => exact h.thread (.begins hnew)
  | proceeds answer now hworker hadvance hreplies => exact h.thread (.proceeds answer now hworker hadvance)
  | takes hworker hcompleted hqueue => exact h.thread (.takes hworker hcompleted hqueue)
  | fails hworker hqueue => exact h.thread (.fails hworker hqueue)
  | @arrives c s p queue request hspawnable hqueue =>
    refine ⟨h.reachable.tail (.arrives request hqueue), fun r request' hrequest => ?_⟩
    by_cases hr : r = p
    · rw [hr, Shared.arrive_objects_self] at hrequest
      rcases List.mem_append.mp hrequest with hold | hnew
      · exact h.requests p request' hold
      · rwa [List.mem_singleton.mp hnew]
    · rw [Shared.arrive_objects_of_ne hr] at hrequest
      exact h.requests r request' hrequest
  | interferes henv => exact ⟨h.reachable, h.requests⟩

/-- The handlers in the calls of `Proceed` a thread is in. -/
def handlers (stack : List Frame) : Multiset Handling := stack.filterMap Frame.running

/-- The handlers of two stacks together. -/
theorem handlers_append (front back : List Frame) :
    handlers (front ++ back) = handlers front + handlers back := by
  rw [handlers, List.filterMap_append, ← Multiset.coe_add]
  rfl

/-- A call that runs no handler. -/
theorem handlers_of_none {frame : Frame} (h : frame.running = none) : handlers [frame] = 0 := by
  rw [handlers, List.filterMap_cons_none h]
  rfl

/-- A call that runs one. -/
theorem handlers_of_some {frame : Frame} {handling : Handling} (h : frame.running = some handling) :
    handlers [frame] = {handling} := by
  rw [handlers, List.filterMap_cons_some h]
  rfl

/-- A step of `Proceed` starts a handler, lets it ask, drops it, or has nothing to do with one. -/
theorem Frame.advance_hosts {answer : (op : Op) → Reply op} {now : UInt64} {frame : Frame}
    {frames : List Frame} {sh sh' : Shared} {c c' : Node}
    (hadvance : frame.advance lib answer now sh = some (frames, sh'))
    (hreplies : Replies commits answer c c' frame.asks)
    (hrequest : ∀ p, frame = .readRequest p →
      spawnable (serve lib (sh.objects p).request (HandlerState.initial lib))) (others : Multiset Handling) :
    Load.Step commits environment spawnable ⟨c, handlers [frame] + others⟩ ⟨c', handlers frames + others⟩ := by
  have hrests (hnone : frame.running = none) (hframes : handlers frames = 0) :
      Load.Step commits environment spawnable ⟨c, handlers [frame] + others⟩
        ⟨c', handlers frames + others⟩ := by
    rw [Frame.asks, hnone] at hreplies
    obtain rfl : c' = c := hreplies
    rw [handlers_of_none hnone, hframes]
    exact .rests _
  cases frame with
  | proceed p | testProcess p | assertFinish p =>
    rw [Frame.advance] at hadvance
    split_ifs at hadvance <;> cases hadvance <;> exact hrests rfl rfl
  | claim p | register p | spawn p | writeReply p rsp performed | markFinish p | postFinish p | release p
  | returning =>
    cases hadvance
    exact hrests rfl rfl
  | statistics p stage =>
    cases stage with
    | counting =>
      cases hadvance
      exact hrests rfl (by split <;> rfl)
    | reading | storing newTimestamp r =>
      cases hadvance
      exact hrests rfl rfl
    | dividing newTimestamp =>
      rw [Frame.advance] at hadvance
      split at hadvance <;> cases hadvance <;> exact hrests rfl rfl
  | trapped p | aborted p => cases hadvance
  | readRequest p =>
    cases hadvance
    obtain rfl : c' = c := hreplies
    rw [handlers_of_none rfl, handlers_of_some rfl, zero_add, Multiset.singleton_add]
    exact .starts _ (hrequest p rfl)
  | handle p handling performed =>
    cases handling with
    | call op next =>
      cases hadvance
      rw [handlers_of_some rfl, handlers_of_some rfl, Multiset.singleton_add, Multiset.singleton_add]
      exact .performs (answer op) hreplies
    | ret result =>
      obtain ⟨outcome, final⟩ := result
      obtain rfl : c' = c := hreplies
      cases outcome <;> cases hadvance
      rw [handlers_of_some rfl, handlers_of_none rfl, zero_add, Multiset.singleton_add]
      exact .drops _

end Steps

section Hosts

variable {Node : Type} {Thread : Type*} [Fintype Thread]

/-- The handlers of all threads. -/
def System.handlers (s : System Thread) : Multiset Handling := ∑ t, Grpc.handlers (s.workers t).stack

/-- Nothing runs before a thread has begun. -/
theorem System.handlers_initial : (System.initial Thread).handlers = 0 := Finset.sum_eq_zero fun _ _ => rfl

/-- What the threads run on the node. -/
def OnNode.load (s : OnNode Node Thread) : Load Op Reply Node (Except Exc Bytes × HandlerState) :=
  ⟨s.node, s.system.handlers⟩

variable [DecidableEq Thread]

/-- A thread that moves on leaves the handlers of the others as they are. -/
theorem System.handlers_moved (s : System Thread) (t : Thread) :
    ∃ others, s.handlers = Grpc.handlers (s.workers t).stack + others ∧
      ∀ w sh, (s.moved t w sh).handlers = Grpc.handlers w.stack + others := by
  refine ⟨∑ t' ∈ Finset.univ.erase t, Grpc.handlers (s.workers t').stack, ?_, fun w sh => ?_⟩
  · exact (Finset.add_sum_erase _ _ (Finset.mem_univ t)).symm
  · rw [System.handlers, ← Finset.add_sum_erase _ _ (Finset.mem_univ t), System.moved_self]
    congr 1
    apply Finset.sum_congr rfl
    intro t' ht'
    rw [System.moved_of_ne (Finset.ne_of_mem_erase ht')]

variable {lib : Externals} {commits : Commits Op Reply Node} {environment : Node → Node → Prop}
  {spawnable : Handling → Prop} {initial : Node → Prop} {s s' : OnNode Node Thread}

/-- Each step of the server is one a host may take. -/
theorem OnNode.Admitted.hosts (h : s.Admitted lib spawnable)
    (hstep : NodeStep lib commits environment spawnable s s') :
    Load.Step commits environment spawnable s.load s'.load := by
  have hfits := h.reachable.invariant.fits
  cases hstep with
  | @begins c s t hnew =>
    obtain ⟨others, hbefore, hafter⟩ := s.handlers_moved t
    have hstack : (s.workers t).stack = [] := (hfits t).new hnew
    rw [OnNode.load, OnNode.load, hbefore, hafter, hstack]
    exact .rests _
  | @proceeds c c' s t begun owes frame frames rest sh answer now hworker hadvance hreplies =>
    obtain ⟨others, hbefore, hafter⟩ := s.handlers_moved t
    have hstack : (s.workers t).stack = [frame] ++ rest := congrArg Worker.stack hworker
    rw [OnNode.load, OnNode.load, hbefore, hafter, hstack, handlers_append, handlers_append, add_assoc,
      add_assoc]
    apply Frame.advance_hosts hadvance hreplies
    rintro p rfl
    have hmem : Frame.readRequest p ∈ (s.workers t).stack := hstack ▸ List.mem_cons_self
    obtain ⟨-, hreceived, -⟩ := (hfits t).expects _ hmem p rfl
    exact h.requests p _ (hreceived ▸ List.mem_cons_self)
  | @takes c s t owes op queue hworker | @fails c s t owes p queue hworker =>
    obtain ⟨others, hbefore, hafter⟩ := s.handlers_moved t
    have hstack : (s.workers t).stack = [] := congrArg Worker.stack hworker
    rw [OnNode.load, OnNode.load, hbefore, hafter, hstack]
    exact .rests _
  | arrives request hspawnable hqueue => exact .rests _
  | interferes henv => exact .interferes henv

/-- Whatever the threads do, a pool goes along with them. -/
theorem nodeSteps_covered {c : Node} (hinitial : initial c)
    (h : Relation.ReflTransGen (NodeStep lib commits environment spawnable) ⟨c, .initial Thread⟩ s) :
    s.Admitted lib spawnable ∧ s.load.Covered commits environment spawnable initial := by
  have hcovered : (OnNode.load ⟨c, .initial Thread⟩).Covered commits environment spawnable initial := by
    rw [OnNode.load, System.handlers_initial]
    exact .start hinitial
  have hstart : OnNode.Admitted lib spawnable ⟨c, .initial Thread⟩ :=
    ⟨.refl, fun _ _ hrequest => absurd hrequest List.not_mem_nil⟩
  exact hcovered.run (fun _ _ hs hstep => hs.step hstep) (fun _ _ hs hstep => hs.hosts hstep) hstart h

/-- On a node that others change too, the threads do nothing they could not do if any reply might come,
and nothing to the node that a pool of handlers started from their requests could not do. -/
theorem threads_covered (lib : Externals) (commits : Commits Op Reply Node) (environment : Node → Node → Prop)
    (spawnable : Handling → Prop) (initial : Node → Prop) (c : Node) (s : OnNode Node Thread)
    (hinitial : initial c)
    (h : Relation.ReflTransGen (NodeStep lib commits environment spawnable) ⟨c, .initial Thread⟩ s) :
    Reachable lib s.system ∧ s.load.Covered commits environment spawnable initial := by
  obtain ⟨hadmitted, hcovered⟩ := nodeSteps_covered hinitial h
  exact ⟨hadmitted.reachable, hcovered⟩

end Hosts

section Sample

variable {Node : Type} {Thread : Type*} [DecidableEq Thread] {lib : Externals} {commits : Commits Op Reply Node}
  {environment : Node → Node → Prop} {spawnable : Handling → Prop}

/-- A thread may be scheduled alone while the node stays as it is. -/
theorem nodeSteps_alone {c : Node} {s s' : System Thread} (answer : (op : Op) → Reply op)
    (hanswers : ∀ op, commits c op (answer op) c) (now : UInt64) (t : Thread) (n : ℕ)
    (halone : s.alone lib answer now t n = some s') :
    Relation.ReflTransGen (NodeStep lib commits environment spawnable) ⟨c, s⟩ ⟨c, s'⟩ := by
  induction n generalizing s with
  | zero =>
    cases halone
    exact .refl
  | succ n ih =>
    rw [System.alone] at halone
    split at halone
    · cases halone
    · next begun owes frame rest hworker =>
      obtain ⟨next, hadvance, hrest⟩ := Option.bind_eq_some_iff.mp halone
      have hreplies : Replies commits answer c c frame.asks := by
        cases frame.asks with
        | none => rfl
        | some op => exact hanswers op
      exact .head (.proceeds answer now hworker hadvance hreplies) (ih hrest)

/-- A node that always gives the replies of the sample world. -/
def sampleCommits : Commits Op Reply Unit := fun _ op reply _ => reply = sampleWorld.answer op

/-- A thread has started its first handler. -/
theorem threads_covered_sample : ∃ s : OnNode Unit (Fin 6),
    handlers (s.system.workers 0).stack = {serve sampleExternals [] (HandlerState.initial sampleExternals)} ∧
      s.load.Covered sampleCommits (fun _ _ => True) (fun _ => True) (fun _ => True) := by
  have h : Relation.ReflTransGen (NodeStep sampleExternals sampleCommits (fun _ _ => True) fun _ => True)
      ⟨(), .initial (Fin 6)⟩ ⟨(), .initial (Fin 6)⟩ := .refl
  have h := h.tail (.begins (t := 0) rfl)
  have h := h.trans (nodeSteps_alone sampleWorld.answer (fun _ => rfl) 1 0 4 rfl)
  have h := h.tail (.arrives (p := 0) [] trivial (show _ = Operation.registration 0 ::ₘ 0 from rfl))
  have h := h.tail (.takes (t := 0) rfl rfl (show _ = Operation.arrived 0 ::ₘ 0 from rfl))
  have h := h.trans (nodeSteps_alone sampleWorld.answer (fun _ => rfl) 1 0 8 rfl)
  exact ⟨_, rfl, (threads_covered sampleExternals _ _ _ _ () _ trivial h).2⟩

end Sample

end XrpcServer.Grpc
