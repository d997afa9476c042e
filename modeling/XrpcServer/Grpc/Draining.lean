import XrpcServer.Grpc.Lifetime
import XrpcServer.Interaction.Draining
import Mathlib.Tactic.Abel

/-!
# Every request is answered

While no request comes in, the threads cannot go on forever, however they are scheduled and whatever
the handlers are told: each step leaves its call of `Proceed`, or the event it takes, with less to do.
Where no thread can go on, the process has been terminated, by an exception of a handler, a trap in the
statistics or a reply that did not go out, or every request that came in has got its reply, and each
thread waits with one registration up.
-/

namespace XrpcServer.Grpc

open XrpcServer.Text XrpcServer.Interaction XrpcServer.Handler

/-- A handler that has nothing left to do. -/
def idle (lib : Externals) : Handling := .ret (.ok [], HandlerState.initial lib)

/-- What a call of `Proceed` has left to do, with all it may hand over. -/
def Frame.rank (objects : ℕ → CallData) : Frame → ℕ
  | .proceed p =>
    match (objects p).status with
    | .create => 4
    | .process => 24
    | .finish => 10
  | .claim _ => 3
  | .register _ => 2
  | .testProcess p => if (objects p).status = .process then 23 else 9
  | .spawn _ => 22
  | .readRequest _ => 21
  | .handle _ _ _ => 20
  | .writeReply _ _ _ => 19
  | .statistics _ .counting => 18
  | .statistics _ .reading => 17
  | .statistics _ (.dividing _) => 16
  | .statistics _ (.storing _ _) => 15
  | .markFinish _ => 14
  | .postFinish _ => 13
  | .assertFinish _ => 8
  | .release _ => 7
  | .returning | .trapped _ | .aborted _ => 1

/-- The handler a call of `Proceed` is in. -/
def Frame.handling (lib : Externals) : Frame → Handling
  | .handle _ handling _ => handling
  | _ => idle lib

/-- What a call of `Proceed` has left to do. -/
def Frame.task (lib : Externals) (objects : ℕ → CallData) (frame : Frame) :
    Task Op Reply (Except Exc Bytes × HandlerState) := (frame.rank objects, frame.handling lib)

/-- What the event of an operation has left to do; a registration waits for a request. -/
def Operation.tasks (lib : Externals) : Operation → Multiset (Task Op Reply (Except Exc Bytes × HandlerState))
  | .registration _ => 0
  | .arrived _ => {(25, idle lib)}
  | .finish _ => {(12, idle lib)}

/-- What a thread has left to do. -/
def Worker.tasks (lib : Externals) (objects : ℕ → CallData) (w : Worker) :
    Multiset (Task Op Reply (Except Exc Bytes × HandlerState)) :=
  (if w.begun then 0 else {(5, idle lib)}) + (w.stack.map (Frame.task lib objects) : Multiset _)

section Tasks

variable {lib : Externals} {objects objects' : ℕ → CallData}

/-- A call of `Proceed` depends on the object it holds. -/
theorem Frame.task_congr {frame : Frame} (h : ∀ p, frame.holds = some p → objects' p = objects p) :
    frame.task lib objects' = frame.task lib objects := by
  cases frame with
  | proceed p | testProcess p => simp only [Frame.task, Frame.rank, h p rfl, Frame.handling]
  | statistics p stage => cases stage <;> rfl
  | _ => rfl

/-- What a thread has left to do depends on the objects it holds. -/
theorem Worker.tasks_congr {w : Worker} (h : ∀ p, 0 < held w.stack p → objects' p = objects p) :
    w.tasks lib objects' = w.tasks lib objects := by
  have hstack : w.stack.map (Frame.task lib objects') = w.stack.map (Frame.task lib objects) := by
    apply List.map_congr_left
    intro frame hmem
    exact Frame.task_congr fun p hp => h p (held_pos hmem hp)
  rw [Worker.tasks, Worker.tasks, hstack]

/-- What a step of `Proceed` leaves to do: new calls and new events, each with less than it had. -/
def Frame.Leaves (lib : Externals) (sh : Shared) (frame : Frame) (frames : List Frame) (sh' : Shared) : Prop :=
  ∃ posted : Multiset Operation, sh'.queue = posted + sh.queue ∧
    (∀ op ∈ posted, ∀ task ∈ op.tasks lib, task.Before (frame.task lib sh.objects)) ∧
    ∀ next ∈ frames, (next.task lib sh'.objects).Before (frame.task lib sh.objects)

/-- Nothing is posted, and the calls that replace this one are of a lower rank. -/
theorem Frame.leaves_of_rank {sh sh' : Shared} {frame : Frame} {frames : List Frame}
    (hqueue : sh'.queue = sh.queue)
    (hranks : ∀ next ∈ frames, next.rank sh'.objects < frame.rank sh.objects) :
    frame.Leaves lib sh frames sh' := by
  refine ⟨0, by rw [hqueue, zero_add], ?_, ?_⟩
  · intro op hop
    cases Multiset.notMem_zero op hop
  · intro next hnext
    exact Task.before_of_rank (hranks next hnext)

/-- An operation is posted, and the call returns. -/
theorem Frame.leaves_of_post {sh sh' : Shared} {frame : Frame} {op : Operation}
    (hqueue : sh'.queue = op ::ₘ sh.queue) (hop : ∀ task ∈ op.tasks lib, task.1 < frame.rank sh.objects)
    (hreturns : 1 < frame.rank sh.objects) : frame.Leaves lib sh [.returning] sh' := by
  refine ⟨{op}, hqueue, ?_, ?_⟩
  · intro op' hop' task htask
    rw [Multiset.mem_singleton.mp hop'] at htask
    exact Task.before_of_rank (hop task htask)
  · intro next hnext
    rw [List.mem_singleton.mp hnext]
    exact Task.before_of_rank hreturns

/-- Every step of `Proceed` leaves less to do. -/
theorem Frame.advance_leaves {answer : (op : Op) → Reply op} {now : UInt64} {sh sh' : Shared} {frame : Frame}
    {frames : List Frame} (h : frame.advance lib answer now sh = some (frames, sh')) :
    frame.Leaves lib sh frames sh' := by
  cases frame with
  | proceed p =>
    rw [Frame.advance] at h
    split_ifs at h with hstatus <;> cases h
    · exact Frame.leaves_of_rank rfl (by simp [Frame.rank, hstatus])
    · apply Frame.leaves_of_rank rfl
      simp only [List.mem_singleton, forall_eq, Frame.rank]
      cases hcase : (sh.objects p).status
      · exact absurd hcase hstatus
      · simp
      · simp
  | testProcess p =>
    rw [Frame.advance] at h
    split_ifs at h with hstatus <;> cases h
    · exact Frame.leaves_of_rank rfl (by simp [Frame.rank, hstatus])
    · exact Frame.leaves_of_rank rfl (by simp [Frame.rank, hstatus])
  | claim p | readRequest p | writeReply p rsp performed | markFinish p | release p | returning =>
    cases h
    exact Frame.leaves_of_rank rfl (by simp [Frame.rank])
  | register p =>
    cases h
    exact Frame.leaves_of_post rfl (by simp [Operation.tasks]) (by simp [Frame.rank])
  | postFinish p =>
    cases h
    exact Frame.leaves_of_post rfl (by simp [Operation.tasks, Frame.rank]) (by simp [Frame.rank])
  | spawn p =>
    cases h
    exact Frame.leaves_of_rank rfl (by simp [Frame.rank, Shared.allocate_objects_self, CallData.constructed])
  | handle p handling performed =>
    cases handling with
    | call op next =>
      cases h
      refine ⟨0, (zero_add _).symm, fun op hop => absurd hop (Multiset.notMem_zero op), fun frame hframe => ?_⟩
      rw [List.mem_singleton.mp hframe]
      exact Task.before_of_continues rfl (.reply (answer op))
    | ret result =>
      obtain ⟨outcome, final⟩ := result
      cases outcome <;> cases h
      exact Frame.leaves_of_rank rfl (by simp [Frame.rank])
  | statistics p stage =>
    cases stage with
    | counting =>
      cases h
      apply Frame.leaves_of_rank rfl
      split <;> simp [Frame.rank]
    | reading | storing newTimestamp r =>
      cases h
      exact Frame.leaves_of_rank rfl (by simp [Frame.rank])
    | dividing newTimestamp =>
      rw [Frame.advance] at h
      split at h <;> cases h <;> exact Frame.leaves_of_rank rfl (by simp [Frame.rank])
  | trapped p | aborted p => cases h
  | assertFinish p =>
    rw [Frame.advance] at h
    split_ifs at h with hstatus
    cases h
    exact Frame.leaves_of_rank rfl (by simp [Frame.rank])

end Tasks

section Rest

variable {Thread : Type*} [Fintype Thread] {lib : Externals} {s : System Thread}

/-- A handler has thrown an exception that leaves the thread function. -/
def System.Raised (lib : Externals) (s : System Thread) : Prop :=
  ∃ t p e final performed rest, (s.workers t).stack = .handle p (.ret (.error e, final)) performed :: rest ∧
    ∃ request, (s.shared.objects p).received = [request] ∧
      (serve lib request (HandlerState.initial lib)).Yields performed (.error e, final)

/-- The division of the statistics has trapped after a handler had returned. -/
def System.Trapped (lib : Externals) (s : System Thread) : Prop :=
  ∃ t p rest, (s.workers t).stack = .trapped p :: rest ∧ ∃ request, (s.shared.objects p).received = [request] ∧
    Computes lib request (s.shared.objects p).performed (s.shared.objects p).reply

/-- A reply has not gone out, and the assertion on its event has failed. -/
def System.Aborted (lib : Externals) (s : System Thread) : Prop :=
  ∃ t p rest, (s.workers t).stack = .aborted p :: rest ∧ ∃ request, (s.shared.objects p).received = [request] ∧
    (s.shared.objects p).finished = [(s.shared.objects p).reply] ∧
      Computes lib request (s.shared.objects p).performed (s.shared.objects p).reply

/-- The process is terminated. -/
def System.Crashed (lib : Externals) (s : System Thread) : Prop := s.Raised lib ∨ s.Trapped lib ∨ s.Aborted lib

/-- Every thread waits, each request has its reply, and there is a registration for each thread. -/
structure Settled (lib : Externals) (s : System Thread) : Prop where
  waiting : ∀ t, s.workers t = ⟨true, false, []⟩
  registered : ∀ op ∈ s.shared.queue, ∃ p, op = .registration p
  registrations : s.shared.queue.card = Fintype.card Thread
  answered : ∀ p, p < s.shared.allocated →
    (s.shared.objects p).received = [] ∧ .registration p ∈ s.shared.queue ∨
    (s.shared.objects p).deletions = 1 ∧ ∃ request reply, (s.shared.objects p).received = [request] ∧
      (s.shared.objects p).finished = [reply] ∧ Computes lib request (s.shared.objects p).performed reply

/-- A thread that cannot take a step in `Proceed` has terminated the process. -/
theorem Invariant.crashed_of_stuck (hs : Invariant lib s) {t : Thread} {frame : Frame} {rest : List Frame}
    (hstack : (s.workers t).stack = frame :: rest) (answer : (op : Op) → Reply op)
    (now : UInt64) (hadvance : frame.advance lib answer now s.shared = none) : s.Crashed lib := by
  have hmem : frame ∈ (s.workers t).stack := hstack ▸ List.mem_cons_self
  have hexpects := (hs.fits t).expects frame hmem
  cases frame with
  | handle p handling performed =>
    obtain ⟨hreceived, hyields⟩ := hexpects p rfl
    cases handling with
    | call op next => cases hadvance
    | ret result =>
      obtain ⟨outcome, final⟩ := result
      cases outcome with
      | ok rsp => cases hadvance
      | error e =>
        have hserved := hyields [] (.error e, final) (.ret _)
        rw [List.append_nil] at hserved
        exact .inl ⟨t, p, e, final, performed, rest, hstack, _, hreceived.2.1, hserved⟩
  | trapped p =>
    obtain ⟨-, hreceived, -, -, hcomputes⟩ := hexpects p rfl
    exact .inr (.inl ⟨t, p, rest, hstack, _, hreceived, hcomputes⟩)
  | aborted p =>
    obtain ⟨-, hreceived, hfinished, -, hcomputes⟩ := hexpects p rfl
    exact .inr (.inr ⟨t, p, rest, hstack, _, hreceived, hfinished, hcomputes⟩)
  | statistics p stage =>
    cases stage with
    | dividing newTimestamp =>
      rw [Frame.advance] at hadvance
      split at hadvance <;> cases hadvance
    | _ => cases hadvance
  | assertFinish p =>
    have hstatus : (s.shared.objects p).status = .finish := (hexpects p rfl).1
    simp [Frame.advance, hstatus] at hadvance
  | proceed p | testProcess p =>
    rw [Frame.advance] at hadvance
    split at hadvance <;> cases hadvance
  | _ => cases hadvance

/-- The requests stored in the objects of the first state stay where they are. -/
def KeepsRequests (s s' : System Thread) : Prop :=
  s.shared.allocated ≤ s'.shared.allocated ∧ ∀ p, p < s.shared.allocated →
    (s'.shared.objects p).received = (s.shared.objects p).received

/-- Every request the first state has received has got a reply that its handler computed. -/
def Answers (lib : Externals) (s s' : System Thread) : Prop :=
  ∀ p, p < s.shared.allocated → ∀ request ∈ (s.shared.objects p).received, ∃ reply,
    (s'.shared.objects p).finished = [reply] ∧
      Computes lib request (s'.shared.objects p).performed reply

/-- What is settled is answered. -/
theorem Settled.answers {s₀ : System Thread} (hkeeps : KeepsRequests s₀ s) (h : Settled lib s) :
    Answers lib s₀ s := by
  intro p hp request hrequest
  rw [← hkeeps.2 p hp] at hrequest
  rcases h.answered p (hp.trans_le hkeeps.1) with ⟨hnone, -⟩ | ⟨-, request', reply, hreceived, hfinished, hcomputes⟩
  · rw [hnone] at hrequest
    cases hrequest
  · rw [hreceived] at hrequest
    rw [List.mem_singleton.mp hrequest]
    exact ⟨reply, hfinished, hcomputes⟩

end Rest

section Steps

variable {Thread : Type*} [DecidableEq Thread] {lib : Externals}

/-- A step of a thread. -/
inductive ThreadStep (lib : Externals) : System Thread → System Thread → Prop
  | begins {s : System Thread} {t : Thread} (hnew : (s.workers t).begun = false) :
    ThreadStep lib s (s.moved t ⟨true, true, [.proceed s.shared.allocated]⟩ s.shared.allocate)
  | proceeds {s : System Thread} {t : Thread} {begun owes : Bool} {frame : Frame}
    {frames rest : List Frame} {sh : Shared} (answer : (op : Op) → Reply op)
    (now : UInt64) (hworker : s.workers t = ⟨begun, owes, frame :: rest⟩)
    (hadvance : frame.advance lib answer now s.shared = some (frames, sh)) :
    ThreadStep lib s (s.moved t ⟨begun, owes && !frame.registers, frames ++ rest⟩ sh)
  | takes {s : System Thread} {t : Thread} {owes : Bool} {op : Operation} {queue : Multiset Operation}
    (hworker : s.workers t = ⟨true, owes, []⟩) (hcompleted : op.completed = true)
    (hqueue : s.shared.queue = op ::ₘ queue) :
    ThreadStep lib s (s.moved t ⟨true, owes || op.isRegistration, [.proceed op.tag]⟩ (s.shared.leave queue))
  | fails {s : System Thread} {t : Thread} {owes : Bool} {p : ℕ} {queue : Multiset Operation}
    (hworker : s.workers t = ⟨true, owes, []⟩) (hqueue : s.shared.queue = .finish p ::ₘ queue) :
    ThreadStep lib s (s.moved t ⟨true, owes, [.aborted p]⟩ (s.shared.leave queue))

/-- All other steps are requests that come in. -/
theorem step_iff {s s' : System Thread} : Step lib s s' ↔ ThreadStep lib s s' ∨
    ∃ p queue request, s.shared.queue = .registration p ::ₘ queue ∧
      s' = ⟨s.shared.arrive p request queue, s.workers⟩ := by
  constructor
  · intro h
    cases h with
    | begins hnew => exact .inl (.begins hnew)
    | proceeds answer now hworker hadvance => exact .inl (.proceeds answer now hworker hadvance)
    | takes hworker hcompleted hqueue => exact .inl (.takes hworker hcompleted hqueue)
    | fails hworker hqueue => exact .inl (.fails hworker hqueue)
    | arrives request hqueue => exact .inr ⟨_, _, request, hqueue, rfl⟩
  · intro h
    obtain h | ⟨p, queue, request, hqueue, rfl⟩ := h
    · cases h with
      | begins hnew => exact .begins hnew
      | proceeds answer now hworker hadvance => exact .proceeds answer now hworker hadvance
      | takes hworker hcompleted hqueue => exact .takes hworker hcompleted hqueue
      | fails hworker hqueue => exact .fails hworker hqueue
    · exact .arrives request hqueue

/-- A step of a thread leaves the requests where they are, and a new object has none. -/
theorem ThreadStep.received {s s' : System Thread} (h : ThreadStep lib s s') :
    s.shared.allocated ≤ s'.shared.allocated ∧ ∀ p,
      (s'.shared.objects p).received = (s.shared.objects p).received ∨
        p = s.shared.allocated ∧ (s'.shared.objects p).received = [] := by
  cases h with
  | begins hnew => exact ⟨Nat.le_succ _, s.shared.allocate_received⟩
  | proceeds answer now hworker hadvance => exact (Frame.advance_writes hadvance).received_eq
  | takes hworker hcompleted hqueue => exact ⟨le_rfl, fun _ => .inl rfl⟩
  | fails hworker hqueue => exact ⟨le_rfl, fun _ => .inl rfl⟩

/-- The requests that are in stay what they are. -/
theorem ThreadStep.keepsRequests {s₀ s s' : System Thread} (hkeeps : KeepsRequests s₀ s)
    (h : ThreadStep lib s s') : KeepsRequests s₀ s' := by
  obtain ⟨hallocated, hreceived⟩ := h.received
  refine ⟨hkeeps.1.trans hallocated, fun p hp => ?_⟩
  have hold : p ≠ s.shared.allocated := (hp.trans_le hkeeps.1).ne
  rw [(hreceived p).resolve_right fun hnew => hold hnew.1, hkeeps.2 p hp]

end Steps

section Systems

variable {Thread : Type*} [Fintype Thread] [DecidableEq Thread] {lib : Externals}

/-- What the threads have left to do while no request comes in. -/
def System.tasks (lib : Externals) (s : System Thread) :
    Multiset (Task Op Reply (Except Exc Bytes × HandlerState)) :=
  ∑ t, (s.workers t).tasks lib s.shared.objects + s.shared.queue.bind (Operation.tasks lib)

variable {s s' : System Thread}

/-- Steps of the threads keep the invariant. -/
theorem ThreadStep.invariant (hs : Invariant lib s) (h : ThreadStep lib s s') : Invariant lib s' := by
  cases h with
  | begins hnew => exact hs.begins hnew
  | proceeds answer now hworker hadvance => exact hs.proceeds hworker hadvance
  | takes hworker hcompleted hqueue => exact hs.takes hworker hcompleted hqueue
  | fails hworker hqueue => exact hs.fails hworker hqueue

/-- A thread replaces one of its tasks, or one on the queue, and leaves what the others hold alone. -/
theorem Invariant.cut_moved (hs : Invariant lib s) {t : Thread} {w : Worker} {sh : Shared}
    (task : Task Op Reply (Except Exc Bytes × HandlerState))
    (new rest : Multiset (Task Op Reply (Except Exc Bytes × HandlerState)))
    (hagree : ∀ r, s.shared.Live r → held (s.workers t).stack r = 0 → sh.objects r = s.shared.objects r)
    (hold : (s.workers t).tasks lib s.shared.objects + s.shared.queue.bind (Operation.tasks lib) =
      {task} + rest)
    (hnew : w.tasks lib sh.objects + sh.queue.bind (Operation.tasks lib) = new + rest)
    (hearlier : ∀ task' ∈ new, task'.Before task) :
    Relation.CutExpand Task.Before ((s.moved t w sh).tasks lib) (s.tasks lib) := by
  apply cutExpand_of_party t _ hold _ hearlier
  · intro t' hne
    rw [System.moved_of_ne hne]
    apply Worker.tasks_congr
    intro p hheld
    obtain ⟨hlive, -, -, hothers⟩ := hs.held_only hheld
    exact hagree p hlive (hothers t hne.symm)
  · rw [System.moved_self]
    exact hnew

/-- A statement of `Proceed` leaves smaller tasks to its thread and to the queue. -/
theorem Invariant.cut_proceeds (hs : Invariant lib s) {t : Thread} {begun owes owes' : Bool} {frame : Frame}
    {frames rest : List Frame} {sh : Shared} {answer : (op : Op) → Reply op} {now : UInt64}
    (hworker : s.workers t = ⟨begun, owes, frame :: rest⟩)
    (hadvance : frame.advance lib answer now s.shared = some (frames, sh)) :
    Relation.CutExpand Task.Before ((s.moved t ⟨begun, owes', frames ++ rest⟩ sh).tasks lib) (s.tasks lib) := by
  obtain ⟨posted, hqueue, hposted, hframes⟩ := Frame.advance_leaves hadvance
  have hrest : rest.map (Frame.task lib sh.objects) = rest.map (Frame.task lib s.shared.objects) := by
    apply List.map_congr_left
    intro next hmem
    exact Frame.task_congr fun p hp => hs.rest_agrees hworker hadvance (held_pos hmem hp)
  apply hs.cut_moved (frame.task lib s.shared.objects)
    (posted.bind (Operation.tasks lib) + (frames.map (Frame.task lib sh.objects) : Multiset _))
    ((if begun then 0 else {(5, idle lib)}) + (rest.map (Frame.task lib s.shared.objects) : Multiset _) +
      s.shared.queue.bind (Operation.tasks lib))
  · intro r hlive hnot
    rw [held_worker hworker] at hnot
    exact Frame.advance_agrees hadvance hlive (by omega)
  · simp only [Worker.tasks, hworker, List.map_cons, ← Multiset.cons_coe, ← Multiset.singleton_add]
    abel
  · simp only [Worker.tasks, List.map_append, ← Multiset.coe_add, hrest, hqueue, Multiset.add_bind]
    abel
  · intro task htask
    rcases Multiset.mem_add.mp htask with htask | htask
    · obtain ⟨op, hop, hmem⟩ := Multiset.mem_bind.mp htask
      exact hposted op hop task hmem
    · obtain ⟨next, hmem, rfl⟩ := List.mem_map.mp (Multiset.mem_coe.mp htask)
      exact hframes next hmem

/-- A completed operation stands for more than the call of `Proceed` it leads to. -/
theorem Operation.proceed_rank_lt {op : Operation} {objects : ℕ → CallData}
    (hexpects : op.Expects lib (objects op.tag)) (hcompleted : op.completed = true) :
    ∃ rank, op.tasks lib = {(rank, idle lib)} ∧ (Frame.proceed op.tag).rank objects < rank := by
  cases op with
  | registration p => cases hcompleted
  | arrived p =>
    refine ⟨25, rfl, ?_⟩
    rw [Frame.rank]
    cases (objects (Operation.arrived p).tag).status <;> simp
  | finish p =>
    have hstatus : (objects (Operation.finish p).tag).status = .finish := hexpects.1
    exact ⟨12, rfl, by simp [Frame.rank, hstatus]⟩

/-- What becomes of an event is less than the event. -/
theorem Invariant.cut_delivers (hs : Invariant lib s) {t : Thread} {owes owes' : Bool} {op : Operation}
    {queue : Multiset Operation} {frame : Frame} {rank : ℕ} (hworker : s.workers t = ⟨true, owes, []⟩)
    (hqueue : s.shared.queue = op ::ₘ queue) (htasks : op.tasks lib = {(rank, idle lib)})
    (hrank : frame.rank s.shared.objects < rank) :
    Relation.CutExpand Task.Before ((s.moved t ⟨true, owes', [frame]⟩ (s.shared.leave queue)).tasks lib)
      (s.tasks lib) := by
  apply hs.cut_moved (rank, idle lib) {frame.task lib s.shared.objects} (queue.bind (Operation.tasks lib))
  · intro r _ _
    rfl
  · simp [Worker.tasks, hworker, hqueue, htasks]
  · simp [Worker.tasks, Shared.leave]
  · intro task htask
    rw [Multiset.mem_singleton.mp htask]
    exact Task.before_of_rank hrank

/-- Each step of a thread puts smaller tasks in the place of one. -/
theorem ThreadStep.cut (hs : Invariant lib s) (h : ThreadStep lib s s') :
    Relation.CutExpand Task.Before (s'.tasks lib) (s.tasks lib) := by
  cases h with
  | @begins t hnew =>
    have hstack := (hs.fits t).new hnew
    have hcreated : (Frame.proceed s.shared.allocated).task lib s.shared.allocate.objects = (4, idle lib) := by
      simp [Frame.task, Frame.rank, Frame.handling, Shared.allocate_objects_self, CallData.constructed]
    apply hs.cut_moved (5, idle lib) {(4, idle lib)} (s.shared.queue.bind (Operation.tasks lib))
    · intro r hlive _
      exact Shared.allocate_objects_of_ne hlive.1.ne
    · simp [Worker.tasks, hnew, hstack]
    · simp [Worker.tasks, hcreated]
      rfl
    · intro task htask
      rw [Multiset.mem_singleton.mp htask]
      exact Task.before_of_rank (by simp)
  | proceeds answer now hworker hadvance => exact hs.cut_proceeds hworker hadvance
  | @takes t owes op queue hworker hcompleted hqueue =>
    have hexpects := hs.operations op (hqueue ▸ Multiset.mem_cons_self op queue)
    obtain ⟨rank, htasks, hrank⟩ := Operation.proceed_rank_lt hexpects hcompleted
    exact hs.cut_delivers hworker hqueue htasks hrank
  | fails hworker hqueue => exact hs.cut_delivers hworker hqueue rfl (by simp [Frame.rank])

/-- While no request comes in, the threads come to rest. -/
theorem Reachable.acc (h : Reachable lib s) : Acc (fun s' s => ThreadStep lib s s') s := by
  apply acc_of_cutExpand Task.wellFounded_before (Invariant lib) (System.tasks lib) _ h.invariant
  intro s s' hs hstep
  exact ⟨hstep.invariant hs, hstep.cut hs⟩

/-- Where no thread can go on and the process is still there, each thread has begun, and waits. -/
theorem Invariant.waiting_of_stuck (hs : Invariant lib s) (hcalm : ¬s.Crashed lib)
    (hstuck : ∀ s', ¬ThreadStep lib s s') (t : Thread) : s.workers t = ⟨true, false, []⟩ := by
  have hbegun : (s.workers t).begun = true := by
    apply Bool.of_not_eq_false
    intro hnew
    exact hstuck _ (.begins hnew)
  have hidle : (s.workers t).stack = [] := by
    cases hworker : (s.workers t).stack with
    | nil => rfl
    | cons frame rest =>
      cases hadvance : frame.advance lib sampleWorld.answer 0 s.shared with
      | none => exact absurd (hs.crashed_of_stuck hworker sampleWorld.answer 0 hadvance) hcalm
      | some next =>
        have hfull : s.workers t = ⟨(s.workers t).begun, (s.workers t).owes, frame :: rest⟩ := by
          rw [← hworker]
        exact absurd (.proceeds sampleWorld.answer 0 hfull hadvance) (hstuck _)
  have howes := (hs.fits t).owes
  rw [hidle] at howes
  have hfree : (s.workers t).owes = false := Bool.toNat_eq_zero.mp howes
  rw [← hbegun, ← hfree, ← hidle]

omit [Fintype Thread] in
/-- A thread that waits would take a completed operation. -/
theorem registration_of_stuck [Nonempty Thread] (hwaiting : ∀ t, s.workers t = ⟨true, false, []⟩)
    (hstuck : ∀ s', ¬ThreadStep lib s s') : ∀ op ∈ s.shared.queue, ∃ p, op = .registration p := by
  intro op hop
  obtain ⟨queue, hqueue⟩ := Multiset.exists_cons_of_mem hop
  cases hcompleted : op.completed with
  | true =>
    obtain ⟨t⟩ := ‹Nonempty Thread›
    exact absurd (.takes (hwaiting t) hcompleted hqueue) (hstuck _)
  | false =>
    cases op with
    | registration p => exact ⟨p, rfl⟩
    | arrived p => cases hcompleted
    | finish p => cases hcompleted

omit [DecidableEq Thread] in
/-- While all threads wait, there is a registration for each of them. -/
theorem Invariant.registrations_of_waiting (hs : Invariant lib s)
    (hwaiting : ∀ t, s.workers t = ⟨true, false, []⟩) : s.shared.registrations = Fintype.card Thread := by
  have hslots := hs.slots ()
  have howing : ∑ t, (s.workers t).owes.toNat = 0 := by
    apply Finset.sum_eq_zero
    intro t _
    rw [hwaiting t]
    rfl
  have hbegun (t : Thread) : (s.workers t).begun = true := by rw [hwaiting t]
  have hstarted : s.started = Fintype.card Thread := by
    rw [System.started, Finset.filter_true_of_mem fun t _ => hbegun t, Finset.card_univ]
  dsimp only at hslots
  omega

omit [DecidableEq Thread] in
/-- An object that no thread holds waits in the queue, or is gone after its answer. -/
theorem Invariant.answered_of_waiting (hs : Invariant lib s) (hwaiting : ∀ t, s.workers t = ⟨true, false, []⟩)
    (hregistered : ∀ op ∈ s.shared.queue, ∃ p, op = .registration p) {p : ℕ} (hp : p < s.shared.allocated) :
    (s.shared.objects p).received = [] ∧ .registration p ∈ s.shared.queue ∨
    (s.shared.objects p).deletions = 1 ∧ ∃ request reply, (s.shared.objects p).received = [request] ∧
      (s.shared.objects p).finished = [reply] ∧ Computes lib request (s.shared.objects p).performed reply := by
  by_cases hdeletions : (s.shared.objects p).deletions = 0
  · apply Or.inl
    rcases hs.custody.exists_place (Shared.units_pos.mpr ⟨hp, hdeletions⟩) with ⟨t, hheld⟩ | hposted
    · rw [hwaiting t] at hheld
      cases hheld
    · obtain ⟨op, hop, rfl⟩ := Shared.exists_posted hposted
      have hexpects := hs.operations op hop
      obtain ⟨p, rfl⟩ := hregistered op hop
      exact ⟨hexpects.2.1, hop⟩
  · apply Or.inr
    obtain ⟨-, hreceived, hfinished, hdeleted, hcomputes⟩ := hs.deleted p hp hdeletions
    exact ⟨hdeleted, _, _, hreceived, hfinished, hcomputes⟩

/-- Where no thread can go on, the process has crashed or all is settled. -/
theorem Invariant.settled_of_stuck [Nonempty Thread] (hs : Invariant lib s)
    (hstuck : ∀ s', ¬ThreadStep lib s s') : s.Crashed lib ∨ Settled lib s := by
  by_cases hcrashed : s.Crashed lib
  · exact Or.inl hcrashed
  apply Or.inr
  have hwaiting := hs.waiting_of_stuck hcrashed hstuck
  have hregistered := registration_of_stuck hwaiting hstuck
  have hall : s.shared.registrations = s.shared.queue.card := by
    apply Multiset.countP_eq_card.mpr
    intro op hop
    obtain ⟨p, rfl⟩ := hregistered op hop
    rfl
  have hcard : s.shared.queue.card = Fintype.card Thread := by
    rw [← hall, hs.registrations_of_waiting hwaiting]
  exact ⟨hwaiting, hregistered, hcard, fun _ hp => hs.answered_of_waiting hwaiting hregistered hp⟩

/-- Whatever the threads do, whatever their handlers are told and whatever the clock shows: if no further
request comes in, they come to a state where the process is terminated, by an exception, a trap in the
statistics or a reply that did not go out, or where all that was received is answered and each thread
waits with a registration up. -/
theorem reachable_settles [Nonempty Thread] (lib : Externals) (s : System Thread) (h : Reachable lib s) :
    Inevitable (ThreadStep lib) (fun s' => s'.Crashed lib ∨ Settled lib s' ∧ Answers lib s s') s := by
  apply inevitable_of_acc (fun s' => Invariant lib s' ∧ KeepsRequests s s') _ _ h.acc
  · exact ⟨h.invariant, le_rfl, fun _ _ => rfl⟩
  · intro s₁ s₂ hs hstep
    exact ⟨hstep.invariant hs.1, hstep.keepsRequests hs.2⟩
  · intro s' hs hstuck
    exact (hs.1.settled_of_stuck hstuck).imp_right fun hsettled => ⟨hsettled, hsettled.answers hs.2⟩

end Systems

/-- A request has come in for the first object of a thread, and the others have not begun. -/
theorem reachable_settles_sample : ∃ s : System (Fin 6), (s.shared.objects 0).received = [str "request"] ∧
    Inevitable (ThreadStep sampleExternals)
      (fun s' => s'.Crashed sampleExternals ∨ Settled sampleExternals s' ∧ Answers sampleExternals s s') s := by
  have h : Reachable sampleExternals (.initial (Fin 6)) := .refl
  have h := h.tail (.begins (t := 0) rfl)
  have h := Reachable.alone h sampleWorld.answer 1 0 3 rfl
  have h := h.tail (.arrives (p := 0) (str "request") (show _ = Operation.registration 0 ::ₘ 0 from rfl))
  exact ⟨_, rfl, reachable_settles sampleExternals _ h⟩

end XrpcServer.Grpc
