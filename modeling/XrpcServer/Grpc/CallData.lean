import XrpcServer.Grpc.Statistics
import XrpcServer.Handler.Requests
import Mathlib.Data.Multiset.Count
import Mathlib.Data.Fintype.Defs

/-!
# The asynchronous calls

The `HandleRpcs` threads share one completion queue. A `CallData` posts its operations with its
own address as their tag, and the thread that takes the event calls `Proceed` on the object with
that address, whichever thread posted it. Between two steps of a thread, the runtime and the
other threads may take any number of their own. The statistics after a reply is set are steps like
the others. An exception of the handler, a division that traps and an event that is not `ok` terminate
the process: the thread they hit takes no further step.

An address is never given out twice, so that a stale tag would still name the deleted object.
-/

namespace XrpcServer.Grpc

open XrpcServer.Text XrpcServer.Interaction XrpcServer.Handler

/-- `CallStatus`. -/
inductive CallStatus where
  | create
  | process
  | finish
deriving DecidableEq

/-- A `CallData`, with a record of what happened to it. -/
structure CallData where
  status : CallStatus
  /-- The body of `request_`. -/
  request : Bytes
  /-- The body of `reply_`. -/
  reply : Bytes
  /-- The requests the runtime has stored in it. -/
  received : List Bytes
  /-- The operations of the handler that has computed `reply_`, with the replies it got. -/
  performed : List HandlerEvent
  /-- The replies posted with `Finish`. -/
  finished : List Bytes
  deletions : ℕ

/-- The members before `Proceed` is called by the constructor. -/
def CallData.constructed : CallData := ⟨.create, [], [], [], [], [], 0⟩

/-- Operations posted and not yet delivered; the number is their tag. -/
inductive Operation where
  /-- `Requestcall`, no request has come in for it yet. -/
  | registration (tag : ℕ)
  /-- `Requestcall`, its request has been stored. -/
  | arrived (tag : ℕ)
  | finish (tag : ℕ)

/-- The address delivered with the event. -/
def Operation.tag : Operation → ℕ
  | .registration p => p
  | .arrived p => p
  | .finish p => p

/-- The operation was posted by `Requestcall`. -/
def Operation.isRegistration : Operation → Bool
  | .finish _ => false
  | _ => true

/-- The event of the operation can be delivered. -/
def Operation.completed : Operation → Bool
  | .registration _ => false
  | _ => true

/-- `grpc_recv_num` and `grpc_last_timestamp`, with the rates written to the console. -/
structure RateStatistics where
  grpcRecvNum : Int32
  grpcLastTimestamp : UInt64
  rates : List UInt64

/-- What the threads share: the objects, the addresses given out, the completion queue, and the
statistics. -/
structure Shared where
  objects : ℕ → CallData
  allocated : ℕ
  queue : Multiset Operation
  statistics : RateStatistics

namespace Shared

/-- Write members of an object. -/
def modify (p : ℕ) (f : CallData → CallData) (sh : Shared) : Shared :=
  { sh with objects := Function.update sh.objects p (f (sh.objects p)) }

/-- Post an operation on the completion queue. -/
def post (op : Operation) (sh : Shared) : Shared := { sh with queue := op ::ₘ sh.queue }

/-- Leave these operations on the completion queue. -/
def leave (queue : Multiset Operation) (sh : Shared) : Shared := { sh with queue }

/-- Write the statistics. -/
def count (f : RateStatistics → RateStatistics) (sh : Shared) : Shared :=
  { sh with statistics := f sh.statistics }

/-- `new CallData`, up to the call of `Proceed`. -/
def allocate (sh : Shared) : Shared :=
  { sh with
    objects := Function.update sh.objects sh.allocated .constructed
    allocated := sh.allocated + 1 }

/-- A registration, the others left on the queue, is matched with a request. -/
def arrive (p : ℕ) (request : Bytes) (queue : Multiset Operation) (sh : Shared) : Shared :=
  ((sh.leave queue).modify p fun c => { c with request, received := c.received ++ [request] }).post
    (.arrived p)

/-- The object exists and has not been deleted. -/
def Live (sh : Shared) (p : ℕ) : Prop := p < sh.allocated ∧ (sh.objects p).deletions = 0

instance (sh : Shared) (p : ℕ) : Decidable (sh.Live p) := inferInstanceAs (Decidable (_ ∧ _))

/-- `Requestcall` registrations posted and not yet delivered. -/
def registrations (sh : Shared) : ℕ := sh.queue.countP (fun op => op.isRegistration = true)

variable {sh : Shared}

/-- The object that is written. -/
theorem modify_objects_self (p : ℕ) (f : CallData → CallData) :
    (sh.modify p f).objects p = f (sh.objects p) := Function.update_self _ _ _

/-- Writing an object leaves the others as they are. -/
theorem modify_objects_of_ne {p r : ℕ} {f : CallData → CallData} (hne : r ≠ p) :
    (sh.modify p f).objects r = sh.objects r := Function.update_of_ne hne _ _

/-- A new object is as it was constructed. -/
theorem allocate_objects_self : sh.allocate.objects sh.allocated = .constructed := Function.update_self _ _ _

/-- A new object has an address of its own. -/
theorem allocate_objects_of_ne {r : ℕ} (hne : r ≠ sh.allocated) :
    sh.allocate.objects r = sh.objects r := Function.update_of_ne hne _ _

/-- A new object has no request yet. -/
theorem allocate_received (sh : Shared) (p : ℕ) :
    (sh.allocate.objects p).received = (sh.objects p).received ∨
      p = sh.allocated ∧ (sh.allocate.objects p).received = [] := by
  by_cases hp : p = sh.allocated
  · refine .inr ⟨hp, ?_⟩
    rw [hp, allocate_objects_self]
    rfl
  · exact .inl (by rw [allocate_objects_of_ne hp])

end Shared

/-- A handler that has not returned yet. -/
abbrev Handling := Program Op Reply (Except Exc Bytes × HandlerState)

/-- Where a call of `Proceed` stands. -/
inductive Frame where
  /-- `status_ == CREATE` is tested next. -/
  | proceed (p : ℕ)
  /-- `status_ = PROCESS`. -/
  | claim (p : ℕ)
  /-- `Requestcall`. -/
  | register (p : ℕ)
  /-- `status_ == PROCESS` is tested next. -/
  | testProcess (p : ℕ)
  /-- `new CallData(service_, cq_)`. -/
  | spawn (p : ℕ)
  /-- `string req = request_.body()`. -/
  | readRequest (p : ℕ)
  /-- `handle_request` and `get_response`, which work on the copied request, and the operations
  they have performed. -/
  | handle (p : ℕ) (handling : Handling) (performed : List HandlerEvent)
  /-- `reply_.set_body(rsp)`. -/
  | writeReply (p : ℕ) (rsp : Bytes) (performed : List HandlerEvent)
  /-- The statistics, which work on no object. -/
  | statistics (p : ℕ) (stage : RateStage)
  /-- The division has trapped: the process is terminated. -/
  | trapped (p : ℕ)
  /-- `status_ = FINISH`. -/
  | markFinish (p : ℕ)
  /-- `Finish(reply_, Status::OK, this)`. -/
  | postFinish (p : ℕ)
  /-- `GPR_ASSERT(status_ == FINISH)`. -/
  | assertFinish (p : ℕ)
  /-- `delete this`. -/
  | release (p : ℕ)
  /-- `GPR_ASSERT(ok)` has failed on the event of `Finish`: the process is terminated. -/
  | aborted (p : ℕ)
  /-- Nothing is left to do but to return. -/
  | returning

/-- The object a step reads or writes. -/
def Frame.touches : Frame → Option ℕ
  | .proceed p | .claim p | .register p | .testProcess p | .spawn p | .readRequest p => some p
  | .handle _ _ _ | .statistics _ _ | .trapped _ | .aborted _ => none
  | .writeReply p _ _ | .markFinish p | .postFinish p | .assertFinish p | .release p => some p
  | .returning => none

/-- The step posts a registration. -/
def Frame.registers : Frame → Bool
  | .register _ => true
  | _ => false

section Proceed

variable (lib : Externals) (answer : (op : Op) → Reply op) (now : UInt64) (sh : Shared)

/-- One step of `CallData::Proceed` while the clock shows `now`: the calls that replace this one, and
what becomes of the shared data. A step of the handler is one operation, with the reply `answer`
holds. -/
def Frame.advance : Frame → Option (List Frame × Shared)
  | .proceed p =>
    if (sh.objects p).status = .create then some ([.claim p], sh) else some ([.testProcess p], sh)
  | .claim p => some ([.register p], sh.modify p fun c => { c with status := .process })
  | .register p => some ([.returning], sh.post (.registration p))
  | .testProcess p =>
    if (sh.objects p).status = .process then some ([.spawn p], sh) else some ([.assertFinish p], sh)
  | .spawn p => some ([.proceed sh.allocated, .readRequest p], sh.allocate)
  | .readRequest p =>
    some ([.handle p (serve lib (sh.objects p).request (HandlerState.initial lib)) []], sh)
  | .handle p (.call op next) performed =>
    some ([.handle p (next (answer op)) (performed ++ [⟨op, answer op⟩])], sh)
  | .handle p (.ret (.ok rsp, _)) performed => some ([.writeReply p rsp performed], sh)
  -- An exception leaves the thread function: the process is terminated.
  | .handle _ (.ret (.error _, _)) _ => none
  | .writeReply p rsp performed =>
    some ([.statistics p .counting], sh.modify p fun c => { c with reply := rsp, performed })
  | .statistics p .counting =>
    some ([if sh.statistics.grpcRecvNum % 1000 = 0 then .statistics p .reading else .markFinish p],
      sh.count fun counts => { counts with grpcRecvNum := counts.grpcRecvNum + 1 })
  | .statistics p .reading => some ([.statistics p (.dividing now)], sh)
  | .statistics p (.dividing newTimestamp) =>
    match rate newTimestamp sh.statistics.grpcLastTimestamp with
    | some r => some ([.statistics p (.storing newTimestamp r)], sh)
    | none => some ([.trapped p], sh)
  | .statistics p (.storing newTimestamp r) =>
    some ([.markFinish p], sh.count fun counts =>
      { counts with grpcLastTimestamp := newTimestamp, rates := counts.rates ++ [r] })
  | .trapped _ | .aborted _ => none
  | .markFinish p => some ([.postFinish p], sh.modify p fun c => { c with status := .finish })
  | .postFinish p =>
    some ([.returning],
      (sh.modify p fun c => { c with finished := c.finished ++ [c.reply] }).post (.finish p))
  | .assertFinish p => if (sh.objects p).status = .finish then some ([.release p], sh) else none
  | .release p => some ([.returning], sh.modify p fun c => { c with deletions := c.deletions + 1 })
  | .returning => some ([], sh)

variable {lib answer now sh} {frame : Frame}

/-- What a step leaves of the shared data: the object it touches is written, or a new one is created, or
all objects stay as they are. No step stores a request. -/
inductive Frame.Writes (sh : Shared) (frame : Frame) : Shared → Prop
  | objects {sh' : Shared} (hobjects : sh'.objects = sh.objects) (hallocated : sh'.allocated = sh.allocated) :
    Writes sh frame sh'
  | touched {sh' : Shared} {p : ℕ} (f : CallData → CallData) (htouches : frame.touches = some p)
    (hobjects : sh'.objects = (sh.modify p f).objects) (hallocated : sh'.allocated = sh.allocated)
    (hreceived : ∀ c, (f c).received = c.received) : Writes sh frame sh'
  | created : Writes sh frame sh.allocate

/-- Every step leaves one of these. -/
theorem Frame.advance_writes {frames : List Frame} {sh' : Shared}
    (h : frame.advance lib answer now sh = some (frames, sh')) : frame.Writes sh sh' := by
  cases frame with
  | proceed p | testProcess p | assertFinish p =>
    rw [Frame.advance] at h
    split at h <;> cases h <;> exact .objects rfl rfl
  | claim p | writeReply p rsp performed | markFinish p | release p =>
    cases h
    exact .touched (p := p) _ rfl rfl rfl fun _ => rfl
  | postFinish p =>
    cases h
    exact .touched (p := p) (fun c => { c with finished := c.finished ++ [c.reply] }) rfl rfl rfl fun _ => rfl
  | spawn p =>
    cases h
    exact .created
  | handle p handling performed =>
    cases handling with
    | call op next =>
      cases h
      exact .objects rfl rfl
    | ret result =>
      obtain ⟨outcome, final⟩ := result
      cases outcome <;> cases h
      exact .objects rfl rfl
  | statistics p stage =>
    cases stage with
    | dividing newTimestamp =>
      rw [Frame.advance] at h
      split at h <;> cases h <;> exact .objects rfl rfl
    | _ =>
      cases h
      exact .objects rfl rfl
  | trapped p | aborted p => cases h
  | register p | readRequest p | returning =>
    cases h
    exact .objects rfl rfl

/-- An object that is there and not touched stays as it is. -/
theorem Frame.Writes.objects_eq {sh' : Shared} (h : frame.Writes sh sh') {r : ℕ} (hr : r < sh.allocated)
    (hne : frame.touches ≠ some r) : sh'.objects r = sh.objects r := by
  cases h with
  | objects hobjects _ => rw [hobjects]
  | @touched _ p f htouches hobjects _ _ =>
    have hother : r ≠ p := by
      rintro rfl
      exact hne htouches
    rw [hobjects, Shared.modify_objects_of_ne hother]
  | created => exact Shared.allocate_objects_of_ne hr.ne

/-- The requests stay where they are, and a new object has none. -/
theorem Frame.Writes.received_eq {sh' : Shared} (h : frame.Writes sh sh') : sh.allocated ≤ sh'.allocated ∧
    ∀ p, (sh'.objects p).received = (sh.objects p).received ∨
      p = sh.allocated ∧ (sh'.objects p).received = [] := by
  cases h with
  | objects hobjects hallocated => exact ⟨hallocated.ge, fun r => .inl (by rw [hobjects])⟩
  | @touched _ p f _ hobjects hallocated hreceived =>
    refine ⟨hallocated.ge, fun r => .inl ?_⟩
    by_cases hr : r = p
    · rw [hobjects, hr, Shared.modify_objects_self, hreceived]
    · rw [hobjects, Shared.modify_objects_of_ne hr]
  | created => exact ⟨Nat.le_succ _, sh.allocate_received⟩

end Proceed

section Rates

variable {Thread : Type} [DecidableEq Thread]

/-- The members of the statistics that the threads share. -/
def AsyncStatistics.shared (a : AsyncStatistics Thread) : RateStatistics :=
  ⟨a.grpcRecvNum, a.grpcLastTimestamp, a.rates⟩

/-- Where `Proceed` goes on after a step of the statistics. -/
def AsyncStatistics.frame (a : AsyncStatistics Thread) (t : Thread) (p : ℕ) : Frame :=
  if a.trapped then .trapped p
  else match a.stages t with
  | .counting => .markFinish p
  | stage => .statistics p stage

/-- The statistics of a call are those of its thread: a step in one is a step in the other, and traps
there if it traps here. -/
theorem Frame.advance_statistics (lib : Externals) (answer : (op : Op) → Reply op) {now : UInt64} {sh : Shared}
    {a : AsyncStatistics Thread} {t : Thread} (p : ℕ) (hrunning : a.Running) (hclock : a.clock ≤ now)
    (hshared : sh.statistics = a.shared) : ∃ tick a', Tick.thread tick = t ∧ a.advance tick = some a' ∧
      (Frame.statistics p (a.stages t)).advance lib answer now sh =
        some ([a'.frame t p], sh.count fun _ => a'.shared) := by
  have hcalm : a.trapped = false := hrunning
  obtain ⟨objects, allocated, queue, statistics⟩ := sh
  obtain rfl : statistics = a.shared := hshared
  cases hstage : a.stages t with
  | counting =>
    refine ⟨_, _, rfl, (Advanced.increments hrunning hstage).advance_eq, ?_⟩
    by_cases hdue : a.grpcRecvNum % 1000 = 0 <;>
      simp [Frame.advance, AsyncStatistics.frame, AsyncStatistics.moved, AsyncStatistics.shared, Shared.count, hcalm,
        hdue]
  | reading =>
    refine ⟨_, _, rfl, (Advanced.readsClock hrunning hstage hclock).advance_eq, ?_⟩
    simp [Frame.advance, AsyncStatistics.frame, AsyncStatistics.moved, AsyncStatistics.shared, Shared.count, hcalm]
  | dividing newTimestamp =>
    cases hrate : rate newTimestamp a.grpcLastTimestamp with
    | some r =>
      refine ⟨_, _, rfl, (Advanced.divides hrunning hstage hrate).advance_eq, ?_⟩
      simp [Frame.advance, AsyncStatistics.frame, AsyncStatistics.moved, AsyncStatistics.shared, Shared.count, hcalm,
        hrate]
    | none =>
      refine ⟨_, _, rfl, (Advanced.traps hrunning hstage hrate).advance_eq, ?_⟩
      simp [Frame.advance, AsyncStatistics.frame, AsyncStatistics.shared, Shared.count, hrate]
  | storing newTimestamp r =>
    refine ⟨_, _, rfl, (Advanced.stores hrunning hstage).advance_eq, ?_⟩
    simp [Frame.advance, AsyncStatistics.frame, AsyncStatistics.moved, AsyncStatistics.shared, Shared.count, hcalm]

end Rates

/-- A `HandleRpcs` thread. -/
structure Worker where
  /-- It has begun its initial `new CallData`. -/
  begun : Bool
  /-- It has created a `CallData` initially, or taken the event of a new request, and has not
  posted a registration since. -/
  owes : Bool
  /-- The calls of `Proceed` it is in, the innermost first. -/
  stack : List Frame

/-- The threads with what they share. -/
structure System (Thread : Type*) where
  shared : Shared
  workers : Thread → Worker

/-- No thread has begun, and the statistics are as the program starts. -/
def System.initial (Thread : Type*) : System Thread :=
  ⟨⟨fun _ => .constructed, 0, 0, ⟨0, 0, []⟩⟩, fun _ => ⟨false, false, []⟩⟩

section Threads

variable {Thread : Type*} [DecidableEq Thread]

/-- A thread moves on. -/
def System.moved (s : System Thread) (t : Thread) (worker : Worker) (sh : Shared) : System Thread :=
  ⟨sh, Function.update s.workers t worker⟩

/-- The thread that moves on. -/
theorem System.moved_self {s : System Thread} {t : Thread} {w : Worker} {sh : Shared} :
    (s.moved t w sh).workers t = w := Function.update_self _ _ _

/-- The other threads stay where they are. -/
theorem System.moved_of_ne {s : System Thread} {t t' : Thread} {w : Worker} {sh : Shared} (hne : t' ≠ t) :
    (s.moved t w sh).workers t' = s.workers t' := Function.update_of_ne hne _ _

/-- A step of one thread, or of the runtime. -/
inductive Step (lib : Externals) : System Thread → System Thread → Prop
  /-- `HandleRpcs` begins with `new CallData(&service_, cq_.get())`. -/
  | begins {s : System Thread} {t : Thread} (hnew : (s.workers t).begun = false) :
    Step lib s (s.moved t ⟨true, true, [.proceed s.shared.allocated]⟩ s.shared.allocate)
  /-- A thread takes one step in the innermost call of `Proceed` it is in, at some time. -/
  | proceeds {s : System Thread} {t : Thread} {begun owes : Bool} {frame : Frame}
    {frames rest : List Frame} {sh : Shared} (answer : (op : Op) → Reply op)
    (now : UInt64) (hworker : s.workers t = ⟨begun, owes, frame :: rest⟩)
    (hadvance : frame.advance lib answer now s.shared = some (frames, sh)) :
    Step lib s (s.moved t ⟨begun, owes && !frame.registers, frames ++ rest⟩ sh)
  /-- A thread waiting in `cq_->Next` takes an event that is `ok` and calls `Proceed` on its tag. -/
  | takes {s : System Thread} {t : Thread} {owes : Bool} {op : Operation} {queue : Multiset Operation}
    (hworker : s.workers t = ⟨true, owes, []⟩) (hcompleted : op.completed = true)
    (hqueue : s.shared.queue = op ::ₘ queue) :
    Step lib s (s.moved t ⟨true, owes || op.isRegistration, [.proceed op.tag]⟩ (s.shared.leave queue))
  /-- A thread takes the event of a reply that did not go out. -/
  | fails {s : System Thread} {t : Thread} {owes : Bool} {p : ℕ} {queue : Multiset Operation}
    (hworker : s.workers t = ⟨true, owes, []⟩) (hqueue : s.shared.queue = .finish p ::ₘ queue) :
    Step lib s (s.moved t ⟨true, owes, [.aborted p]⟩ (s.shared.leave queue))
  /-- The runtime matches a request with a registration and stores it in the object. -/
  | arrives {s : System Thread} {p : ℕ} {queue : Multiset Operation} (request : Bytes)
    (hqueue : s.shared.queue = .registration p ::ₘ queue) :
    Step lib s ⟨s.shared.arrive p request queue, s.workers⟩

/-- The states the threads can reach. -/
def Reachable (lib : Externals) (s : System Thread) : Prop :=
  Relation.ReflTransGen (Step lib) (.initial Thread) s

end Threads

end XrpcServer.Grpc
