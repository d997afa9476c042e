import XrpcServer.Interaction.Trail
import XrpcServer.Paging.Window
import Mathlib.Logic.Function.Basic

/-!
# The rate statistics

Every thousandth call divides by the time since the sample before, in 64-bit unsigned
milliseconds. The synchronous service takes one call after the other; the worker threads of the
asynchronous one share the counter and the timestamp and take their steps in any order. Nothing
keeps two samples apart: where the timestamp kept is the one just read, the division traps, and the
process with it.
-/

namespace XrpcServer.Grpc

open XrpcServer.Interaction XrpcServer.Paging

/-- `1000000/(new_timestamp - last_timestamp)`, nothing where the division traps. -/
def rate (newTimestamp lastTimestamp : UInt64) : Option UInt64 :=
  if newTimestamp - lastTimestamp = 0 then none else some (1000000 / (newTimestamp - lastTimestamp))

/-- The division traps when the clock shows the timestamp kept. -/
theorem rate_eq_none_iff {newTimestamp lastTimestamp : UInt64} :
    rate newTimestamp lastTimestamp = none ↔ newTimestamp = lastTimestamp := by
  have hzero : newTimestamp - lastTimestamp = 0 ↔ newTimestamp = lastTimestamp := by
    constructor <;> intro h <;> grind
  simp [rate, hzero]

section Synchronous

/-- The statistics of `xrpc_serviceimpl`, with the rates it has written to the console. -/
structure XrpcServiceimpl where
  callNum : UInt32
  lastTimestamp : UInt64
  rates : List UInt64

/-- `xrpc_serviceimpl::call` once the reply is set, when the clock shows `now`. -/
def XrpcServiceimpl.call (s : XrpcServiceimpl) (now : UInt64) : Option XrpcServiceimpl :=
  let callNum := s.callNum + 1
  if callNum % 1000 = 0 then
    (rate now s.lastTimestamp).map fun r => ⟨callNum, now, s.rates ++ [r]⟩
  else some { s with callNum }

/-- One call after the other, each with what the clock shows during it. -/
def XrpcServiceimpl.calls (s : XrpcServiceimpl) (readings : List UInt64) : Option XrpcServiceimpl :=
  readings.foldlM call s

/-- The call at this position finds a multiple of 1000 in the counter, which wraps at 32 bits. -/
def sampleDue (callNum : UInt32) (position : ℕ) : Bool := (callNum + UInt32.ofNat position + 1) % 1000 = 0

/-- The readings of the calls that take a sample. -/
def samples (callNum : UInt32) (readings : List UInt64) : List UInt64 := window (sampleDue callNum) readings

/-- No division traps exactly when the clock has moved between one sample and the next, and since
the timestamp the service was started with. -/
theorem isSome_calls_iff (s : XrpcServiceimpl) (readings : List UInt64) :
    (s.calls readings).isSome ↔ (s.lastTimestamp :: samples s.callNum readings).IsChain (· ≠ ·) := by
  suffices hfrom : ∀ (callNum : UInt32) (position : ℕ), s.callNum = callNum + UInt32.ofNat position →
      ((s.calls readings).isSome ↔
        (s.lastTimestamp :: windowFrom (sampleDue callNum) position readings).IsChain (· ≠ ·)) from
    hfrom s.callNum 0 (by simp)
  intro callNum position hposition
  induction readings generalizing s position with
  | nil => simp [XrpcServiceimpl.calls, windowFrom]
  | cons now readings ih =>
    have hnext : s.callNum + 1 = callNum + UInt32.ofNat (position + 1) := by
      rw [hposition, UInt32.ofNat_add, UInt32.add_assoc]
      rfl
    have hcalls : s.calls (now :: readings) = s.call now >>= fun s' => s'.calls readings := List.foldlM_cons
    have hdue : sampleDue callNum position = decide ((s.callNum + 1) % 1000 = 0) := by
      rw [sampleDue, ← hposition]
    rw [hcalls, XrpcServiceimpl.call, windowFrom]
    by_cases hsample : (s.callNum + 1) % 1000 = 0
    · cases hrate : rate now s.lastTimestamp with
      | none =>
        have heq : now = s.lastTimestamp := rate_eq_none_iff.mp hrate
        simp [hdue, hsample, heq]
      | some r =>
        have hne : s.lastTimestamp ≠ now := by
          intro heq
          rw [rate_eq_none_iff.mpr heq.symm] at hrate
          cases hrate
        have hrest := ih ⟨s.callNum + 1, now, s.rates ++ [r]⟩ (position + 1) hnext
        simp [hdue, hsample, hne, hrest]
    · have hrest := ih { s with callNum := s.callNum + 1 } (position + 1) hnext
      simp [hdue, hsample, hrest]

end Synchronous

section Asynchronous

/-- Where a worker thread stands in the statistics of `CallData::Proceed`. -/
inductive RateStage where
  /-- `grpc_recv_num++` is next. -/
  | counting
  /-- `num % 1000 == 0` holds, `get_timestamp_ms` is next. -/
  | reading
  /-- The division is next. -/
  | dividing (newTimestamp : UInt64)
  /-- `grpc_last_timestamp = new_timestamp` is next, then the rate is written. -/
  | storing (newTimestamp rate : UInt64)

/-- The local `new_timestamp`, once it is set. -/
def RateStage.newTimestamp : RateStage → Option UInt64
  | .dividing now => some now
  | .storing now _ => some now
  | _ => none

/-- The statistics the worker threads share, and where each of them stands. -/
structure AsyncStatistics (Thread : Type) where
  grpcRecvNum : Int32
  grpcLastTimestamp : UInt64
  /-- What the clock has shown last. -/
  clock : UInt64
  stages : Thread → RateStage
  rates : List UInt64
  /-- A division has trapped, and the process is gone. -/
  trapped : Bool

/-- The atomic steps of a thread. -/
inductive Tick (Thread : Type) where
  | increment (t : Thread)
  | readClock (t : Thread) (newTimestamp : UInt64)
  | divide (t : Thread)
  | store (t : Thread)

/-- The thread that takes the step. -/
def Tick.thread {Thread : Type} : Tick Thread → Thread
  | .increment t => t
  | .readClock t _ => t
  | .divide t => t
  | .store t => t

variable {Thread : Type} [DecidableEq Thread]

/-- A thread goes on to another stage. -/
def AsyncStatistics.moved (s : AsyncStatistics Thread) (t : Thread) (stage : RateStage) :
    AsyncStatistics Thread :=
  { s with stages := Function.update s.stages t stage }

/-- A step of the statistics in `CallData::Proceed`; the clock does not go back. -/
def AsyncStatistics.advance (s : AsyncStatistics Thread) (tick : Tick Thread) :
    Option (AsyncStatistics Thread) :=
  if s.trapped then none
  else match tick, s.stages tick.thread with
  | .increment t, .counting =>
    let stage := if s.grpcRecvNum % 1000 = 0 then RateStage.reading else .counting
    some ({ s with grpcRecvNum := s.grpcRecvNum + 1 }.moved t stage)
  | .readClock t newTimestamp, .reading =>
    if s.clock ≤ newTimestamp then some ({ s with clock := newTimestamp }.moved t (.dividing newTimestamp))
    else none
  | .divide t, .dividing newTimestamp =>
    match rate newTimestamp s.grpcLastTimestamp with
    | some r => some (s.moved t (.storing newTimestamp r))
    | none => some { s with trapped := true }
  | .store t, .storing newTimestamp r =>
    some ({ s with grpcLastTimestamp := newTimestamp, rates := s.rates ++ [r] }.moved t .counting)
  | _, _ => none

/-- No division has trapped. -/
def AsyncStatistics.Running (s : AsyncStatistics Thread) : Prop := s.trapped = false

/-- What a step does, case by case. -/
inductive Advanced (s : AsyncStatistics Thread) : Tick Thread → AsyncStatistics Thread → Prop
  | increments {t : Thread} (hrunning : s.Running) (hstage : s.stages t = .counting) :
    Advanced s (.increment t)
      ({ s with grpcRecvNum := s.grpcRecvNum + 1 }.moved t
        (if s.grpcRecvNum % 1000 = 0 then .reading else .counting))
  | readsClock {t : Thread} {newTimestamp : UInt64} (hrunning : s.Running)
    (hstage : s.stages t = .reading) (hclock : s.clock ≤ newTimestamp) :
    Advanced s (.readClock t newTimestamp)
      ({ s with clock := newTimestamp }.moved t (.dividing newTimestamp))
  | divides {t : Thread} {newTimestamp r : UInt64} (hrunning : s.Running)
    (hstage : s.stages t = .dividing newTimestamp) (hrate : rate newTimestamp s.grpcLastTimestamp = some r) :
    Advanced s (.divide t) (s.moved t (.storing newTimestamp r))
  | traps {t : Thread} {newTimestamp : UInt64} (hrunning : s.Running)
    (hstage : s.stages t = .dividing newTimestamp) (hrate : rate newTimestamp s.grpcLastTimestamp = none) :
    Advanced s (.divide t) { s with trapped := true }
  | stores {t : Thread} {newTimestamp r : UInt64} (hrunning : s.Running)
    (hstage : s.stages t = .storing newTimestamp r) :
    Advanced s (.store t)
      ({ s with grpcLastTimestamp := newTimestamp, rates := s.rates ++ [r] }.moved t .counting)

/-- A step is one of these. -/
theorem advanced_of_advance {s s' : AsyncStatistics Thread} {tick : Tick Thread}
    (h : s.advance tick = some s') : Advanced s tick s' := by
  unfold AsyncStatistics.advance at h
  split at h
  case isTrue => cases h
  case isFalse hnot =>
    have hrunning : s.Running := Bool.eq_false_iff.mpr hnot
    split at h
    case h_1 hstage =>
      cases h
      exact .increments hrunning hstage
    case h_2 hstage =>
      split at h
      case isTrue hclock =>
        cases h
        exact .readsClock hrunning hstage hclock
      case isFalse => cases h
    case h_3 t newTimestamp hstage =>
      split at h
      case h_1 r hrate =>
        cases h
        exact .divides hrunning hstage hrate
      case h_2 hrate =>
        cases h
        exact .traps hrunning hstage hrate
    case h_4 hstage =>
      cases h
      exact .stores hrunning hstage
    case h_5 => cases h

/-- Each of these is a step. -/
theorem Advanced.advance_eq {s s' : AsyncStatistics Thread} {tick : Tick Thread} (h : Advanced s tick s') :
    s.advance tick = some s' := by
  cases h with
  | increments hrunning hstage =>
    simp only [AsyncStatistics.advance, show s.trapped = false from hrunning, Tick.thread, hstage]
    rfl
  | readsClock hrunning hstage hclock =>
    simp only [AsyncStatistics.advance, show s.trapped = false from hrunning, Tick.thread, hstage, hclock, if_true]
    rfl
  | divides hrunning hstage hrate | traps hrunning hstage hrate =>
    simp only [AsyncStatistics.advance, show s.trapped = false from hrunning, Tick.thread, hstage, hrate]
    rfl
  | stores hrunning hstage =>
    simp only [AsyncStatistics.advance, show s.trapped = false from hrunning, Tick.thread, hstage]
    rfl

/-- The last reading of a thread, the last step first. -/
def lastRead (t : Thread) : List (Tick Thread) → Option UInt64
  | [] => none
  | .readClock t' newTimestamp :: earlier => if t' = t then some newTimestamp else lastRead t earlier
  | _ :: earlier => lastRead t earlier

/-- The reading of the thread that has stored last, the last step first, or the timestamp at the
start. -/
def lastStored (start : UInt64) : List (Tick Thread) → UInt64
  | [] => start
  | .store t :: earlier => (lastRead t earlier).getD start
  | _ :: earlier => lastStored start earlier

/-- A step does not divide right after the reading it divides by was stored. -/
def Apart (start : UInt64) (history : List (Tick Thread)) (tick : Tick Thread) : Prop :=
  ∀ t, tick = .divide t → lastRead t history ≠ some (lastStored start history)

/-- What the steps so far tell of a process that runs. -/
structure Told (start : UInt64) (history : List (Tick Thread)) (s : AsyncStatistics Thread) : Prop where
  read : ∀ t newTimestamp, (s.stages t).newTimestamp = some newTimestamp →
    lastRead t history = some newTimestamp
  stored : s.grpcLastTimestamp = lastStored start history

section Steps

variable {start : UInt64} {history : List (Tick Thread)} {s s' : AsyncStatistics Thread}

/-- A thread has moved: its own timestamp is told, and the others have read nothing since. -/
theorem Told.read_moved (h : Told start history s) {tick : Tick Thread} {t : Thread} {stage : RateStage}
    (hothers : ∀ t', t' ≠ t → lastRead t' (tick :: history) = lastRead t' history)
    (hself : ∀ newTimestamp, stage.newTimestamp = some newTimestamp →
      lastRead t (tick :: history) = some newTimestamp) (t' : Thread) (newTimestamp : UInt64)
    (hread : (Function.update s.stages t stage t').newTimestamp = some newTimestamp) :
    lastRead t' (tick :: history) = some newTimestamp := by
  by_cases hthread : t' = t
  · subst hthread
    rw [Function.update_self] at hread
    exact hself newTimestamp hread
  · rw [Function.update_of_ne hthread] at hread
    rw [hothers t' hthread]
    exact h.read t' newTimestamp hread

/-- A thread that has counted holds no timestamp. -/
theorem Told.increment (h : Told start history s) {t : Thread} {stage : RateStage} {grpcRecvNum : Int32}
    (hstage : stage.newTimestamp = none) :
    Told start (.increment t :: history) ({ s with grpcRecvNum }.moved t stage) := by
  constructor
  case read =>
    apply h.read_moved
    · exact fun _ _ => rfl
    · intro held hheld
      rw [hstage] at hheld
      cases hheld
  case stored => exact h.stored

/-- After `get_timestamp_ms` the thread's last reading is the one it holds. -/
theorem Told.readClock (h : Told start history s) (t : Thread) (newTimestamp : UInt64) :
    Told start (.readClock t newTimestamp :: history)
      ({ s with clock := newTimestamp }.moved t (.dividing newTimestamp)) := by
  constructor
  case read =>
    apply h.read_moved
    · exact fun t' hne => if_neg hne.symm
    · intro held hheld
      cases hheld
      exact if_pos rfl
  case stored => exact h.stored

/-- A thread that has divided holds the timestamp it has divided by. -/
theorem Told.divide (h : Told start history s) {t : Thread} {newTimestamp r : UInt64}
    (hstage : s.stages t = .dividing newTimestamp) :
    Told start (.divide t :: history) (s.moved t (.storing newTimestamp r)) := by
  constructor
  case read =>
    apply h.read_moved
    · exact fun _ _ => rfl
    · intro held hheld
      cases hheld
      exact h.read t newTimestamp (by rw [hstage]; rfl)
  case stored => exact h.stored

/-- After the store the timestamp kept is the reading of the thread that has stored. -/
theorem Told.store (h : Told start history s) {t : Thread} {newTimestamp r : UInt64}
    (hstage : s.stages t = .storing newTimestamp r) (rates : List UInt64) :
    Told start (.store t :: history)
      ({ s with grpcLastTimestamp := newTimestamp, rates }.moved t .counting) := by
  have hread : lastRead t history = some newTimestamp := h.read t newTimestamp (by rw [hstage]; rfl)
  constructor
  case read =>
    apply h.read_moved
    · exact fun _ _ => rfl
    · exact fun _ hnone => by cases hnone
  case stored => exact (congrArg (fun reading => reading.getD start) hread).symm

/-- A division traps when the steps tell that it is by the timestamp kept. -/
theorem Told.apart_divide_iff (h : Told start history s) {t : Thread} {newTimestamp : UInt64}
    (hstage : s.stages t = .dividing newTimestamp) :
    Apart start history (.divide t) ↔ rate newTimestamp s.grpcLastTimestamp ≠ none := by
  have hread : lastRead t history = some newTimestamp := h.read t newTimestamp (by rw [hstage]; rfl)
  simp [Apart, hread, rate_eq_none_iff, h.stored]

/-- No step but a division by the timestamp kept traps. -/
theorem Told.trapped_iff (h : Told start history s) {tick : Tick Thread} (hstep : Advanced s tick s') :
    s'.Running ↔ Apart start history tick := by
  cases hstep with
  | increments hrunning | readsClock hrunning | stores hrunning =>
    exact iff_of_true hrunning (by simp [Apart])
  | divides hrunning hstage hrate =>
    rw [h.apart_divide_iff hstage, hrate]
    exact iff_of_true hrunning (Option.some_ne_none _)
  | traps hrunning hstage hrate =>
    rw [h.apart_divide_iff hstage, hrate]
    simp [AsyncStatistics.Running]

/-- As long as the process runs, the steps tell the same of it. -/
theorem Told.step (h : Told start history s) {tick : Tick Thread} (hstep : Advanced s tick s')
    (hrunning' : s'.Running) : Told start (tick :: history) s' := by
  cases hstep with
  | increments => exact h.increment (by split <;> rfl)
  | readsClock => exact h.readClock _ _
  | divides _ hstage _ => exact h.divide hstage
  | traps => cases hrunning'
  | stores _ hstage => exact h.store hstage _

end Steps

/-- No thread has begun its statistics; the counter, the timestamp and the clock have any value. -/
structure AsyncStatistics.Started (s : AsyncStatistics Thread) : Prop where
  counting : ∀ t, s.stages t = .counting
  running : s.Running

/-- The threads take steps in any order, each with the state it leads to. -/
abbrev AsyncRun (s : AsyncStatistics Thread) (trail : List (Tick Thread × AsyncStatistics Thread)) : Prop :=
  Trail (fun s tick s' => s.advance tick = some s') s trail

/-- Before the first step there is nothing to tell but the timestamp at the start. -/
theorem AsyncStatistics.Started.told {s : AsyncStatistics Thread} (h : s.Started) :
    Told s.grpcLastTimestamp [] s := by
  constructor
  case read =>
    intro t newTimestamp hread
    rw [h.counting t] at hread
    cases hread
  case stored => rfl

/-- No division traps exactly when no thread divides while the timestamp kept is its own reading. -/
theorem AsyncRun.never_trapped_iff {s : AsyncStatistics Thread}
    {trail : List (Tick Thread × AsyncStatistics Thread)} (h : AsyncRun s trail) (hstarted : s.Started) :
    (∀ entry ∈ trail, entry.2.Running) ↔
      EachLabel (Apart s.grpcLastTimestamp) (trail.map Prod.fst) := by
  refine Trail.always_iff_eachLabel ?_ ?_ h hstarted.told
  · intro history s₁ tick s₂ htold hstep
    exact htold.trapped_iff (advanced_of_advance hstep)
  · intro history s₁ tick s₂ htold hstep hrunning
    exact htold.step (advanced_of_advance hstep) hrunning

end Asynchronous

/-- The divisors of both services: the synchronous one takes samples at different times, the
asynchronous one never divides by the timestamp it has just kept. -/
theorem divisors_nonzero_iff (service : XrpcServiceimpl) (readings : List UInt64) {Thread : Type}
    [DecidableEq Thread] (s : AsyncStatistics Thread) (trail : List (Tick Thread × AsyncStatistics Thread))
    (hstarted : s.Started) (hrun : AsyncRun s trail) :
    ((service.calls readings).isSome ↔
      (service.lastTimestamp :: samples service.callNum readings).IsChain (· ≠ ·)) ∧
    ((∀ entry ∈ trail, entry.2.Running) ↔ EachLabel (Apart s.grpcLastTimestamp) (trail.map Prod.fst)) :=
  ⟨isSome_calls_iff service readings, hrun.never_trapped_iff hstarted⟩

section Sample

/-- The asynchronous service after 1000 calls, a sample taken at this time. -/
def sampleStatistics : AsyncStatistics (Fin 6) :=
  ⟨1000, 1700000000000, 1700000000000, fun _ => .counting, [], false⟩

/-- No thread is in the statistics there. -/
theorem sampleStatistics_started : sampleStatistics.Started := ⟨fun _ => rfl, rfl⟩

/-- Both services divide by zero when 1000 calls come within one millisecond. -/
theorem divisor_zero :
    ((⟨999, 0, []⟩ : XrpcServiceimpl).calls (List.replicate 1001 1700000000000)).isSome = false ∧
      ∃ s₁ s₂ s₃, AsyncRun sampleStatistics
        [(.increment 0, s₁), (.readClock 0 1700000000000, s₂), (.divide 0, s₃)] ∧ ¬s₃.Running :=
  ⟨by decide +kernel, _, _, _, .cons rfl (.cons rfl (.cons rfl (.nil _))), Bool.false_ne_true ∘ Eq.symm⟩

/-- Four milliseconds later the divisions are harmless. -/
theorem divisors_nonzero_iff_sample :
    ((⟨999, 1700000000000, []⟩ : XrpcServiceimpl).calls [1700000000004]).isSome ∧
      EachLabel (Apart 1700000000000)
        [Tick.increment (0 : Fin 6), .readClock 0 1700000000004, .divide 0, .store 0] := by
  have hrun : ∃ s₁ s₂ s₃ s₄, AsyncRun sampleStatistics
      [(.increment 0, s₁), (.readClock 0 1700000000004, s₂), (.divide 0, s₃), (.store 0, s₄)] ∧
        s₁.Running ∧ s₂.Running ∧ s₃.Running ∧ s₄.Running :=
    ⟨_, _, _, _, .cons rfl (.cons rfl (.cons rfl (.cons rfl (.nil _)))), rfl, rfl, rfl, rfl⟩
  obtain ⟨s₁, s₂, s₃, s₄, hrun, h₁, h₂, h₃, h₄⟩ := hrun
  obtain ⟨hcalls, htrail⟩ := divisors_nonzero_iff ⟨999, 1700000000000, []⟩ [1700000000004] sampleStatistics _
    sampleStatistics_started hrun
  exact ⟨hcalls.mpr (by decide), htrail.mp (by simp [h₁, h₂, h₃, h₄])⟩

end Sample

end XrpcServer.Grpc
