import XrpcServer.Grpc.Stages
import XrpcServer.Interaction.Ledger
import Mathlib.Algebra.BigOperators.Group.Finset.Piecewise

/-!
# The lifetime of a call

Every live `CallData` is in one place: held by one call of `Proceed`, or named by one operation on
the completion queue. So no thread finds its object changed or deleted by another one, whatever is
delivered when, and the stage of the object is known from where it is.
-/

namespace XrpcServer.Grpc

open XrpcServer.Text XrpcServer.Interaction XrpcServer.Handler

/-- The thread finds its objects in the right stages, and owes what it has yet to post. -/
structure Worker.Fits (lib : Externals) (objects : ℕ → CallData) (w : Worker) : Prop where
  expects : ∀ frame ∈ w.stack, ∀ p, frame.holds = some p → frame.Expects lib (objects p)
  owes : w.owes.toNat = dues objects w.stack
  new : w.begun = false → w.stack = []

/-- A thread depends on the objects it holds only. -/
theorem Worker.Fits.congr {lib : Externals} {objects objects' : ℕ → CallData} {w : Worker}
    (h : w.Fits lib objects) (hagree : ∀ p, 0 < held w.stack p → objects' p = objects p) :
    w.Fits lib objects' where
  expects frame hmem p hholds := by
    rw [hagree p (held_pos hmem hholds)]
    exact h.expects frame hmem p hholds
  owes := h.owes.trans (dues_congr hagree).symm
  new := h.new

/-- What a thread holds, it holds in its innermost call or in the ones behind it. -/
theorem held_worker {w : Worker} {begun owes : Bool} {frame : Frame} {rest : List Frame}
    (hworker : w = ⟨begun, owes, frame :: rest⟩) (r : ℕ) : held w.stack r = held [frame] r + held rest r := by
  rw [hworker]
  exact held_append [frame] rest r

/-- A debt that is paid is owed no more. -/
theorem toNat_pay {owes pays : Bool} (h : pays.toNat ≤ owes.toNat) :
    (owes && !pays).toNat + pays.toNat = owes.toNat := by
  revert h
  cases owes <;> cases pays <;> decide

/-- A registration is owed until it is posted. -/
theorem Worker.Fits.owes_proceeds {lib : Externals} {sh sh' : Shared} {begun owes : Bool} {frame : Frame}
    {frames rest : List Frame} (h : (Worker.mk begun owes (frame :: rest)).Fits lib sh.objects)
    (heffect : frame.Effect lib sh frames sh') :
    (owes && !frame.registers).toNat + frame.registers.toNat = owes.toNat ∧
      owes.toNat = dues sh'.objects frames + frame.registers.toNat + dues sh.objects rest := by
  have howes : owes.toNat = dues sh.objects [frame] + dues sh.objects rest :=
    h.owes.trans (dues_append _ [frame] rest)
  rw [← heffect.dues_add] at howes
  exact ⟨toNat_pay (by omega), howes⟩

section Systems

variable {Thread : Type*} [Fintype Thread] {lib : Externals}

/-- The threads between creating a `CallData` initially, or taking the event of a new request, and
posting the registration. -/
def System.owing (s : System Thread) : ℕ := (Finset.univ.filter fun t => (s.workers t).owes = true).card

/-- The threads that have begun their initial `new CallData`. -/
def System.started (s : System Thread) : ℕ :=
  (Finset.univ.filter fun t => (s.workers t).begun = true).card

/-- What holds in every state, whatever is scheduled. -/
structure Invariant (lib : Externals) (s : System Thread) : Prop where
  custody : Balanced (fun t => held (s.workers t).stack) s.shared.posted s.shared.units
  fits : ∀ t, (s.workers t).Fits lib s.shared.objects
  operations : ∀ op ∈ s.shared.queue, op.Expects lib (s.shared.objects op.tag)
  deleted : ∀ p, p < s.shared.allocated → (s.shared.objects p).deletions ≠ 0 →
    (s.shared.objects p).At lib .deleted
  slots : Balanced (fun t (_ : Unit) => (s.workers t).owes.toNat) (fun _ => s.shared.registrations)
    (fun _ => s.started)

variable {s : System Thread}

/-- The object of an operation lives, and no thread holds it. -/
theorem Invariant.posted_only (hs : Invariant lib s) {op : Operation} (hop : op ∈ s.shared.queue) :
    s.shared.Live op.tag ∧ s.shared.posted op.tag = 1 ∧ ∀ t, held (s.workers t).stack op.tag = 0 := by
  obtain ⟨hunits, hrest⟩ := hs.custody.pooled_only (Shared.units_le_one op.tag) (Shared.posted_pos hop)
  exact ⟨Shared.units_pos.mp (by omega), hrest⟩

/-- No thread has begun, no object exists. -/
theorem Invariant.initial : Invariant lib (.initial Thread) where
  custody := by
    intro r
    simp [System.initial, held, Shared.posted, Shared.units, Shared.Live]
  fits _ := ⟨fun frame hmem => absurd hmem (List.not_mem_nil), rfl, fun _ => rfl⟩
  operations op hop := absurd hop (Multiset.notMem_zero op)
  deleted p hp := absurd hp (Nat.not_lt_zero p)
  slots := by
    intro _
    simp [System.initial, System.started, Shared.registrations]

/-- A request comes in. -/
theorem Invariant.arrives (hs : Invariant lib s) {p : ℕ} {queue : Multiset Operation} {request : Bytes}
    (hqueue : s.shared.queue = .registration p ::ₘ queue) :
    Invariant lib ⟨s.shared.arrive p request queue, s.workers⟩ := by
  have hmem : Operation.registration p ∈ s.shared.queue := hqueue ▸ Multiset.mem_cons_self _ queue
  obtain ⟨hlive, hposted, hnobody⟩ := hs.posted_only hmem
  obtain ⟨hstatus, hreceived, hfinished, hdeletions⟩ := hs.operations _ hmem
  refine ⟨?_, ?_, ?_, ?_, ?_⟩
  · intro r
    rw [Shared.posted_arrive hqueue, Shared.units_arrive]
    exact hs.custody r
  · intro t
    apply (hs.fits t).congr
    intro r hheld
    apply Shared.arrive_objects_of_ne
    rintro rfl
    exact hheld.ne' (hnobody t)
  · intro op hop
    rcases Multiset.mem_cons.mp hop with rfl | hop
    · change CallData.At lib ((s.shared.arrive p request queue).objects p) .received
      rw [Shared.arrive_objects_self]
      exact ⟨hstatus, congrArg (· ++ [request]) hreceived, hfinished, hdeletions⟩
    · have hne : op.tag ≠ p := by
        rintro rfl
        have hleft : 0 < (s.shared.leave queue).posted op.tag := Shared.posted_pos hop
        have hboth : s.shared.posted op.tag = (s.shared.leave queue).posted op.tag + 1 :=
          (Shared.posted_of_cons hqueue op.tag).trans (congrArg _ (if_pos rfl))
        have hone : s.shared.posted op.tag = 1 := hposted
        omega
      rw [Shared.arrive_objects_of_ne hne]
      exact hs.operations op (hqueue ▸ Multiset.mem_cons_of_mem hop)
  · intro r hr hdeleted
    by_cases hne : r = p
    · rw [hne, Shared.arrive_objects_self] at hdeleted
      exact absurd hlive.2 hdeleted
    · rw [Shared.arrive_objects_of_ne hne] at hdeleted ⊢
      exact hs.deleted r hr hdeleted
  · intro _
    rw [Shared.registrations_arrive hqueue]
    exact hs.slots ()

variable [DecidableEq Thread]

/-- A thread only holds live objects, and holds them alone. -/
theorem Invariant.held_only (hs : Invariant lib s) {t : Thread} {p : ℕ}
    (hheld : 0 < held (s.workers t).stack p) : s.shared.Live p ∧ held (s.workers t).stack p = 1 ∧
      s.shared.posted p = 0 ∧ ∀ t', t' ≠ t → held (s.workers t').stack p = 0 := by
  obtain ⟨hunits, hrest⟩ := hs.custody.held_only (Shared.units_le_one p) hheld
  exact ⟨Shared.units_pos.mp (by omega), hrest⟩

/-- A thread that conserves what it has and writes no object of others keeps the invariant. -/
theorem Invariant.moved (hs : Invariant lib s) {t : Thread} {w : Worker} {sh : Shared}
    (hconserved : ∀ r, held w.stack r + sh.posted r + s.shared.units r =
      held (s.workers t).stack r + s.shared.posted r + sh.units r)
    (hfits : w.Fits lib sh.objects)
    (hagree : ∀ r, s.shared.Live r → held (s.workers t).stack r = 0 → sh.objects r = s.shared.objects r)
    (hoperations : ∀ op ∈ sh.queue, op ∈ s.shared.queue ∨ op.Expects lib (sh.objects op.tag))
    (hdeleted : ∀ r, r < sh.allocated → (sh.objects r).deletions ≠ 0 → (sh.objects r).At lib .deleted)
    (hslots : w.owes.toNat + sh.registrations + s.started =
      (s.workers t).owes.toNat + s.shared.registrations + (s.moved t w sh).started) :
    Invariant lib (s.moved t w sh) where
  custody := by
    apply hs.custody.move t
    · intro t' hne
      rw [System.moved_of_ne hne]
    · intro r
      rw [System.moved_self]
      exact hconserved r
  fits := by
    intro t'
    by_cases hne : t' = t
    · rw [hne, System.moved_self]
      exact hfits
    · rw [System.moved_of_ne hne]
      apply (hs.fits t').congr
      intro p hheld
      obtain ⟨hlive, -, -, hothers⟩ := hs.held_only hheld
      exact hagree p hlive (hothers t (Ne.symm hne))
  operations := by
    intro op hop
    rcases hoperations op hop with hbefore | hexpects
    · obtain ⟨hlive, -, hnobody⟩ := hs.posted_only hbefore
      change op.Expects lib (sh.objects op.tag)
      rw [hagree op.tag hlive (hnobody t)]
      exact hs.operations op hbefore
    · exact hexpects
  deleted := hdeleted
  slots := by
    apply hs.slots.move t
    · intro t' hne
      rw [System.moved_of_ne hne]
    · intro _
      rw [System.moved_self]
      exact hslots

/-- The number of threads that have begun changes only when one begins. -/
theorem System.started_moved {t : Thread} {w : Worker} {sh : Shared}
    (hbegun : w.begun = (s.workers t).begun) : (s.moved t w sh).started = s.started := by
  apply congrArg Finset.card
  apply Finset.filter_congr
  intro t' _
  by_cases hne : t' = t
  · rw [hne, System.moved_self, hbegun]
  · rw [System.moved_of_ne hne]

/-- One more thread has begun. -/
theorem System.started_begins {t : Thread} {w : Worker} {sh : Shared} (hbegun : w.begun = true)
    (hnew : (s.workers t).begun = false) : (s.moved t w sh).started = s.started + 1 := by
  have hnot : t ∉ Finset.univ.filter fun t => (s.workers t).begun = true := by
    simp [hnew]
  rw [System.started, System.started, ← Finset.card_insert_of_notMem hnot]
  apply congrArg Finset.card
  ext t'
  by_cases hne : t' = t
  · simp [hne, System.moved_self, hbegun]
  · simp [hne, System.moved_of_ne hne]

/-- A thread begins. -/
theorem Invariant.begins (hs : Invariant lib s) {t : Thread} (hnew : (s.workers t).begun = false) :
    Invariant lib (s.moved t ⟨true, true, [.proceed s.shared.allocated]⟩ s.shared.allocate) := by
  have hstack := (hs.fits t).new hnew
  have howes := (hs.fits t).owes
  rw [hstack] at howes
  have hnothing : ∀ r, held (s.workers t).stack r = 0 := by
    intro r
    rw [hstack]
    rfl
  have hcreated : s.shared.allocate.objects s.shared.allocated = .constructed := Shared.allocate_objects_self
  apply hs.moved
  · intro r
    have hholds : held [.proceed s.shared.allocated] r = if r = s.shared.allocated then 1 else 0 :=
      held_singleton rfl r
    have hposted : s.shared.allocate.posted r = s.shared.posted r := rfl
    rw [hnothing, hholds, hposted, Shared.units_allocate]
    omega
  · refine ⟨?_, ?_, nofun⟩
    · intro frame hmem p hholds
      obtain rfl := List.mem_singleton.mp hmem
      obtain rfl := Option.some.inj hholds
      rw [hcreated]
      exact Or.inl ⟨rfl, rfl, rfl, rfl⟩
    · rw [dues_singleton (p := s.shared.allocated) rfl, hcreated]
      rfl
  · intro r hlive _
    exact Shared.allocate_objects_of_ne hlive.1.ne
  · intro op hop
    exact Or.inl hop
  · intro r hr hdeletions
    by_cases hne : r = s.shared.allocated
    · rw [hne, hcreated] at hdeletions
      exact absurd rfl hdeletions
    · rw [Shared.allocate_objects_of_ne hne] at hdeletions ⊢
      exact hs.deleted r (lt_of_le_of_ne (Nat.le_of_lt_succ hr) hne) hdeletions
  · have hregistrations : s.shared.allocate.registrations = s.shared.registrations := rfl
    rw [System.started_begins rfl hnew, hregistrations, howes]
    simp [dues]
    omega

section Proceeds

variable {t : Thread} {begun owes : Bool} {frame : Frame} {frames rest : List Frame} {sh : Shared}
  {answer : (op : Op) → Reply op} {now : UInt64}

/-- The innermost call holds a live object. -/
theorem Invariant.live_of_holds (hs : Invariant lib s)
    (hworker : s.workers t = ⟨begun, owes, frame :: rest⟩) {p : ℕ} (hp : frame.holds = some p) :
    s.shared.Live p := by
  have hheld : 0 < held (s.workers t).stack p := by
    rw [held_worker hworker, held_singleton hp, if_pos rfl]
    omega
  exact (hs.held_only hheld).1

/-- The calls behind the innermost one find their objects as they left them. -/
theorem Invariant.rest_agrees (hs : Invariant lib s)
    (hworker : s.workers t = ⟨begun, owes, frame :: rest⟩)
    (hadvance : frame.advance lib answer now s.shared = some (frames, sh)) {p : ℕ} (hp : 0 < held rest p) :
    sh.objects p = s.shared.objects p := by
  have hstack := held_worker hworker p
  obtain ⟨hlive, hone, -⟩ := hs.held_only (t := t) (p := p) (by omega)
  exact Frame.advance_agrees hadvance hlive (by omega)

/-- After its step the thread finds its objects in the right stages. -/
theorem Invariant.fits_proceeds (hs : Invariant lib s)
    (hworker : s.workers t = ⟨begun, owes, frame :: rest⟩)
    (hadvance : frame.advance lib answer now s.shared = some (frames, sh))
    (heffect : frame.Effect lib s.shared frames sh) :
    (Worker.mk begun (owes && !frame.registers) (frames ++ rest)).Fits lib sh.objects := by
  have hfits := hs.fits t
  rw [hworker] at hfits
  refine ⟨?_, ?_, ?_⟩
  · intro next hmem p hp
    rcases List.mem_append.mp hmem with hmem | hmem
    · exact heffect.expects (fun p hp => hs.live_of_holds hworker hp) hmem hp
    · rw [hs.rest_agrees hworker hadvance (held_pos hmem hp)]
      exact hfits.expects next (List.mem_cons_of_mem frame hmem) p hp
  · obtain ⟨hpaid, howes⟩ := hfits.owes_proceeds heffect
    have hrest : dues sh.objects rest = dues s.shared.objects rest :=
      dues_congr fun p hp => hs.rest_agrees hworker hadvance hp
    change (owes && !frame.registers).toNat = dues sh.objects (frames ++ rest)
    rw [dues_append, hrest]
    omega
  · intro hnew
    cases hfits.new hnew

/-- A thread takes one step in `Proceed`. -/
theorem Invariant.proceeds (hs : Invariant lib s)
    (hworker : s.workers t = ⟨begun, owes, frame :: rest⟩)
    (hadvance : frame.advance lib answer now s.shared = some (frames, sh)) :
    Invariant lib (s.moved t ⟨begun, owes && !frame.registers, frames ++ rest⟩ sh) := by
  have hfits := hs.fits t
  rw [hworker] at hfits
  have hlive : ∀ p, frame.holds = some p → s.shared.Live p := fun p hp => hs.live_of_holds hworker hp
  have heffect := Frame.advance_effect (hfits.expects frame List.mem_cons_self) hadvance
  apply hs.moved
  · intro r
    have hconserves := heffect.conserves hlive r
    rw [held_append, held_worker hworker]
    omega
  · exact hs.fits_proceeds hworker hadvance heffect
  · intro r hr hnot
    rw [held_worker hworker] at hnot
    exact Frame.advance_agrees hadvance hr (by omega)
  · intro op hop
    exact heffect.operations hop
  · intro r hr hdeletions
    exact heffect.deleted hlive hs.deleted hr hdeletions
  · obtain ⟨hpaid, -⟩ := hfits.owes_proceeds heffect
    rw [System.started_moved (by rw [hworker]), heffect.registrations_eq, hworker]
    change (owes && !frame.registers).toNat + _ + _ = owes.toNat + _ + _
    omega

end Proceeds

/-- A thread takes an event, and with it the object of the operation. -/
theorem Invariant.delivers (hs : Invariant lib s) {t : Thread} {owes : Bool} {op : Operation}
    {queue : Multiset Operation} {frame : Frame} (hworker : s.workers t = ⟨true, owes, []⟩)
    (hqueue : s.shared.queue = op ::ₘ queue) (hholds : frame.holds = some op.tag)
    (hexpects : frame.Expects lib (s.shared.objects op.tag))
    (hdue : frame.due (s.shared.objects op.tag) = op.isRegistration.toNat) :
    Invariant lib (s.moved t ⟨true, owes || op.isRegistration, [frame]⟩ (s.shared.leave queue)) := by
  have hfits := hs.fits t
  rw [hworker] at hfits
  have howes : owes.toNat = 0 := hfits.owes
  have hfree : owes = false := Bool.toNat_eq_zero.mp howes
  apply hs.moved
  · intro r
    have hheld : held [frame] r = if r = op.tag then 1 else 0 := held_singleton hholds r
    have hidle : held (s.workers t).stack r = 0 := by
      rw [hworker]
      rfl
    have hunits : (s.shared.leave queue).units r = s.shared.units r := rfl
    rw [hheld, hidle, hunits, Shared.posted_of_cons hqueue]
    omega
  · refine ⟨?_, ?_, nofun⟩
    · intro next hmem p hp
      obtain rfl := List.mem_singleton.mp hmem
      obtain rfl := Option.some.inj (hholds.symm.trans hp)
      exact hexpects
    · rw [dues_singleton hholds, hfree]
      exact hdue.symm
  · intro r _ _
    rfl
  · intro op' hop'
    exact Or.inl (hqueue ▸ Multiset.mem_cons_of_mem hop')
  · exact hs.deleted
  · rw [System.started_moved (by rw [hworker]), hworker, hfree, Shared.registrations_of_cons hqueue]
    change op.isRegistration.toNat + _ + _ = 0 + _ + _
    omega

/-- A thread takes an event that is `ok`. -/
theorem Invariant.takes (hs : Invariant lib s) {t : Thread} {owes : Bool} {op : Operation}
    {queue : Multiset Operation} (hworker : s.workers t = ⟨true, owes, []⟩)
    (hcompleted : op.completed = true) (hqueue : s.shared.queue = op ::ₘ queue) :
    Invariant lib (s.moved t ⟨true, owes || op.isRegistration, [.proceed op.tag]⟩
      (s.shared.leave queue)) := by
  have hop := hs.operations op (hqueue ▸ Multiset.mem_cons_self op queue)
  have hstage : (Frame.proceed op.tag).Expects lib (s.shared.objects op.tag) ∧
      (Frame.proceed op.tag).due (s.shared.objects op.tag) = op.isRegistration.toNat := by
    cases op with
    | registration p => cases hcompleted
    | arrived p => exact ⟨Or.inr (Or.inl hop), if_neg (by rw [hop.1]; decide)⟩
    | finish p => exact ⟨Or.inr (Or.inr hop), if_pos hop.1⟩
  exact hs.delivers hworker hqueue rfl hstage.1 hstage.2

/-- A thread takes an event that is not. -/
theorem Invariant.fails (hs : Invariant lib s) {t : Thread} {owes : Bool} {p : ℕ} {queue : Multiset Operation}
    (hworker : s.workers t = ⟨true, owes, []⟩) (hqueue : s.shared.queue = .finish p ::ₘ queue) :
    Invariant lib (s.moved t ⟨true, owes, [.aborted p]⟩ (s.shared.leave queue)) := by
  have hfinished := hs.operations _ (hqueue ▸ Multiset.mem_cons_self (Operation.finish p) queue)
  have h : Invariant lib (s.moved t ⟨true, owes || false, [.aborted p]⟩ (s.shared.leave queue)) :=
    hs.delivers hworker hqueue rfl hfinished rfl
  rwa [Bool.or_false] at h

/-- The invariant holds in every reachable state. -/
theorem Reachable.invariant (h : Reachable lib s) : Invariant lib s := by
  induction h with
  | refl => exact .initial
  | tail _ hstep ih =>
    cases hstep with
    | begins hnew => exact ih.begins hnew
    | proceeds answer now hworker hadvance => exact ih.proceeds hworker hadvance
    | takes hworker hcompleted hqueue => exact ih.takes hworker hcompleted hqueue
    | fails hworker hqueue => exact ih.fails hworker hqueue
    | arrives request hqueue => exact ih.arrives hqueue

end Systems

/-- At most one request is stored in the object, at most one reply to it is posted, and the object
is deleted once at most, after that. -/
structure CallData.Once (lib : Externals) (c : CallData) : Prop where
  received : c.received.length ≤ 1
  finished : c.finished.length ≤ c.received.length
  computed : ∀ reply ∈ c.finished, ∃ request, c.received = [request] ∧
    Computes lib request c.performed reply
  deleted : c.deletions ≤ 1
  answered : c.deletions ≠ 0 → c.finished.length = 1

/-- Whatever the stage, nothing has happened twice. -/
theorem CallData.At.once {lib : Externals} {c : CallData} {stage : Stage} (h : c.At lib stage) :
    c.Once lib := by
  cases stage with
  | created | registered =>
    obtain ⟨-, hreceived, hfinished, hdeletions⟩ := h
    constructor <;> simp [hreceived, hfinished, hdeletions]
  | received =>
    obtain ⟨-, hreceived, hfinished, hdeletions⟩ := h
    constructor <;> simp [hreceived, hfinished, hdeletions]
  | replied | finishing =>
    obtain ⟨-, hreceived, hfinished, hdeletions, -⟩ := h
    constructor <;> simp [hreceived, hfinished, hdeletions]
  | finished | deleted =>
    obtain ⟨-, hreceived, hfinished, hdeletions, hcomputes⟩ := h
    constructor <;> simp [hreceived, hfinished, hdeletions, hcomputes]

/-- The object at a position is in some stage. -/
theorem Frame.Expects.exists_stage {lib : Externals} {frame : Frame} {c : CallData} {p : ℕ}
    (hholds : frame.holds = some p) (h : frame.Expects lib c) : ∃ stage, c.At lib stage := by
  cases frame with
  | proceed _ => rcases h with h | h | h <;> exact ⟨_, h⟩
  | claim _ => exact ⟨.created, h⟩
  | register _ => exact ⟨.registered, h⟩
  | testProcess _ => rcases h with h | h <;> exact ⟨_, h⟩
  | spawn _ | readRequest _ => exact ⟨.received, h⟩
  | handle _ _ _ | writeReply _ _ _ => exact ⟨.received, h.1⟩
  | statistics _ _ | trapped _ | markFinish _ => exact ⟨.replied, h⟩
  | postFinish _ => exact ⟨.finishing, h⟩
  | assertFinish _ | release _ | aborted _ => exact ⟨.finished, h⟩
  | returning => cases hholds

/-- The object of an operation is in some stage. -/
theorem Operation.Expects.exists_stage {lib : Externals} {op : Operation} {c : CallData}
    (h : op.Expects lib c) : ∃ stage, c.At lib stage := by
  cases op with
  | registration _ => exact ⟨.registered, h⟩
  | arrived _ => exact ⟨.received, h⟩
  | finish _ => exact ⟨.finished, h⟩

section Calls

variable {Thread : Type*} [Fintype Thread] {lib : Externals} {s : System Thread}

/-- Every object is in some stage. -/
theorem Invariant.exists_stage (hs : Invariant lib s) {p : ℕ} (hp : p < s.shared.allocated) :
    ∃ stage, (s.shared.objects p).At lib stage := by
  by_cases hdeletions : (s.shared.objects p).deletions = 0
  · rcases hs.custody.exists_place (Shared.units_pos.mpr ⟨hp, hdeletions⟩) with ⟨t, hheld⟩ | hposted
    · obtain ⟨frame, hmem, hholds⟩ := exists_held hheld
      exact ((hs.fits t).expects frame hmem p hholds).exists_stage hholds
    · obtain ⟨op, hop, rfl⟩ := Shared.exists_posted hposted
      exact (hs.operations op hop).exists_stage
  · exact ⟨.deleted, hs.deleted p hp hdeletions⟩

/-- What the calls live by: the assertion of `Proceed` holds, its steps touch live objects only,
nothing happens twice to an object, and each thread keeps one registration up. -/
structure Sound (lib : Externals) (s : System Thread) : Prop where
  asserts : ∀ t p rest, (s.workers t).stack = .assertFinish p :: rest →
    (s.shared.objects p).status = .finish
  touches : ∀ t frame rest p, (s.workers t).stack = frame :: rest → frame.touches = some p →
    s.shared.Live p
  once : ∀ p, p < s.shared.allocated → (s.shared.objects p).Once lib
  registrations : s.shared.registrations + s.owing = s.started

/-- The threads that owe a registration, counted one by one. -/
theorem System.owing_eq_sum (s : System Thread) : s.owing = ∑ t, (s.workers t).owes.toNat := by
  rw [owing, Finset.card_filter]
  apply Finset.sum_congr rfl
  intro t _
  cases (s.workers t).owes <;> rfl

variable [DecidableEq Thread]

/-- However many threads there are and whatever they do when, the calls live correctly. -/
theorem reachable_sound (lib : Externals) (s : System Thread) (h : Reachable lib s) : Sound lib s := by
  have hs := h.invariant
  refine ⟨?_, ?_, ?_, ?_⟩
  · intro t p rest hstack
    have hmem : Frame.assertFinish p ∈ (s.workers t).stack := hstack ▸ List.mem_cons_self
    exact ((hs.fits t).expects _ hmem p rfl).1
  · intro t frame rest p hstack htouches
    have hmem : frame ∈ (s.workers t).stack := hstack ▸ List.mem_cons_self
    exact (hs.held_only (held_pos hmem (Frame.holds_of_touches htouches))).1
  · intro p hp
    obtain ⟨stage, hstage⟩ := hs.exists_stage hp
    exact hstage.once
  · rw [System.owing_eq_sum, Nat.add_comm]
    exact hs.slots ()

end Calls

section Sample

variable {Thread : Type*} [DecidableEq Thread] {lib : Externals}

/-- A thread takes steps in `Proceed` while nothing else moves, and the clock stands still. -/
def System.alone (lib : Externals) (answer : (op : Op) → Reply op) (now : UInt64) (t : Thread) :
    ℕ → System Thread → Option (System Thread)
  | 0, s => some s
  | n + 1, s =>
    match s.workers t with
    | ⟨_, _, []⟩ => none
    | ⟨begun, owes, frame :: rest⟩ => (frame.advance lib answer now s.shared).bind fun next =>
      (s.moved t ⟨begun, owes && !frame.registers, next.1 ++ rest⟩ next.2).alone lib answer now t n

/-- A thread may be scheduled alone. -/
theorem Reachable.alone {s s' : System Thread} (h : Reachable lib s) (answer : (op : Op) → Reply op)
    (now : UInt64) (t : Thread) (n : ℕ) (halone : s.alone lib answer now t n = some s') : Reachable lib s' := by
  induction n generalizing s with
  | zero =>
    cases halone
    exact h
  | succ n ih =>
    rw [System.alone] at halone
    split at halone
    · cases halone
    · next begun owes frame rest hworker =>
      obtain ⟨next, hadvance, hrest⟩ := Option.bind_eq_some_iff.mp halone
      exact ih (h.tail (.proceeds answer now hworker hadvance)) hrest

/-- A thread serves one request. -/
theorem reachable_sound_sample : ∃ s : System (Fin 6),
    (s.shared.objects 0).deletions = 1 ∧ Sound sampleExternals s := by
  have h : Reachable sampleExternals (.initial (Fin 6)) := .refl
  have h := h.tail (.begins (t := 0) rfl)
  have h := Reachable.alone h sampleWorld.answer 1 0 3 rfl
  -- The request comes in before `Requestcall` has returned.
  have h := h.tail (.arrives (p := 0) [] (show _ = Operation.registration 0 ::ₘ 0 from rfl))
  have h := Reachable.alone h sampleWorld.answer 1 0 1 rfl
  have h := h.tail (.takes (t := 0) rfl rfl (show _ = Operation.arrived 0 ::ₘ 0 from rfl))
  have h := Reachable.alone h sampleWorld.answer 1 0 17 rfl
  have h := h.tail (.takes (t := 0) rfl rfl
    (show _ = Operation.finish 0 ::ₘ Operation.registration 1 ::ₘ 0 from rfl))
  have h := Reachable.alone h sampleWorld.answer 1 0 4 rfl
  exact ⟨_, rfl, reachable_sound sampleExternals _ h⟩

end Sample

end XrpcServer.Grpc
