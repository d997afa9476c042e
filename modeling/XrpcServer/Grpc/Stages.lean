import XrpcServer.Grpc.CallData

/-!
# The stages of a call

A `CallData` goes through the same stages whatever is scheduled. Each position in `Proceed` and
each operation is reserved for objects in certain stages, and a step of `Proceed` has one of six
effects: it goes on with its object, keeps the statistics, hands its object to the runtime, creates
another one, deletes its object, or returns.
-/

namespace XrpcServer.Grpc

open XrpcServer.Text XrpcServer.Interaction XrpcServer.Handler

/-- The handler computes this reply from the request by performing these operations. -/
def Computes (lib : Externals) (request : Bytes) (performed : List HandlerEvent) (reply : Bytes) : Prop :=
  ∃ final, (serve lib request (HandlerState.initial lib)).Yields performed (.ok reply, final)

/-- There is one reply to a request, given what its handler was told. -/
theorem Computes.unique {lib : Externals} {request reply reply' : Bytes} {performed : List HandlerEvent}
    (h : Computes lib request performed reply) (h' : Computes lib request performed reply') :
    reply = reply' := by
  obtain ⟨final, hyields⟩ := h
  obtain ⟨final', hyields'⟩ := h'
  have heq := hyields.unique hyields'
  cases heq
  rfl

/-- How far a call has come. -/
inductive Stage where
  | created
  | registered
  | received
  | replied
  | finishing
  | finished
  | deleted

/-- What the object has to show for its stage. -/
def CallData.At (lib : Externals) (c : CallData) : Stage → Prop
  | .created => c.status = .create ∧ c.received = [] ∧ c.finished = [] ∧ c.deletions = 0
  | .registered => c.status = .process ∧ c.received = [] ∧ c.finished = [] ∧ c.deletions = 0
  | .received => c.status = .process ∧ c.received = [c.request] ∧ c.finished = [] ∧ c.deletions = 0
  | .replied => c.status = .process ∧ c.received = [c.request] ∧ c.finished = [] ∧ c.deletions = 0 ∧
    Computes lib c.request c.performed c.reply
  | .finishing => c.status = .finish ∧ c.received = [c.request] ∧ c.finished = [] ∧ c.deletions = 0 ∧
    Computes lib c.request c.performed c.reply
  | .finished => c.status = .finish ∧ c.received = [c.request] ∧ c.finished = [c.reply] ∧
    c.deletions = 0 ∧ Computes lib c.request c.performed c.reply
  | .deleted => c.status = .finish ∧ c.received = [c.request] ∧ c.finished = [c.reply] ∧
    c.deletions = 1 ∧ Computes lib c.request c.performed c.reply

/-- The object a call of `Proceed` answers for until it returns or hands the object over. -/
def Frame.holds : Frame → Option ℕ
  | .handle p _ _ | .statistics p _ | .trapped p | .aborted p => some p
  | .returning => none
  | frame => frame.touches

/-- What a position touches, it holds. -/
theorem Frame.holds_of_touches {frame : Frame} {p : ℕ} (h : frame.touches = some p) :
    frame.holds = some p := by
  cases frame with
  | handle _ _ _ | statistics _ _ | trapped _ | aborted _ => cases h
  | _ => exact h

/-- The stages in which an object can be at a position. -/
def Frame.Expects (lib : Externals) : Frame → CallData → Prop
  | .proceed _, c => c.At lib .created ∨ c.At lib .received ∨ c.At lib .finished
  | .claim _, c => c.At lib .created
  | .register _, c => c.At lib .registered
  | .testProcess _, c => c.At lib .received ∨ c.At lib .finished
  | .spawn _, c => c.At lib .received
  | .readRequest _, c => c.At lib .received
  | .handle _ handling performed, c => c.At lib .received ∧ ∀ events result, handling.Yields events result →
    (serve lib c.request (HandlerState.initial lib)).Yields (performed ++ events) result
  | .writeReply _ rsp performed, c => c.At lib .received ∧ Computes lib c.request performed rsp
  | .statistics _ _, c | .trapped _, c | .markFinish _, c => c.At lib .replied
  | .postFinish _, c => c.At lib .finishing
  | .assertFinish _, c => c.At lib .finished
  | .release _, c => c.At lib .finished
  | .aborted _, c => c.At lib .finished
  | .returning, _ => True

/-- The stage in which an object waits for the event of an operation. -/
def Operation.Expects (lib : Externals) : Operation → CallData → Prop
  | .registration _, c => c.At lib .registered
  | .arrived _, c => c.At lib .received
  | .finish _, c => c.At lib .finished

/-- The registrations a call of `Proceed` has yet to post. -/
def Frame.due (c : CallData) : Frame → ℕ
  | .proceed _ | .testProcess _ => if c.status = .finish then 0 else 1
  | .claim _ | .register _ | .spawn _ => 1
  | _ => 0

/-- What a step of `Proceed` does to its object, to the queue, to the other objects, and to the
statistics. -/
inductive Frame.Effect (lib : Externals) (sh : Shared) : Frame → List Frame → Shared → Prop
  | goes {p : ℕ} {frame next : Frame} (f : CallData → CallData) (hholds : frame.holds = some p)
    (hnext : next.holds = some p) (hexpects : next.Expects lib (f (sh.objects p)))
    (hdeletions : (f (sh.objects p)).deletions = (sh.objects p).deletions)
    (hdue : next.due (f (sh.objects p)) = frame.due (sh.objects p)) (hregisters : frame.registers = false) :
    Effect lib sh frame [next] (sh.modify p f)
  | counts {p : ℕ} {frame next : Frame} (f : RateStatistics → RateStatistics) (hholds : frame.holds = some p)
    (hnext : next.holds = some p) (hexpects : next.Expects lib (sh.objects p))
    (hdue : next.due (sh.objects p) = frame.due (sh.objects p)) (hregisters : frame.registers = false) :
    Effect lib sh frame [next] (sh.count f)
  | posts {p : ℕ} {frame : Frame} {op : Operation} (f : CallData → CallData)
    (hholds : frame.holds = some p) (htag : op.tag = p) (hexpects : op.Expects lib (f (sh.objects p)))
    (hdeletions : (f (sh.objects p)).deletions = (sh.objects p).deletions)
    (hdue : frame.due (sh.objects p) = op.isRegistration.toNat)
    (hregisters : frame.registers = op.isRegistration) :
    Effect lib sh frame [.returning] ((sh.modify p f).post op)
  | spawns {p : ℕ} (hexpects : (sh.objects p).At lib .received) :
    Effect lib sh (.spawn p) [.proceed sh.allocated, .readRequest p] sh.allocate
  | releases {p : ℕ} (hexpects : (sh.objects p).At lib .finished) :
    Effect lib sh (.release p) [.returning] (sh.modify p fun c => { c with deletions := c.deletions + 1 })
  | returns : Effect lib sh .returning [] sh

section Advance

variable {lib : Externals} {sh : Shared}

/-- Writing back what is there changes nothing. -/
theorem Shared.modify_id (p : ℕ) : sh.modify p id = sh := by
  rw [Shared.modify, id, Function.update_eq_self]

/-- A step that only moves on is a step that writes nothing. -/
theorem Frame.Effect.stays {p : ℕ} {frame next : Frame} (hholds : frame.holds = some p)
    (hnext : next.holds = some p) (hexpects : next.Expects lib (sh.objects p))
    (hdue : next.due (sh.objects p) = frame.due (sh.objects p)) (hregisters : frame.registers = false) :
    Frame.Effect lib sh frame [next] sh := by
  have h : Frame.Effect lib sh frame [next] (sh.modify p id) :=
    .goes id hholds hnext hexpects rfl hdue hregisters
  rwa [Shared.modify_id] at h

/-- Every step of `Proceed` on an object in the right stage has one of the effects. -/
theorem Frame.advance_effect {answer : (op : Op) → Reply op} {now : UInt64} {frame : Frame}
    {frames : List Frame} {sh' : Shared} (hexpects : ∀ p, frame.holds = some p → frame.Expects lib (sh.objects p))
    (h : frame.advance lib answer now sh = some (frames, sh')) : frame.Effect lib sh frames sh' := by
  cases frame with
  | proceed p =>
    have hstage := hexpects p rfl
    rw [Frame.advance] at h
    split_ifs at h with hstatus <;> cases h
    · have hcreated : (sh.objects p).At lib .created := by
        rcases hstage with hcreated | hreceived | hfinished
        · exact hcreated
        · exact absurd (hreceived.1.symm.trans hstatus) (by decide)
        · exact absurd (hfinished.1.symm.trans hstatus) (by decide)
      exact .stays rfl rfl hcreated (by simp [Frame.due, hstatus]) rfl
    · have htaken : (sh.objects p).At lib .received ∨ (sh.objects p).At lib .finished :=
        hstage.resolve_left fun hcreated => hstatus hcreated.1
      exact .stays rfl rfl htaken rfl rfl
  | claim p =>
    obtain ⟨-, hreceived, hfinished, hdeletions⟩ := hexpects p rfl
    cases h
    exact .goes (p := p) _ rfl rfl ⟨rfl, hreceived, hfinished, hdeletions⟩ rfl rfl rfl
  | register p =>
    cases h
    have hpost : Frame.Effect lib sh (.register p) [.returning] ((sh.modify p id).post (.registration p)) :=
      .posts id rfl rfl (hexpects p rfl) rfl rfl rfl
    rwa [Shared.modify_id] at hpost
  | testProcess p =>
    have hstage := hexpects p rfl
    rw [Frame.advance] at h
    split_ifs at h with hstatus <;> cases h
    · have hreceived : (sh.objects p).At lib .received :=
        hstage.resolve_right fun hfinished => absurd (hfinished.1.symm.trans hstatus) (by decide)
      exact .stays rfl rfl hreceived (by simp [Frame.due, hstatus]) rfl
    · have hfinished : (sh.objects p).At lib .finished :=
        hstage.resolve_left fun hreceived => hstatus hreceived.1
      exact .stays rfl rfl hfinished (by simp [Frame.due, hfinished.1]) rfl
  | spawn p =>
    cases h
    exact .spawns (hexpects p rfl)
  | readRequest p =>
    cases h
    exact .stays (p := p) rfl rfl ⟨hexpects p rfl, fun _ _ hresult => hresult⟩ rfl rfl
  | handle p handling performed =>
    obtain ⟨hreceived, hyields⟩ := hexpects p rfl
    cases handling with
    | call op next =>
      cases h
      have hnext : ∀ events result, (next (answer op)).Yields events result →
          (serve lib (sh.objects p).request (HandlerState.initial lib)).Yields
            (performed ++ [⟨op, answer op⟩] ++ events) result := by
        intro events result hresult
        rw [List.append_assoc]
        exact hyields _ result (.call (answer op) hresult)
      exact .stays (p := p) rfl rfl ⟨hreceived, hnext⟩ rfl rfl
    | ret result =>
      obtain ⟨outcome, final⟩ := result
      cases outcome with
      | error e => cases h
      | ok rsp =>
        cases h
        have hresult := hyields [] _ (.ret _)
        rw [List.append_nil] at hresult
        exact .stays (p := p) rfl rfl ⟨hreceived, final, hresult⟩ rfl rfl
  | writeReply p rsp performed =>
    obtain ⟨⟨hstatus, hreceived, hfinished, hdeletions⟩, hcomputes⟩ := hexpects p rfl
    cases h
    exact .goes (p := p) _ rfl rfl ⟨hstatus, hreceived, hfinished, hdeletions, hcomputes⟩ rfl rfl rfl
  | statistics p stage =>
    have hreplied : (sh.objects p).At lib .replied := hexpects p rfl
    cases stage with
    | counting =>
      cases h
      split
      · exact .counts (p := p) _ rfl rfl hreplied rfl rfl
      · exact .counts (p := p) _ rfl rfl hreplied rfl rfl
    | reading =>
      cases h
      exact .stays (p := p) rfl rfl hreplied rfl rfl
    | dividing newTimestamp =>
      rw [Frame.advance] at h
      split at h <;> cases h
      · exact .stays (p := p) rfl rfl hreplied rfl rfl
      · exact .stays (p := p) rfl rfl hreplied rfl rfl
    | storing newTimestamp r =>
      cases h
      exact .counts (p := p) _ rfl rfl hreplied rfl rfl
  | trapped p | aborted p => cases h
  | markFinish p =>
    obtain ⟨-, hreceived, hfinished, hdeletions, hcomputes⟩ := hexpects p rfl
    cases h
    exact .goes (p := p) _ rfl rfl ⟨rfl, hreceived, hfinished, hdeletions, hcomputes⟩ rfl rfl rfl
  | postFinish p =>
    obtain ⟨hstatus, hreceived, hfinished, hdeletions, hcomputes⟩ := hexpects p rfl
    cases h
    have hposted : (sh.objects p).finished ++ [(sh.objects p).reply] = [(sh.objects p).reply] := by
      rw [hfinished, List.nil_append]
    exact .posts (p := p) _ rfl rfl ⟨hstatus, hreceived, hposted, hdeletions, hcomputes⟩ rfl rfl rfl
  | assertFinish p =>
    have hfinished := hexpects p rfl
    rw [Frame.advance, if_pos hfinished.1] at h
    cases h
    exact .stays (p := p) rfl rfl hfinished rfl rfl
  | release p =>
    cases h
    exact .releases (hexpects p rfl)
  | returning =>
    cases h
    exact .returns

end Advance

namespace Shared

variable {sh : Shared}

/-- How often an object's address is on the queue. -/
def posted (sh : Shared) (r : ℕ) : ℕ := (sh.queue.map Operation.tag).count r

/-- Each live object counts once. -/
def units (sh : Shared) (r : ℕ) : ℕ := if sh.Live r then 1 else 0

/-- No object counts twice. -/
theorem units_le_one (r : ℕ) : sh.units r ≤ 1 := by
  rw [units]
  split <;> omega

/-- An object that counts is live. -/
theorem units_pos {r : ℕ} : 0 < sh.units r ↔ sh.Live r := by
  rw [units]
  split <;> simp_all

/-- Posting an operation puts its address on the queue once more. -/
theorem posted_post (op : Operation) (r : ℕ) :
    (sh.post op).posted r = sh.posted r + if r = op.tag then 1 else 0 := by
  rw [posted, post, Multiset.map_cons, Multiset.count_cons, posted]

/-- Taking an operation from the queue undoes posting it. -/
theorem leave_post {op : Operation} {queue : Multiset Operation} (hqueue : sh.queue = op ::ₘ queue) :
    (sh.leave queue).post op = sh := by
  rw [post, leave, ← hqueue]

/-- Taking an operation takes its address once. -/
theorem posted_of_cons {op : Operation} {queue : Multiset Operation} (hqueue : sh.queue = op ::ₘ queue)
    (r : ℕ) : sh.posted r = (sh.leave queue).posted r + if r = op.tag then 1 else 0 := by
  have hpost : ((sh.leave queue).post op).posted r = _ := posted_post op r
  rwa [leave_post hqueue] at hpost

/-- A registration is counted when it is posted. -/
theorem registrations_post (op : Operation) :
    (sh.post op).registrations = sh.registrations + op.isRegistration.toNat := by
  rw [registrations, post, Multiset.countP_cons, registrations]
  cases op <;> rfl

/-- And no longer when it is taken. -/
theorem registrations_of_cons {op : Operation} {queue : Multiset Operation}
    (hqueue : sh.queue = op ::ₘ queue) :
    sh.registrations = (sh.leave queue).registrations + op.isRegistration.toNat := by
  have hpost : ((sh.leave queue).post op).registrations = _ := registrations_post op
  rwa [leave_post hqueue] at hpost

/-- The address of a posted operation is on the queue. -/
theorem posted_pos {op : Operation} (h : op ∈ sh.queue) : 0 < sh.posted op.tag :=
  Multiset.count_pos.mpr (Multiset.mem_map_of_mem Operation.tag h)

/-- An address is on the queue with an operation. -/
theorem exists_posted {r : ℕ} (h : 0 < sh.posted r) : ∃ op ∈ sh.queue, op.tag = r :=
  Multiset.mem_map.mp (Multiset.count_pos.mp h)

/-- Only deleting an object ends its life. -/
theorem units_modify {p : ℕ} {f : CallData → CallData}
    (hdeletions : (f (sh.objects p)).deletions = (sh.objects p).deletions) (r : ℕ) :
    (sh.modify p f).units r = sh.units r := by
  have hlive : (sh.modify p f).Live r ↔ sh.Live r := by
    by_cases hr : r = p
    · rw [hr, Live, modify_objects_self, hdeletions, Live]
      rfl
    · rw [Live, modify_objects_of_ne hr, Live]
      rfl
  simp only [units, hlive]

/-- What is deleted afterwards has not been written. -/
theorem deleted_modify {p r : ℕ} {f : CallData → CallData} (hlive : sh.Live p)
    (hdeletions : (f (sh.objects p)).deletions = (sh.objects p).deletions)
    (hdeleted : ((sh.modify p f).objects r).deletions ≠ 0) : (sh.modify p f).objects r = sh.objects r := by
  apply modify_objects_of_ne
  rintro rfl
  rw [modify_objects_self, hdeletions] at hdeleted
  exact hdeleted hlive.2

/-- One more object lives. -/
theorem units_allocate (r : ℕ) :
    sh.allocate.units r = sh.units r + if r = sh.allocated then 1 else 0 := by
  by_cases hr : r = sh.allocated
  · have hnew : sh.allocate.Live r := by
      rw [hr, Live, allocate_objects_self]
      exact ⟨Nat.lt_succ_self _, rfl⟩
    have hold : ¬sh.Live r := fun hlive => hlive.1.ne hr
    rw [units, if_pos hnew, units, if_neg hold, if_pos hr]
  · have hlive : sh.allocate.Live r ↔ sh.Live r := by
      have hlt : r < sh.allocated + 1 ↔ r < sh.allocated := by omega
      rw [Live, allocate_objects_of_ne hr, Live]
      exact and_congr_left fun _ => hlt
    simp [units, hlive, hr]

/-- One object fewer lives. -/
theorem units_release {p : ℕ} (hlive : sh.Live p) (r : ℕ) :
    sh.units r = (sh.modify p fun c => { c with deletions := c.deletions + 1 }).units r +
      if r = p then 1 else 0 := by
  by_cases hr : r = p
  · have hdead : ¬(sh.modify p fun c => { c with deletions := c.deletions + 1 }).Live p := by
      rw [Live, modify_objects_self]
      exact fun h => Nat.succ_ne_zero _ h.2
    simp [units, hr, hlive, hdead]
  · have hsame : (sh.modify p fun c => { c with deletions := c.deletions + 1 }).Live r ↔ sh.Live r := by
      rw [Live, modify_objects_of_ne hr, Live]
      rfl
    simp [units, hsame, hr]

section Arrive

variable {p : ℕ} {request : Bytes} {queue : Multiset Operation}

/-- The request is stored in the object of the registration. -/
theorem arrive_objects_self : (sh.arrive p request queue).objects p =
    { sh.objects p with request, received := (sh.objects p).received ++ [request] } :=
  Function.update_self _ _ _

/-- The other objects stay as they are. -/
theorem arrive_objects_of_ne {r : ℕ} (hne : r ≠ p) :
    (sh.arrive p request queue).objects r = sh.objects r := Function.update_of_ne hne _ _

/-- No object comes or goes with a request. -/
theorem units_arrive (r : ℕ) : (sh.arrive p request queue).units r = sh.units r := by
  have hmodify : ((sh.leave queue).modify p fun c =>
      { c with request, received := c.received ++ [request] }).units r = (sh.leave queue).units r :=
    units_modify rfl r
  exact hmodify

/-- The operation stays posted under the same tag. -/
theorem posted_arrive (hqueue : sh.queue = .registration p ::ₘ queue) (r : ℕ) :
    (sh.arrive p request queue).posted r = sh.posted r := by
  have hbefore : sh.posted r = (sh.leave queue).posted r + if r = p then 1 else 0 := posted_of_cons hqueue r
  rw [hbefore]
  exact posted_post (.arrived p) r

/-- The registration is not delivered yet. -/
theorem registrations_arrive (hqueue : sh.queue = .registration p ::ₘ queue) :
    (sh.arrive p request queue).registrations = sh.registrations := by
  have hafter : (sh.arrive p request queue).registrations = (sh.leave queue).registrations + 1 :=
    registrations_post (.arrived p)
  rw [hafter]
  exact (registrations_of_cons hqueue).symm

end Arrive

end Shared

/-- How often an object is held in a stack. -/
def held (stack : List Frame) (r : ℕ) : ℕ := (stack.filterMap Frame.holds).count r

/-- What two stacks hold together. -/
theorem held_append (front back : List Frame) (r : ℕ) :
    held (front ++ back) r = held front r + held back r := by
  rw [held, List.filterMap_append, List.count_append, held, held]

/-- A position holds its object once. -/
theorem held_singleton {frame : Frame} {p : ℕ} (h : frame.holds = some p) (r : ℕ) :
    held [frame] r = if r = p then 1 else 0 := by
  rw [held, List.filterMap_cons_some h, List.filterMap_nil]
  by_cases hr : r = p
  · simp [hr]
  · simp [hr, Ne.symm hr]

/-- A step writes no live object but the one held. -/
theorem Frame.advance_agrees {lib : Externals} {answer : (op : Op) → Reply op} {now : UInt64}
    {sh sh' : Shared} {frame : Frame} {frames : List Frame}
    (h : frame.advance lib answer now sh = some (frames, sh')) {r : ℕ} (hlive : sh.Live r)
    (hnot : held [frame] r = 0) : sh'.objects r = sh.objects r := by
  apply (Frame.advance_writes h).objects_eq hlive.1
  intro htouches
  rw [held_singleton (Frame.holds_of_touches htouches), if_pos rfl] at hnot
  cases hnot

/-- What a call holds, its stack holds. -/
theorem held_pos {stack : List Frame} {frame : Frame} {p : ℕ} (hmem : frame ∈ stack)
    (hholds : frame.holds = some p) : 0 < held stack p :=
  List.count_pos_iff.mpr (List.mem_filterMap.mpr ⟨frame, hmem, hholds⟩)

/-- What a stack holds, one of its calls holds. -/
theorem exists_held {stack : List Frame} {p : ℕ} (h : 0 < held stack p) :
    ∃ frame ∈ stack, frame.holds = some p :=
  List.mem_filterMap.mp (List.count_pos_iff.mp h)

/-- The registrations a stack has yet to post. -/
def dues (objects : ℕ → CallData) (stack : List Frame) : ℕ :=
  (stack.map fun frame => frame.holds.elim 0 fun p => frame.due (objects p)).sum

/-- What two stacks owe together. -/
theorem dues_append (objects : ℕ → CallData) (front back : List Frame) :
    dues objects (front ++ back) = dues objects front + dues objects back := by
  rw [dues, List.map_append, List.sum_append, dues, dues]

/-- What a stack owes depends on the objects it holds only. -/
theorem dues_congr {objects objects' : ℕ → CallData} {stack : List Frame}
    (hagree : ∀ p, 0 < held stack p → objects' p = objects p) :
    dues objects' stack = dues objects stack := by
  rw [dues, dues]
  congr 1
  apply List.map_congr_left
  intro frame hmem
  cases hholds : frame.holds with
  | none => rfl
  | some p => rw [Option.elim_some, Option.elim_some, hagree p (held_pos hmem hholds)]

/-- What a single call owes. -/
theorem dues_singleton {objects : ℕ → CallData} {frame : Frame} {p : ℕ} (h : frame.holds = some p) :
    dues objects [frame] = frame.due (objects p) := by
  rw [dues, List.map_singleton, List.sum_singleton, h]
  rfl

namespace Frame.Effect

variable {lib : Externals} {sh sh' : Shared} {frame : Frame} {frames : List Frame}

/-- Addresses are neither lost nor duplicated. -/
theorem conserves (h : frame.Effect lib sh frames sh') (hlive : ∀ p, frame.holds = some p → sh.Live p)
    (r : ℕ) : held frames r + sh'.posted r + sh.units r = held [frame] r + sh.posted r + sh'.units r := by
  cases h with
  | @goes p frame next f hholds hnext _ hdeletions _ _ =>
    rw [held_singleton hholds, held_singleton hnext, Shared.units_modify hdeletions]
    rfl
  | @counts p frame next f hholds hnext _ _ _ =>
    rw [held_singleton hholds, held_singleton hnext]
    rfl
  | @posts p frame op f hholds htag _ hdeletions _ _ =>
    have hunits : ((sh.modify p f).post op).units r = sh.units r := Shared.units_modify hdeletions r
    have hposted : (sh.modify p f).posted r = sh.posted r := rfl
    have hreturning : held [.returning] r = 0 := rfl
    rw [held_singleton hholds, Shared.posted_post, htag, hunits, hposted, hreturning]
    omega
  | @spawns p _ =>
    have hframes : held [.proceed sh.allocated, .readRequest p] r =
        held [.proceed sh.allocated] r + held [.readRequest p] r := held_append [_] [_] r
    have hposted : sh.allocate.posted r = sh.posted r := rfl
    have hnew : held [.proceed sh.allocated] r = if r = sh.allocated then 1 else 0 := held_singleton rfl r
    have hread : held [.readRequest p] r = held [.spawn p] r := rfl
    rw [hframes, hnew, hread, Shared.units_allocate, hposted]
    omega
  | @releases p _ =>
    have hholds : held [.release p] r = if r = p then 1 else 0 := held_singleton rfl r
    have hreturning : held [.returning] r = 0 := rfl
    have hposted : (sh.modify p fun c => { c with deletions := c.deletions + 1 }).posted r =
        sh.posted r := rfl
    rw [hholds, hreturning, hposted, Shared.units_release (hlive p rfl) r]
    omega
  | returns => rfl

/-- The positions a step leads to find their objects in the right stage. -/
theorem expects (h : frame.Effect lib sh frames sh') (hlive : ∀ p, frame.holds = some p → sh.Live p)
    {next : Frame} (hmem : next ∈ frames) {q : ℕ} (hq : next.holds = some q) :
    next.Expects lib (sh'.objects q) := by
  cases h with
  | @goes p frame next' f _ hnext hexpects _ _ _ =>
    obtain rfl := List.mem_singleton.mp hmem
    obtain rfl := Option.some.inj (hnext.symm.trans hq)
    rw [Shared.modify_objects_self]
    exact hexpects
  | @counts p frame next' f _ hnext hexpects _ _ =>
    obtain rfl := List.mem_singleton.mp hmem
    obtain rfl := Option.some.inj (hnext.symm.trans hq)
    exact hexpects
  | posts _ _ _ _ _ _ _ =>
    obtain rfl := List.mem_singleton.mp hmem
    trivial
  | @spawns p hreceived =>
    rcases List.mem_cons.mp hmem with rfl | hmem
    · obtain rfl := Option.some.inj hq
      rw [Shared.allocate_objects_self]
      exact Or.inl ⟨rfl, rfl, rfl, rfl⟩
    · obtain rfl := List.mem_singleton.mp hmem
      obtain rfl := Option.some.inj hq
      rw [Shared.allocate_objects_of_ne (hlive p rfl).1.ne]
      exact hreceived
  | releases _ =>
    obtain rfl := List.mem_singleton.mp hmem
    trivial
  | returns => cases hmem

/-- An operation posted by a step finds its object in the right stage. -/
theorem operations (h : frame.Effect lib sh frames sh') {op : Operation} (hop : op ∈ sh'.queue) :
    op ∈ sh.queue ∨ op.Expects lib (sh'.objects op.tag) := by
  cases h with
  | @posts p frame op' f _ htag hexpects _ _ _ =>
    rcases Multiset.mem_cons.mp hop with rfl | hop
    · have hobject : ((sh.modify p f).post op).objects p = f (sh.objects p) := Shared.modify_objects_self p f
      rw [htag, hobject]
      exact Or.inr hexpects
    · exact Or.inl hop
  | _ => exact Or.inl hop

/-- What a step pays off, it has posted. -/
theorem dues_add (h : frame.Effect lib sh frames sh') :
    dues sh'.objects frames + frame.registers.toNat = dues sh.objects [frame] := by
  cases h with
  | @goes p frame next f hholds hnext _ _ hdue hregisters =>
    rw [dues_singleton hholds, dues_singleton hnext, Shared.modify_objects_self, hdue, hregisters]
    rfl
  | @counts p frame next f hholds hnext _ hdue hregisters =>
    have hobjects : (sh.count f).objects = sh.objects := rfl
    rw [dues_singleton hholds, dues_singleton hnext, hobjects, hdue, hregisters]
    rfl
  | @posts p frame op f hholds _ _ _ hdue hregisters =>
    have hreturning : dues ((sh.modify p f).post op).objects [.returning] = 0 := rfl
    rw [dues_singleton hholds, hreturning, hdue, hregisters, Nat.zero_add]
  | @spawns p hreceived =>
    have hnew : (Frame.proceed sh.allocated).due (sh.allocate.objects sh.allocated) = 1 := by
      rw [Shared.allocate_objects_self]
      rfl
    exact congrArg (· + 0) hnew
  | releases _ => rfl
  | returns => rfl

/-- A registration is counted when it is posted. -/
theorem registrations_eq (h : frame.Effect lib sh frames sh') :
    sh'.registrations = sh.registrations + frame.registers.toNat := by
  cases h with
  | goes _ _ _ _ _ _ hregisters | counts _ _ _ _ _ hregisters =>
    rw [hregisters]
    rfl
  | @posts p frame op f _ _ _ _ _ hregisters =>
    rw [hregisters]
    exact Shared.registrations_post op
  | spawns _ => rfl
  | releases _ => rfl
  | returns => rfl

/-- An object deleted by a step is deleted once, after its reply was posted. -/
theorem deleted (h : frame.Effect lib sh frames sh') (hlive : ∀ p, frame.holds = some p → sh.Live p)
    (hbefore : ∀ r, r < sh.allocated → (sh.objects r).deletions ≠ 0 → (sh.objects r).At lib .deleted)
    {r : ℕ} (hr : r < sh'.allocated) (hdeleted : (sh'.objects r).deletions ≠ 0) :
    (sh'.objects r).At lib .deleted := by
  cases h with
  | @goes p frame next f hholds _ _ hdeletions _ _ =>
    have hsame := Shared.deleted_modify (hlive p hholds) hdeletions hdeleted
    rw [hsame] at hdeleted ⊢
    exact hbefore r hr hdeleted
  | @posts p frame op f hholds _ _ hdeletions _ _ =>
    have hsame : ((sh.modify p f).post op).objects r = sh.objects r :=
      Shared.deleted_modify (hlive p hholds) hdeletions hdeleted
    rw [hsame] at hdeleted ⊢
    exact hbefore r hr hdeleted
  | @spawns p _ =>
    have hne : r ≠ sh.allocated := by
      rintro rfl
      rw [Shared.allocate_objects_self] at hdeleted
      exact hdeleted rfl
    rw [Shared.allocate_objects_of_ne hne] at hdeleted ⊢
    exact hbefore r (lt_of_le_of_ne (Nat.le_of_lt_succ hr) hne) hdeleted
  | @releases p hfinished =>
    by_cases hne : r = p
    · obtain ⟨hstatus, hreceived, hposted, hdeletions, hcomputes⟩ := hfinished
      rw [hne, Shared.modify_objects_self]
      exact ⟨hstatus, hreceived, hposted, congrArg (· + 1) hdeletions, hcomputes⟩
    · rw [Shared.modify_objects_of_ne hne] at hdeleted ⊢
      exact hbefore r hr hdeleted
  | counts | returns => exact hbefore r hr hdeleted

end Frame.Effect

end XrpcServer.Grpc
