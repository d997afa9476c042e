import XrpcServer.Http.Connection

/-!
# What a connection does in the end

What is still going to happen on a connection is a function of its outstanding read, its
buffer and the segments to come; together with what has happened it is the same at every
point of a run. Every run ends, so all runs over the same segments have the same effects,
whatever the order of the completions.
-/

namespace XrpcServer.Http

open XrpcServer.Text XrpcServer.Stream

variable (answer : Bytes → Option Bytes)

/-- The buffer satisfies a read. -/
def Reading.ready (stage : Reading) (buffer : Bytes) : Bool :=
  (firstEnd stage.delimiter buffer).isSome

/-- Responses started and strings handled. -/
abbrev Effects := List Response × List Bytes

/-- The effects of a completed body read. -/
def bodyEffects (buffer : Bytes) : Effects :=
  (((answer buffer).map Response.answer).toList, [buffer])

/-- The effects from the outstanding body read on. -/
def fromBody (request : Bytes) (socket : List Bytes) : Effects :=
  match receiveUntil Reading.body.ready request socket with
  | some (buffer, _) => bodyEffects answer buffer
  | none => ([], [])

/-- The effects from the outstanding head read on. -/
def fromHead (request : Bytes) (socket : List Bytes) : Effects :=
  match receiveUntil Reading.head.ready request socket with
  | some (buffer, rest) =>
    fromBody answer (buffer.drop ((firstEnd Reading.head.delimiter buffer).getD 0)) rest
  | none => ([], [])

/-- The effects from the outstanding method read on. -/
def fromMethod (request : Bytes) (socket : List Bytes) : Effects :=
  match receiveUntil Reading.method.ready request socket with
  | some (buffer, rest) =>
    let method := buffer.take ((firstEnd Reading.method.delimiter buffer).getD 0 - 1)
    if method = str "OPTIONS" then ([.options], [])
    else if method = str "POST" then fromHead answer buffer rest
    else ([], [])
  | none => ([], [])

/-- The effects still to come. -/
def remaining (c : Connection) : Effects :=
  match c.reading with
  | none => ([], [])
  | some .method => fromMethod answer c.request c.socket
  | some .head => fromHead answer c.request c.socket
  | some .body => fromBody answer c.request c.socket

/-- All effects of a run that passes through this state. -/
def effects (c : Connection) : Effects :=
  (c.started ++ (remaining answer c).1, c.handled ++ (remaining answer c).2)

variable {answer}

/-- Without a delimiter the read has to wait. -/
theorem Reading.ready_eq_false {stage : Reading} {buffer : Bytes}
    (h : firstEnd stage.delimiter buffer = none) : stage.ready buffer = false := by
  rw [Reading.ready, h, Option.isSome_none]

/-- With one it is satisfied. -/
theorem Reading.ready_eq_true {stage : Reading} {buffer : Bytes} {n : ℕ}
    (h : firstEnd stage.delimiter buffer = some n) : stage.ready buffer = true := by
  rw [Reading.ready, h, Option.isSome_some]

/-- A segment that has to be waited for is part of what is still to come. -/
theorem remaining_receive {c : Connection} {stage : Reading} (hreading : c.reading = some stage)
    (hwaits : firstEnd stage.delimiter c.request = none) {segment : Bytes} {rest : List Bytes}
    (hsocket : c.socket = segment :: rest) :
    remaining answer { c with request := c.request ++ segment, socket := rest } = remaining answer c := by
  have hready := Reading.ready_eq_false hwaits
  cases stage <;>
    simp only [remaining, hreading, hsocket, fromMethod, fromHead, fromBody, receiveUntil_cons hready]

/-- Nothing comes of a read that cannot be satisfied. -/
theorem remaining_failed {c : Connection} {stage : Reading} (hreading : c.reading = some stage)
    (hwaits : firstEnd stage.delimiter c.request = none) (hsocket : c.socket = []) :
    remaining answer c = ([], []) := by
  have hready := Reading.ready_eq_false hwaits
  cases stage <;>
    simp only [remaining, hreading, hsocket, fromMethod, fromHead, fromBody, receiveUntil_nil hready]

/-- The method read comes to what its completion does. -/
theorem effects_methodRead {c : Connection} {n : ℕ} (hreading : c.reading = some .method)
    (hfound : firstEnd Reading.method.delimiter c.request = some n) :
    effects answer (methodRead n { c with reading := none }) = effects answer c := by
  have hready := Reading.ready_eq_true hfound
  simp only [effects, remaining, hreading, fromMethod, receiveUntil_of_ready hready, hfound,
    Option.getD_some, methodRead]
  by_cases hoptions : c.request.take (n - 1) = str "OPTIONS"
  · have hne : str "OPTIONS" ≠ [] := by decide
    simp [hoptions, hne, onOptions, asyncWrite]
  by_cases hpost : c.request.take (n - 1) = str "POST"
  · have hne : str "POST" ≠ [] := by decide
    simp [hpost, hne, onPost, asyncReadUntil]
  · simp [hoptions, hpost]

/-- The head read comes to what its completion does. -/
theorem effects_headRead {c : Connection} {n : ℕ} (hreading : c.reading = some .head)
    (hfound : firstEnd Reading.head.delimiter c.request = some n) :
    effects answer (headRead n { c with reading := none }) = effects answer c := by
  have hready := Reading.ready_eq_true hfound
  simp only [effects, remaining, hreading, fromHead, receiveUntil_of_ready hready, hfound,
    Option.getD_some, headRead, doReadHttpBody, asyncReadUntil]

/-- The body read comes to what its completion does. -/
theorem effects_bodyRead {c : Connection} {n : ℕ} (hreading : c.reading = some .body)
    (hfound : firstEnd Reading.body.delimiter c.request = some n) :
    effects answer (bodyRead answer { c with reading := none }) = effects answer c := by
  have hready := Reading.ready_eq_true hfound
  cases hanswer : answer c.request <;>
    simp [effects, remaining, hreading, fromBody, receiveUntil_of_ready hready, bodyRead, bodyEffects,
      hanswer, doWrite, asyncWrite]

/-- Every event leaves the effects of the run as they are. -/
theorem Step.effects_eq {c c' : Connection} (h : Step answer c c') :
    effects answer c' = effects answer c := by
  cases h with
  | receive hreading hwaits hsocket =>
    simp only [effects, remaining_receive hreading hwaits hsocket]
  | @readDone stage n hreading hfound =>
    cases stage with
    | method => exact effects_methodRead hreading hfound
    | head => exact effects_headRead hreading hfound
    | body => exact effects_bodyRead hreading hfound
  | readFailed hreading hwaits hsocket =>
    simp only [effects, remaining_failed hreading hwaits hsocket]
    rfl
  | writeDone hwriting => rfl

/-- So does a run. -/
theorem Reached.effects_eq {parsed : Bool} {segments : List Bytes} {c : Connection}
    (h : Reached answer parsed segments c) :
    effects answer c = effects answer (doRead parsed (.accepted segments)) := by
  induction h with
  | refl => rfl
  | tail _ hstep ih => rw [hstep.effects_eq, ih]

/-- A finished connection has no read outstanding. -/
theorem Finished.reading_eq {c : Connection} (h : Finished answer c) : c.reading = none := by
  by_contra hreading
  obtain ⟨stage, hstage⟩ := Option.ne_none_iff_exists'.mp hreading
  cases hfound : firstEnd stage.delimiter c.request with
  | some n => exact h _ (.readDone hstage hfound)
  | none =>
    cases hsocket : c.socket with
    | nil => exact h _ (.readFailed hstage hfound hsocket)
    | cons segment rest => exact h _ (.receive hstage hfound hsocket)

/-- How far a read is from the last one. -/
def Reading.rank : Option Reading → ℕ
  | none => 0
  | some .body => 1
  | some .head => 2
  | some .method => 3

/-- A bound on the number of events left. -/
def Connection.fuel (c : Connection) : ℕ := 2 * Reading.rank c.reading + c.socket.length + c.writing

/-- Every event uses some of it. -/
theorem Step.fuel_lt {c c' : Connection} (h : Step answer c c') : c'.fuel < c.fuel := by
  cases h with
  | receive hreading hwaits hsocket =>
    simp only [Connection.fuel, hsocket, List.length_cons]
    omega
  | @readDone stage n hreading hfound =>
    cases stage with
    | method =>
      simp only [readCompleted, methodRead, Connection.fuel, hreading]
      split_ifs
      · simp only [onOptions, asyncWrite, Reading.rank]
        omega
      · simp only [onPost, asyncReadUntil, Reading.rank]
        omega
      · simp only [Reading.rank]
        omega
      · simp only [Reading.rank]
        omega
    | head =>
      simp only [readCompleted, headRead, doReadHttpBody, asyncReadUntil, Connection.fuel, hreading,
        Reading.rank]
      omega
    | body =>
      simp only [readCompleted, bodyRead, Connection.fuel, hreading]
      split
      · simp only [doWrite, asyncWrite, Reading.rank]
        omega
      · simp only [Reading.rank]
        omega
  | @readFailed stage hreading hwaits hsocket =>
    cases stage <;> simp [Connection.fuel, hreading, Reading.rank]
  | writeDone hwriting =>
    simp only [Connection.fuel]
    omega

variable (answer) in
/-- Every run can be continued to its end. -/
theorem exists_finished (c : Connection) :
    ∃ c', Relation.ReflTransGen (Step answer) c c' ∧ Finished answer c' := by
  induction hfuel : c.fuel using Nat.strongRecOn generalizing c with
  | ind n ih =>
    by_cases hfinished : Finished answer c
    · exact ⟨c, .refl, hfinished⟩
    · obtain ⟨c₁, hstep⟩ : ∃ c₁, Step answer c c₁ := by simpa [Finished] using hfinished
      obtain ⟨c', hrun, hend⟩ := ih c₁.fuel (hfuel ▸ hstep.fuel_lt) c₁ rfl
      exact ⟨c', .head hstep hrun, hend⟩

/-- A property of the effects holds at the end of every run when it holds of the effects. -/
theorem finished_iff (parsed : Bool) (segments : List Bytes) (property : List Response → List Bytes → Prop) :
    (∀ c, Reached answer parsed segments c → Finished answer c → property c.started c.handled) ↔
      property (effects answer (doRead parsed (.accepted segments))).1
        (effects answer (doRead parsed (.accepted segments))).2 := by
  have hend : ∀ c, Reached answer parsed segments c → Finished answer c →
      effects answer (doRead parsed (.accepted segments)) = (c.started, c.handled) := by
    intro c hreached hfinished
    rw [← hreached.effects_eq, effects, remaining, hfinished.reading_eq]
    simp
  constructor
  · intro h
    obtain ⟨c, hrun, hfinished⟩ := exists_finished answer (doRead parsed (.accepted segments))
    have hc := h c hrun hfinished
    rw [hend c hrun hfinished]
    exact hc
  · intro h c hreached hfinished
    rw [hend c hreached hfinished] at h
    exact h

end XrpcServer.Http
