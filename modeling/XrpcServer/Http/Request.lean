import XrpcServer.Http.Runs

/-!
# Requests arriving in segments

A request is a head, which ends at its first empty line, and a body. What the handler is given
for it depends on where the stream is cut: everything behind the head, up to the end of the
segment that brings the first closing brace there.
-/

namespace XrpcServer.Http

open XrpcServer.Text XrpcServer.Stream

/-- The byte `do_read_http_body` waits for. -/
def closingBrace : UInt8 := 125

/-- An HTTP request: the method, then a space, is the beginning of the head, and the head ends
at its first empty line. -/
structure Request where
  method : Bytes
  head : Bytes
  body : Bytes
  method_spaceless : 32 ∉ method
  method_front : method ++ [32] <+: head
  head_end : firstEnd Reading.head.delimiter head = some head.length

/-- The head states the length of the body. -/
def Request.DeclaresLength (request : Request) : Prop :=
  str "\r\nContent-Length: " ++ decimalText request.body.length ++ str "\r\n" <:+: request.head

instance (request : Request) : Decidable request.DeclaresLength :=
  inferInstanceAs (Decidable (_ <:+: _))

/-- Segments in which a request arrives, and whatever is sent after it. -/
structure Arrival (request : Request) where
  segments : List Bytes
  after : Bytes
  flatten_eq : segments.flatten = request.head ++ request.body ++ after

/-- A closing brace has been received behind the first bytes. -/
def braceBehind (headLength : ℕ) (buffer : Bytes) : Bool := closingBrace ∈ buffer.drop headLength

/-- What is buffered behind the head once a closing brace has been received there. -/
def bufferedBody (headLength : ℕ) (segments : List Bytes) : Option Bytes :=
  (receiveUntil (braceBehind headLength) [] segments).map fun r => r.1.drop headLength

/-- A brace stays behind the head. -/
theorem braceBehind_append {headLength : ℕ} {buffer : Bytes} (more : Bytes)
    (h : braceBehind headLength buffer = true) : braceBehind headLength (buffer ++ more) = true := by
  simp only [braceBehind, decide_eq_true_eq, List.drop_append, List.mem_append] at h ⊢
  exact Or.inl h

/-- The buffered body in terms of the segments. -/
theorem bufferedBody_eq_some_iff {headLength : ℕ} {segments : List Bytes} {input : Bytes} :
    bufferedBody headLength segments = some input ↔ ∃ before segment after,
      segments = before ++ segment :: after ∧
        closingBrace ∉ before.flatten.drop headLength ∧
        closingBrace ∈ (before.flatten ++ segment).drop headLength ∧
        input = (before.flatten ++ segment).drop headLength := by
  have hlast (buf : Bytes) (rest : List Bytes) :
      receiveUntil (braceBehind headLength) [] segments = some (buf, rest) ↔ _ :=
    receiveUntil_eq_some_iff (fun _ more => braceBehind_append more) (by simp [braceBehind])
  simp only [bufferedBody, Option.map_eq_some_iff, Prod.exists, hlast, List.nil_append, braceBehind,
    decide_eq_true_eq, decide_eq_false_iff_not]
  constructor
  · intro h
    obtain ⟨_, after, ⟨before, segment, hsegments, rfl, hbefore, hbrace⟩, rfl⟩ := h
    exact ⟨before, segment, after, hsegments, hbefore, hbrace, rfl⟩
  · intro h
    obtain ⟨before, segment, after, hsegments, hbefore, hbrace, rfl⟩ := h
    exact ⟨_, after, ⟨before, segment, hsegments, rfl, hbefore, hbrace⟩, rfl⟩

/-- The body reader waits for the closing brace. -/
theorem ready_body (buffer : Bytes) : Reading.body.ready buffer = decide (closingBrace ∈ buffer) := by
  have hdelimiter : Reading.body.delimiter = [closingBrace] := by decide
  rw [Reading.ready, hdelimiter, Bool.eq_iff_iff, decide_eq_true_eq, ← Option.ne_none_iff_isSome, ne_eq,
    firstEnd_eq_none_iff, not_not, List.singleton_infix_iff]

section Reading

variable {request : Request} (arrival : Arrival request) {buffer : Bytes} {n : ℕ}

/-- The method is found wherever the whole head has been received. -/
theorem Request.firstEnd_method (request : Request) (more : Bytes) :
    firstEnd Reading.method.delimiter (request.head ++ more) = some (request.method.length + 1) := by
  have hdelimiter : Reading.method.delimiter = [32] := by decide
  obtain ⟨rest, hhead⟩ := request.method_front
  rw [hdelimiter, ← hhead]
  simpa using firstEnd_singleton request.method_spaceless (rest ++ more)

/-- A read that is satisfied by a part of a stream is satisfied there by the whole stream. -/
theorem firstEnd_of_front {delimiter stream : Bytes} (hfront : buffer <+: stream)
    (h : firstEnd delimiter buffer = some n) : firstEnd delimiter stream = some n := by
  obtain ⟨more, rfl⟩ := hfront
  exact firstEnd_append h more

/-- A brace behind the head comes after the whole head. -/
theorem head_prefix_of_braceBehind (hfront : buffer <+: request.head ++ request.body ++ arrival.after)
    (h : braceBehind request.head.length buffer = true) : request.head <+: buffer := by
  have hlength : request.head.length ≤ buffer.length := by
    by_contra hlt
    rw [braceBehind, List.drop_of_length_le (by omega)] at h
    simp at h
  exact List.prefix_of_prefix_length_le (by simp) hfront hlength

end Reading

section Effects

variable {request : Request} (arrival : Arrival request) (answer : Bytes → Option Bytes)

/-- The method read ends with the method, and the reads after it see the whole stream. -/
theorem exists_methodRead : ∃ buffer rest,
    receiveUntil Reading.method.ready [] arrival.segments = some (buffer, rest) ∧
      buffer ++ rest.flatten = request.head ++ request.body ++ arrival.after ∧
      buffer.take ((firstEnd Reading.method.delimiter buffer).getD 0 - 1) = request.method := by
  have hstream := request.firstEnd_method (request.body ++ arrival.after)
  rw [← List.append_assoc] at hstream
  have hready : Reading.method.ready ([] ++ arrival.segments.flatten) = true := by
    rw [List.nil_append, arrival.flatten_eq]
    exact Reading.ready_eq_true hstream
  obtain ⟨buffer, rest, hreceive⟩ := exists_receiveUntil hready
  obtain ⟨hflatten, hbuffer⟩ := receiveUntil_spec hreceive
  rw [List.nil_append, arrival.flatten_eq] at hflatten
  refine ⟨buffer, rest, hreceive, hflatten, ?_⟩
  obtain ⟨n, hn⟩ := Option.isSome_iff_exists.mp hbuffer
  have hfront : buffer <+: request.head ++ request.body ++ arrival.after :=
    hflatten ▸ List.prefix_append _ _
  have hlength : n = request.method.length + 1 :=
    Option.some.inj ((firstEnd_of_front hfront hn).symm.trans hstream)
  obtain ⟨hle, -, -⟩ := firstEnd_eq_some_iff.mp hn
  have hmethod : request.method <+: buffer := by
    have hhead : request.method <+: request.head ++ request.body ++ arrival.after := by
      obtain ⟨more, hmore⟩ := request.method_front
      exact ⟨[32] ++ more ++ request.body ++ arrival.after, by simp [← hmore]⟩
    exact List.prefix_of_prefix_length_le hhead hfront (by omega)
  rw [hn, Option.getD_some, hlength, Nat.add_sub_cancel]
  exact (List.prefix_iff_eq_take.mp hmethod).symm

/-- After the method, a POST request has the effects of its buffered body. -/
theorem fromHead_eq {buffer : Bytes} {rest : List Bytes}
    (hreceive : receiveUntil Reading.method.ready [] arrival.segments = some (buffer, rest))
    (hstream : buffer ++ rest.flatten = request.head ++ request.body ++ arrival.after) :
    fromHead answer buffer rest =
      match bufferedBody request.head.length arrival.segments with
      | some input => bodyEffects answer input
      | none => ([], []) := by
  have hhead (more : Bytes) :
      firstEnd Reading.head.delimiter (request.head ++ more) = some request.head.length :=
    firstEnd_append request.head_end more
  -- what is ready for the body is ready for the method and for the head
  have hmethodFirst : receiveUntil (braceBehind request.head.length) [] arrival.segments =
      receiveUntil (braceBehind request.head.length) buffer rest := by
    rw [receiveUntil_bind Reading.method.ready, hreceive, Option.bind_some]
    intro buf hfront hbrace
    rw [List.nil_append, arrival.flatten_eq] at hfront
    obtain ⟨more, rfl⟩ := head_prefix_of_braceBehind arrival hfront hbrace
    exact Reading.ready_eq_true (request.firstEnd_method more)
  have hready : Reading.head.ready (buffer ++ rest.flatten) = true := by
    rw [hstream, List.append_assoc]
    exact Reading.ready_eq_true (hhead _)
  obtain ⟨buffer₂, rest₂, hreceive₂⟩ := exists_receiveUntil hready
  obtain ⟨hflatten₂, hbuffer₂⟩ := receiveUntil_spec hreceive₂
  have hheadFirst : receiveUntil (braceBehind request.head.length) buffer rest =
      receiveUntil (braceBehind request.head.length) buffer₂ rest₂ := by
    rw [receiveUntil_bind Reading.head.ready, hreceive₂, Option.bind_some]
    intro buf hfront hbrace
    rw [hstream] at hfront
    obtain ⟨more, rfl⟩ := head_prefix_of_braceBehind arrival hfront hbrace
    exact Reading.ready_eq_true (hhead more)
  obtain ⟨n, hn⟩ := Option.isSome_iff_exists.mp hbuffer₂
  have hlength : n = request.head.length := by
    have hfront : buffer₂ <+: request.head ++ (request.body ++ arrival.after) :=
      ⟨rest₂.flatten, by rw [hflatten₂, hstream, List.append_assoc]⟩
    exact Option.some.inj ((firstEnd_of_front hfront hn).symm.trans (hhead _))
  obtain ⟨hle, -, -⟩ := firstEnd_eq_some_iff.mp hn
  have hbody : receiveUntil Reading.body.ready (buffer₂.drop request.head.length) rest₂ =
      (receiveUntil (braceBehind request.head.length) buffer₂ rest₂).map
        fun r => (r.1.drop request.head.length, r.2) := by
    rw [receiveUntil_drop (hlength ▸ hle)]
    simp only [ready_body]
    rfl
  rw [fromHead, hreceive₂, bufferedBody, hmethodFirst, hheadFirst]
  simp only [hn, Option.getD_some, hlength, fromBody, hbody]
  cases receiveUntil (braceBehind request.head.length) buffer₂ rest₂ <;> rfl

/-- The effects of a request, apart from what `do_read` starts on its own. -/
def requestEffects (request : Request) (segments : List Bytes) : Effects :=
  if request.method = str "OPTIONS" then ([.options], [])
  else if request.method = str "POST" then
    match bufferedBody request.head.length segments with
    | some input => bodyEffects answer input
    | none => ([], [])
  else ([], [])

/-- What every run over an arrival comes to. -/
theorem effects_doRead (parsed : Bool) :
    effects answer (doRead parsed (.accepted arrival.segments)) =
      ((if parsed then [.forbidden] else []) ++ (requestEffects answer request arrival.segments).1,
        (requestEffects answer request arrival.segments).2) := by
  have hmethod : fromMethod answer [] arrival.segments =
      requestEffects answer request arrival.segments := by
    obtain ⟨buffer, rest, hreceive, hstream, htake⟩ := exists_methodRead arrival
    simp only [fromMethod, hreceive, htake, requestEffects, fromHead_eq arrival answer hreceive hstream]
  cases parsed <;> simp [effects, remaining, doRead, parseMethod, asyncReadUntil, onError, asyncWrite,
    Connection.accepted, hmethod]

end Effects

end XrpcServer.Http
