import XrpcServer.Http.Request

/-!
# The body a handler is given

The string the handler is constructed from is the body of the request exactly when the segment
that brings the first closing brace behind the head ends where the body ends. The declared
length is never looked at.
-/

namespace XrpcServer.Http

open XrpcServer.Text XrpcServer.Stream

/-- A POST request. -/
structure PostRequest extends Request where
  post : method = str "POST"

variable {request : PostRequest} (answer : Bytes → Option Bytes) (parsed : Bool)
  (arrival : Arrival request.toRequest)

/-- In every run the handler is given the body, once. -/
def BodyDelivered : Prop :=
  ∀ c, Reached answer parsed arrival.segments c → Finished answer c → c.handled = [request.body]

/-- The first segment with a closing brace behind the head ends with the body. -/
def FirstBraceEndsBody : Prop :=
  ∃ before segment after, arrival.segments = before ++ segment :: after ∧
    closingBrace ∉ before.flatten.drop request.head.length ∧ closingBrace ∈ request.body ∧
    before.flatten ++ segment = request.head ++ request.body

variable {arrival}

/-- The handler is given what is buffered behind the head. -/
theorem bodyDelivered_iff_buffered : BodyDelivered answer parsed arrival ↔
    bufferedBody request.head.length arrival.segments = some request.body := by
  have hne : str "POST" ≠ str "OPTIONS" := by simp
  unfold BodyDelivered
  rw [finished_iff parsed arrival.segments fun _ handled => handled = [request.body], effects_doRead arrival,
    requestEffects, request.post, if_neg hne, if_pos rfl]
  cases bufferedBody request.head.length arrival.segments with
  | none => simp
  | some input => simp [bodyEffects]

/-- The handler is given the body exactly when the first brace behind the head comes in a
segment that ends with the body. -/
theorem bodyDelivered_iff : BodyDelivered answer parsed arrival ↔ FirstBraceEndsBody arrival := by
  rw [bodyDelivered_iff_buffered, bufferedBody_eq_some_iff]
  constructor
  · intro h
    obtain ⟨before, segment, after, hsegments, hbefore, hbrace, hbody⟩ := h
    have hfront : before.flatten ++ segment <+: request.head ++ request.body ++ arrival.after := by
      rw [← arrival.flatten_eq, hsegments]
      exact ⟨after.flatten, by simp⟩
    have hhead := head_prefix_of_braceBehind arrival hfront (by simpa [braceBehind] using hbrace)
    refine ⟨before, segment, after, hsegments, hbefore, hbody ▸ hbrace, ?_⟩
    obtain ⟨rest, hrest⟩ := hhead
    rw [← hrest, List.drop_left] at hbody
    rw [← hrest, hbody]
  · intro h
    obtain ⟨before, segment, after, hsegments, hbefore, hbrace, hflatten⟩ := h
    refine ⟨before, segment, after, hsegments, hbefore, ?_, ?_⟩
    · rwa [hflatten, List.drop_left]
    · rw [hflatten, List.drop_left]

section Sample

/-- A POST request with an object inside another. -/
def nestedRequest : PostRequest where
  method := str "POST"
  head := str "POST / HTTP/1.1\r\nContent-Length: 19\r\n\r\n"
  body := str "\x7b\"a\":\x7b\"b\":1\x7d,\"c\":2\x7d"
  method_spaceless := by decide
  method_front := by decide
  head_end := by decide +kernel
  post := rfl

/-- Its body, cut behind the inner object. -/
def nestedArrival : Arrival nestedRequest.toRequest where
  segments := [nestedRequest.head ++ str "\x7b\"a\":\x7b\"b\":1\x7d", str ",\"c\":2\x7d"]
  after := []
  flatten_eq := by decide +kernel

/-- The same bytes in one segment. -/
def wholeArrival : Arrival nestedRequest.toRequest where
  segments := [nestedRequest.head ++ nestedRequest.body]
  after := []
  flatten_eq := by simp

/-- In one segment the body is delivered, in two it is not. -/
theorem nestedArrival_not_delivered : nestedRequest.DeclaresLength ∧
    BodyDelivered (fun _ => some []) false wholeArrival ∧
      ¬BodyDelivered (fun _ => some []) false nestedArrival := by
  refine ⟨by decide +kernel, ?_, ?_⟩
  · rw [bodyDelivered_iff_buffered]
    decide +kernel
  · rw [bodyDelivered_iff_buffered]
    decide +kernel

end Sample

end XrpcServer.Http
