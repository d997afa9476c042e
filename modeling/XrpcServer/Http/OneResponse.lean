import XrpcServer.Http.Request
import XrpcServer.Handler.Answers

/-!
# The responses a connection starts

Which responses are started depends on the value `parse_method` does not return as well as on
the method. One response, the right one, is started for each request exactly when that value
is false for the two methods the completion handler knows and true for all others; a POST
request moreover needs a closing brace behind its head and a body that can be answered.
-/

namespace XrpcServer.Http

open XrpcServer.Text XrpcServer.Stream XrpcServer.Handler
open XrpcServer.Interaction

/-- What the handler answers to a string; nothing when an exception leaves it. -/
def handlerAnswer (lib : Externals) (w : World) (input : Bytes) : Option Bytes :=
  ((serve lib input).run service (HandlerState.initial lib) w).result.toOption

/-- One response was started, chosen by the method, and the handler was invoked for POST only. -/
def OneResponse (answer : Bytes → Option Bytes) (request : Request) (started : List Response)
    (handled : List Bytes) : Prop :=
  if request.method = str "POST" then
    ∃ input rsp, handled = [input] ∧ answer input = some rsp ∧ started = [.answer rsp]
  else if request.method = str "OPTIONS" then handled = [] ∧ started = [.options]
  else handled = [] ∧ started = [.forbidden]

/-- The handler answers the strings that parse to what their action needs. -/
theorem handlerAnswer_eq_some_iff {lib : Externals} {w : World} {input : Bytes} :
    (∃ rsp, handlerAnswer lib w input = some rsp) ↔
      Answerable lib w (lib.parse input).2 lib.freshTransaction := by
  rw [← handleRequest_responds_iff lib w (lib.parse input), ← answers_iff_responds]
  unfold handlerAnswer Answers
  cases ((serve lib input).run service (HandlerState.initial lib) w).result <;> simp [Except.toOption]

section Effects

variable {answer : Bytes → Option Bytes} {parsed : Bool} {request : Request} {segments : List Bytes}

/-- A POST request is answered once. -/
theorem oneResponse_post (hpost : request.method = str "POST") :
    OneResponse answer request
        ((if parsed then [.forbidden] else []) ++ (requestEffects answer request segments).1)
        (requestEffects answer request segments).2 ↔
      parsed = false ∧ ∃ input, bufferedBody request.head.length segments = some input ∧
        ∃ rsp, answer input = some rsp := by
  have hne : str "POST" ≠ str "OPTIONS" := by simp
  rw [OneResponse, if_pos hpost, requestEffects, hpost, if_neg hne, if_pos rfl]
  cases hbuffered : bufferedBody request.head.length segments with
  | none => simp
  | some input =>
    cases hanswer : answer input <;> cases parsed <;> simp [bodyEffects, hanswer]

/-- An OPTIONS request is answered by `on_options` alone. -/
theorem oneResponse_options (hoptions : request.method = str "OPTIONS") :
    OneResponse answer request
        ((if parsed then [.forbidden] else []) ++ (requestEffects answer request segments).1)
        (requestEffects answer request segments).2 ↔ parsed = false := by
  have hne : str "OPTIONS" ≠ str "POST" := by simp
  rw [OneResponse, hoptions, if_neg hne, if_pos rfl, requestEffects, if_pos hoptions]
  cases parsed <;> simp

/-- Every other request is answered by `on_error` alone. -/
theorem oneResponse_other (hpost : request.method ≠ str "POST") (hoptions : request.method ≠ str "OPTIONS") :
    OneResponse answer request
        ((if parsed then [.forbidden] else []) ++ (requestEffects answer request segments).1)
        (requestEffects answer request segments).2 ↔ parsed = true := by
  rw [OneResponse, if_neg hpost, if_neg hoptions, requestEffects, if_neg hoptions, if_neg hpost]
  cases parsed <;> simp

end Effects

/-- Every run of every request starts one response exactly when the missing value suits the
method and, for POST, the handler is reached with a string that can be answered. -/
theorem oneResponse_iff (lib : Externals) (w : World) (parsed : Bool) (request : Request)
    (arrival : Arrival request) :
    (∀ c, Reached (handlerAnswer lib w) parsed arrival.segments c → Finished (handlerAnswer lib w) c →
      OneResponse (handlerAnswer lib w) request c.started c.handled) ↔
      (request.method = str "POST" ∧ parsed = false ∧
        ∃ input, bufferedBody request.head.length arrival.segments = some input ∧
          Answerable lib w (lib.parse input).2 lib.freshTransaction) ∨
      (request.method = str "OPTIONS" ∧ parsed = false) ∨
      (request.method ≠ str "POST" ∧ request.method ≠ str "OPTIONS" ∧ parsed = true) := by
  have hne : str "POST" ≠ str "OPTIONS" := by simp
  rw [finished_iff parsed arrival.segments (OneResponse (handlerAnswer lib w) request),
    effects_doRead arrival]
  by_cases hpost : request.method = str "POST"
  · rw [oneResponse_post hpost]
    simp [hpost, hne, handlerAnswer_eq_some_iff]
  by_cases hoptions : request.method = str "OPTIONS"
  · rw [oneResponse_options hoptions]
    simp [hoptions, hne.symm]
  · rw [oneResponse_other hpost hoptions]
    simp [hpost, hoptions]

section Sample

/-- A GET request. -/
def getRequest : Request where
  method := str "GET"
  head := str "GET / HTTP/1.1\r\n\r\n"
  body := []
  method_spaceless := by decide
  method_front := by decide
  head_end := by decide +kernel

/-- It arrives in one segment. -/
def getArrival : Arrival getRequest where
  segments := [getRequest.head]
  after := []
  flatten_eq := by decide +kernel

/-- Nothing is answered to it when the missing value is false. -/
theorem getRequest_not_answered : ¬∀ c,
    Reached (handlerAnswer sampleExternals sampleWorld) false getArrival.segments c →
      Finished (handlerAnswer sampleExternals sampleWorld) c →
        OneResponse (handlerAnswer sampleExternals sampleWorld) getRequest c.started c.handled := by
  have hpost : getRequest.method ≠ str "POST" := by decide
  have hoptions : getRequest.method ≠ str "OPTIONS" := by decide
  rw [finished_iff false getArrival.segments
      (OneResponse (handlerAnswer sampleExternals sampleWorld) getRequest), effects_doRead getArrival,
    oneResponse_other hpost hoptions]
  simp

end Sample

end XrpcServer.Http
