import XrpcServer.Grpc.Statistics
import XrpcServer.Handler.Requests
import XrpcServer.Interaction.Transcript
import XrpcServer.Protobuf.RoundTrip

/-!
# One call from stub to stub

The stub hands its request to the gRPC runtime, which knows the service by the name of its method and
calls `xrpc_serviceimpl::call`. The handler gets the bytes of `body` and nothing else of the request; what
it answers comes back if the statistics do not trap and the reader of the reply takes it.

The runtime is a parameter. What it is documented to do with messages, limits, exceptions and a server
that goes away, over a connection that holds, is assumed of it.
-/

namespace XrpcServer.Grpc

open XrpcServer.Text XrpcServer.Interaction XrpcServer.Handler XrpcServer.Protobuf

/-- How a method of a service ends. -/
inductive MethodEnd (rt : Runtime) where
  /-- `Status::OK` with the members of the reply, and the statistics as they are then. -/
  | returned (reply : Message rt) (statistics : XrpcServiceimpl)
  | raised (e : Exc)
  /-- The process is gone. -/
  | trapped

/-- A method, given the request and the reply to be filled. -/
abbrev Method (rt : Runtime) : Type := Message rt → Message rt → Program Op Reply (MethodEnd rt)

/-- The methods of a service under their names. -/
abbrev Service (rt : Runtime) : Type := List (String × Method rt)

/-- How a call ends at the client. -/
inductive CallEnd (rt : Runtime) where
  /-- `Status::OK`, with the members of the response. -/
  | ok (response : Message rt)
  /-- Any other status. -/
  | failed

/-- The bytes are no longer than the limit, and are read to their end as a message. -/
def Receives {rt : Runtime} (limit : ℕ) (ty : MessageType) (bytes : Bytes) (into m : Message rt) : Prop :=
  bytes.length ≤ limit ∧ mergePartialFromCodedStream rt ty bytes into.clear = .ok (m, true)

/-- The gRPC runtime of a client and a server. -/
structure GrpcRuntime (rt : Runtime) where
  /-- The longest requests and replies that are received. -/
  requestLimit : ℕ
  replyLimit : ℕ
  /-- `BlockingUnaryCall` for a method of a service, and the `RpcMethodHandler` of the method. -/
  blockingUnaryCall (service : Service rt) (name : String) (requestType replyType : MessageType)
    (request response : Message rt) : Program Op Reply (CallEnd rt)
  /-- How the call ends once the method has ended. -/
  finish (replyType : MessageType) (response : Message rt) : MethodEnd rt → CallEnd rt

/-- What the runtime is documented to do. -/
structure GrpcRuntime.Documented {rt : Runtime} (grpc : GrpcRuntime rt) : Prop where
  /-- A request that is not received does not get to the method. -/
  refuses {service : Service rt} {name : String} {requestType replyType : MessageType}
    {request response : Message rt} {events : List HandlerEvent} {value : CallEnd rt}
    (hunread : ∀ m : Message rt, ¬Receives grpc.requestLimit requestType
      (serializeWithCachedSizes rt requestType request).1 .sharedCtor m)
    (h : (grpc.blockingUnaryCall service name requestType replyType request response).Yields events value) :
    events = [] ∧ value = .failed
  /-- For a request that is received the method is called once, with a new reply. -/
  serves {service : Service rt} {name : String} {method : Method rt} {requestType replyType : MessageType}
    {request response m : Message rt} {events : List HandlerEvent} {value : CallEnd rt}
    (hmethod : service.lookup name = some method)
    (hread : Receives grpc.requestLimit requestType (serializeWithCachedSizes rt requestType request).1
      .sharedCtor m)
    (h : (grpc.blockingUnaryCall service name requestType replyType request response).Yields events value) :
    ∃ ended, (method m .sharedCtor).Yields events ended ∧ value = grpc.finish replyType response ended
  /-- A reply that is received is the client's response. -/
  delivers {replyType : MessageType} {response reply m : Message rt} {statistics : XrpcServiceimpl}
    (hread : Receives grpc.replyLimit replyType (serializeWithCachedSizes rt replyType reply).1 response m) :
    grpc.finish replyType response (.returned reply statistics) = .ok m
  /-- A reply that is not received fails the call. -/
  discards {replyType : MessageType} {response reply : Message rt} {statistics : XrpcServiceimpl}
    (hunread : ∀ m, ¬Receives grpc.replyLimit replyType (serializeWithCachedSizes rt replyType reply).1
      response m) :
    grpc.finish replyType response (.returned reply statistics) = .failed
  /-- An exception of the method fails the call. -/
  catches {replyType : MessageType} {response : Message rt} {e : Exc} :
    grpc.finish replyType response (.raised e) = .failed
  /-- So does the end of the server's process. -/
  loses {replyType : MessageType} {response : Message rt} : grpc.finish replyType response .trapped = .failed

section Calls

variable {rt : Runtime}

/-- `xrpc_serviceimpl::call`, with the statistics and the clock as they are when the reply is set. -/
def call (lib : Externals) (s : XrpcServiceimpl) (now : UInt64) (request reply : Message rt) :
    Program Op Reply (MethodEnd rt) :=
  (serve lib request.body (HandlerState.initial lib)).bind fun (result, _) =>
    match result with
    | .error e => .ret (.raised e)
    | .ok rsp =>
      match s.call now with
      | some s' => .ret (.returned (reply.setBody rsp) s')
      | none => .ret .trapped

/-- `xrpc_service_method_names[0]` -/
def xrpcServiceMethodName : String := "/top.xrpc_service/call"

/-- `xrpc_service::Service`, with the method of `xrpc_serviceimpl`. -/
def xrpcService (lib : Externals) (s : XrpcServiceimpl) (now : UInt64) : Service rt :=
  [(xrpcServiceMethodName, call lib s now)]

/-- `xrpc_service::Stub::call`. -/
def stubCall (grpc : GrpcRuntime rt) (service : Service rt) (request response : Message rt) :
    Program Op Reply (CallEnd rt) :=
  grpc.blockingUnaryCall service xrpcServiceMethodName xrpcRequest xrpcReply request response

/-- How a call ends when the handler and the statistics have ended so. -/
def GrpcRuntime.endOfCall (grpc : GrpcRuntime rt) (statistics : Option XrpcServiceimpl) :
    Except Exc Bytes → CallEnd rt
  | .error _ => .failed
  | .ok rsp =>
    if statistics.isSome ∧ byteSizeLong rt ⟨[], rsp, []⟩ ≤ grpc.replyLimit ∧ rt.validUtf8 rsp then
      .ok ⟨[], rsp, []⟩
    else .failed

/-- A message that fits is received if it is not too long and its texts are UTF-8. -/
theorem receives_iff (hrt : rt.Lawful) {limit : ℕ} (ty : MessageType) {source : Message rt} (hfits : source.Fits)
    (hunusual : source.Unusual) {into m : Message rt} :
    Receives limit ty (serializeWithCachedSizes rt ty source).1 into m ↔
      byteSizeLong rt source ≤ limit ∧ source.Valid ∧ m = source.written := by
  rw [Receives, length_serializeWithCachedSizes hrt, mergePartialFromCodedStream_clear hrt ty hfits hunusual]
  rw [← logged_eq_nil_iff hrt ty]
  cases (serializeWithCachedSizes rt ty source).2 with
  | nil => simp [eq_comm]
  | cons fieldName logged => simp

/-- How the call ends with a reply that has nothing but a body. -/
theorem GrpcRuntime.Documented.finish_returned {grpc : GrpcRuntime rt} (hgrpc : grpc.Documented) (hrt : rt.Lawful)
    {rsp : Bytes} (hsize : rsp.length ≤ kint32max) (response : Message rt) (s : XrpcServiceimpl) :
    grpc.finish xrpcReply response (.returned (Message.sharedCtor.setBody rsp) s) =
      grpc.endOfCall (some s) (.ok rsp) := by
  have hreceives (m : Message rt) : Receives grpc.replyLimit xrpcReply
      (serializeWithCachedSizes rt xrpcReply (Message.sharedCtor.setBody rsp)).1 response m ↔
        byteSizeLong rt ⟨[], rsp, []⟩ ≤ grpc.replyLimit ∧ (⟨[], rsp, []⟩ : Message rt).Valid ∧
          m = (⟨[], rsp, []⟩ : Message rt).written :=
    receives_iff hrt xrpcReply ⟨Nat.zero_le _, hsize⟩ (Message.unusual_of_nil rfl)
  by_cases hread : byteSizeLong rt ⟨[], rsp, []⟩ ≤ grpc.replyLimit ∧ rt.validUtf8 rsp
  · have hwritten : (⟨[], rsp, []⟩ : Message rt).written = ⟨[], rsp, []⟩ := by simp [Message.written]
    simp only [GrpcRuntime.endOfCall, Option.isSome_some, hread, and_self, if_true]
    exact hgrpc.delivers ((hreceives _).mpr ⟨hread.1, ⟨hrt.validUtf8_nil, hread.2⟩, hwritten.symm⟩)
  · simp only [GrpcRuntime.endOfCall, Option.isSome_some, true_and, hread, if_false]
    apply hgrpc.discards
    intro m hm
    obtain ⟨hlimit, hvalid, -⟩ := (hreceives m).mp hm
    exact hread ⟨hlimit, hvalid.body⟩

/-- The method ends as its handler and its statistics do. -/
theorem GrpcRuntime.Documented.finish_call {grpc : GrpcRuntime rt} (hgrpc : grpc.Documented) (hrt : rt.Lawful)
    {lib : Externals} {s : XrpcServiceimpl} {now : UInt64} {request : Message rt} {events : List HandlerEvent}
    {ended : MethodEnd rt} (h : (call lib s now request .sharedCtor).Yields events ended) (response : Message rt) :
    ∃ result final, (serve lib request.body (HandlerState.initial lib)).Yields events (result, final) ∧
      ((∀ rsp, result = .ok rsp → rsp.length ≤ kint32max) →
        grpc.finish xrpcReply response ended = grpc.endOfCall (s.call now) result) := by
  obtain ⟨before, after, ⟨result, final⟩, rfl, hserve, hrest⟩ := Program.yields_bind h
  cases result with
  | error e =>
    cases hrest
    rw [List.append_nil]
    exact ⟨.error e, final, hserve, fun _ => hgrpc.catches⟩
  | ok rsp =>
    cases hstatistics : s.call now with
    | none =>
      simp only [hstatistics] at hrest
      cases hrest
      rw [List.append_nil]
      exact ⟨.ok rsp, final, hserve, fun _ => hgrpc.loses.trans (by simp [GrpcRuntime.endOfCall])⟩
    | some s' =>
      simp only [hstatistics] at hrest
      cases hrest
      rw [List.append_nil]
      exact ⟨.ok rsp, final, hserve, fun hsize => hgrpc.finish_returned hrt (hsize rsp rfl) response s'⟩

/-- A call from stub to stub. A request that the server may receive is served as the handler serves its
body, and what the handler returns is what the client gets, if the statistics do not trap and the
reply may be received. Any other request does not get to the handler, and the node is not asked for
anything; where a text of it is at fault, the reader says so. -/
theorem stubCall_ends (hrt : rt.Lawful) {grpc : GrpcRuntime rt} (hgrpc : grpc.Documented) (lib : Externals)
    (s : XrpcServiceimpl) (now : UInt64) {request : Message rt} (hfits : request.Fits) (hunusual : request.Unusual)
    (response : Message rt) {events : List HandlerEvent} {value : CallEnd rt}
    (h : (stubCall grpc (xrpcService lib s now) request response).Yields events value) :
    (request.Valid ∧ byteSizeLong rt request ≤ grpc.requestLimit → ∃ result final,
      (serve lib request.body (HandlerState.initial lib)).Yields events (result, final) ∧
        ((∀ rsp, result = .ok rsp → rsp.length ≤ kint32max) → value = grpc.endOfCall (s.call now) result)) ∧
    (¬(request.Valid ∧ byteSizeLong rt request ≤ grpc.requestLimit) → events = [] ∧ value = .failed) ∧
    (¬request.Valid → ∃ fieldName ∈ (serializeWithCachedSizes rt xrpcRequest request).2, ∀ m : Message rt,
      mergePartialFromCodedStream rt xrpcRequest (serializeWithCachedSizes rt xrpcRequest request).1 m.clear =
        .error [fieldName]) := by
  have hreceives (m : Message rt) : Receives grpc.requestLimit xrpcRequest
      (serializeWithCachedSizes rt xrpcRequest request).1 .sharedCtor m ↔
        byteSizeLong rt request ≤ grpc.requestLimit ∧ request.Valid ∧ m = request.written :=
    receives_iff hrt xrpcRequest hfits hunusual
  refine ⟨?_, ?_, ?_⟩
  · rintro ⟨hvalid, hlimit⟩
    obtain ⟨ended, hcall, rfl⟩ :=
      hgrpc.serves (List.lookup_cons_self) ((hreceives _).mpr ⟨hlimit, hvalid, rfl⟩) h
    exact hgrpc.finish_call hrt hcall response
  · intro hrefused
    apply hgrpc.refuses (fun m hm => ?_) h
    obtain ⟨hlimit, hvalid, -⟩ := (hreceives m).mp hm
    exact hrefused ⟨hvalid, hlimit⟩
  · intro hinvalid
    cases hlogged : (serializeWithCachedSizes rt xrpcRequest request).2 with
    | nil => exact absurd ((logged_eq_nil_iff hrt xrpcRequest request).mp hlogged) hinvalid
    | cons fieldName logged =>
      refine ⟨fieldName, List.mem_cons_self, fun m => ?_⟩
      rw [mergePartialFromCodedStream_clear hrt xrpcRequest hfits hunusual, hlogged]

end Calls

section Sample

/-- What is received of the bytes. -/
def sampleReceive (ty : MessageType) (bytes : Bytes) (into : Message wireFormat) : Option (Message wireFormat) :=
  if bytes.length ≤ 4194304 then
    match mergePartialFromCodedStream wireFormat ty bytes into.clear with
    | .ok (m, true) => some m
    | _ => none
  else none

/-- It is what is received. -/
theorem sampleReceive_eq_some {ty : MessageType} {bytes : Bytes} {into m : Message wireFormat} :
    sampleReceive ty bytes into = some m ↔ Receives 4194304 ty bytes into m := by
  rw [sampleReceive, Receives]
  split_ifs with hlimit
  · simp only [hlimit, true_and]
    split
    · next m' hread => simp [hread]
    · next hother => exact iff_of_false (by simp) fun hread => hother m hread
  · simp [hlimit]

/-- How a call ends whose method has ended so. -/
def sampleFinish (replyType : MessageType) (response : Message wireFormat) : MethodEnd wireFormat → CallEnd wireFormat
  | .returned reply _ =>
    match sampleReceive replyType (serializeWithCachedSizes wireFormat replyType reply).1 response with
    | some m => .ok m
    | none => .failed
  | _ => .failed

/-- A runtime with the limits it has by default. -/
def sampleGrpc : GrpcRuntime wireFormat where
  requestLimit := 4194304
  replyLimit := 4194304
  blockingUnaryCall service name requestType replyType request response :=
    match service.lookup name,
      sampleReceive requestType (serializeWithCachedSizes wireFormat requestType request).1 .sharedCtor with
    | some method, some m => (method m .sharedCtor).bind fun ended => .ret (sampleFinish replyType response ended)
    | _, _ => .ret .failed
  finish := sampleFinish

/-- It does what it is documented to do. -/
theorem documented_sampleGrpc : sampleGrpc.Documented where
  refuses {service name requestType replyType request response events value} hunread h := by
    have hnone : sampleReceive requestType (serializeWithCachedSizes wireFormat requestType request).1 .sharedCtor =
        none := by
      apply Option.eq_none_iff_forall_ne_some.mpr
      intro m hm
      exact hunread m (sampleReceive_eq_some.mp hm)
    cases hlookup : service.lookup name <;> simp only [sampleGrpc, hlookup, hnone] at h <;> cases h <;>
      exact ⟨rfl, rfl⟩
  serves hmethod hread h := by
    simp only [sampleGrpc, hmethod, sampleReceive_eq_some.mpr hread] at h
    obtain ⟨before, after, ended, rfl, hcall, hrest⟩ := Program.yields_bind h
    cases hrest
    rw [List.append_nil]
    exact ⟨ended, hcall, rfl⟩
  delivers hread := by simp only [sampleGrpc, sampleFinish, sampleReceive_eq_some.mpr hread]
  discards {replyType response reply statistics} hunread := by
    have hnone : sampleReceive replyType (serializeWithCachedSizes wireFormat replyType reply).1 response = none := by
      apply Option.eq_none_iff_forall_ne_some.mpr
      intro m hm
      exact hunread m (sampleReceive_eq_some.mp hm)
    simp only [sampleGrpc, sampleFinish, hnone]
  catches := rfl
  loses := rfl

/-- A request with an action of its own, which the server does not look at. -/
def sampleRequest : Message wireFormat := ⟨str "account_info", str "text", []⟩

/-- A server with a response to everything. -/
def callExternals : Externals := { sampleExternals with toStyledString := fun _ => str "response" }

/-- The first call of the sample server gets its response. -/
theorem stubCall_ends_sample :
    (stubCall sampleGrpc (xrpcService callExternals ⟨0, 0, []⟩ 1) sampleRequest .sharedCtor).Yields []
      (.ok ⟨[], str "response", []⟩) := by
  obtain ⟨events, -, hyields⟩ := Program.yields_exec service
    (stubCall sampleGrpc (xrpcService callExternals ⟨0, 0, []⟩ 1) sampleRequest .sharedCtor) (sampleWorld, [])
  have hends := stubCall_ends lawful_wireFormat documented_sampleGrpc callExternals ⟨0, 0, []⟩ 1
    ⟨by decide, by decide⟩ (Message.unusual_of_nil rfl) .sharedCtor hyields
  obtain ⟨result, final, hserve, hresult⟩ :=
    hends.1 ⟨⟨validUtf8_str "account_info", validUtf8_str "text"⟩, by decide⟩
  have hresponds : ∃ final, serve callExternals (str "text") (HandlerState.initial callExternals) =
    .ret (.ok (str "response"), final) := ⟨_, rfl⟩
  obtain ⟨final', hresponds⟩ := hresponds
  have hsame : (serve callExternals (str "text") (HandlerState.initial callExternals)).Yields events
      (result, final) := hserve
  rw [hresponds] at hsame
  cases hsame
  rw [hresult fun rsp hrsp => by cases hrsp; decide] at hyields
  have hvalue : sampleGrpc.endOfCall ((⟨0, 0, []⟩ : XrpcServiceimpl).call 1) (.ok (str "response")) =
      .ok ⟨[], str "response", []⟩ := by
    have hsent : byteSizeLong wireFormat ⟨[], str "response", []⟩ ≤ sampleGrpc.replyLimit := by decide
    have htext : wireFormat.validUtf8 (str "response") = true := validUtf8_str "response"
    have hcounted : ((⟨0, 0, []⟩ : XrpcServiceimpl).call 1).isSome = true := by decide
    rw [GrpcRuntime.endOfCall, if_pos ⟨hcounted, hsent, htext⟩]
  rwa [hvalue] at hyields

end Sample

end XrpcServer.Grpc
