import XrpcServer.Handler.Requests

/-!
# Symbolic execution rules for the handler

One rule for each primitive step of `Handler.State`, for every operation specification. A
read splits on its conversion, an assignment to the response on whether it still is an
object; the actions below are executed with these rules and never unfold the primitives.
-/

namespace XrpcServer.Handler

open XrpcServer.Text XrpcServer.Chain XrpcServer.Interaction XrpcServer.Json
open XrpcServer.Json (Value)

universe u

/-- The members a failure leaves in a response. -/
def failMembers (err : XrpcReturn) (members : List (Bytes × Value)) : List (Bytes × Value) :=
  insertMember (str "Reason") (.string (xrpcReturnStr err))
    (insertMember (str "ErrCode") (.int err.code) (insertMember (str "Result") (.int 0) members))

section Rules

variable {Config : Type u} (spec : OpSpec Op Reply Config) (lib : Externals)
  (err : Exc → HandlerState → Config → Prop) (s : HandlerState) (config : Config)

/-- A text of the request is read, or the conversion throws. -/
@[simp] theorem wp_rootString (key : String) (ok : Bytes → HandlerState → Config → Prop) :
    (rootString lib key).wp spec ok err s config ↔
      (∀ b, stringOf lib s.root key = .ok b → ok b s config) ∧
        ∀ e, stringOf lib s.root key = .error e → err e s config := by
  simp [rootString]

/-- So is a C string. -/
@[simp] theorem wp_rootCString (key : String) (ok : Bytes → HandlerState → Config → Prop) :
    (rootCString key).wp spec ok err s config ↔
      (∀ b, cStringOf s.root key = .ok b → ok b s config) ∧
        ∀ e, cStringOf s.root key = .error e → err e s config := by
  simp [rootCString]

/-- So is a number. -/
@[simp] theorem wp_rootInt (key : String) (ok : ℤ → HandlerState → Config → Prop) :
    (rootInt key).wp spec ok err s config ↔
      (∀ i, intOf s.root key = .ok i → ok i s config) ∧
        ∀ e, intOf s.root key = .error e → err e s config := by
  simp [rootInt]

/-- So is a timestamp, as an unsigned number. -/
@[simp] theorem wp_rootTimestamp (key : String) (ok : UInt64 → HandlerState → Config → Prop) :
    (rootTimestamp key).wp spec ok err s config ↔
      (∀ i, int64Of s.root key = .ok i → ok (UInt64.ofInt i) s config) ∧
        ∀ e, int64Of s.root key = .error e → err e s config := by
  simp [rootTimestamp]

/-- Members of the transaction are written. -/
@[simp] theorem wp_modifyTx (f : Xtransaction → Xtransaction)
    (ok : Unit → HandlerState → Config → Prop) :
    (modifyTx f).wp spec ok err s config ↔ ok () { s with tx := f s.tx } config := Iff.rfl

/-- A member of the response is written, if the response can have members. -/
@[simp] theorem wp_rspSet (key : Bytes) (value : Value) (ok : Unit → HandlerState → Config → Prop) :
    (rspSet key value).wp spec ok err s config ↔
      (∀ members, s.jsRsp.fields = some members →
        ok () { s with jsRsp := .object (insertMember key value members) } config) ∧
        (s.jsRsp.fields = none → err (.json .notObject) s config) := by
  cases h : s.jsRsp.fields <;> simp [rspSet, Value.set, h]

/-- Success is noted in the response. -/
@[simp] theorem wp_setResultOk (ok : Unit → HandlerState → Config → Prop) :
    setResultOk.wp spec ok err s config ↔
      (∀ members, s.jsRsp.fields = some members →
        ok () { s with jsRsp := .object (insertMember (str "Result") (.int 1) members) } config) ∧
        (s.jsRsp.fields = none → err (.json .notObject) s config) := by
  rw [setResultOk, wp_rspSet]

/-- A failure is noted with its code and its text. -/
@[simp] theorem wp_setResultFail (code : XrpcReturn) (ok : Unit → HandlerState → Config → Prop) :
    (setResultFail code).wp spec ok err s config ↔
      (∀ members, s.jsRsp.fields = some members →
        ok () { s with jsRsp := .object (failMembers code members) } config) ∧
        (s.jsRsp.fields = none → err (.json .notObject) s config) := by
  cases h : s.jsRsp.fields <;> simp [setResultFail, failMembers, h]

end Rules

/-- The members of a handler after its constructor. -/
def constructed (lib : Externals) (parsed : Bool × Value) : HandlerState :=
  { HandlerState.initial lib with
    root := parsed.2
    jsRsp := if parsed.1 then .null else .object (failMembers .serverJsonParseErr []) }

/-- The constructor leaves a response that is null or an object. -/
theorem fields_constructed (lib : Externals) (parsed : Bool × Value) :
    (constructed lib parsed).jsRsp.fields =
      some (if parsed.1 then [] else failMembers .serverJsonParseErr []) := by
  unfold constructed
  cases parsed.1 <;> rfl

/-- The members of a handler whose request was parsed. -/
theorem constructed_parsed (lib : Externals) (root : Value) :
    constructed lib (true, root) = ⟨root, .null, .null, .null, lib.freshTransaction⟩ := rfl

/-- The constructor runs to the end. -/
theorem construct_run (lib : Externals) (parsed : Bool × Value) :
    construct parsed (HandlerState.initial lib) = .ret (.ok (), constructed lib parsed) := by
  obtain ⟨success, root⟩ := parsed
  cases success <;> rfl

/-- How a served request ended. -/
abbrev ServeOutcome := Outcome Op Reply HandlerState Exc World Bytes

/-- Serving continues after the constructor. -/
theorem serve_run (lib : Externals) (req : Bytes) (w : World) :
    (serve lib req).run service (HandlerState.initial lib) w =
      (handleRequest lib >>= fun _ => getResponse lib).run service
        (constructed lib (lib.parse req)) w := by
  have hserve : serve lib req (HandlerState.initial lib) =
      (handleRequest lib >>= fun _ => getResponse lib) (constructed lib (lib.parse req)) := by
    change (construct (lib.parse req) (HandlerState.initial lib)).bind _ = _
    rw [construct_run]
    rfl
  rw [Routine.run, Routine.run, hserve]

end XrpcServer.Handler
