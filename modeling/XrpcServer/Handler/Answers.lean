import XrpcServer.Handler.Returning

/-!
# The requests that are answered

A served request returns a response exactly when it is answerable. For the transaction
actions this follows from their admission, for all others from symbolic execution.
-/

namespace XrpcServer.Handler

open XrpcServer.Text XrpcServer.Chain XrpcServer.Interaction XrpcServer.Json
open XrpcServer.Json (Value)

/-- An admission leaves a response exactly when no exception stops it. -/
theorem Concludes.responds_iff {lib : Externals} {w : World} {rsp : Value}
    {members : List (Bytes × Value)} {taken : List Xtransaction} {keys : List (Bytes × Xtransaction)}
    {x : Except Stop Xtransaction} {o : HandlerOutcome} (h : Concludes lib w rsp members taken keys x o) :
    Responds o ↔ Finishes x := by
  rcases x with (e | code) | final
  · obtain ⟨hresult, -⟩ := h
    simp [Responds, hresult]
  · obtain ⟨hresult, hrsp, -⟩ := h
    simp [Responds, hresult, hrsp]
  · obtain ⟨hresult, hrsp, -⟩ := h
    simp [Responds, hresult, hrsp]

/-- A member without a text makes its conversion throw. -/
theorem exists_throws (lib : Externals) {root : Value} {key : String} (h : ¬HasText root key) :
    ∃ e, stringOf lib root key = .error e := by
  cases hread : stringOf lib root key with
  | error e => exact ⟨e, rfl⟩
  | ok b =>
    have htext : stringOf lib root key = .ok (textOf lib root key) := eq_ok_getD_iff.mpr ⟨b, hread⟩
    exact absurd ((stringOf_eq_ok_iff lib).mp htext) h

/-- A handler with the members its constructor leaves handles exactly the answerable requests. -/
theorem handleRequest_responds_iff (lib : Externals) (w : World) (parsed : Bool × Value) :
    Responds ((handleRequest lib).run service (constructed lib parsed) w) ↔
      Answerable lib w parsed.2 lib.freshTransaction := by
  have hs := fields_constructed lib parsed
  have hhandles := handleRequest_handles lib w (constructed lib parsed) hs
  have hroot : (constructed lib parsed).root = parsed.2 := rfl
  unfold Handles at hhandles
  by_cases haction : HasText parsed.2 "action"
  case neg =>
    obtain ⟨e, he⟩ := exists_throws lib haction
    simp only [requestAction, hroot, he, except_bind_error] at hhandles
    simp [hhandles.responds_iff, Answerable, haction]
  by_cases haccount : HasText parsed.2 "account"
  case neg =>
    obtain ⟨e, he⟩ := exists_throws lib haccount
    simp only [requestAction, hroot, (stringOf_eq_ok_iff lib).mpr haction, he, except_bind_ok,
      except_bind_error] at hhandles
    simp [hhandles.responds_iff, Answerable, haccount]
  have hactionRead := (stringOf_eq_ok_iff lib).mpr haction
  have haccountRead := (stringOf_eq_ok_iff lib).mpr haccount
  simp only [requestAction, hroot, hactionRead, haccountRead, except_bind_ok, except_pure] at hhandles
  simp only [Answerable, haction, haccount, true_and]
  cases hdraft : actionDraft lib w parsed.2 lib.freshTransaction (noHash (textOf lib parsed.2 "account"))
      (actionOf (textOf lib parsed.2 "action")) with
  | some draft =>
    rw [← finishes_decision_iff haccount hdraft]
    have htx : (constructed lib parsed).tx = lib.freshTransaction := rfl
    rw [htx, hdraft] at hhandles
    cases draft with
    | error stop => exact Concludes.responds_iff hhandles
    | ok draft => exact Concludes.responds_iff hhandles
  | none =>
    rw [handleRequest_run lib w (constructed lib parsed) hactionRead haccountRead, responds_iff_returns]
    exact returns_runAction_iff lib w _ [] hs haccount rfl rfl _ (actionDraft_eq_none.mp hdraft)

/-- A response can be taken unless it is an empty array. -/
theorem wp_getResponse_iff (lib : Externals) (s : HandlerState) (c : Config) :
    (getResponse lib).wp service.spec (fun _ _ _ => True) noExit s c ↔ s.jsRsp ≠ .array [] := by
  cases hrsp : s.jsRsp with
  | null => simp [getResponse, hrsp, Value.isEmpty]
  | array items => cases items <;> simp [getResponse, hrsp, Value.isEmpty, Value.fields]
  | object members => simp [getResponse, hrsp]
  | _ => simp [getResponse, hrsp, Value.isEmpty]

/-- The request got a response. -/
def Answers (o : ServeOutcome) : Prop := ∃ response, o.result = .ok response

/-- A served request is answered exactly when its handling leaves a response to take. -/
theorem answers_iff_responds (lib : Externals) (w : World) (req : Bytes) :
    Answers ((serve lib req).run service (HandlerState.initial lib) w) ↔
      Responds ((handleRequest lib).run service (constructed lib (lib.parse req)) w) := by
  rw [serve_run, responds_iff_returns, Routine.run_iff_wp service _ _ w Answers, Routine.wp_bind]
  have hanswer : ∀ s c, (getResponse lib).wp service.spec
      (fun a s' c' => Answers ⟨.ok a, s', c'.1, c'.2⟩) (fun e s' c' => Answers ⟨.error e, s', c'.1, c'.2⟩)
        s c ↔ s.jsRsp ≠ .array [] := by
    intro s c
    simp [Answers, ← wp_getResponse_iff lib s c]
  simp only [hanswer, Returns]
  simp [Answers]

/-- A served request is answered exactly when it has what its action needs. -/
theorem serve_answers_iff (lib : Externals) (w : World) (req : Bytes) :
    Answers ((serve lib req).run service (HandlerState.initial lib) w) ↔
      Answerable lib w (lib.parse req).2 lib.freshTransaction := by
  rw [answers_iff_responds]
  exact handleRequest_responds_iff lib w (lib.parse req)

/-- A `set_property` request without an account. -/
def accountlessProperty : Bytes :=
  str "\x7b\"action\":\"set_property\",\"property_key\":\"@name\"\x7d"

/-- A server whose parser reads this request. -/
def accountlessExternals : Externals :=
  { sampleExternals with
    parse := fun req =>
      if req = accountlessProperty then
        (true, .object [(str "action", .string (str "set_property")),
          (str "property_key", .string (str "@name"))])
      else (false, .null) }

/-- The sample store reports numerals. -/
theorem sampleStore_balancesDecimal : BalancesDecimal sampleStore := by
  intro account key balance hreply
  cases hreply
  have hdigits : ∀ b ∈ str "1000", isDigit b := by decide +kernel
  have hvalue : (1000 : ℤ) = signedValue false (str "1000") := by decide +kernel
  exact ⟨1000, ⟨false, str "1000", by decide, hdigits, rfl, hvalue⟩, by decide⟩

/-- Its `account` is converted to text for every action, but has no C string. -/
theorem accountlessProperty_not_answered :
    (accountlessExternals.parse accountlessProperty).1 = true ∧ BalancesDecimal sampleWorld.store ∧
      ¬Answers ((serve accountlessExternals accountlessProperty).run service
        (HandlerState.initial accountlessExternals) sampleWorld) := by
  refine ⟨by decide +kernel, sampleStore_balancesDecimal, ?_⟩
  intro hanswers
  obtain ⟨response, hresponse⟩ := hanswers
  have hnone : ((serve accountlessExternals accountlessProperty).run service
      (HandlerState.initial accountlessExternals) sampleWorld).result.toOption = none := by
    decide +kernel
  rw [hresponse] at hnone
  cases hnone

end XrpcServer.Handler
