import XrpcServer.Handler.Drafts

/-!
# What a transaction is refused with

Every refusal of a transaction action carries the code of an error. The code for a wrong chain
position is special: it is used only when the last digest of the transaction under construction
is not the recorded head of its sender.
-/

namespace XrpcServer.Handler

open XrpcServer.Text XrpcServer.Chain XrpcServer.Interaction XrpcServer.Json
open XrpcServer.Json (Value)

section Codes

variable {α β : Type}

/-- The value has a property, and a refusal carries an allowed code. -/
def RefusesWith (allowed : XrpcReturn → Prop) (post : α → Prop) : Except Stop α → Prop
  | .ok a => post a
  | .error (.refused code) => allowed code
  | .error (.thrown _) => True

variable {allowed : XrpcReturn → Prop}

/-- An exception is no refusal. -/
theorem RefusesWith.thrown (e : Exc) {post : α → Prop} :
    RefusesWith allowed post (.error (.thrown e) : Except Stop α) := trivial

/-- A conversion refuses nothing. -/
theorem refusesWith_orThrow (x : Except Exc α) : RefusesWith allowed (fun _ => True) (orThrow x) := by
  cases x <;> trivial

/-- A check refuses with its own code. -/
theorem refusesWith_refuseIf (c : Prop) [Decidable c] {code : XrpcReturn} (hcode : c → allowed code) :
    RefusesWith allowed (fun _ => True) (refuseIf c code) := by
  unfold refuseIf
  split
  · exact hcode ‹_›
  · trivial

/-- The property of the first value is what the second computation may rely on. -/
theorem RefusesWith.bind {mid : α → Prop} {post : β → Prop} {x : Except Stop α}
    {f : α → Except Stop β} (hx : RefusesWith allowed mid x)
    (hf : ∀ a, mid a → RefusesWith allowed post (f a)) : RefusesWith allowed post (x >>= f) := by
  rcases x with (e | code) | a
  · trivial
  · exact hx
  · exact hf a hx

/-- More may be allowed. -/
theorem RefusesWith.mono {allowed' : XrpcReturn → Prop} {post : α → Prop} {x : Except Stop α}
    (hallowed : ∀ code, allowed code → allowed' code) (h : RefusesWith allowed post x) :
    RefusesWith allowed' post x := by
  rcases x with (e | code) | a
  · trivial
  · exact hallowed code h
  · exact h

end Codes

/-- The codes a transaction is refused with, other than the one for a wrong chain position. -/
def ordinaryCodes : List XrpcReturn :=
  [.serverAccountExist, .senderReceiverTheSame, .serverAccountNotFound, .propertyKeyNotValid,
    .serverHashSignatureCheckFail, .noPropertyKey, .serverAccountBalanceNotEnough, .alreadyGive]

/-- An ordinary code, or the code for a chain position that is wrong. -/
def MayRefuse (w : World) (sender : Bytes) (lastHash : Uint256) (code : XrpcReturn) : Prop :=
  code ∈ ordinaryCodes ∨ (code = .lastHashError ∧ ¬HeadMatches w sender lastHash)

/-- No ordinary refusal says that all is well. -/
theorem ne_ok_of_mem_ordinaryCodes {code : XrpcReturn} (h : code ∈ ordinaryCodes) : code ≠ .ok := by
  intro hok
  rw [hok] at h
  exact absurd h (by decide)

/-- No refusal says that all is well. -/
theorem ne_ok_of_mayRefuse {w : World} {sender : Bytes} {lastHash : Uint256} {code : XrpcReturn}
    (h : MayRefuse w sender lastHash code) : code ≠ .ok := by
  rcases h with hordinary | ⟨rfl, -⟩
  · exact ne_ok_of_mem_ordinaryCodes hordinary
  · decide

/-- An ordinary refusal is one that may happen. -/
theorem RefusesWith.mayRefuse {w : World} {α : Type} {post : α → Prop} {x : Except Stop α} {sender : Bytes}
    {lastHash : Uint256} (h : RefusesWith (· ∈ ordinaryCodes) post x) :
    RefusesWith (MayRefuse w sender lastHash) post x := h.mono fun _ hcode => Or.inl hcode

section Drafts

variable (lib : Externals) (w : World) (root : Value)

/-- Only ordinary refusals. -/
abbrev RefusesOrdinarily {α : Type} (x : Except Stop α) : Prop :=
  RefusesWith (· ∈ ordinaryCodes) (fun _ => True) x

/-- Reading the timestamp refuses nothing. -/
theorem refuses_timestampOf : RefusesOrdinarily (timestampOf root) :=
  (refusesWith_orThrow _).bind fun _ _ => trivial

/-- An account that is not there is refused with an ordinary code. -/
theorem refuses_lastDigestOf (nohash : Bool) (account : Bytes) :
    RefusesOrdinarily (lastDigestOf lib w root nohash account) := by
  unfold lastDigestOf
  split
  · cases w.store.getAccountSnapInfo account with
    | none => exact (by decide : XrpcReturn.serverAccountNotFound ∈ ordinaryCodes)
    | some snap => trivial
  · exact (refusesWith_orThrow _).bind fun _ _ => trivial

/-- Sealing leaves the payload alone. -/
theorem refuses_sealTx (nohash : Bool) (tx : Xtransaction) :
    RefusesWith (· ∈ ordinaryCodes) (fun signed => signed.payload = tx.payload)
      (sealTx lib w root nohash tx) := by
  cases hseal : sealTx lib w root nohash tx with
  | ok signed => exact sealTx_payload hseal
  | error stop =>
    cases nohash with
    | true => cases hkey : priKeyOf tx.senderAddr <;> simp [sealTx, hkey] at hseal
    | false =>
      cases hread : stringOf lib root "signature" with
      | ok signature => simp [sealTx, hread] at hseal
      | error e =>
        obtain rfl : Stop.thrown e = stop := by simpa [sealTx, hread] using hseal
        trivial

/-- A wrong last hash is refused only if it is not the head. -/
theorem refuses_headCheck (account : Bytes) (tx : Xtransaction) :
    RefusesWith (MayRefuse w account tx.lastMsgDigest) (fun _ => True) (headCheck w account tx) := by
  apply refusesWith_refuseIf
  intro hwrong
  right
  refine ⟨rfl, fun hmatches => ?_⟩
  obtain ⟨hash, hhash, hne⟩ := hwrong
  exact hne (hmatches hash hhash)

/-- A balance that is too small is refused with an ordinary code. -/
theorem refuses_balanceCheck (account assetKey ammount : Bytes) :
    RefusesOrdinarily (balanceCheck w account assetKey ammount) := by
  apply (refusesWith_refuseIf _ fun _ => by decide).bind
  intro _ _
  apply (refusesWith_refuseIf _ fun _ => by decide).bind
  intro _ _
  apply (refusesWith_orThrow _).bind
  intro available _
  apply (refusesWith_orThrow _).bind
  intro requested _
  exact refusesWith_refuseIf _ fun _ => by decide

/-- So is an account that has been paid. -/
theorem refuses_faucetCheck (dstAccount : Bytes) : RefusesOrdinarily (faucetCheck lib w dstAccount) := by
  apply (refusesWith_refuseIf _ fun _ => by decide).bind
  intro _ _
  apply (refusesWith_refuseIf _ fun _ => by decide).bind
  intro _ _
  exact refusesWith_refuseIf _ fun _ => by decide

/-- The later steps of a draft keep the chain position of the built transaction, and refuse only
what they may refuse. -/
def Draft.Refuses (draft : Draft) : Prop :=
  ∀ tx, tx.senderAddr = draft.built.senderAddr →
    RefusesWith (· ∈ ordinaryCodes)
      (fun final => final.senderAddr = tx.senderAddr ∧ final.lastMsgDigest = tx.lastMsgDigest)
      (draft.finish tx) ∧
    RefusesWith (MayRefuse w tx.senderAddr tx.lastMsgDigest) (fun _ => True) (draft.check tx)

/-- An admission refuses with an ordinary code, or because the built transaction does not extend
the head of its sender. -/
theorem Draft.Refuses.accept {draft : Draft} (h : draft.Refuses w) :
    RefusesWith (MayRefuse w draft.built.senderAddr draft.built.lastMsgDigest) (fun _ => True)
      (draft.accept lib w root) := by
  apply (refuses_sealTx lib w root _ _).mayRefuse.bind
  intro signed hpayload
  have hsender : signed.senderAddr = draft.built.senderAddr := congrArg Payload.senderAddr hpayload
  have hdigest : signed.lastMsgDigest = draft.built.lastMsgDigest :=
    congrArg Payload.lastMsgDigest hpayload
  apply (h signed hsender).1.mayRefuse.bind
  intro final hfinal
  apply (refusesWith_refuseIf _ fun _ => Or.inl (by decide)).bind
  intro _ _
  have hcheck := (h final (hfinal.1.trans hsender)).2
  rw [hfinal.1, hfinal.2, hsender, hdigest] at hcheck
  exact hcheck.bind fun _ _ => trivial

variable (fresh : Xtransaction)

/-- Every draft refuses ordinarily until it is sealed. -/
theorem refuses_actionDraft {nohash : Bool} {action : Action} {draft : Except Stop Draft}
    (h : actionDraft lib w root fresh nohash action = some draft) :
    RefusesWith (· ∈ ordinaryCodes) (Draft.Refuses w) draft := by
  cases action <;> cases h
  case accountCreate =>
    apply (refusesWith_orThrow _).bind
    intro account _
    apply (refusesWith_refuseIf _ fun _ => by decide).bind
    intro _ _
    apply (refusesWith_orThrow _).bind
    intro amount _
    apply (refuses_timestampOf root).bind
    intro timestamp _
    exact fun tx _ => ⟨⟨rfl, rfl⟩, trivial⟩
  case transferOut =>
    apply (refusesWith_orThrow _).bind
    intro source _
    apply (refusesWith_orThrow _).bind
    intro srcAccount _
    apply (refusesWith_orThrow _).bind
    intro dstAccount _
    apply (refusesWith_orThrow _).bind
    intro assetKey _
    apply (refusesWith_orThrow _).bind
    intro ammount _
    apply (refuses_timestampOf root).bind
    intro timestamp _
    apply (refusesWith_refuseIf _ fun _ => by decide).bind
    intro _ _
    apply (refuses_lastDigestOf lib w root _ _).bind
    intro lastHash _
    refine fun tx hsender => ⟨⟨rfl, rfl⟩, ?_⟩
    apply (refuses_balanceCheck w _ _ _).mayRefuse.bind
    intro _ _
    have hsource : tx.senderAddr = srcAccount := hsender
    rw [hsource]
    exact refuses_headCheck w srcAccount tx
  case transferIn =>
    apply (refuses_timestampOf root).bind
    intro timestamp _
    apply (refusesWith_orThrow _).bind
    intro account _
    apply (refuses_lastDigestOf lib w root _ _).bind
    intro lastHash _
    apply (refusesWith_orThrow _).bind
    intro encoded _
    refine fun tx _ => ⟨?_, refuses_headCheck w _ _⟩
    apply (refusesWith_orThrow _).bind
    intro sender _
    exact (refusesWith_orThrow _).bind fun amount _ => ⟨rfl, rfl⟩
  case setProperty =>
    apply (refusesWith_orThrow _).bind
    intro propertyKey _
    apply (refusesWith_refuseIf _ fun _ => by decide).bind
    intro _ _
    apply (refusesWith_orThrow _).bind
    intro cAccount _
    apply (refuses_lastDigestOf lib w root _ _).bind
    intro lastHash _
    apply (refusesWith_orThrow _).bind
    intro account _
    apply (refusesWith_orThrow _).bind
    intro propertyValue _
    apply (refuses_timestampOf root).bind
    intro timestamp _
    exact fun tx _ => ⟨⟨rfl, rfl⟩, trivial⟩
  case give =>
    apply (refusesWith_orThrow _).bind
    intro dstAccount _
    apply (refuses_timestampOf root).bind
    intro timestamp _
    apply (refuses_lastDigestOf lib w root _ _).bind
    intro lastHash _
    exact fun tx _ => ⟨⟨rfl, rfl⟩, (refuses_faucetCheck lib w _).mayRefuse⟩

end Drafts

end XrpcServer.Handler
