import XrpcServer.Handler.Drafts

/-!
# The amount of a transfer

`transfer_out` compares what `stoll` reads from the amount with what it reads from the
balance, and sends the amount as the string it was given. A sign, white space or a tail after
the digits passes the comparison; only an amount made of digits and different from zero is a
positive amount covered by the balance.
-/

namespace XrpcServer.Handler

open XrpcServer.Text XrpcServer.Chain XrpcServer.Interaction XrpcServer.Json
open XrpcServer.Json (Value)

/-- The whole amount is a numeral, positive and at most the balance reported for the request. -/
def AmountCovered (lib : Externals) (w : World) (root : Value) (final : Xtransaction) : Prop :=
  ∃ source assetKey a b, stringOf lib root "source" = .ok source ∧
    stringOf lib root "property_key" = .ok assetKey ∧ IsNumeral final.transactionParams a ∧
    stoll (w.store.getAccountBalance source assetKey).2 = .ok b ∧ 0 < a ∧ a ≤ b

/-- Whatever a `transfer_out` request dispatches moves a covered amount. -/
def TransfersCovered (lib : Externals) (w : World) (root : Value) (o : HandlerOutcome) : Prop :=
  stringOf lib root "action" = .ok (str "transfer_out") →
    ∀ final ∈ dispatches o.trace, AmountCovered lib w root final

/-- A `transfer_out` request with this amount passes every check. -/
def TransferOutPasses (lib : Externals) (w : World) (root : Value) (fresh : Xtransaction)
    (ammount : Bytes) : Prop :=
  ∃ account source destination assetKey timestamp lastHash signed,
    ReadsTransferOut lib w root account source destination assetKey ammount timestamp lastHash ∧
    sealTx lib w root (noHash source) (digested w (transferOutTx lib.types source destination assetKey
      ammount (UInt64.ofInt timestamp) lastHash fresh)) = .ok signed ∧
    w.txHashAndSignVerify signed = true ∧ BalanceSuffices w source assetKey ammount ∧
    HeadMatches w source lastHash

section Admission

variable {lib : Externals} {w : World} {root : Value} {fresh : Xtransaction}

/-- An admitted transfer carries the amount of a request that passes. -/
theorem transferOutPasses_of_admitted {final : Xtransaction}
    (haction : stringOf lib root "action" = .ok (str "transfer_out"))
    (h : admitted lib w root fresh = some final) :
    TransferOutPasses lib w root fresh final.transactionParams := by
  have haction' : stringOf lib root "action" = .ok (str Action.transferOut.text) := haction
  obtain ⟨draft, hdraft, haccept⟩ := admitted_eq_some.mp h
  obtain ⟨signed, hseal, hfinish, hverify, hcheck⟩ := Draft.accept_eq_ok.mp haccept
  have hpayload := sealTx_payload hseal
  cases hdraft with
  | transferOut reads =>
    obtain rfl : signed = final := by simpa using hfinish
    obtain ⟨_, hbalance, hhead⟩ := except_bind_eq_ok.mp hcheck
    rw [headCheck_eq_ok] at hhead
    have hamount := congrArg Payload.transactionParams hpayload
    have hdigest := congrArg Payload.lastMsgDigest hpayload
    simp only [Xtransaction.payload, digested, transferOutTx] at hamount hdigest
    rw [hamount]
    rw [hdigest] at hhead
    exact ⟨_, _, _, _, _, _, _, reads, hseal, hverify, balanceCheck_eq_ok.mp hbalance, hhead⟩
  | accountCreate reads | give reads | transferIn reads | setProperty reads => cases reads.kind_eq haction'

/-- A request that passes is admitted with its amount. -/
theorem TransferOutPasses.admitted {ammount : Bytes} (h : TransferOutPasses lib w root fresh ammount) :
    ∃ final, admitted lib w root fresh = some final ∧ final.transactionParams = ammount ∧
      ∃ source assetKey, stringOf lib root "source" = .ok source ∧
        stringOf lib root "property_key" = .ok assetKey ∧ BalanceSuffices w source assetKey ammount := by
  obtain ⟨account, source, destination, assetKey, timestamp, lastHash, signed, reads, hseal, hverify,
    hbalance, hhead⟩ := h
  have hpayload := sealTx_payload hseal
  have hdigest : signed.lastMsgDigest = lastHash := congrArg Payload.lastMsgDigest hpayload
  refine ⟨signed, admitted_eq_some.mpr ⟨_, .transferOut reads, ?_⟩,
    congrArg Payload.transactionParams hpayload, source, assetKey, reads.hsource, reads.hassetKey,
    hbalance⟩
  refine Draft.accept_eq_ok.mpr ⟨signed, hseal, rfl, hverify, ?_⟩
  refine except_bind_eq_ok.mpr ⟨(), balanceCheck_eq_ok.mpr hbalance, headCheck_eq_ok.mpr ?_⟩
  rwa [hdigest]

end Admission

/-- Transfers are covered exactly when every amount that passes is made of digits and not zero. -/
theorem transfersCovered_iff (lib : Externals) (w : World) (parsed : Bool × Value) :
    TransfersCovered lib w parsed.2 ((handleRequest lib).run service (constructed lib parsed) w) ↔
      ∀ ammount, TransferOutPasses lib w parsed.2 lib.freshTransaction ammount →
        PositiveDigits ammount := by
  unfold TransfersCovered
  rw [dispatches_handleRequest]
  constructor
  · intro hcovered ammount hpasses
    obtain ⟨final, hadmitted, hamount, -⟩ := hpasses.admitted
    have haction : stringOf lib parsed.2 "action" = .ok (str "transfer_out") := by
      obtain ⟨account, source, destination, assetKey, timestamp, lastHash, signed, reads, -⟩ := hpasses
      exact reads.haction
    obtain ⟨source, assetKey, a, b, -, -, hnumeral, -, hpos, -⟩ :=
      hcovered haction final (by simp [hadmitted])
    rw [← hamount]
    exact positiveDigits_iff.mpr ⟨a, hpos, hnumeral⟩
  · intro hdigits haction final hfinal
    have hadmitted : admitted lib w parsed.2 lib.freshTransaction = some final := by
      simpa [eq_comm] using hfinal
    have hpasses := transferOutPasses_of_admitted haction hadmitted
    obtain ⟨a, hpos, hnumeral⟩ := positiveDigits_iff.mp (hdigits _ hpasses)
    obtain ⟨_, _, _, source, assetKey, hsource, hassetKey, -, available, requested, havailable,
      hrequested, hle⟩ := hpasses.admitted
    -- on a numeral `stoll` reads the number itself
    obtain rfl : a = requested := hnumeral.eq_of_stoll hrequested
    exact ⟨source, assetKey, a, available, hsource, hassetKey, hnumeral, havailable, hpos, hle⟩

/-- A transfer of "-5", signed by its sender. -/
def negativeTransfer : Value := .object
  [(str "account", .string (str "T-alice")), (str "action", .string (str "transfer_out")),
    (str "amount", .string (str "-5")), (str "destination", .string (str "T-bob")),
    (str "last_digest", .string (str "AQEBAQEBAQEBAQEBAQEBAQEBAQEBAQEBAQEBAQEBAQE=")),
    (str "property_key", .string (str "$$")), (str "signature", .string (str "c2ln")),
    (str "source", .string (str "T-alice")), (str "timestamp", .int 7)]

/-- The sample server sends it. -/
theorem negativeTransfer_sent : ∃ final ∈ dispatches ((handleRequest sampleExternals).run service
    (constructed sampleExternals (true, negativeTransfer)) sampleWorld).trace,
    final.transactionParams = str "-5" := by
  decide +kernel

/-- A negative amount is neither positive nor refused. -/
theorem negativeTransfer_not_covered : ¬TransfersCovered sampleExternals sampleWorld negativeTransfer
    ((handleRequest sampleExternals).run service
      (constructed sampleExternals (true, negativeTransfer)) sampleWorld) := by
  intro hcovered
  obtain ⟨final, hfinal, hamount⟩ := negativeTransfer_sent
  obtain ⟨source, assetKey, a, b, -, -, hnumeral, -, hpos, -⟩ := hcovered (by decide) final hfinal
  rw [hamount] at hnumeral
  have hdigits : PositiveDigits (str "-5") := positiveDigits_iff.mpr ⟨a, hpos, hnumeral⟩
  revert hdigits
  decide

end XrpcServer.Handler
