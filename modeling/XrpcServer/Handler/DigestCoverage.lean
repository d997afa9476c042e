import XrpcServer.Handler.Drafts

/-!
# What the digest covers

The builder hashes the transaction as its last step and the seal only adds the signature and
the arrival time. `transfer_in` alone goes on writing: the origin of the payment is copied
from the request after the last hash, so it is covered only where it was already there.
-/

namespace XrpcServer.Handler

open XrpcServer.Text XrpcServer.Chain XrpcServer.Interaction XrpcServer.Json
open XrpcServer.Json (Value)

/-- Whatever is dispatched has the payload the last digest of the request was computed over. -/
def DigestsCover (o : HandlerOutcome) : Prop :=
  ∀ final ∈ dispatches o.trace, ∃ hashed, (hashes o.trace).getLast? = some hashed ∧
    final.payload = hashed.payload

/-- A `transfer_in` request with this origin passes every check. -/
def TransferInPasses (lib : Externals) (w : World) (root : Value) (fresh : Xtransaction)
    (sender amount : Bytes) : Prop :=
  ∃ account encoded timestamp lastHash signed,
    ReadsTransferIn lib w root account encoded timestamp lastHash ∧
    sealTx lib w root (noHash account) (digested w (transferInTx lib.types account
      (UInt64.ofInt timestamp) (digestAt w (lib.base64Decode encoded)) lastHash fresh)) = .ok signed ∧
    stringOf lib root "sender" = .ok sender ∧ stringOf lib root "amount" = .ok amount ∧
    w.txHashAndSignVerify { signed with originSender := sender, originAmount := amount } = true ∧
    HeadMatches w account lastHash

section Admission

variable {lib : Externals} {w : World} {root : Value} {fresh : Xtransaction}

/-- The payload of an admitted transaction is its draft's, unless an origin is written. -/
theorem payload_of_admitted {draft : Draft} {final : Xtransaction}
    (hdraft : Drafted lib w root fresh draft) (haccept : draft.accept lib w root = .ok final) :
    final.payload = draft.built.payload ∨ ∃ sender amount, TransferInPasses lib w root fresh sender amount ∧
      final.payload = { draft.built.payload with originSender := sender, originAmount := amount } ∧
      draft.built.originSender = fresh.originSender ∧ draft.built.originAmount = fresh.originAmount := by
  obtain ⟨signed, hseal, hfinish, hverify, hcheck⟩ := Draft.accept_eq_ok.mp haccept
  have hpayload : signed.payload = draft.built.payload := (sealTx_payload hseal).trans rfl
  cases hdraft with
  | transferIn reads =>
    right
    obtain ⟨sender, amount, hsender, hamount, rfl⟩ := writeOrigin_eq_ok.mp hfinish
    have hhead := headCheck_eq_ok.mp hcheck
    have haccount := congrArg Payload.senderAddr hpayload
    have hdigest := congrArg Payload.lastMsgDigest hpayload
    simp only [Xtransaction.payload, transferInTx] at haccount hdigest
    simp only [haccount, hdigest] at hhead
    refine ⟨sender, amount, ⟨_, _, _, _, signed, reads, hseal, hsender, hamount, hverify, hhead⟩, ?_,
      rfl, rfl⟩
    rw [← hpayload]
    rfl
  | accountCreate reads | transferOut reads | give reads | setProperty reads =>
    left
    obtain rfl : signed = final := by simpa using hfinish
    exact hpayload

/-- A request that passes is admitted with its origin. -/
theorem TransferInPasses.admitted {sender amount : Bytes}
    (h : TransferInPasses lib w root fresh sender amount) : ∃ draft final,
      Drafted lib w root fresh draft ∧ draft.accept lib w root = .ok final ∧
      final.originSender = sender ∧ final.originAmount = amount ∧
      draft.built.originSender = fresh.originSender ∧ draft.built.originAmount = fresh.originAmount := by
  obtain ⟨account, encoded, timestamp, lastHash, signed, reads, hseal, hsender, hamount, hverify,
    hhead⟩ := h
  have hpayload := sealTx_payload hseal
  have haccount : signed.senderAddr = account := congrArg Payload.senderAddr hpayload
  have hdigest : signed.lastMsgDigest = lastHash := congrArg Payload.lastMsgDigest hpayload
  let final : Xtransaction := { signed with originSender := sender, originAmount := amount }
  refine ⟨_, final, .transferIn reads, ?_, rfl, rfl, rfl, rfl⟩
  refine Draft.accept_eq_ok.mpr ⟨signed, hseal, ?_, hverify, headCheck_eq_ok.mpr ?_⟩
  · exact writeOrigin_eq_ok.mpr ⟨sender, amount, hsender, hamount, rfl⟩
  · simpa [final, haccount, hdigest] using hhead

end Admission

/-- The last digest of an admitted request is computed over the payload of its draft. -/
theorem Draft.taken_getLast (w : World) (draft : Draft) :
    ∃ hashed, (draft.taken w).getLast? = some hashed ∧ hashed.payload = draft.built.payload := by
  cases h : draft.nohash with
  | false => exact ⟨draft.built, by simp [Draft.taken, h], rfl⟩
  | true => exact ⟨digested w draft.built, by simp [Draft.taken, h], rfl⟩

/-- Digests cover what is dispatched exactly when no `transfer_in` request passes with an origin
other than that of a fresh transaction. -/
theorem digestsCover_iff (lib : Externals) (w : World) (parsed : Bool × Value) :
    DigestsCover ((handleRequest lib).run service (constructed lib parsed) w) ↔
      ∀ sender amount, TransferInPasses lib w parsed.2 lib.freshTransaction sender amount →
        sender = lib.freshTransaction.originSender ∧ amount = lib.freshTransaction.originAmount := by
  have hended := handleRequest_ended lib w (constructed lib parsed) (fields_constructed lib parsed)
  have hdispatches := dispatches_handleRequest lib w parsed
  generalize (handleRequest lib).run service (constructed lib parsed) w = o at hended hdispatches ⊢
  constructor
  · intro hcover sender amount hpasses
    obtain ⟨draft, final, hdraft, haccept, hsender, hamount, hbuiltSender, hbuiltAmount⟩ :=
      hpasses.admitted
    have htrace := hended.submitTrace hdraft haccept
    obtain ⟨hashed, hlast, hpayload⟩ := hcover final (by simp [htrace.dispatches_eq])
    obtain ⟨hashed', hlast', hbuilt⟩ := draft.taken_getLast w
    rw [htrace.hashes_eq, hlast'] at hlast
    cases hlast
    rw [hbuilt] at hpayload
    rw [← hsender, ← hamount, ← hbuiltSender, ← hbuiltAmount]
    exact ⟨congrArg Payload.originSender hpayload, congrArg Payload.originAmount hpayload⟩
  · intro hfresh final hfinal
    have hadmitted : admitted lib w parsed.2 lib.freshTransaction = some final := by
      simpa [hdispatches, eq_comm] using hfinal
    obtain ⟨draft, hdraft, haccept⟩ := admitted_eq_some.mp hadmitted
    have htrace := hended.submitTrace hdraft haccept
    obtain ⟨hashed, hlast, hbuilt⟩ := draft.taken_getLast w
    refine ⟨hashed, by rw [htrace.hashes_eq, hlast], ?_⟩
    rw [hbuilt]
    rcases payload_of_admitted hdraft haccept with hpayload |
      ⟨sender, amount, hpasses, hpayload, hbuiltSender, hbuiltAmount⟩
    · exact hpayload
    · obtain ⟨rfl, rfl⟩ := hfresh sender amount hpasses
      rw [hpayload, ← hbuiltSender, ← hbuiltAmount]
      rfl

/-- A `transfer_in` with an origin of the client's choice. -/
def claimedOrigin : Value := .object
  [(str "account", .string (str "T-alice")), (str "action", .string (str "transfer_in")),
    (str "amount", .string (str "1000000")),
    (str "last_digest", .string (str "AQEBAQEBAQEBAQEBAQEBAQEBAQEBAQEBAQEBAQEBAQE=")),
    (str "sender", .string (str "T-bob")), (str "signature", .string (str "c2ln")),
    (str "timestamp", .int 7),
    (str "tx_digest", .string (str "AgICAgICAgICAgICAgICAgICAgICAgICAgICAgICAgI="))]

/-- The origin of the sent transaction was not there when its digest was computed. -/
theorem claimedOrigin_not_covered : ¬DigestsCover ((handleRequest sampleExternals).run service
    (constructed sampleExternals (true, claimedOrigin)) sampleWorld) := by
  intro hcover
  have hsent : ∃ final ∈ dispatches ((handleRequest sampleExternals).run service
      (constructed sampleExternals (true, claimedOrigin)) sampleWorld).trace,
      final.originSender = str "T-bob" := by
    decide +kernel
  have hhashed : ∀ hashed ∈ hashes ((handleRequest sampleExternals).run service
      (constructed sampleExternals (true, claimedOrigin)) sampleWorld).trace,
      hashed.originSender = [] := by
    decide +kernel
  obtain ⟨final, hfinal, horigin⟩ := hsent
  obtain ⟨hashed, hlast, hpayload⟩ := hcover final hfinal
  have hempty := hhashed hashed (List.mem_of_getLast? hlast)
  have heq : final.originSender = hashed.originSender := congrArg Payload.originSender hpayload
  rw [horigin, hempty] at heq
  revert heq
  decide

end XrpcServer.Handler
