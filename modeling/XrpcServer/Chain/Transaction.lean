import XrpcServer.Text.Bytes

/-!
# Transactions and digests

The members of `xtransaction_t` that the server reads or writes, and 256-bit digests as byte
strings of length 32. The numeric codes of the transaction types belong to the chain library;
they enter as parameters that are only known to be distinct.
-/

namespace XrpcServer.Chain

open XrpcServer.Text

/-- `uint256_t`: exactly 32 bytes. -/
abbrev Uint256 := { bytes : Bytes // bytes.length = 32 }

/-- The digest of 32 zero bytes that `memset` leaves. -/
def Uint256.zero : Uint256 := ⟨List.replicate 32 0, by simp⟩

/-- The first 32 bytes of a string. -/
def Uint256.ofFront (s : Bytes) (h : 32 ≤ s.length) : Uint256 := ⟨s.take 32, List.length_take_of_le h⟩

/-- Codes of `xtransbase_t::enum_xtransaction_type`. -/
structure TransactionTypes where
  createAccount : ℕ
  transferAssetOut : ℕ
  transferAssetIn : ℕ
  dataPropertyOperation : ℕ
  distinct : [createAccount, transferAssetOut, transferAssetIn, dataPropertyOperation].Nodup

/-- `xtransaction_t`. -/
structure Xtransaction where
  transactionType : ℕ
  senderAddr : Bytes
  receiverAddr : Bytes
  propertyKey : Bytes
  transactionParams : Bytes
  timestamp : UInt64
  lastMsgDigest : Uint256
  randomNounce : UInt64
  workProof : UInt64
  originSender : Bytes
  originAmount : Bytes
  txDigest : Uint256
  txSignature : Bytes
  edgeTimestamp : UInt64
deriving DecidableEq

/-- Everything the issuer of a transaction states, as opposed to the digest, the signature and
the arrival time attached to it. -/
structure Payload where
  transactionType : ℕ
  senderAddr : Bytes
  receiverAddr : Bytes
  propertyKey : Bytes
  transactionParams : Bytes
  timestamp : UInt64
  lastMsgDigest : Uint256
  randomNounce : UInt64
  workProof : UInt64
  originSender : Bytes
  originAmount : Bytes
deriving DecidableEq

/-- The payload of a transaction. -/
def Xtransaction.payload (tx : Xtransaction) : Payload where
  transactionType := tx.transactionType
  senderAddr := tx.senderAddr
  receiverAddr := tx.receiverAddr
  propertyKey := tx.propertyKey
  transactionParams := tx.transactionParams
  timestamp := tx.timestamp
  lastMsgDigest := tx.lastMsgDigest
  randomNounce := tx.randomNounce
  workProof := tx.workProof
  originSender := tx.originSender
  originAmount := tx.originAmount

end XrpcServer.Chain
