import XrpcServer.Text.Bytes

/-!
# Return codes

The enumeration `xrpc_return_en` and the table of texts that `xrpc_return_str` indexes with
a code. The table is kept as the array it is; that every code finds its own name is a lemma.
-/

namespace XrpcServer.Handler

open XrpcServer.Text

/-- `xrpc_return_en`. -/
inductive XrpcReturn where
  | ok
  | serverJsonParseErr
  | serverActionInvalid
  | serverAccountNotFound
  | serverHashSignatureCheckFail
  | serverAccountBalanceNotEnough
  | serverUnkownErr
  | clientJsonParseErr
  | clientUnkownErr
  | callErr
  | noPending
  | noPropertyKey
  | noStatInfo
  | propertyKeyNotValid
  | serverAccountExist
  | alreadyGive
  | lastHashError
  | senderReceiverTheSame
deriving DecidableEq, Repr

/-- The numeric value of an enumerator. -/
def XrpcReturn.code : XrpcReturn → ℕ
  | .ok => 0
  | .serverJsonParseErr => 1
  | .serverActionInvalid => 2
  | .serverAccountNotFound => 3
  | .serverHashSignatureCheckFail => 4
  | .serverAccountBalanceNotEnough => 5
  | .serverUnkownErr => 6
  | .clientJsonParseErr => 7
  | .clientUnkownErr => 8
  | .callErr => 9
  | .noPending => 10
  | .noPropertyKey => 11
  | .noStatInfo => 12
  | .propertyKeyNotValid => 13
  | .serverAccountExist => 14
  | .alreadyGive => 15
  | .lastHashError => 16
  | .senderReceiverTheSame => 17

/-- The enumerator as it is spelled in the source. -/
def XrpcReturn.name : XrpcReturn → String
  | .ok => "xrpc_ok"
  | .serverJsonParseErr => "xrpc_server_json_parse_err"
  | .serverActionInvalid => "xrpc_server_action_invalid"
  | .serverAccountNotFound => "xrpc_server_account_not_found"
  | .serverHashSignatureCheckFail => "xrpc_server_hash_signature_check_fail"
  | .serverAccountBalanceNotEnough => "xrpc_server_account_balance_not_enough"
  | .serverUnkownErr => "xrpc_server_unkown_err"
  | .clientJsonParseErr => "xrpc_client_json_parse_err"
  | .clientUnkownErr => "xrpc_client_unkown_err"
  | .callErr => "xrpc_call_err"
  | .noPending => "xrpc_no_pending"
  | .noPropertyKey => "xrpc_no_property_key"
  | .noStatInfo => "xrpc_no_stat_info"
  | .propertyKeyNotValid => "xrpc_property_key_not_valid"
  | .serverAccountExist => "xrpc_server_account_exist"
  | .alreadyGive => "xrpc_already_give"
  | .lastHashError => "xrpc_last_hash_error"
  | .senderReceiverTheSame => "xrpc_sender_receiver_the_same"

/-- The array inside `xrpc_return_str`. -/
def xrpcReturnNames : List String :=
  ["xrpc_ok", "xrpc_server_json_parse_err", "xrpc_server_action_invalid",
    "xrpc_server_account_not_found", "xrpc_server_hash_signature_check_fail",
    "xrpc_server_account_balance_not_enough", "xrpc_server_unkown_err",
    "xrpc_client_json_parse_err", "xrpc_client_unkown_err", "xrpc_call_err", "xrpc_no_pending",
    "xrpc_no_property_key", "xrpc_no_stat_info", "xrpc_property_key_not_valid",
    "xrpc_server_account_exist", "xrpc_already_give", "xrpc_last_hash_error",
    "xrpc_sender_receiver_the_same"]

/-- `xrpc_return_str`. -/
def xrpcReturnStr (err : XrpcReturn) : Bytes := str (xrpcReturnNames.getD err.code "")

/-- Every code finds the name of its own enumerator in the table. -/
theorem xrpcReturnStr_eq_name (err : XrpcReturn) : xrpcReturnStr err = str err.name := by
  cases err <;> rfl

/-- Different enumerators have different codes. -/
theorem XrpcReturn.code_injective : Function.Injective XrpcReturn.code := by
  intro a b h
  cases a <;> cases b <;> first | rfl | exact absurd h (by decide)

end XrpcServer.Handler
