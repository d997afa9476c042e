import XrpcServer.Handler.Proposals
import XrpcServer.Handler.Footprint

/-!
# Every proposal is vetted

The five transaction actions are followed once, for any way of observing their operations: however
the replies come about, an action ends in an exception or a refusal, or it is about to send a
transaction that is composed from its request, found correct and past its checks. What a request
leaves behind in a pool of others is derived from this by naming the observations.
-/

namespace XrpcServer.Handler

open XrpcServer.Text XrpcServer.Chain XrpcServer.Interaction XrpcServer.Json
open XrpcServer.Json (Value)

universe u

/-- A renamed exception leaves the result as it is. -/
theorem ok_of_mapError {ε ε' α : Type} {f : ε → ε'} {x : Except ε α} {a : α} (h : x.mapError f = .ok a) :
    x = .ok a := by
  cases x with
  | ok b =>
    cases h
    rfl
  | error e => cases h

section Blocks

variable {Config : Type u} {spec : OpSpec Op Reply Config} {invariant : Config → Prop}
  {known : HandlerEvent → Config → Prop}
  (hobserving : Observing spec (fun op => op.isQuiet) invariant known)
  {lib : Externals} {err : Exc → HandlerState → Config → Prop} {s : HandlerState} {config : Config}

include hobserving

/-- A quiet operation adds its event to what is known. -/
theorem wp_observed {op : Op} (hop : op.isQuiet) (hinv : invariant config)
    {ok : Reply op → HandlerState → Config → Prop}
    (hnext : ∀ reply later, invariant later → (∀ e, known e config → known e later) →
      known ⟨op, reply⟩ later → ok reply s later) :
    (Routine.perform op).wp spec ok err s config := hobserving.observe op hop _ config hinv hnext

/-- Where a digest was decoded from is known. -/
theorem wp_decoded (bytes : Bytes) (hinv : invariant config) {ok : Uint256 → HandlerState → Config → Prop}
    (hnext : ∀ digest later, invariant later → (∀ e, known e config → known e later) →
      Decoded (known · later) bytes digest → ok digest s later) :
    (uint256At bytes).wp spec ok err s config := by
  rw [uint256At, Routine.wp_dite]
  constructor
  · intro hlength
    exact hnext _ config hinv (fun _ he => he) (.inside hlength)
  · intro hlength
    rw [Routine.wp_bind]
    apply wp_observed hobserving rfl hinv
    intro tail later hlater hgrows htail
    exact hnext _ later hlater hgrows (.beyond hlength htail rfl)

/-- Where the last digest was taken from is known. -/
theorem wp_lastDigest (nohash : Bool) (account : Bytes) (hinv : invariant config)
    {ok : Option Uint256 → HandlerState → Config → Prop}
    (hthrown : ∀ e, err e s config) (hnone : ∀ later, invariant later → ok none s later)
    (hsome : ∀ digest later, invariant later → (∀ e, known e config → known e later) →
      LastDigest lib s.root (known · later) nohash account digest → ok (some digest) s later) :
    (lastDigestSet lib nohash account).wp spec ok err s config := by
  rw [lastDigestSet, Routine.wp_ite]
  constructor
  · intro hnohash
    rw [Routine.wp_bind]
    apply wp_observed hobserving rfl hinv
    intro reply later hlater hgrows hreply
    cases reply with
    | none => exact hnone later hlater
    | some snap => exact hsome _ later hlater hgrows (.head hnohash hreply)
  · intro hnohash
    simp only [Routine.wp_bind, wp_rootString]
    refine ⟨fun encoded hencoded => ?_, fun e _ => hthrown e⟩
    apply wp_decoded hobserving _ hinv
    intro digest later hlater hgrows hdecoded
    exact hsome digest later hlater hgrows (.client (by simpa using hnohash) hencoded hdecoded)

/-- A builder followed by the seal leaves a sealed transaction. -/
theorem wp_built {nohash : Bool} (f : Xtransaction → Xtransaction)
    (hnohash : nohash = noHash (f s.tx).senderAddr) (hinv : invariant config)
    (hthrown : ∀ e s' later, invariant later → s'.jsRsp = s.jsRsp → err e s' later)
    {rest : HandlerM Unit} {ok : Unit → HandlerState → Config → Prop}
    (hnext : ∀ tx later, invariant later → (∀ e, known e config → known e later) →
      Sealed lib s.root (known · later) (f s.tx) tx → rest.wp spec ok err { s with tx := tx } later) :
    (do
      (do
        modifyTx f
        digestTx)
      txDigestSignatureSet lib nohash
      rest).wp spec ok err s config := by
  simp only [digestTx, Routine.wp_bind, wp_modifyTx, Routine.wp_read]
  apply wp_observed hobserving rfl hinv
  intro digest c₁ hinv₁ hgrows₁ hdigest
  simp only [txDigestSignatureSet, Routine.wp_bind, Routine.wp_ite]
  constructor
  · intro hserver
    obtain ⟨priKey, hkey⟩ : ∃ priKey, priKeyOf (f s.tx).senderAddr = some priKey := by
      rw [← Option.isSome_iff_exists, ← noHash_eq, ← hnohash, hserver]
    simp only [transactionDigestAdd, Routine.wp_bind, Routine.wp_read, hkey]
    apply wp_observed hobserving rfl hinv₁
    intro signed c₂ hinv₂ hgrows₂ hsigned
    simp only [wp_modifyTx, Routine.wp_pure]
    apply wp_observed hobserving rfl hinv₂
    intro now c₃ hinv₃ hgrows₃ hnow
    apply hnext _ c₃ hinv₃ fun e he => hgrows₃ _ (hgrows₂ _ (hgrows₁ _ he))
    exact .server hkey (hgrows₃ _ (hgrows₂ _ hdigest)) (hgrows₃ _ hsigned) hnow
  · intro hclient
    have hkey : priKeyOf (f s.tx).senderAddr = none := by
      rw [← Option.not_isSome_iff_eq_none, ← noHash_eq, ← hnohash]
      exact hclient
    simp only [wp_rootString, wp_modifyTx]
    refine ⟨fun signature hsignature => ?_, fun e _ => hthrown e _ c₁ hinv₁ rfl⟩
    apply wp_observed hobserving rfl hinv₁
    intro now c₂ hinv₂ hgrows₂ hnow
    apply hnext _ c₂ hinv₂ fun e he => hgrows₂ _ (hgrows₁ _ he)
    exact .client hkey (hgrows₂ _ hdigest) hsignature hnow

/-- The head check passes only on an agreeing reply. -/
theorem wp_headChecked (hinv : invariant config) {ok : Option XrpcReturn → HandlerState → Config → Prop}
    (hrefused : ∀ code later, invariant later → ok (some code) s later)
    (hpassed : ∀ later, invariant later → (∀ e, known e config → known e later) →
      HeadAgrees (known · later) s.tx → ok none s later) :
    (lastHashCheck s.tx.senderAddr).wp spec ok err s config := by
  simp only [lastHashCheck, Routine.wp_bind, Routine.wp_read]
  apply wp_observed hobserving rfl hinv
  intro reply later hlater hgrows hreply
  cases reply with
  | none => exact hpassed later hlater hgrows ⟨none, hreply, by simp⟩
  | some hash =>
    rw [Routine.wp_ite]
    constructor
    · exact fun _ => hrefused _ later hlater
    · intro hagrees
      apply hpassed later hlater hgrows ⟨some hash, hreply, ?_⟩
      intro hash' heq
      cases heq
      exact not_not.mp hagrees

/-- The checks of every action pass only on the replies they ask for. -/
theorem wp_checksOf (kind : Action) (hinv : invariant config)
    {ok : Option XrpcReturn → HandlerState → Config → Prop}
    (hthrown : ∀ e later, invariant later → err e s later)
    (hrefused : ∀ code later, invariant later → ok (some code) s later)
    (hpassed : ∀ later, invariant later → (∀ e, known e config → known e later) →
      Passes lib (known · later) kind s.tx → ok none s later) :
    (checksOf lib kind s.tx).wp spec ok err s config := by
  cases kind
  case transferOut =>
    rw [checksOf, transferOutChecks, Routine.wp_bind]
    apply wp_observed hobserving rfl hinv
    intro answer c₁ hinv₁ hgrows₁ hanswer
    obtain ⟨ret, balance⟩ := answer
    simp only [stollOrThrow, Routine.wp_bind, Routine.wp_ite, Routine.wp_pure, Routine.wp_ofExcept]
    refine ⟨fun _ => hrefused _ c₁ hinv₁, fun hfound => ⟨fun _ => hrefused _ c₁ hinv₁, fun hkey => ?_⟩⟩
    refine ⟨fun available havailable => ⟨fun requested hrequested => ?_, fun e _ => hthrown e c₁ hinv₁⟩,
      fun e _ => hthrown e c₁ hinv₁⟩
    refine ⟨fun _ => hrefused _ c₁ hinv₁, fun hle => ?_⟩
    apply wp_headChecked hobserving hinv₁ hrefused
    intro c₂ hinv₂ hgrows₂ hhead
    apply hpassed c₂ hinv₂ fun e he => hgrows₂ _ (hgrows₁ _ he)
    exact ⟨⟨ret, balance, available, requested, hgrows₂ _ hanswer, hfound, hkey, ok_of_mapError havailable,
      ok_of_mapError hrequested, not_lt.mp hle⟩, hhead⟩
  case transferIn => exact wp_headChecked hobserving hinv hrefused hpassed
  case give =>
    rw [checksOf, giveChecks, Routine.wp_bind]
    apply wp_observed hobserving rfl hinv
    intro exist c₁ hinv₁ hgrows₁ hexist
    rw [Routine.wp_ite]
    refine ⟨fun _ => hrefused _ c₁ hinv₁, fun hfound => ?_⟩
    rw [Routine.wp_bind]
    apply wp_observed hobserving rfl hinv₁
    intro receiveList c₂ hinv₂ hgrows₂ hreceive
    rw [Routine.wp_ite]
    refine ⟨fun _ => hrefused _ c₂ hinv₂, fun hlength => ?_⟩
    rw [Routine.wp_bind]
    apply wp_observed hobserving rfl hinv₂
    intro settleList c₃ hinv₃ hgrows₃ hsettle
    rw [Routine.wp_ite]
    refine ⟨fun _ => hrefused _ c₃ hinv₃, fun hreceipt => ?_⟩
    obtain rfl : exist = true := by simpa using hfound
    obtain rfl : receiveList = [] := by simpa using hlength
    apply hpassed c₃ hinv₃ fun e he => hgrows₃ _ (hgrows₂ _ (hgrows₁ _ he))
    exact ⟨hgrows₃ _ (hgrows₂ _ hexist), hgrows₃ _ hreceive, settleList, hsettle, by simpa using hreceipt⟩
  all_goals exact hpassed config hinv (fun _ he => he) trivial

end Blocks

/-- What has to hold where a request leaves a transaction action: at a refusal and at an exception
the response is as it was before the action, and what is sent is vetted. -/
structure Exits {Config : Type u} (spec : OpSpec Op Reply Config) (invariant : Config → Prop)
    (known : HandlerEvent → Config → Prop) (lib : Externals) (s : HandlerState)
    (ok : Unit → HandlerState → Config → Prop) (err : Exc → HandlerState → Config → Prop) : Prop where
  refused : ∀ code s' later, invariant later → s'.jsRsp = s.jsRsp →
    (setResultFail code).wp spec ok err s' later
  thrown : ∀ e s' later, invariant later → s'.jsRsp = s.jsRsp → err e s' later
  sent : ∀ kind s' later, invariant later → s'.jsRsp = s.jsRsp →
    Vetted lib s.root (known · later) s.tx kind s'.tx →
      (do
        doTransaction lib
        setResultOk).wp spec ok err s' later

section Actions

variable {Config : Type u} {spec : OpSpec Op Reply Config} {invariant : Config → Prop}
  {known : HandlerEvent → Config → Prop}
  (hobserving : Observing spec (fun op => op.isQuiet) invariant known)
  {lib : Externals} {s : HandlerState} {ok : Unit → HandlerState → Config → Prop}
  {err : Exc → HandlerState → Config → Prop} (hexits : Exits spec invariant known lib s ok err)
  {config : Config} (hinv : invariant config)

include hobserving hexits hinv

/-- A composed transaction that is verified and passes its checks is vetted. -/
theorem wp_submitted (kind : Action) (hrequested : stringOf lib s.root "action" = .ok (str kind.text))
    {s' : HandlerState} (hrsp : s'.jsRsp = s.jsRsp)
    (hcomposed : Composed lib s.root (known · config) s.tx kind s'.tx)
    {checks : HandlerM (Option XrpcReturn)} (hchecks : checks = checksOf lib kind s'.tx) :
    (verifyAndSubmit lib checks).wp spec ok err s' config := by
  rw [hchecks, verifyAndSubmit, Routine.wp_bind, Routine.wp_read, Routine.wp_bind]
  apply wp_observed hobserving rfl hinv
  intro verified c₁ hinv₁ hgrows₁ hverified
  rw [Routine.wp_ite]
  refine ⟨fun _ => hexits.refused _ s' c₁ hinv₁ hrsp, fun htrue => ?_⟩
  obtain rfl : verified = true := by simpa using htrue
  rw [Routine.wp_bind]
  apply wp_checksOf hobserving kind hinv₁
  · exact fun e later hlater => hexits.thrown e s' later hlater hrsp
  · exact fun code later hlater => hexits.refused code s' later hlater hrsp
  · intro later hlater hgrows₂ hpasses
    apply hexits.sent kind s' later hlater hrsp
    exact ⟨hrequested, hcomposed.mono fun e he => hgrows₂ _ (hgrows₁ _ he), hgrows₂ _ hverified, hpasses⟩

/-- The account of a request to create one is refused, or known not to exist. -/
theorem wp_checkedAccount {okb : Bool → HandlerState → Config → Prop}
    (hrefused : ∀ code later, invariant later → (setResultFail code).wp spec (fun _ => okb false) err s later)
    (hvalid : ∀ later, invariant later → (∀ e, known e config → known e later) →
      (stringOf lib s.root "action" = .ok (str "account_create") →
        ∃ account, stringOf lib s.root "account" = .ok account ∧ known ⟨.existAccount account, false⟩ later) →
      okb true s later) :
    (do
      if (← rootString lib "action") = str "account_create" then do
        if ← Routine.perform (Op.existAccount (← rootString lib "account")) then do
          setResultFail .serverAccountExist
          pure false
        else pure true
      else pure true).wp spec okb err s config := by
  have hthrown (e : Exc) : err e s config := hexits.thrown e s config hinv rfl
  rw [Routine.wp_bind, wp_rootString]
  refine ⟨fun action haction => ?_, fun e _ => hthrown e⟩
  rw [Routine.wp_ite]
  constructor
  · intro hcreate
    rw [Routine.wp_bind, wp_rootString]
    refine ⟨fun account haccount => ?_, fun e _ => hthrown e⟩
    rw [Routine.wp_bind]
    apply wp_observed hobserving rfl hinv
    intro exist later hlater hgrows hexist
    rw [Routine.wp_ite]
    constructor
    · intro _
      rw [Routine.wp_bind]
      exact hrefused _ later hlater
    · intro habsent
      obtain rfl : exist = false := by simpa using habsent
      exact hvalid later hlater hgrows fun _ => ⟨account, haccount, hexist⟩
  · intro hother
    apply hvalid config hinv (fun _ he => he)
    intro hcreate
    rw [haction] at hcreate
    exact absurd (Except.ok.inj hcreate) hother

/-- The input of the two checked actions is refused, or what the check asks for is known. -/
theorem wp_checkedInput {okb : Bool → HandlerState → Config → Prop}
    (hrefused : ∀ code later, invariant later → (setResultFail code).wp spec (fun _ => okb false) err s later)
    (hvalid : ∀ later, invariant later → (∀ e, known e config → known e later) →
      (stringOf lib s.root "action" = .ok (str "set_property") →
        ∃ key, stringOf lib s.root "property_key" = .ok key ∧ ValidPropertyKey key) →
      (stringOf lib s.root "action" = .ok (str "account_create") →
        ∃ account, stringOf lib s.root "account" = .ok account ∧ known ⟨.existAccount account, false⟩ later) →
      okb true s later) : (checkInput lib).wp spec okb err s config := by
  have hthrown (e : Exc) : err e s config := hexits.thrown e s config hinv rfl
  rw [checkInput, Routine.wp_bind, wp_rootString]
  refine ⟨fun action haction => ?_, fun e _ => hthrown e⟩
  rw [Routine.wp_ite]
  constructor
  · intro hset
    rw [Routine.wp_bind, wp_rootString]
    refine ⟨fun key hkey => ?_, fun e _ => hthrown e⟩
    rw [Routine.wp_ite]
    constructor
    · intro _
      rw [Routine.wp_bind]
      exact hrefused _ config hinv
    · intro hkeyValid
      apply wp_checkedAccount hobserving hexits hinv hrefused
      intro later hlater hgrows
      apply hvalid later hlater hgrows
      intro _
      exact ⟨key, hkey, not_not.mp (mt not_validPropertyKey.mpr hkeyValid)⟩
  · intro hother
    apply wp_checkedAccount hobserving hexits hinv hrefused
    intro later hlater hgrows
    apply hvalid later hlater hgrows
    intro hset
    rw [haction] at hset
    exact absurd (Except.ok.inj hset) hother

omit hobserving in
/-- A member is read, or the request ends with the exception of its conversion. -/
theorem wp_readString {key : String} {s' : HandlerState} (hrsp : s'.jsRsp = s.jsRsp)
    {next : Bytes → HandlerM Unit}
    (hnext : ∀ b, stringOf lib s'.root key = .ok b → (next b).wp spec ok err s' config) :
    (rootString lib key >>= next).wp spec ok err s' config := by
  rw [Routine.wp_bind, wp_rootString]
  exact ⟨hnext, fun e _ => hexits.thrown e s' config hinv hrsp⟩

omit hobserving in
/-- So is the time. -/
theorem wp_readTimestamp {next : UInt64 → HandlerM Unit}
    (hnext : ∀ i, int64Of s.root "timestamp" = .ok i →
      (next (UInt64.ofInt i)).wp spec ok err s config) :
    (rootTimestamp "timestamp" >>= next).wp spec ok err s config := by
  rw [Routine.wp_bind, wp_rootTimestamp]
  exact ⟨hnext, fun e _ => hexits.thrown e s config hinv rfl⟩

/-- The last digest is found, or the request is refused or ends with an exception. -/
theorem wp_readLastDigest {nohash : Bool} {account : Bytes} {next : Option Uint256 → HandlerM Unit}
    (hnone : next none = setResultFail .serverAccountNotFound)
    (hnext : ∀ digest later, invariant later → (∀ e, known e config → known e later) →
      LastDigest lib s.root (known · later) nohash account digest →
      (next (some digest)).wp spec ok err s later) :
    (lastDigestSet lib nohash account >>= next).wp spec ok err s config := by
  rw [Routine.wp_bind]
  apply wp_lastDigest hobserving _ _ hinv
  · exact fun e => hexits.thrown e s config hinv rfl
  · intro later hlater
    rw [hnone]
    exact hexits.refused _ s later hlater rfl
  · exact hnext

/-- What `account_create` proposes is vetted. -/
theorem wp_accountCreate {nohash : Bool}
    (hrequested : stringOf lib s.root "action" = .ok (str "account_create"))
    (hnohash : ∀ account, stringOf lib s.root "account" = .ok account → nohash = noHash account) :
    (accountCreate lib nohash).wp spec ok err s config := by
  rw [accountCreate, Routine.wp_bind]
  apply wp_checkedInput hobserving hexits hinv
  · exact fun code later hlater => hexits.refused code s later hlater rfl
  intro c₁ hinv₁ hgrows₁ _ hexist
  obtain ⟨account, haccount, habsent⟩ := hexist hrequested
  rw [Routine.wp_ite]
  refine ⟨fun hfalse => absurd hfalse (by simp), fun _ => ?_⟩
  apply wp_readString hexits hinv₁ rfl
  intro account' haccount'
  obtain rfl : account = account' := by simpa [haccount] using haccount'
  apply wp_readString hexits hinv₁ rfl
  intro amount hamount
  apply wp_readTimestamp hexits hinv₁
  intro timestamp htimestamp
  obtain rfl := hnohash account haccount
  apply wp_built hobserving _ rfl hinv₁ hexits.thrown
  intro tx c₂ hinv₂ hgrows₂ hsealed
  apply wp_submitted hobserving hexits hinv₂ .accountCreate hrequested
  · rfl
  · exact .accountCreate haccount (hgrows₂ _ habsent) hamount htimestamp hsealed
  · rfl

/-- So is what `transfer_out` proposes. -/
theorem wp_transferOut {nohash : Bool}
    (hrequested : stringOf lib s.root "action" = .ok (str "transfer_out"))
    (hnohash : ∀ source, stringOf lib s.root "source" = .ok source → nohash = noHash source) :
    (transferOut lib nohash).wp spec ok err s config := by
  rw [transferOut]
  apply wp_readString hexits hinv rfl
  intro source hsource
  apply wp_readString hexits hinv rfl
  intro destination hdestination
  apply wp_readString hexits hinv rfl
  intro assetKey hassetKey
  apply wp_readString hexits hinv rfl
  intro ammount hammount
  apply wp_readTimestamp hexits hinv
  intro timestamp htimestamp
  rw [Routine.wp_ite]
  refine ⟨fun _ => hexits.refused _ s config hinv rfl, fun hdistinct => ?_⟩
  obtain rfl := hnohash source hsource
  apply wp_readLastDigest hobserving hexits hinv rfl
  intro lastHash c₁ hinv₁ hgrows₁ hlastHash
  apply wp_built hobserving _ rfl hinv₁ hexits.thrown
  intro tx c₂ hinv₂ hgrows₂ hsealed
  apply wp_submitted hobserving hexits hinv₂ .transferOut hrequested
  · rfl
  · exact .transferOut hsource hdestination hassetKey hammount htimestamp hdistinct
      (hlastHash.mono hgrows₂) hsealed
  · cases hsealed <;> rfl

/-- So is what `give` proposes. -/
theorem wp_give (hrequested : stringOf lib s.root "action" = .ok (str "give")) :
    (give lib).wp spec ok err s config := by
  have hgenesis : true = noHash testGenesisAccountAddress := by decide
  rw [give]
  apply wp_readString hexits hinv rfl
  intro destination hdestination
  apply wp_readTimestamp hexits hinv
  intro timestamp htimestamp
  apply wp_readLastDigest hobserving hexits hinv rfl
  intro lastHash c₁ hinv₁ hgrows₁ hlastHash
  apply wp_built hobserving _ hgenesis hinv₁ hexits.thrown
  intro tx c₂ hinv₂ hgrows₂ hsealed
  apply wp_submitted hobserving hexits hinv₂ .give hrequested
  · rfl
  · exact .give hdestination htimestamp (hlastHash.mono hgrows₂) hsealed
  · cases hsealed <;> rfl

/-- So is what `transfer_in` proposes. -/
theorem wp_transferIn {nohash : Bool}
    (hrequested : stringOf lib s.root "action" = .ok (str "transfer_in"))
    (hnohash : ∀ account, stringOf lib s.root "account" = .ok account → nohash = noHash account) :
    (transferIn lib nohash).wp spec ok err s config := by
  rw [transferIn]
  apply wp_readTimestamp hexits hinv
  intro timestamp htimestamp
  apply wp_readString hexits hinv rfl
  intro account haccount
  obtain rfl := hnohash account haccount
  apply wp_readLastDigest hobserving hexits hinv rfl
  intro lastHash c₁ hinv₁ hgrows₁ hlastHash
  apply wp_readString hexits hinv₁ rfl
  intro encoded hencoded
  rw [Routine.wp_bind]
  apply wp_decoded hobserving _ hinv₁
  intro txDigest c₂ hinv₂ hgrows₂ hdecoded
  apply wp_readString hexits hinv₂ rfl
  intro account' haccount'
  obtain rfl : account = account' := by simpa [haccount] using haccount'
  apply wp_built hobserving _ rfl hinv₂ hexits.thrown
  intro tx c₃ hinv₃ hgrows₃ hsealed
  -- the origin is written on the sealed transaction
  apply wp_readString hexits hinv₃ (by rfl)
  intro sender hsender
  rw [Routine.wp_bind, wp_modifyTx]
  apply wp_readString hexits hinv₃ (by rfl)
  intro amount hamount
  rw [Routine.wp_bind, wp_modifyTx, Routine.wp_bind, Routine.wp_read]
  apply wp_submitted hobserving hexits hinv₃ .transferIn hrequested
  · rfl
  · have hcomposed : Composed lib s.root (known · c₃) s.tx .transferIn
        { tx with originSender := sender, originAmount := amount } :=
      .transferIn haccount htimestamp (hlastHash.mono fun e he => hgrows₃ _ (hgrows₂ _ he)) hencoded
        (hdecoded.mono hgrows₃) hsealed hsender hamount
    exact hcomposed
  · rfl

/-- So is what `set_property` proposes. -/
theorem wp_setProperty {nohash : Bool}
    (hrequested : stringOf lib s.root "action" = .ok (str "set_property"))
    (hnohash : ∀ account, stringOf lib s.root "account" = .ok account → nohash = noHash account) :
    (setProperty lib nohash).wp spec ok err s config := by
  rw [setProperty, Routine.wp_bind]
  apply wp_checkedInput hobserving hexits hinv
  · exact fun code later hlater => hexits.refused code s later hlater rfl
  intro c₁ hinv₁ hgrows₁ hkey _
  obtain ⟨propertyKey, hpropertyKey, hvalid⟩ := hkey hrequested
  rw [Routine.wp_ite]
  refine ⟨fun hfalse => absurd hfalse (by simp), fun _ => ?_⟩
  rw [Routine.wp_bind, wp_rootCString]
  refine ⟨fun cAccount hcAccount => ?_, fun e _ => hexits.thrown e s c₁ hinv₁ rfl⟩
  apply wp_readLastDigest hobserving hexits hinv₁ rfl
  intro lastHash c₂ hinv₂ hgrows₂ hlastHash
  -- the members are read inside the builder
  simp only [transactionSetProperty, Routine.bind_assoc]
  apply wp_readString hexits hinv₂ rfl
  intro account haccount
  obtain rfl := hnohash account haccount
  apply wp_readString hexits hinv₂ rfl
  intro propertyKey' hpropertyKey'
  obtain rfl : propertyKey = propertyKey' := by simpa [hpropertyKey] using hpropertyKey'
  apply wp_readString hexits hinv₂ rfl
  intro propertyValue hpropertyValue
  apply wp_readTimestamp hexits hinv₂
  intro timestamp htimestamp
  rw [← Routine.bind_assoc]
  apply wp_built hobserving _ rfl hinv₂ hexits.thrown
  intro tx c₃ hinv₃ hgrows₃ hsealed
  apply wp_submitted hobserving hexits hinv₃ .setProperty hrequested
  · rfl
  · exact .setProperty haccount hcAccount hpropertyKey hvalid hpropertyValue htimestamp
      (hlastHash.mono hgrows₃) hsealed
  · rfl

/-- A request ends at one of the exits, unless it is for another action. -/
theorem wp_handleRequest
    (hother : ∀ action account, stringOf lib s.root "action" = .ok action →
      stringOf lib s.root "account" = .ok account → (actionOf action).isTransaction = false →
      (runAction lib (noHash account) (actionOf action)).wp spec ok err s config) :
    (handleRequest lib).wp spec ok err s config := by
  rw [handleRequest]
  apply wp_readString hexits hinv rfl
  intro action haction
  apply wp_readString hexits hinv rfl
  intro account haccount
  have hnohash : ∀ account', stringOf lib s.root "account" = .ok account' → noHash account = noHash account' := by
    intro account' haccount'
    rw [haccount] at haccount'
    cases haccount'
    rfl
  have hname (kind : Action) (hkind : actionOf action = kind) (hvalid : kind ≠ .invalid) :
      stringOf lib s.root "action" = .ok (str kind.text) := by
    rw [haction, eq_text_of_actionOf hkind hvalid]
  cases hkind : actionOf action
  case accountCreate =>
    exact wp_accountCreate hobserving hexits hinv (hname _ hkind (by decide)) hnohash
  case transferOut =>
    rw [runAction]
    apply wp_readString hexits hinv rfl
    intro source hsource
    apply wp_transferOut hobserving hexits hinv (hname _ hkind (by decide))
    intro source' hsource'
    rw [hsource] at hsource'
    cases hsource'
    rfl
  case transferIn => exact wp_transferIn hobserving hexits hinv (hname _ hkind (by decide)) hnohash
  case setProperty => exact wp_setProperty hobserving hexits hinv (hname _ hkind (by decide)) hnohash
  case give => exact wp_give hobserving hexits hinv (hname _ hkind (by decide))
  all_goals
    have hresult := hother action account haction haccount (by rw [hkind]; rfl)
    rwa [hkind] at hresult

end Actions

end XrpcServer.Handler
