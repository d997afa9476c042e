import XrpcServer.Handler.Parties
import XrpcServer.Handler.Undisturbed

/-!
# Other accounts do not matter

While a request is served, others may do to the accounts it is not about whatever they like: create
them, delete them, move their heads and balances. It goes as it would have gone on a node
whose accounts stay as they are.
-/

namespace XrpcServer.Handler

open XrpcServer.Text XrpcServer.Chain XrpcServer.Interaction XrpcServer.Json
open XrpcServer.Json (Value)

/-- The parties of the transactions in the settle lists of these accounts. -/
def PartyOf (types : TransactionTypes) (store : Store) (named : Bytes → Prop) (account : Bytes) : Prop :=
  ∃ owner tx, named owner ∧ tx ∈ store.getSettleBlocks owner ∧
    (account = sourceOf types tx ∨ account = tx.receiverAddr)

/-- The operation is about an account that matters to the request. -/
def Op.Matters (lib : Externals) (root : Value) (store : Store) (op : Op) : Prop :=
  op.account.isSome ∧ op.Concerns (Named lib root) (PartyOf lib.types store (Named lib root))

/-- The accounts that matter to the request are the same in the second world as in the first. -/
def DiffersElsewhere (lib : Externals) (root : Value) (w w' : World) : Prop :=
  ∀ op : Op, op.Matters lib root w.store → w'.answer op = w.answer op

section Agreement

variable {lib : Externals} {req : Bytes} {w : World} {events : List HandlerEvent}
  {value : Except Exc Bytes × HandlerState}

/-- A request that is told about the accounts that matter to it as they are asks about no others. -/
theorem asked_matters (h : (serve lib req (HandlerState.initial lib)).Yields events value)
    (hreplies : ∀ e ∈ events, e.1.Matters lib (lib.parse req).2 w.store → w.answer e.1 = e.2) :
    ∀ e ∈ events, e.1.account.isSome → w.answer e.1 = e.2 := by
  have hconcerns : ∀ e ∈ events,
      e.1.Concerns (Named lib (lib.parse req).2) (PartyOf lib.types w.store (Named lib (lib.parse req).2)) := by
    apply h.confined (serve_minds req)
    rintro ⟨op, reply⟩ he hop
    cases op with
    | getSettleBlocks account =>
      intro hnamed tx htx
      have hreply : w.store.getSettleBlocks account = reply := hreplies _ he ⟨rfl, hop⟩
      rw [← hreply] at htx
      exact ⟨⟨account, tx, hnamed, htx, .inl rfl⟩, ⟨account, tx, hnamed, htx, .inr rfl⟩⟩
    | _ => trivial
  exact fun e he hsome => hreplies e he ⟨hsome, hconcerns e he⟩

end Agreement

section Sample

/-- A node on which the accounts that do not matter are others at each question. -/
def meddled (lib : Externals) (root : Value) (w : World) :
    Service Op Reply (ℕ → { w' : World // DiffersElsewhere lib root w w' }) where
  answer worlds op := (worlds 0).1.answer op
  after worlds _ n := worlds (n + 1)

/-- The sample world without one account. -/
def withoutCarol : World := { sampleWorld with
  store := { sampleStore with
    existAccount := fun account => account ≠ str "T-carol"
    getAccountSnapInfo := fun account =>
      if account = str "T-carol" then none else sampleStore.getAccountSnapInfo account } }

/-- The request of the sample server. -/
abbrev infoRoot : Value := (infoExternals.parse []).2

/-- It is not about that account. -/
theorem ne_carol_of_named {account : Bytes} (h : Named infoExternals infoRoot account) : account ≠ str "T-carol" := by
  cases h with
  | account h | source h | destination h | cAccount h =>
    cases h
    decide
  | faucet haction hgive =>
    cases haction
    exact absurd hgive (by decide)

/-- It differs from the sample world in an account that the request does not name. -/
theorem withoutCarol_differsElsewhere : DiffersElsewhere infoExternals infoRoot sampleWorld withoutCarol := by
  intro op hmatters
  have hother : ∀ account, op.account = some account → account ≠ str "T-carol" := by
    intro account haccount
    obtain hnamed | ⟨-, owner, tx, -, htx, -⟩ := hmatters.2 account haccount
    · exact ne_carol_of_named hnamed
    · cases htx
  cases op with
  | existAccount account => simp [withoutCarol, sampleWorld, sampleStore, hother account rfl]
  | getAccountSnapInfo account => simp [withoutCarol, sampleWorld, hother account rfl]
  | _ => rfl

/-- The account is there at every other question. -/
def meddledWorlds (n : ℕ) : { w' : World // DiffersElsewhere infoExternals infoRoot sampleWorld w' } :=
  if n % 2 = 0 then ⟨withoutCarol, withoutCarol_differsElsewhere⟩ else ⟨sampleWorld, fun _ _ => rfl⟩

end Sample

/-- Whatever others do to the accounts that do not matter to a request while it is served: it goes as it
goes on a node whose accounts all stay as they are. -/
theorem serve_isolated (lib : Externals) (req : Bytes) (w : World) {events : List HandlerEvent}
    {result : Except Exc Bytes} {final : HandlerState}
    (h : (serve lib req (HandlerState.initial lib)).Yields events (result, final)) (hmemory : MemoryAgrees events)
    (helsewhere : ∀ e ∈ events, e.1.account.isSome →
      ∃ w', DiffersElsewhere lib (lib.parse req).2 w w' ∧ w'.answer e.1 = e.2) :
    ∃ w' last, (serve lib req).run service (HandlerState.initial lib) w' = ⟨result, final, last, events⟩ ∧
      ∀ op : Op, op.account.isSome → w'.answer op = w.answer op := by
  have hreplies : ∀ e ∈ events, e.1.Matters lib (lib.parse req).2 w.store → w.answer e.1 = e.2 := by
    intro e he hmatters
    obtain ⟨w', hdiffers, hreply⟩ := helsewhere e he hmatters.1
    rw [← hreply, hdiffers e.1 hmatters]
  obtain ⟨last, hrun⟩ := run_replying lib req w h hmemory
  refine ⟨w.replying events, last, hrun, fun op hsome => ?_⟩
  have hkind : op.kind ≠ .readBeyond := by
    cases op with
    | readBeyond s count => cases hsome
    | _ => simp [Op.kind]
  by_cases hasked : ∃ e ∈ events, e.1 = op
  · obtain ⟨e, he, rfl⟩ := hasked
    rw [asked_matters h hreplies e he hsome]
    exact answer_replying w (serve_inOrder lib req _ events _ h).2 hmemory e he
  · exact answer_replying_of_not_asked w hkind fun e he heq => hasked ⟨e, he, heq⟩

/-- The sample request is answered as if the other account had stayed. -/
theorem serve_isolated_sample : ∃ events result final w' last,
    events.map (fun e => e.1.kind) = [.getAccountSnapInfo, .getSettleBlocks, .getReceiveBlocks] ∧
      (serve infoExternals []).run service (HandlerState.initial infoExternals) w' =
        ⟨result, final, last, events⟩ ∧
      w'.store.existAccount (str "T-carol") = true := by
  obtain ⟨events, htrace, hyields⟩ := Program.yields_exec (meddled infoExternals infoRoot sampleWorld)
    (serve infoExternals [] (HandlerState.initial infoExternals)) (meddledWorlds, [])
  have hreplies := Program.replies_exec (meddled infoExternals infoRoot sampleWorld)
    (serve infoExternals [] (HandlerState.initial infoExternals)) (meddledWorlds, [])
  have hkinds : events.map (fun e => e.1.kind) = [.getAccountSnapInfo, .getSettleBlocks, .getReceiveBlocks] := by
    rw [List.nil_append] at htrace
    rw [← htrace]
    decide +kernel
  rw [htrace, List.nil_append] at hreplies
  have hmemory : MemoryAgrees events := memoryAgrees_of_kinds hkinds (by decide)
  obtain ⟨w', last, hrun, haccounts⟩ := serve_isolated infoExternals [] sampleWorld hyields hmemory fun e he _ => by
    obtain hnone | ⟨worlds, hreply⟩ := hreplies e he
    · cases hnone
    · exact ⟨(worlds 0).1, (worlds 0).2, hreply⟩
  exact ⟨events, _, _, w', last, hkinds, hrun, haccounts (.existAccount (str "T-carol")) rfl⟩

end XrpcServer.Handler
