import XrpcServer.Handler.Actions
import XrpcServer.Handler.Rules
import XrpcServer.Interaction.Journal

/-!
# The ids of dispatched messages

Any number of requests is served side by side. Whatever is read from the store meanwhile, the id of
a message is the sum of the clock and of the random number that its own request has read last. Two
ids agree when the clock has gone forward by as much as the random numbers have gone back.
-/

namespace XrpcServer.Handler

open XrpcServer.Text XrpcServer.Chain XrpcServer.Interaction

/-- The message an operation dispatches. -/
def Op.message : Op → Option XtopMessage
  | .broadcast msg _ => some msg
  | .broadcastEx msg => some msg
  | _ => none

/-- What a request has read from the clock of seconds. -/
def secondsRead : HandlerEvent → Option UInt64
  | ⟨.getTimestamp, seconds⟩ => some seconds
  | _ => none

/-- What a request has drawn from `rand`. -/
def randomDrawn : HandlerEvent → Option ℕ
  | ⟨.rand, random⟩ => some random
  | _ => none

/-- The last of the readings in a journal, or what there is before the first one. -/
def lastOf {α : Type} (start : α) (read : HandlerEvent → Option α) (journal : List HandlerEvent) : α :=
  (journal.filterMap read).getLast?.getD start

/-- A later reading replaces the last one. -/
theorem lastOf_append {α : Type} (start : α) (read : HandlerEvent → Option α) (journal : List HandlerEvent)
    (e : HandlerEvent) : lastOf start read (journal ++ [e]) = (read e).getD (lastOf start read journal) := by
  cases h : read e <;> simp [lastOf, h]

/-- A dispatched message, with what its request has read last. -/
structure Dispatch where
  seconds : UInt64
  random : ℕ
  msg : XtopMessage

/-- What the requests of one server share: the clock, the numbers drawn so far and the messages
dispatched so far. -/
structure Outbox where
  clock : UInt64
  drawn : List ℕ
  sent : List Dispatch

/-- A message is dispatched by a request with this journal. -/
def Outbox.send (c : Outbox) (journal : List HandlerEvent) (msg : XtopMessage) : Outbox :=
  { c with sent := c.sent ++ [⟨lastOf 0 secondsRead journal, lastOf 0 randomDrawn journal, msg⟩] }

/-- What an operation does to them: the clock does not go back, and no random number comes twice. -/
def outboxRecords (randMax : ℕ) : Records Op Reply Outbox
  | _, c, ⟨.getTimestamp, seconds⟩ => if c.clock ≤ seconds then some { c with clock := seconds } else none
  | _, c, ⟨.rand, random⟩ =>
    if random ≤ randMax ∧ random ∉ c.drawn then some { c with drawn := random :: c.drawn } else none
  | journal, c, ⟨.broadcast msg _, _⟩ => some (c.send journal msg)
  | journal, c, ⟨.broadcastEx msg, _⟩ => some (c.send journal msg)
  | _, c, _ => some c

/-- Every id is the sum of the readings of its request. -/
def Outbox.Summed (c : Outbox) : Prop :=
  ∀ d ∈ c.sent, d.msg.transactionUniqueSeqno = d.seconds + UInt64.ofNat d.random

section Sums

variable {lib : Externals} {randMax : ℕ} {journal : List HandlerEvent} {c c' : Outbox}

/-- An operation that dispatches nothing leaves the messages as they are. -/
theorem summed_of_quiet {op : Op} (hop : op.message = none) {reply : Reply op} (hc : c.Summed)
    (h : outboxRecords randMax journal c ⟨op, reply⟩ = some c') : c'.Summed := by
  have hsent : c'.sent = c.sent := by
    cases op
    case getTimestamp =>
      simp only [outboxRecords, Option.ite_none_right_eq_some, Option.some.injEq] at h
      rw [← h.2]
    case rand =>
      simp only [outboxRecords, Option.ite_none_right_eq_some, Option.some.injEq] at h
      rw [← h.2]
    case broadcast => simp [Op.message] at hop
    case broadcastEx => simp [Op.message] at hop
    all_goals rw [← Option.some.inj h]
  unfold Outbox.Summed
  rwa [hsent]

/-- A message whose id is the sum is added. -/
theorem Outbox.Summed.send (hc : c.Summed) {msg : XtopMessage}
    (hid : msg.transactionUniqueSeqno =
      lastOf 0 secondsRead journal + UInt64.ofNat (lastOf 0 randomDrawn journal)) :
    (c.send journal msg).Summed := by
  intro d hd
  rcases List.mem_append.mp hd with hd | hd
  · exact hc d hd
  · rw [List.mem_singleton.mp hd]
    exact hid

/-- An operation that dispatches nothing goes on with its reply. -/
theorem wp_unsent {op : Op} (hop : op.message = none) {ok : Reply op → HandlerState → List HandlerEvent → Prop}
    {err : Exc → HandlerState → List HandlerEvent → Prop} {s : HandlerState}
    (hok : ∀ reply, ok reply s (journal ++ [⟨op, reply⟩])) :
    (Routine.perform op).wp (keeps (outboxRecords randMax) Outbox.Summed) ok err s journal :=
  fun _ reply _ hc hrecords => ⟨summed_of_quiet hop hc hrecords, hok reply⟩

/-- An operation that dispatches the sum of what was read last is done. -/
theorem wp_sent {op : Op} {msg : XtopMessage} (hop : op.message = some msg)
    {err : Exc → HandlerState → List HandlerEvent → Prop} {s : HandlerState}
    (hid : msg.transactionUniqueSeqno =
      lastOf 0 secondsRead journal + UInt64.ofNat (lastOf 0 randomDrawn journal)) :
    (Routine.perform op).wp (keeps (outboxRecords randMax) Outbox.Summed)
      (fun _ _ _ => True) err s journal := by
  intro c reply c' hc hrecords
  have hsent : outboxRecords randMax journal c ⟨op, reply⟩ = some (c.send journal msg) := by
    cases op <;> cases hop <;> rfl
  obtain rfl := Option.some.inj (hsent.symm.trans hrecords)
  exact ⟨hc.send hid, trivial⟩

/-- Whatever was performed before and whatever the others do, the routine keeps the sums. -/
def KeepsSums (randMax : ℕ) {α : Type} (m : HandlerM α) : Prop :=
  m.Keeps (outboxRecords randMax) Outbox.Summed

/-- `do_transaction` reads the clock, then a random number, and sends their sum. -/
theorem keepsSums_doTransaction (randMax : ℕ) : KeepsSums randMax (doTransaction lib) := by
  intro s journal
  simp only [doTransaction, getTransactionUniqueId, Routine.wp_bind, Routine.wp_read]
  apply wp_unsent rfl
  intro seconds
  apply wp_unsent rfl
  intro random
  simp only [Routine.wp_pure, Routine.wp_ite]
  constructor
  · intro _
    apply wp_sent rfl
    simp only [lastOf_append, secondsRead, randomDrawn, Option.getD_some, Option.getD_none]
  · intro _
    rw [Routine.wp_bind]
    apply wp_unsent rfl
    intro shard
    apply wp_sent rfl
    simp only [lastOf_append, secondsRead, randomDrawn, Option.getD_some, Option.getD_none]

/-- A routine without a dispatch keeps the sums. -/
theorem keepsSums_of_unsent {α : Type} {m : HandlerM α} (hm : m.Uses fun op => op.message = none) :
    KeepsSums randMax m :=
  Routine.Keeps.of_uses hm fun _ hop _ _ _ _ hc hrecords => summed_of_quiet hop hc hrecords

/-- An operation without a proposal dispatches no message. -/
theorem Op.message_of_dispatched {op : Op} (h : op.dispatched = none) : op.message = none := by
  cases op <;> first | rfl | simp [Op.dispatched] at h

/-- What proposes nothing keeps the sums. -/
theorem keepsSums_inert {α : Type} {m : HandlerM α} (hm : Inert m) : KeepsSums randMax m :=
  keepsSums_of_unsent (hm.mono fun _ hop => Op.message_of_dispatched (Op.of_isInert hop).1)

/-- Every statement of an action keeps the sums. -/
theorem keepsSums_statements (lib : Externals) (randMax : ℕ) :
    ActionStatements lib fun _ => KeepsSums randMax where
  pure a := keepsSums_of_unsent (Routine.Uses.pure a)
  bind := Routine.Keeps.bind
  plain h := keepsSums_inert h.inert
  inert := keepsSums_inert
  digestTx := keepsSums_of_unsent (uses_digestTx fun _ => rfl)
  transactionDigestAdd := keepsSums_of_unsent (uses_transactionDigestAdd rfl fun _ _ _ => rfl)
  doTransaction := keepsSums_doTransaction randMax

/-- A program that serves a request. -/
def Serves (lib : Externals) (p : Program Op Reply (Except Exc Bytes × HandlerState)) : Prop :=
  ∃ req, p = serve lib req (HandlerState.initial lib)

/-- A request keeps the sums, whatever the other requests do in between. -/
theorem Serves.keeps {p : Program Op Reply (Except Exc Bytes × HandlerState)} (h : Serves lib p)
    (randMax : ℕ) : p.wp (keeps (outboxRecords randMax) Outbox.Summed) (fun _ _ => True) [] := by
  obtain ⟨req, rfl⟩ := h
  exact Program.wp_mono keeps_mono _ (fun _ _ _ => trivial)
    ((keepsSums_statements lib randMax).serve req (HandlerState.initial lib) [])

end Sums

/-- No two dispatched messages have the same id. -/
def Outbox.UniqueIds (c : Outbox) : Prop := (c.sent.map (·.msg.transactionUniqueSeqno)).Nodup

/-- Of no two dispatches is the clock of the later one ahead by as much as its random number is
behind. -/
def Outbox.Uncancelled (c : Outbox) : Prop :=
  c.sent.Pairwise fun d d' => d'.seconds - d.seconds ≠ UInt64.ofNat d.random - UInt64.ofNat d'.random

/-- Two sums are equal when the differences cancel. -/
theorem add_eq_add_iff_sub_eq_sub (a a' r r' : UInt64) : a + r = a' + r' ↔ a' - a = r - r' := by
  constructor <;> intro h <;> grind

/-- Where every id is the sum of its readings, ids are unique unless two of the sums cancel. -/
theorem Outbox.Summed.uniqueIds_iff {c : Outbox} (hc : c.Summed) : c.UniqueIds ↔ c.Uncancelled := by
  rw [UniqueIds, List.Nodup, List.pairwise_map]
  apply List.Pairwise.iff_of_mem
  intro d d' hd hd'
  rw [hc d hd, hc d' hd', not_iff_not]
  exact add_eq_add_iff_sub_eq_sub _ _ _ _

/-- In every run of one server the ids are unique exactly when no two of the sums cancel. -/
theorem uniqueIds_iff_uncancelled (lib : Externals) (randMax : ℕ) (clock : UInt64)
    (crew : Crew Op Reply Outbox (Except Exc Bytes × HandlerState))
    (h : Crew.Reached (outboxRecords randMax) (Serves lib) ⟨clock, [], []⟩ crew) :
    crew.shared.UniqueIds ↔ crew.shared.Uncancelled := by
  have hstart : Outbox.Summed ⟨clock, [], []⟩ := by simp [Outbox.Summed]
  have hsummed : crew.shared.Summed := h.keeps_invariant hstart fun p hp => hp.keeps randMax
  exact hsummed.uniqueIds_iff

section Sample

/-- A server that has received a `give` request for T-bob. -/
def sampleFaucet : Externals :=
  { sampleExternals with parse := fun _ => (true, .object [(str "account", .string []),
      (str "action", .string (str "give")), (str "destination", .string (str "T-bob"))]) }

/-- What it performs when the clock shows these seconds and this number is drawn. -/
def sampleService (seconds : UInt64) (random : ℕ) : List HandlerEvent :=
  ((serve sampleFaucet []).run service (HandlerState.initial sampleFaucet)
    { sampleWorld with getTimestamp := seconds, rand := random }).trace

/-- The request may be served after all others. -/
theorem reached_sampleService {randMax : ℕ} {c c' c'' : Outbox}
    {programs : List (Underway Op Reply (Except Exc Bytes × HandlerState))}
    (h : Crew.Reached (outboxRecords randMax) (Serves sampleFaucet) c ⟨c', programs⟩)
    {seconds : UInt64} {random : ℕ}
    (hreplay : replay (outboxRecords randMax) [] c' (sampleService seconds random) = some c'') :
    ∃ programs', Crew.Reached (outboxRecords randMax) (Serves sampleFaucet) c ⟨c'', programs'⟩ := by
  obtain ⟨events, htrace, hyields⟩ := (serve sampleFaucet [] (HandlerState.initial sampleFaucet)).yields_exec
    service ({ sampleWorld with getTimestamp := seconds, rand := random }, [])
  have hevents : sampleService seconds random = events := htrace
  rw [hevents] at hreplay
  exact h.alone ⟨[], rfl⟩ hyields hreplay

/-- Two requests one after the other: the clock goes from 0 to 1, the random number from `random` to
`random'`. -/
theorem reached_twice (random random' : ℕ) (ids : List UInt64)
    (hids : (replay (outboxRecords 32767) [] ⟨0, [], []⟩ (sampleService 0 random) >>= fun c =>
      replay (outboxRecords 32767) [] c (sampleService 1 random')).map
        (fun c => c.sent.map (·.msg.transactionUniqueSeqno)) = some ids) :
    ∃ crew : Crew Op Reply Outbox (Except Exc Bytes × HandlerState),
      Crew.Reached (outboxRecords 32767) (Serves sampleFaucet) ⟨0, [], []⟩ crew ∧
        crew.shared.sent.map (·.msg.transactionUniqueSeqno) = ids := by
  obtain ⟨c, htwice, hsent⟩ := Option.map_eq_some_iff.mp hids
  obtain ⟨c', hfirst, hsecond⟩ := Option.bind_eq_some_iff.mp htwice
  have hstart : Crew.Reached (outboxRecords 32767) (Serves sampleFaucet) ⟨0, [], []⟩ ⟨⟨0, [], []⟩, []⟩ := .refl
  obtain ⟨programs, hreached⟩ := reached_sampleService hstart hfirst
  obtain ⟨programs', hreached'⟩ := reached_sampleService hreached hsecond
  exact ⟨⟨c, programs'⟩, hreached', hsent⟩

/-- A second later, with a random number smaller by one, the id comes again. -/
theorem ids_repeat : ∃ crew : Crew Op Reply Outbox (Except Exc Bytes × HandlerState),
    Crew.Reached (outboxRecords 32767) (Serves sampleFaucet) ⟨0, [], []⟩ crew ∧ ¬crew.shared.UniqueIds := by
  obtain ⟨crew, hreached, hids⟩ := reached_twice 1 0 [1, 1] (by decide +kernel)
  refine ⟨crew, hreached, ?_⟩
  rw [Outbox.UniqueIds, hids]
  decide

/-- With a larger one the two ids differ, and nothing has cancelled. -/
theorem uniqueIds_iff_uncancelled_sample : ∃ crew : Crew Op Reply Outbox (Except Exc Bytes × HandlerState),
    crew.shared.sent.map (·.msg.transactionUniqueSeqno) = [0, 2] ∧ crew.shared.Uncancelled := by
  obtain ⟨crew, hreached, hids⟩ := reached_twice 0 1 [0, 2] (by decide +kernel)
  have hunique : crew.shared.UniqueIds := by
    rw [Outbox.UniqueIds, hids]
    decide
  exact ⟨crew, hids, (uniqueIds_iff_uncancelled sampleFaucet 32767 0 crew hreached).mp hunique⟩

end Sample

end XrpcServer.Handler
