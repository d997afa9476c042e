import Mathlib.Data.List.Nodup
import Mathlib.Data.List.TakeWhile
import Mathlib.Data.Set.Insert

/-!
# Chains of accounts with moving heads

A ledger takes an entry only if the entry names the current head of its sender; the head then
moves to a digest that was never used before. So the entries of one sender form a chain in
which every digest is spent once, and what was taken before a digest became the head is fixed
from that moment on.
-/

namespace XrpcServer.Chain

variable {Tx Account Digest : Type} [DecidableEq Account]

/-- The sender of an entry and the digest it extends. -/
structure Linking (Tx Account Digest : Type) where
  sender : Tx → Account
  lastDigest : Tx → Digest

/-- A ledger: the head of every account, the entries taken, and every digest used so far. -/
structure HeadChain (Tx Account Digest : Type) where
  head : Account → Digest
  /-- Oldest entry first. -/
  history : List Tx
  used : Set Digest

namespace HeadChain

variable (link : Linking Tx Account Digest)

/-- The entries of one account. -/
def chainOf (c : HeadChain Tx Account Digest) (a : Account) : List Tx :=
  c.history.filter fun tx => link.sender tx = a

/-- The ledger takes one entry. -/
structure Extends (tx : Tx) (c c' : HeadChain Tx Account Digest) : Prop where
  lastDigest : link.lastDigest tx = c.head (link.sender tx)
  fresh : c'.head (link.sender tx) ∉ c.used
  others : ∀ a, a ≠ link.sender tx → c'.head a = c.head a
  history : c'.history = c.history ++ [tx]
  used : c'.used = insert (c'.head (link.sender tx)) c.used

/-- Heads are used digests, and no digest is spent twice by one account. -/
structure WellLinked (c : HeadChain Tx Account Digest) : Prop where
  head_used : ∀ a, c.head a ∈ c.used
  spent_used : ∀ tx ∈ c.history, link.lastDigest tx ∈ c.used
  nodup : ∀ a, ((c.chainOf link a).map link.lastDigest).Nodup
  head_unspent : ∀ a, c.head a ∉ (c.chainOf link a).map link.lastDigest

/-- The digest is or was the head of the account. -/
def Reached (c : HeadChain Tx Account Digest) (a : Account) (digest : Digest) : Prop :=
  digest = c.head a ∨ digest ∈ (c.chainOf link a).map link.lastDigest

/-- The entries of the account that were taken before this digest was spent. -/
def before [DecidableEq Digest] (c : HeadChain Tx Account Digest) (a : Account) (digest : Digest) : List Tx :=
  (c.chainOf link a).takeWhile fun tx => link.lastDigest tx ≠ digest

variable {link}

/-- An entry lengthens the chain of its sender only. -/
theorem Extends.chainOf_eq {tx : Tx} {c c' : HeadChain Tx Account Digest} (h : Extends link tx c c')
    (a : Account) :
    c'.chainOf link a = c.chainOf link a ++ if link.sender tx = a then [tx] else [] := by
  by_cases ha : link.sender tx = a <;> simp [chainOf, h.history, ha]

/-- Taking an entry keeps a ledger well linked. -/
theorem WellLinked.of_extends {tx : Tx} {c c' : HeadChain Tx Account Digest}
    (hlinked : c.WellLinked link) (h : Extends link tx c c') : c'.WellLinked link := by
  constructor
  case head_used =>
    intro a
    rw [h.used]
    by_cases ha : a = link.sender tx
    · exact Or.inl (by rw [ha])
    · rw [h.others a ha]
      exact Or.inr (hlinked.head_used a)
  case spent_used =>
    intro tx' htx'
    rw [h.used]
    rw [h.history] at htx'
    rcases List.mem_append.mp htx' with htx' | htx'
    · exact Or.inr (hlinked.spent_used tx' htx')
    · obtain rfl : tx' = tx := by simpa using htx'
      rw [h.lastDigest]
      exact Or.inr (hlinked.head_used _)
  case nodup =>
    intro a
    rw [h.chainOf_eq a]
    by_cases ha : link.sender tx = a
    · subst ha
      -- the digest spent now is the head, which was not spent before
      rw [if_pos rfl, List.map_append, List.nodup_append']
      refine ⟨hlinked.nodup _, by simp, ?_⟩
      intro digest hdigest hspent
      obtain rfl : digest = link.lastDigest tx := by simpa using hspent
      rw [h.lastDigest] at hdigest
      exact hlinked.head_unspent _ hdigest
    · simpa [ha] using hlinked.nodup a
  case head_unspent =>
    intro a
    rw [h.chainOf_eq a]
    by_cases ha : link.sender tx = a
    · subst ha
      rw [if_pos rfl]
      intro hspent
      obtain ⟨tx', htx', hdigest⟩ := List.mem_map.mp hspent
      have hused : link.lastDigest tx' ∈ c.used := by
        rcases List.mem_append.mp htx' with htx' | htx'
        · exact hlinked.spent_used tx' (List.mem_filter.mp htx').1
        · obtain rfl : tx' = tx := by simpa using htx'
          rw [h.lastDigest]
          exact hlinked.head_used _
      rw [hdigest] at hused
      exact h.fresh hused
    · rw [h.others a (Ne.symm ha)]
      simpa [ha] using hlinked.head_unspent a

variable [DecidableEq Digest]

omit [DecidableEq Account] in
/-- No entry before a digest is spent spends it. -/
theorem ne_of_not_spent {entries : List Tx} {digest : Digest}
    (h : digest ∉ entries.map link.lastDigest) :
    ∀ tx ∈ entries, decide (link.lastDigest tx ≠ digest) = true := by
  intro tx htx
  have hne : link.lastDigest tx ≠ digest := fun heq => h (heq ▸ List.mem_map_of_mem htx)
  simpa using hne

/-- Everything of the account was taken before its head is spent. -/
theorem WellLinked.before_head {c : HeadChain Tx Account Digest} (hlinked : c.WellLinked link)
    (a : Account) : c.before link a (c.head a) = c.chainOf link a := by
  rw [before, List.takeWhile_eq_self_iff]
  exact ne_of_not_spent (hlinked.head_unspent a)

omit [DecidableEq Account] in
/-- Nothing is added before a digest that was spent. -/
theorem takeWhile_append_of_spent {entries more : List Tx} {digest : Digest}
    (h : digest ∈ entries.map link.lastDigest) :
    (entries ++ more).takeWhile (fun tx => link.lastDigest tx ≠ digest) =
      entries.takeWhile fun tx => link.lastDigest tx ≠ digest := by
  induction entries with
  | nil => simp at h
  | cons tx rest ih =>
    by_cases heq : link.lastDigest tx = digest
    · simp [heq]
    · have hrest : digest ∈ rest.map link.lastDigest := by simpa [Ne.symm heq] using h
      simpa [heq] using ih hrest

/-- What was taken before a reached digest is spent does not change any more. -/
theorem WellLinked.before_of_extends {tx : Tx} {c c' : HeadChain Tx Account Digest}
    (hlinked : c.WellLinked link) (h : Extends link tx c c') {a : Account} {digest : Digest}
    (hreached : c.Reached link a digest) :
    c'.Reached link a digest ∧ c'.before link a digest = c.before link a digest := by
  have hchain := h.chainOf_eq a
  rcases hreached with rfl | hspent
  · by_cases ha : link.sender tx = a
    · -- the head is spent by this entry
      rw [if_pos ha] at hchain
      have hlast : link.lastDigest tx = c.head a := by rw [h.lastDigest, ha]
      refine ⟨Or.inr (by simp [hchain, hlast]), ?_⟩
      rw [hlinked.before_head, before, hchain,
        List.takeWhile_append_of_pos (ne_of_not_spent (hlinked.head_unspent a))]
      simp [hlast]
    · rw [if_neg ha, List.append_nil] at hchain
      exact ⟨Or.inl (h.others a (Ne.symm ha)).symm, by rw [before, before, hchain]⟩
  · refine ⟨Or.inr ?_, ?_⟩
    · rw [hchain, List.map_append]
      exact List.mem_append_left _ hspent
    · rw [before, before, hchain, takeWhile_append_of_spent hspent]

/-- An entry of a chain divides it: what precedes it was taken before its digest was spent. -/
theorem WellLinked.before_lastDigest {c : HeadChain Tx Account Digest} (hlinked : c.WellLinked link)
    {a : Account} {front back : List Tx} {tx : Tx} (hchain : c.chainOf link a = front ++ tx :: back) :
    c.before link a (link.lastDigest tx) = front := by
  have hnodup := hlinked.nodup a
  rw [hchain, List.map_append, List.nodup_append'] at hnodup
  have hfront : link.lastDigest tx ∉ front.map link.lastDigest :=
    fun hmem => hnodup.2.2 hmem (by simp)
  rw [before, hchain, List.takeWhile_append_of_pos (ne_of_not_spent hfront)]
  simp

omit [DecidableEq Account] [DecidableEq Digest] in
/-- Where a property holds twice, some entry with it is preceded by another one. -/
theorem exists_second {entries : List Tx} {p : Tx → Bool} (h : 1 < entries.countP p) :
    ∃ front tx back, entries = front ++ tx :: back ∧ p tx ∧ ∃ first ∈ front, p first := by
  induction entries with
  | nil => simp at h
  | cons a rest ih =>
    by_cases ha : p a
    · have hrest : 0 < rest.countP p := by simpa [ha] using h
      obtain ⟨tx, htx, hp⟩ := List.countP_pos_iff.mp hrest
      obtain ⟨front, back, rfl⟩ := List.append_of_mem htx
      exact ⟨a :: front, tx, back, rfl, hp, a, by simp, ha⟩
    · have hrest : 1 < rest.countP p := by simpa [ha] using h
      obtain ⟨front, tx, back, rfl, hp, first, hfirst, hfirstp⟩ := ih hrest
      exact ⟨a :: front, tx, back, rfl, hp, first, by simp [hfirst], hfirstp⟩

end HeadChain

end XrpcServer.Chain
