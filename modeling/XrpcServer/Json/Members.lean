import Mathlib.Data.List.Forall2
import XrpcServer.Text.Bytes

/-!
# Sorted member lists

Objects keep their members in key order, one per key, as a `std::map` does. The lookup laws
hold for every list; sorted lists are moreover determined by their lookups, so that an object
which is assigned all its members does not depend on what it held before.
-/

namespace XrpcServer.Json

open XrpcServer.Text

variable {α : Type}

/-- Assign a member, replacing an equal key and otherwise keeping the key order. -/
def insertMember (key : Bytes) (value : α) : List (Bytes × α) → List (Bytes × α)
  | [] => [(key, value)]
  | (k, v) :: rest =>
    if key = k then (key, value) :: rest
    else if key < k then (key, value) :: (k, v) :: rest
    else (k, v) :: insertMember key value rest

/-- The first entry answers for its key. -/
theorem lookup_cons_ite (key k : Bytes) (v : α) (rest : List (Bytes × α)) :
    ((k, v) :: rest).lookup key = if key = k then some v else rest.lookup key := by
  by_cases h : key = k
  · simp [h]
  · rw [List.lookup_cons, beq_eq_false_iff_ne.mpr h, if_neg h]

/-- Assigning a member changes exactly that member. -/
@[simp] theorem lookup_insertMember (key key' : Bytes) (value : α) (members : List (Bytes × α)) :
    (insertMember key value members).lookup key' =
      if key' = key then some value else members.lookup key' := by
  induction members with
  | nil => rw [insertMember, lookup_cons_ite]
  | cons head rest ih =>
    obtain ⟨k, v⟩ := head
    unfold insertMember
    by_cases hkey : key = k
    · subst hkey
      rw [if_pos rfl, lookup_cons_ite, lookup_cons_ite]
      split <;> rfl
    · rw [if_neg hkey]
      split
      · rw [lookup_cons_ite]
      · rw [lookup_cons_ite, lookup_cons_ite, ih]
        by_cases hk : key' = k
        · rw [if_pos hk, if_pos hk, if_neg (hk ▸ Ne.symm hkey)]
        · rw [if_neg hk, if_neg hk]

/-- An assignment brings no other new entry. -/
theorem mem_insertMember {key : Bytes} {value : α} {members : List (Bytes × α)} {entry : Bytes × α}
    (h : entry ∈ insertMember key value members) : entry = (key, value) ∨ entry ∈ members := by
  induction members with
  | nil => exact Or.inl (by simpa [insertMember] using h)
  | cons head rest ih =>
    obtain ⟨k, v⟩ := head
    unfold insertMember at h
    split_ifs at h
    · exact (List.mem_cons.mp h).imp_right (List.mem_cons_of_mem _)
    · exact List.mem_cons.mp h
    · rcases List.mem_cons.mp h with rfl | hrest
      · exact Or.inr List.mem_cons_self
      · exact (ih hrest).imp_right (List.mem_cons_of_mem _)

/-- The second of two assignments to a key is the one that counts. -/
@[simp] theorem insertMember_insertMember (key : Bytes) (value value' : α)
    (members : List (Bytes × α)) :
    insertMember key value (insertMember key value' members) = insertMember key value members := by
  induction members with
  | nil => simp [insertMember]
  | cons head rest ih =>
    obtain ⟨k, v⟩ := head
    by_cases hkey : key = k
    · simp [insertMember, hkey]
    · by_cases hlt : key < k <;> simp [insertMember, hkey, hlt, ih]

/-- The keys increase along the list. -/
def SortedMembers (members : List (Bytes × α)) : Prop := members.Pairwise fun a b => a.1 < b.1

/-- An object starts without members. -/
theorem sortedMembers_nil : SortedMembers ([] : List (Bytes × α)) := List.Pairwise.nil

/-- Assigning a member keeps the order. -/
theorem SortedMembers.insertMember {members : List (Bytes × α)} (h : SortedMembers members)
    (key : Bytes) (value : α) : SortedMembers (insertMember key value members) := by
  induction members with
  | nil => exact List.pairwise_singleton _ _
  | cons head rest ih =>
    obtain ⟨k, v⟩ := head
    obtain ⟨hhead, hrest⟩ := List.pairwise_cons.mp h
    unfold Json.insertMember
    split_ifs with hkey hlt
    · subst hkey
      exact List.pairwise_cons.mpr ⟨hhead, hrest⟩
    · apply List.pairwise_cons.mpr ⟨_, h⟩
      intro entry hentry
      rcases List.mem_cons.mp hentry with rfl | hmem
      · exact hlt
      · exact List.lt_trans hlt (hhead entry hmem)
    · apply List.pairwise_cons.mpr ⟨_, ih hrest⟩
      intro entry hentry
      rcases mem_insertMember hentry with rfl | hmem
      · exact (List.le_iff_lt_or_eq.mp (List.not_lt.mp hlt)).resolve_right (Ne.symm hkey)
      · exact hhead entry hmem

/-- A key below all keys of a list is not found in it. -/
theorem lookup_eq_none_of_lt {key : Bytes} {members : List (Bytes × α)}
    (h : ∀ entry ∈ members, key < entry.1) : members.lookup key = none := by
  rw [List.lookup_eq_none_iff]
  intro entry hentry
  have hlt := h entry hentry
  simp only [bne_iff_ne, ne_eq]
  intro heq
  rw [heq] at hlt
  exact List.lt_irrefl _ hlt

/-- Sorted lists with the same lookups are the same list. -/
theorem SortedMembers.ext {members members' : List (Bytes × α)} (h : SortedMembers members)
    (h' : SortedMembers members') (heq : ∀ key, members.lookup key = members'.lookup key) :
    members = members' := by
  induction members generalizing members' with
  | nil =>
    cases members' with
    | nil => rfl
    | cons head rest =>
      obtain ⟨k, v⟩ := head
      simpa [lookup_cons_ite] using heq k
  | cons head rest ih =>
    obtain ⟨k, v⟩ := head
    obtain ⟨hhead, hrest⟩ := List.pairwise_cons.mp h
    cases members' with
    | nil => simpa [lookup_cons_ite] using heq k
    | cons head' rest' =>
      obtain ⟨k', v'⟩ := head'
      obtain ⟨hhead', hrest'⟩ := List.pairwise_cons.mp h'
      have hnone : rest.lookup k = none := lookup_eq_none_of_lt hhead
      have hnone' : rest'.lookup k' = none := lookup_eq_none_of_lt hhead'
      -- the smaller of the two first keys would be found in one list only
      obtain rfl : k = k' := by
        by_contra hne
        have hk := heq k
        have hk' := heq k'
        rw [lookup_cons_ite, lookup_cons_ite, if_pos rfl, if_neg hne] at hk
        rw [lookup_cons_ite, lookup_cons_ite, if_pos rfl, if_neg (Ne.symm hne)] at hk'
        by_cases hlt : k < k'
        · have hbelow : rest'.lookup k = none :=
            lookup_eq_none_of_lt fun entry hentry => List.lt_trans hlt (hhead' entry hentry)
          rw [hbelow] at hk
          cases hk
        · have hlt' : k' < k :=
            (List.le_iff_lt_or_eq.mp (List.not_lt.mp hlt)).resolve_right (Ne.symm hne)
          have hbelow : rest.lookup k' = none :=
            lookup_eq_none_of_lt fun entry hentry => List.lt_trans hlt' (hhead entry hentry)
          rw [hbelow] at hk'
          cases hk'
      obtain rfl : v = v' := by simpa [lookup_cons_ite] using heq k
      rw [ih hrest hrest']
      intro key
      by_cases hkey : key = k
      · rw [hkey, hnone, hnone']
      · simpa [lookup_cons_ite, hkey] using heq key

/-- Assign several members, one after the other. -/
def assignMembers (entries members : List (Bytes × α)) : List (Bytes × α) :=
  entries.foldl (fun members entry => insertMember entry.1 entry.2 members) members

/-- Nothing is assigned. -/
@[simp] theorem assignMembers_nil (members : List (Bytes × α)) : assignMembers [] members = members := rfl

/-- One member is assigned before the others. -/
@[simp] theorem assignMembers_cons (entry : Bytes × α) (entries members : List (Bytes × α)) :
    assignMembers (entry :: entries) members =
      assignMembers entries (insertMember entry.1 entry.2 members) := rfl

/-- Members are assigned in a row. -/
@[simp] theorem assignMembers_append (entries entries' members : List (Bytes × α)) :
    assignMembers (entries ++ entries') members = assignMembers entries' (assignMembers entries members) :=
  List.foldl_append

/-- Assignments keep the order. -/
theorem SortedMembers.assignMembers (entries : List (Bytes × α)) {members : List (Bytes × α)}
    (h : SortedMembers members) : SortedMembers (assignMembers entries members) := by
  induction entries generalizing members with
  | nil => exact h
  | cons entry rest ih => exact ih (h.insertMember entry.1 entry.2)

/-- A member is the last one assigned to its key, or the one that was there before. -/
theorem lookup_assignMembers (entries members : List (Bytes × α)) (key : Bytes) :
    (assignMembers entries members).lookup key =
      ((assignMembers entries []).lookup key).or (members.lookup key) := by
  induction entries generalizing members with
  | nil => simp
  | cons entry rest ih =>
    rw [assignMembers_cons, assignMembers_cons, ih, ih (insertMember entry.1 entry.2 []),
      lookup_insertMember, lookup_insertMember]
    by_cases hkey : key = entry.1 <;> simp [hkey]

/-- An assigned key is found. -/
theorem lookup_assignMembers_isSome {entries : List (Bytes × α)} {key : Bytes}
    (h : key ∈ entries.map Prod.fst) (members : List (Bytes × α)) :
    ((assignMembers entries members).lookup key).isSome := by
  induction entries generalizing members with
  | nil => simp at h
  | cons entry rest ih =>
    rcases List.mem_cons.mp h with rfl | hmem
    · rw [assignMembers_cons, lookup_assignMembers, lookup_insertMember, if_pos rfl]
      simp
    · exact ih hmem _

/-- Other members are kept. -/
theorem lookup_assignMembers_of_not_mem {entries : List (Bytes × α)} {key : Bytes}
    (h : key ∉ entries.map Prod.fst) (members : List (Bytes × α)) :
    (assignMembers entries members).lookup key = members.lookup key := by
  induction entries generalizing members with
  | nil => rfl
  | cons entry rest ih =>
    simp only [List.map_cons, List.mem_cons, not_or] at h
    rw [assignMembers_cons, ih h.2, lookup_insertMember, if_neg h.1]

/-- A new key is added to the members there are. -/
theorem insertMember_perm {key : Bytes} {members : List (Bytes × α)} (hnew : key ∉ members.map Prod.fst)
    (value : α) : (insertMember key value members).Perm ((key, value) :: members) := by
  induction members with
  | nil => exact List.Perm.refl _
  | cons head rest ih =>
    obtain ⟨k, v⟩ := head
    simp only [List.map_cons, List.mem_cons, not_or] at hnew
    unfold insertMember
    rw [if_neg hnew.1]
    split_ifs
    · exact List.Perm.refl _
    · exact ((ih hnew.2).cons (k, v)).trans (List.Perm.swap _ _ _)

/-- Entries with different keys become the members of an empty object. -/
theorem assignMembers_perm {entries members : List (Bytes × α)}
    (hnodup : ((entries ++ members).map Prod.fst).Nodup) :
    (assignMembers entries members).Perm (entries ++ members) := by
  induction entries generalizing members with
  | nil => exact List.Perm.refl _
  | cons entry rest ih =>
    have hmoved : (rest ++ entry :: members).Perm (entry :: rest ++ members) := List.perm_middle
    have hnodup' : ((rest ++ entry :: members).map Prod.fst).Nodup := (hmoved.map Prod.fst).nodup_iff.mpr hnodup
    have hnew : entry.1 ∉ members.map Prod.fst := by
      simp only [List.cons_append, List.map_cons, List.nodup_cons, List.map_append, List.mem_append,
        not_or] at hnodup
      exact hnodup.1.2
    have hinsert := insertMember_perm hnew entry.2
    have hafter := (hinsert.append_left rest).map Prod.fst
    exact (ih (hafter.nodup_iff.mpr hnodup')).trans ((hinsert.append_left rest).trans hmoved)

/-- An object that is assigned every key it holds does not depend on what it held. -/
theorem assignMembers_eq_of_covered {entries members : List (Bytes × α)} (h : SortedMembers members)
    (hcovered : ∀ key, (members.lookup key).isSome → key ∈ entries.map Prod.fst) :
    assignMembers entries members = assignMembers entries [] := by
  apply (h.assignMembers entries).ext (sortedMembers_nil.assignMembers entries)
  intro key
  rw [lookup_assignMembers]
  by_cases hkey : (members.lookup key).isSome
  · obtain ⟨value, hvalue⟩ :=
      Option.isSome_iff_exists.mp (lookup_assignMembers_isSome (hcovered key hkey) [])
    rw [hvalue, Option.some_or]
  · rw [Option.not_isSome_iff_eq_none.mp hkey, Option.or_none]

section Reuse

variable {β : Type}

/-- The contents of one object that is assigned the entries of each element in turn. -/
def reuse (entries : β → List (Bytes × α)) : List (Bytes × α) → List β → List (List (Bytes × α))
  | _, [] => []
  | members, x :: rest =>
    assignMembers (entries x) members :: reuse entries (assignMembers (entries x) members) rest

/-- Contents and elements correspond. -/
theorem forall₂_reuse {entries : β → List (Bytes × α)} {R : List (Bytes × α) → β → Prop}
    (h : ∀ x members, R (assignMembers (entries x) members) x) (members : List (Bytes × α))
    (xs : List β) : List.Forall₂ R (reuse entries members xs) xs := by
  induction xs generalizing members with
  | nil => exact List.Forall₂.nil
  | cons x rest ih => exact List.Forall₂.cons (h x members) (ih _)

/-- When all elements assign the same keys, reusing the object makes no difference. -/
theorem reuse_eq_map {entries : β → List (Bytes × α)} {members : List (Bytes × α)} {xs : List β}
    {keys : List Bytes} (hsorted : SortedMembers members)
    (hheld : ∀ key, (members.lookup key).isSome → key ∈ keys)
    (hkeys : ∀ x ∈ xs, ∀ key, key ∈ (entries x).map Prod.fst ↔ key ∈ keys) :
    reuse entries members xs = xs.map fun x => assignMembers (entries x) [] := by
  induction xs generalizing members with
  | nil => rfl
  | cons x rest ih =>
    have hx := hkeys x List.mem_cons_self
    have hfresh : assignMembers (entries x) members = assignMembers (entries x) [] :=
      assignMembers_eq_of_covered hsorted fun key hkey => (hx key).mpr (hheld key hkey)
    have hheld' : ∀ key, ((assignMembers (entries x) members).lookup key).isSome → key ∈ keys := by
      intro key hkey
      by_cases hassigned : key ∈ (entries x).map Prod.fst
      · exact (hx key).mp hassigned
      · rw [lookup_assignMembers_of_not_mem hassigned] at hkey
        exact hheld key hkey
    rw [reuse, List.map_cons, ih (hsorted.assignMembers _) hheld' fun y hy =>
      hkeys y (List.mem_cons_of_mem _ hy), hfresh]

end Reuse

end XrpcServer.Json
