import Mathlib.Data.List.Basic

/-!
# Labelled runs

A trail lists the labelled steps of a run with the states they lead to. Where every step from a
good state either leads to a good state or is harmful, a trail stays among the good states
exactly when none of its steps is harmful. Whether a step is may be told from the state it is
taken in, or from the labels before it.
-/

namespace XrpcServer.Interaction

variable {State Label : Type*}

/-- The steps of a run from a state. -/
inductive Trail (step : State → Label → State → Prop) : State → List (Label × State) → Prop
  | nil (s : State) : Trail step s []
  | cons {s s' : State} {label : Label} {rest : List (Label × State)} (hstep : step s label s')
    (hrest : Trail step s' rest) : Trail step s ((label, s') :: rest)

/-- Every step of a trail has a property, given the state it is taken in. -/
def EachStep (property : State → Label → Prop) : State → List (Label × State) → Prop
  | _, [] => True
  | s, (label, s') :: rest => property s label ∧ EachStep property s' rest

/-- A trail stays among the good states exactly when each of its steps is harmless. -/
theorem Trail.always_iff {step : State → Label → State → Prop} {good : State → Prop}
    {harmless : State → Label → Prop}
    (hgood : ∀ s label s', good s → step s label s' → (good s' ↔ harmless s label))
    {s : State} {trail : List (Label × State)} (h : Trail step s trail) (hs : good s) :
    (∀ entry ∈ trail, good entry.2) ↔ EachStep harmless s trail := by
  induction h with
  | nil s => simp [EachStep]
  | @cons s s' label rest hstep _ ih =>
    rw [List.forall_mem_cons, EachStep, ← hgood s label s' hs hstep]
    exact and_congr_right ih

/-- What the labels so far, the last one first, tell of every state of a trail. -/
theorem Trail.told {step : State → Label → State → Prop} {known : List Label → State → Prop}
    (hknown : ∀ history s label s', known history s → step s label s' → known (label :: history) s')
    {s : State} {trail : List (Label × State)} (h : Trail step s trail) {history : List Label}
    (hs : known history s) {before after : List (Label × State)} {entry : Label × State}
    (hsplit : trail = before ++ entry :: after) :
    known (entry.1 :: (before.map Prod.fst).reverse ++ history) entry.2 := by
  induction h generalizing before history with
  | nil s => simp at hsplit
  | @cons s s' label rest hstep _ ih =>
    cases before with
    | nil =>
      obtain ⟨rfl, -⟩ := List.cons.inj hsplit
      exact hknown history s label s' hs hstep
    | cons first before =>
      obtain ⟨rfl, hrest⟩ := List.cons.inj hsplit
      have htold := ih (hknown history s label s' hs hstep) hrest
      simpa using htold

/-- Every label of a list has a property, given the labels before it, the last one first. -/
def EachLabel (property : List Label → Label → Prop) (labels : List Label) : Prop :=
  ∀ before label after, labels = before ++ label :: after → property before.reverse label

/-- The first label is set apart from the others. -/
theorem eachLabel_cons {property : List Label → Label → Prop} {label : Label} {labels : List Label} :
    EachLabel property (label :: labels) ↔
      property [] label ∧ EachLabel (fun history => property (history ++ [label])) labels := by
  constructor
  · intro h
    refine ⟨h [] label labels rfl, ?_⟩
    intro before label' after hsplit
    have hproperty := h (label :: before) label' after (by rw [hsplit, List.cons_append])
    rwa [List.reverse_cons] at hproperty
  · rintro ⟨hfirst, hrest⟩ before label' after hsplit
    cases before with
    | nil =>
      obtain ⟨rfl, rfl⟩ := List.cons.inj hsplit
      exact hfirst
    | cons first before =>
      obtain ⟨rfl, hrest'⟩ := List.cons.inj hsplit
      rw [List.reverse_cons]
      exact hrest before label' after hrest'

/-- The same where what the labels tell is known of every good state. -/
theorem Trail.always_iff_eachLabel {step : State → Label → State → Prop} {good : State → Prop}
    {known : List Label → State → Prop} {harmless : List Label → Label → Prop}
    (hgood : ∀ history s label s', known history s → step s label s' → (good s' ↔ harmless history label))
    (hknown : ∀ history s label s', known history s → step s label s' → good s' → known (label :: history) s')
    {s : State} {trail : List (Label × State)} (h : Trail step s trail) (hs : known [] s) :
    (∀ entry ∈ trail, good entry.2) ↔ EachLabel harmless (trail.map Prod.fst) := by
  suffices hfrom : ∀ history, known history s →
      ((∀ entry ∈ trail, good entry.2) ↔
        EachLabel (fun labels => harmless (labels ++ history)) (trail.map Prod.fst)) by
    simpa using hfrom [] hs
  clear hs
  induction h with
  | nil s => simp [EachLabel]
  | @cons s s' label rest hstep _ ih =>
    intro history hs
    rw [List.forall_mem_cons, List.map_cons, eachLabel_cons, List.nil_append,
      ← hgood history s label s' hs hstep]
    apply and_congr_right
    intro hgood'
    simpa using ih (label :: history) (hknown history s label s' hs hstep hgood')

end XrpcServer.Interaction
