/-
# Runs of labelled transition systems

A system is given by its initial states and a labelled step relation. Runs keep
the list of labels they passed, so a property may speak about the history of a
run as well as about the state it reached. The rules below are the only
inductions over runs that the rest of the development needs.
-/

import Mathlib.Data.List.Basic

namespace Rintawa.Lib

universe u v

/-- A labelled transition system. -/
structure Lts (State : Type u) (Label : Type v) where
  init : State → Prop
  step : State → Label → State → Prop

namespace Lts

variable {State : Type u} {Label : Type v} (M : Lts State Label)

/-- A finite run with its labels in order. -/
inductive Run : State → List Label → State → Prop
  | refl (s : State) : Run s [] s
  | cons {s t u : State} {label : Label} {labels : List Label} :
      M.step s label t → Run t labels u → Run s (label :: labels) u

/-- A state that some run from an initial state ends in. -/
def Reachable (s : State) : Prop :=
  ∃ start labels, M.init start ∧ M.Run start labels s

variable {M}

variable {s t start : State} {first second labels : List Label}
  {C : List Label → State → Label → State → Prop}

theorem Run.single {label : Label} (h : M.step s label t) : M.Run s [label] t :=
  .cons h (.refl t)

/-- Runs that meet can be put together. -/
theorem Run.append {u : State} (hfirst : M.Run s first t) (hsecond : M.Run t second u) :
    M.Run s (first ++ second) u := by
  induction hfirst with
  | refl s => exact hsecond
  | cons hstep _ ih => exact .cons hstep (ih hsecond)

/-- A run can be continued by a step. -/
theorem Run.snoc {s t u : State} {labels : List Label} {label : Label}
    (hrun : M.Run s labels t) (hstep : M.step t label u) :
    M.Run s (labels ++ [label]) u :=
  hrun.append (.single hstep)

/-- A run over a split list of labels passes through a state between the parts. -/
theorem Run.split {u : State} (h : M.Run s (first ++ second) u) :
    ∃ t, M.Run s first t ∧ M.Run t second u := by
  induction first generalizing s with
  | nil => exact ⟨s, .refl s, h⟩
  | cons label rest ih =>
      cases h with
      | cons hstep hrest =>
          obtain ⟨t, hleft, hright⟩ := ih hrest
          exact ⟨t, .cons hstep hleft, hright⟩

theorem Reachable.of_init (h : M.init s) : M.Reachable s :=
  ⟨s, [], h, .refl s⟩

/-- A run from a reachable state ends in one. -/
theorem Reachable.run {s t : State} {labels : List Label} (h : M.Reachable s)
    (hrun : M.Run s labels t) : M.Reachable t := by
  obtain ⟨start, before, hinit, hbefore⟩ := h
  exact ⟨start, before ++ labels, hinit, hbefore.append hrun⟩

/-- A step from a reachable state ends in one. -/
theorem Reachable.step {label : Label} (h : M.Reachable s) (hstep : M.step s label t) :
    M.Reachable t :=
  h.run (.single hstep)

/-- A property of histories and states that holds at the start and survives
every step holds at the end of every run. -/
theorem Run.history_induction {P : List Label → State → Prop} (hinit : P [] start)
    (hstep : ∀ history s label t, M.Run start history s → P history s →
      M.step s label t → P (history ++ [label]) t) :
    ∀ {labels : List Label} {s : State}, M.Run start labels s → P labels s := by
  have general : ∀ {s t : State} {labels : List Label}, M.Run s labels t →
      ∀ history, M.Run start history s → P history s → P (history ++ labels) t := by
    intro s t labels hrun
    induction hrun with
    | refl s =>
        intro history _ hP
        simpa using hP
    | cons hfirst _ ih =>
        intro history hbefore hP
        have hnext := ih (history ++ [_]) (hbefore.snoc hfirst)
          (hstep history _ _ _ hbefore hP hfirst)
        simpa using hnext
  intro labels s hrun
  simpa using general hrun [] (.refl start) hinit

/-- The invariant rule. A step may use that its source is reachable. -/
theorem Reachable.induction {P : State → Prop} (hinit : ∀ s, M.init s → P s)
    (hstep : ∀ s label t, M.Reachable s → P s → M.step s label t → P t) (h : M.Reachable s) :
    P s := by
  obtain ⟨start, labels, hstart, hrun⟩ := h
  refine Run.history_induction (P := fun _ s => P s) (hinit start hstart) ?_ hrun
  intro history t label u hbefore hP hnext
  exact hstep t label u ⟨start, history, hstart, hbefore⟩ hP hnext

/-- A property that every step preserves survives a run. -/
theorem Run.preserves {P : State → Prop} (hstep : ∀ s label t, P s → M.step s label t → P t)
    (h : M.Run s labels t) (hs : P s) : P t := by
  induction h with
  | refl s => exact hs
  | cons hfirst _ ih => exact ih (hstep _ _ _ hs hfirst)

/-! ## Runs whose steps meet a condition -/

/-- A run each of whose steps meets a condition on the labels before it, its source,
its label and its target. -/
inductive RunWith (M : Lts State Label) (C : List Label → State → Label → State → Prop)
    (start : State) : List Label → State → Prop
  | refl : RunWith M C start [] start
  | snoc {labels : List Label} {label : Label} {s t : State} :
      RunWith M C start labels s → M.step s label t → C labels s label t →
      RunWith M C start (labels ++ [label]) t

/-- A run with a condition is a run. -/
theorem RunWith.run {C : List Label → State → Label → State → Prop} {start s : State}
    {labels : List Label} (h : M.RunWith C start labels s) : M.Run start labels s := by
  induction h with
  | refl => exact .refl start
  | snoc _ hstep _ ih => exact ih.snoc hstep

/-- A run over a split list of labels meets the condition up to the state between the parts. -/
theorem RunWith.split (h : M.RunWith C start (first ++ second) s) :
    ∃ t, M.RunWith C start first t ∧ M.Run t second s := by
  generalize hlabels : first ++ second = labels at h
  induction h generalizing second with
  | refl =>
      obtain ⟨rfl, rfl⟩ := List.append_eq_nil_iff.mp hlabels
      exact ⟨start, .refl, .refl start⟩
  | snoc hbefore hstep hmeets ih =>
      rcases List.eq_nil_or_concat second with rfl | ⟨rest, last, hsecond⟩
      · rw [List.append_nil] at hlabels
        rw [hlabels]
        exact ⟨_, .snoc hbefore hstep hmeets, .refl _⟩
      · rw [List.concat_eq_append] at hsecond
        subst hsecond
        rw [← List.append_assoc] at hlabels
        obtain ⟨hinit, hlast⟩ := List.append_inj' hlabels rfl
        cases hlast
        obtain ⟨t, hfirst, hrest⟩ := ih hinit
        exact ⟨t, hfirst, hrest.snoc hstep⟩

/-- A condition that every step of a run meets that comes after a run that meets it and has one of
the labels of the run. -/
theorem Run.runWith_of_labels
    (hstep : ∀ history s label t, label ∈ labels → M.Run start history s → M.step s label t →
      C history s label t) (hrun : M.Run start labels s) : M.RunWith C start labels s := by
  have hmeets := Run.history_induction
    (P := fun history s => (∀ label ∈ history, label ∈ labels) → M.RunWith C start history s)
    (fun _ => .refl) (fun history s label t hbefore hmeets hnext hlabels => ?_) hrun
  · exact hmeets fun label hlabel => hlabel
  · rw [List.forall_mem_append, List.forall_mem_singleton] at hlabels
    exact .snoc (hmeets hlabels.1) hnext (hstep history s label t hlabels.2 hbefore hnext)

/-- A condition that every step of a run meets. -/
theorem Run.runWith
    (hstep : ∀ history s label t, M.Run start history s → M.step s label t → C history s label t)
    (hrun : M.Run start labels s) : M.RunWith C start labels s :=
  hrun.runWith_of_labels fun history s label t _ => hstep history s label t

/-- Two conditions that agree on every step whose past meets the first one have the
same runs. -/
theorem runWith_congr {D : List Label → State → Label → State → Prop}
    (hcongr : ∀ labels s label t, M.RunWith C start labels s → M.step s label t →
      (C labels s label t ↔ D labels s label t)) :
    M.RunWith C start labels s ↔ M.RunWith D start labels s := by
  constructor
  · intro h
    induction h with
    | refl => exact .refl
    | snoc hbefore hstep hmeets ih =>
        exact .snoc ih hstep ((hcongr _ _ _ _ hbefore hstep).mp hmeets)
  · intro h
    induction h with
    | refl => exact .refl
    | snoc _ hstep hmeets ih =>
        exact .snoc ih hstep ((hcongr _ _ _ _ ih hstep).mpr hmeets)

end Lts

end Rintawa.Lib
