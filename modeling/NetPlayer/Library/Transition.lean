import Mathlib.Data.List.Basic

/-!
# Runs of a labelled transition relation

A run keeps the labels of its steps in the order they were taken, so a property
can speak about the states a run reaches and about what it did on the way. The
induction over a run is packaged once: an invariant needs one lemma about one
step.
-/

namespace Transition

variable {State Label : Type*}

/-- `Run step s labels t`: the steps named by `labels` lead from `s` to `t`. -/
inductive Run (step : State → Label → State → Prop) : State → List Label → State → Prop
  | nil (s : State) : Run step s [] s
  | snoc {s t u : State} {labels : List Label} {label : Label} :
      Run step s labels t → step t label u → Run step s (labels ++ [label]) u

def Guarded (step : State → Label → State → Prop) (allowed : State → Label → Prop) :
    State → Label → State → Prop :=
  fun s label t => step s label t ∧ allowed s label

variable {step : State → Label → State → Prop} {allowed : State → Label → Prop}

variable {s t : State}

theorem Run.single {label : Label} (h : step s label t) : Run step s [label] t :=
  Run.snoc (Run.nil s) h

theorem Run.append {u : State} {front back : List Label} (first : Run step s front t)
    (second : Run step t back u) : Run step s (front ++ back) u := by
  induction second with
  | nil => simpa using first
  | snoc _ hst ih =>
    rw [← List.append_assoc]
    exact Run.snoc ih hst

variable {labels : List Label}

theorem Run.cons {u : State} {label : Label} (h : step s label t) (rest : Run step t labels u) :
    Run step s (label :: labels) u :=
  (Run.single h).append rest

theorem Run.of_guarded (run : Run (Guarded step allowed) s labels t) : Run step s labels t := by
  induction run with
  | nil => exact Run.nil _
  | snoc _ hst ih => exact Run.snoc ih hst.1

theorem Run.invariant (inv : State → Prop) (run : Run step s labels t)
    (preserved : ∀ {a b : State} {label : Label}, step a label b → inv a → inv b) (start : inv s) :
    inv t := by
  induction run with
  | nil => exact start
  | snoc _ hst ih => exact preserved hst ih

theorem Run.invariant_history (inv : List Label → State → Prop) (run : Run step s labels t)
    (preserved : ∀ {a b : State} {label : Label} {past : List Label},
      step a label b → inv past a → inv (past ++ [label]) b) (start : inv [] s) : inv labels t := by
  induction run with
  | nil => exact start
  | snoc _ hst ih => exact preserved hst ih

/-- A property that the steps of a run keep as long as no label satisfies `stop`. -/
theorem Run.invariant_until {inv : State → Prop} {stop : Label → Prop} (run : Run step s labels t)
    (preserved : ∀ {a b : State} {label : Label}, step a label b → ¬ stop label → inv a → inv b)
    (start : inv s) (never : ∀ label ∈ labels, ¬ stop label) : inv t := by
  induction run with
  | nil => exact start
  | snoc _ hst ih =>
    refine preserved hst (never _ (by simp)) (ih ?_)
    intro label hm
    exact never label (by simp [hm])

end Transition
