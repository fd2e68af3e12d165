import Mathlib.Data.List.Basic

/-!
# Machines and their runs

A deterministic machine that takes one labelled step after another.  `Along` is
a condition on the steps of a run, each judged in the state it is taken in;
`run_preserves` carries an invariant along such a run, `along_iff_everywhere` makes the
condition exact, `exists_origin` finds the step at which something came about, and
`run_view` is the rule for noninterference.
-/

namespace Foundation

open List

/-- A machine: what a labelled step does to a state, and what it shows. -/
structure Machine (State Label Output : Type) where
  step : State → Label → Output × State

namespace Machine

variable {State Label Output View : Type} (machine : Machine State Label Output)

def next (state : State) (label : Label) : State := (machine.step state label).2

def run (state : State) (labels : List Label) : State := labels.foldl machine.next state

def outputs : State → List Label → List Output
  | _, [] => []
  | state, label :: labels =>
    (machine.step state label).1 :: outputs (machine.next state label) labels

@[simp]
theorem run_nil (state : State) : machine.run state [] = state := rfl

@[simp]
theorem run_cons (state : State) (label : Label) (labels : List Label) :
    machine.run state (label :: labels) = machine.run (machine.next state label) labels := rfl

theorem run_append (state : State) (labels more : List Label) :
    machine.run state (labels ++ more) = machine.run (machine.run state labels) more :=
  foldl_append

/-- Every step of the run meets `P` in the state it is taken in. -/
def Along (P : State → Label → Prop) : State → List Label → Prop
  | _, [] => True
  | state, label :: labels => P state label ∧ Along P (machine.next state label) labels

variable {P : State → Label → Prop}

theorem along_append {state : State} {labels more : List Label} :
    machine.Along P state (labels ++ more) ↔
      machine.Along P state labels ∧ machine.Along P (machine.run state labels) more := by
  induction labels generalizing state with
  | nil => simp [Along]
  | cons label labels ih =>
    rw [cons_append, Along, Along, ih, run_cons, and_assoc]

theorem along_of_forall (always : ∀ state label, P state label) (state : State)
    (labels : List Label) : machine.Along P state labels := by
  induction labels generalizing state with
  | nil => trivial
  | cons label labels ih => exact ⟨always _ _, ih _⟩

variable {I : State → Prop} {Q : State → Label → Prop}

/-- Two conditions that agree wherever the invariant `I` holds, agree on every run. -/
theorem along_congr (keeps : ∀ state label, I state → I (machine.next state label))
    (agree : ∀ state label, I state → (P state label ↔ Q state label)) (state : State)
    (labels : List Label) (start : I state) :
    machine.Along P state labels ↔ machine.Along Q state labels := by
  induction labels generalizing state with
  | nil => exact Iff.rfl
  | cons label labels ih =>
    exact and_congr (agree state label start) (ih _ (keeps state label start))

variable (keeps : ∀ state label, I state → P state label → I (machine.next state label))
include keeps

/-- What every permitted step keeps, every permitted run keeps. -/
theorem run_preserves (state : State) (labels : List Label)
    (permitted : machine.Along P state labels) (start : I state) :
    I (machine.run state labels) := by
  induction labels generalizing state with
  | nil => exact start
  | cons label labels ih =>
    exact ih _ permitted.2 (keeps _ _ start permitted.1)

/-- What a permitted step shows wherever the invariant `I` holds, every permitted run
shows at each of its steps. -/
theorem along_of_preserves (shows : ∀ state label, I state → P state label → Q state label)
    (state : State) (labels : List Label) (permitted : machine.Along P state labels)
    (start : I state) :
    machine.Along Q state labels := by
  induction labels generalizing state with
  | nil => trivial
  | cons label labels ih =>
    exact ⟨shows _ _ start permitted.1, ih _ permitted.2 (keeps _ _ start permitted.1)⟩

omit keeps in
theorem run_invariant (keeps : ∀ state label, I state → I (machine.next state label))
    (state : State) (labels : List Label) (start : I state) : I (machine.run state labels) :=
  machine.run_preserves (P := fun _ _ => True) (fun state label holds _ => keeps state label holds)
    state labels (machine.along_of_forall (fun _ _ => trivial) _ _) start

/-- When a permitted step keeps the invariant `I`, and from `I` a step is permitted
exactly if it leads where `A` holds, a run is permitted exactly if `A` holds all
along it. -/
theorem along_iff_everywhere {A : State → Prop} (holds : ∀ state, I state → A state)
    (exact : ∀ state label, I state → ¬ P state label → ¬ A (machine.next state label))
    (state : State) (labels : List Label) (start : I state) :
    machine.Along P state labels ↔
      ∀ earlier later, labels = earlier ++ later → A (machine.run state earlier) := by
  constructor
  · rintro permitted earlier later rfl
    exact holds _ (machine.run_preserves keeps state earlier
      (machine.along_append.mp permitted).1 start)
  · intro always
    induction labels generalizing state with
    | nil => trivial
    | cons label labels ih =>
      have permitted : P state label := by
        by_contra refused
        exact exact state label start refused (always [label] labels rfl)
      refine ⟨permitted, ih _ (keeps _ _ start permitted) ?_⟩
      rintro earlier later rfl
      exact always (label :: earlier) later rfl

omit keeps

/-- What holds after a run and did not before it came about at some step. -/
theorem exists_origin {M : State → Prop} {Q : State → State → Prop}
    (arises : ∀ state label, M (machine.next state label) → M state ∨
      Q state (machine.next state label))
    (state : State) (labels : List Label) (absent : ¬ M state)
    (holds : M (machine.run state labels)) :
    ∃ earlier label later, labels = earlier ++ label :: later ∧
      Q (machine.run state earlier) (machine.run state (earlier ++ [label])) := by
  induction labels generalizing state with
  | nil => exact absurd holds absent
  | cons label labels ih =>
    by_cases already : M (machine.next state label)
    · rcases arises state label already with before | arose
      · exact absurd before absent
      · exact ⟨[], label, labels, rfl, arose⟩
    · obtain ⟨earlier, step, later, rfl, arose⟩ := ih _ already holds
      exact ⟨label :: earlier, step, later, rfl, arose⟩

variable {label : Label}

/-- What each step establishes of its label and output, and later steps keep, holds
of all of them in the end. -/
theorem outputs_persist {R : Label → Output → State → Prop}
    (establishes : ∀ state label, R label (machine.step state label).1 (machine.next state label))
    (keeps : ∀ label output state other, R label output state → R label output (machine.next state
      other)) (state : State) (labels : List Label) {output : Output}
    (paired : (label, output) ∈ labels.zip (machine.outputs state labels)) :
    R label output (machine.run state labels) := by
  induction labels generalizing state with
  | nil => cases paired
  | cons first labels ih =>
    rcases mem_cons.mp paired with same | later
    · cases same
      exact machine.run_invariant (keeps _ _) _ labels (establishes _ _)
    · exact ih _ later

theorem exists_output (state : State) {labels : List Label} (taken : label ∈ labels) :
    ∃ output ∈ machine.outputs state labels,
      (label, output) ∈ labels.zip (machine.outputs state labels) := by
  induction labels generalizing state with
  | nil => cases taken
  | cons first labels ih =>
    rcases mem_cons.mp taken with rfl | later
    · exact ⟨_, mem_cons_self, mem_cons_self⟩
    · obtain ⟨output, shown, paired⟩ := ih (machine.next state first) later
      exact ⟨output, mem_cons_of_mem _ shown, mem_cons_of_mem _ paired⟩

/-- An observer whose view after each step depends only on the view before it
sees the same run from states that look the same. -/
theorem run_view {Shown : Type} (view : State → View) (observe : Output → Shown)
    (determined : ∀ first second label, view first = view second →
      observe (machine.step first label).1 = observe (machine.step second label).1 ∧
        view (machine.next first label) = view (machine.next second label))
    (first second : State) (labels : List Label) (same : view first = view second) :
    (machine.outputs first labels).map observe = (machine.outputs second labels).map observe ∧
      view (machine.run first labels) = view (machine.run second labels) := by
  induction labels generalizing first second with
  | nil => exact ⟨rfl, same⟩
  | cons label labels ih =>
    obtain ⟨shown, after⟩ := determined first second label same
    obtain ⟨rest, final⟩ := ih _ _ after
    exact ⟨congrArg₂ cons shown rest, final⟩

end Machine

end Foundation
