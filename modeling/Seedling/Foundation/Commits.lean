import Mathlib.Data.List.Basic

/-!
# Sequences of commits

A state in durable storage, changed by one commit after another.  A stop leaves
what the commits before it made.  A sequence is `AllOrNothing` to an observer who
looks after a stop and sees, wherever the stop was, what there was before the
sequence or what there is after it.  One whose first commit alone can be seen is
all or nothing (`allOrNothing_cons`).
-/

namespace Foundation

open List

variable {State View : Type} (commits : List (State → State))

def perform (state : State) : State :=
  commits.foldl (fun state commit => commit state) state

/-- The state that is left when only the first `count` commits were made. -/
def stopAfter (count : Nat) (state : State) : State :=
  perform (commits.take count) state

/-- Whatever the stop, the observer sees what there was before or what there is
after. -/
def AllOrNothing (observe : State → View) (commits : List (State → State)) (state : State) : Prop :=
  ∀ count, observe (stopAfter commits count state) = observe state ∨
    observe (stopAfter commits count state) = observe (perform commits state)

@[simp]
theorem perform_nil (state : State) : perform [] state = state := rfl

variable (commit : State → State)

@[simp]
theorem perform_cons (state : State) :
    perform (commit :: commits) state = perform commits (commit state) := rfl

variable (first second : List (State → State))

theorem perform_append (state : State) :
    perform (first ++ second) state = perform second (perform first state) :=
  foldl_append

theorem stopAfter_append (count : Nat) (state : State) :
    stopAfter (first ++ second) (first.length + count) state =
      stopAfter second count (perform first state) := by
  rw [stopAfter, take_length_add_append, perform_append, stopAfter]

variable {observe : State → View} {commits : List (State → State)}

theorem observe_perform
    (unseen : ∀ commit ∈ commits, ∀ state, observe (commit state) = observe state) (state : State) :
    observe (perform commits state) = observe state := by
  induction commits generalizing state with
  | nil => rfl
  | cons commit commits ih =>
    rw [perform_cons, ih (fun other listed =>
      unseen other (mem_cons_of_mem _ listed)), unseen commit mem_cons_self]

theorem allOrNothing_nil (observe : State → View) (state : State) :
    AllOrNothing observe [] state := by
  intro count
  rw [stopAfter, take_nil]
  exact .inl rfl

theorem allOrNothing_cons
    (unseen : ∀ commit ∈ commits, ∀ state, observe (commit state) = observe state) (state : State) :
    AllOrNothing observe (commit :: commits) state := by
  intro count
  cases count with
  | zero => exact .inl rfl
  | succ =>
    right
    rw [stopAfter, take_succ_cons, perform_cons, perform_cons, observe_perform unseen,
      observe_perform fun other listed => unseen other (mem_of_mem_take listed)]

end Foundation
