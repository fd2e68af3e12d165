import Mathlib.Data.List.Basic

/-!
# Sequences of computations that can fail

`mapM` in `Except` stops at the first failure.  When it succeeds every element has
succeeded, and the results are those of the elements; what each step of a `foldlM`
keeps, the whole keeps.
-/

namespace Foundation

open List

variable {α β ε : Type}

theorem toOption_eq_some {outcome : Except ε α} {result : α} :
    outcome.toOption = some result ↔ outcome = .ok result := by
  cases outcome <;> simp [Except.toOption]

theorem exists_of_bind_ok {check : Except ε α} {next : α → Except ε β} {b : β}
    (done : check >>= next = .ok b) : ∃ a, check = .ok a ∧ next a = .ok b := by
  cases check with
  | error => cases done
  | ok a => exact ⟨a, rfl, done⟩

variable {compute : α → Except ε β} {xs : List α} {ys : List β}

theorem mapM_cons_ok {x : α} (computed : (x :: xs).mapM compute = .ok ys) :
    ∃ y more, compute x = .ok y ∧ xs.mapM compute = .ok more ∧ ys = y :: more := by
  rw [mapM_cons] at computed
  obtain ⟨y, first, computed⟩ := exists_of_bind_ok computed
  obtain ⟨more, rest, computed⟩ := exists_of_bind_ok computed
  cases computed
  exact ⟨y, more, first, rest, rfl⟩

/-- What every successful step keeps, a successful `foldlM` keeps. -/
theorem foldlM_preserves {step : β → α → Except ε β} {I : β → Prop}
    (keeps : ∀ state x after, step state x = .ok after → I state → I after) {state after : β}
    (folded : xs.foldlM step state = .ok after) (start : I state) : I after := by
  induction xs generalizing state with
  | nil =>
    cases folded
    exact start
  | cons x xs ih =>
    obtain ⟨middle, stepped, rest⟩ := exists_of_bind_ok folded
    exact ih rest (keeps state x middle stepped start)

variable (computed : xs.mapM compute = .ok ys)
include computed

theorem exists_of_mapM_ok {x : α} (mem : x ∈ xs) : ∃ y ∈ ys, compute x = .ok y := by
  induction xs generalizing ys with
  | nil => cases mem
  | cons first xs ih =>
    obtain ⟨y, more, succeeded, rest, rfl⟩ := mapM_cons_ok computed
    rcases mem_cons.mp mem with rfl | later
    · exact ⟨y, mem_cons_self, succeeded⟩
    · obtain ⟨result, listed, computes⟩ := ih rest later
      exact ⟨result, mem_cons_of_mem y listed, computes⟩

theorem mem_of_mapM_ok {y : β} (mem : y ∈ ys) : ∃ x ∈ xs, compute x = .ok y := by
  induction xs generalizing ys with
  | nil =>
    cases computed
    cases mem
  | cons first xs ih =>
    obtain ⟨result, more, succeeded, rest, rfl⟩ := mapM_cons_ok computed
    rcases mem_cons.mp mem with rfl | later
    · exact ⟨first, mem_cons_self, succeeded⟩
    · obtain ⟨x, listed, computes⟩ := ih rest later
      exact ⟨x, mem_cons_of_mem first listed, computes⟩

end Foundation
