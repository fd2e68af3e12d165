import Mathlib.Data.List.Basic

/-!
# Programs that change a state and may fail

An `Effectful` program works on a state and ends with a value or an error; what it
did before an error stays done.  A `Triple` says what holds of the state after it, in
one case and in the other.  There is a rule for each way of putting programs together
(`triple_bind`, `triple_recover`, `triple_forEach`); `Keeps` is the case of an invariant.
-/

namespace Foundation

open List

/-- A program on a state that ends with a value or an error. -/
abbrev Effectful (State Err α : Type) := ExceptT Err (StateM State) α

namespace Effectful

variable {State Err α β : Type}

/-- Run a program: how it ends, and the state it leaves. -/
def exec (program : Effectful State Err α) (state : State) : Except Err α × State :=
  StateT.run (ExceptT.run program) state

def look (view : State → α) : Effectful State Err α := do return view (← get)

def change (effect : State → State) : Effectful State Err Unit := modify effect

/-- Run a program, with a value to go on with if it fails. -/
def recover (value : α) (program : Effectful State Err α) : Effectful State Err α :=
  ExceptT.mk fun state =>
    match exec program state with
    | (.ok found, after) => (.ok found, after)
    | (.error _, after) => (.ok value, after)

/-- Run a program for its effects: an error of it is dropped. -/
def attempt (program : Effectful State Err Unit) : Effectful State Err Unit := recover () program

/-- Run a program for each of a list, until one fails. -/
def forEach (items : List α) (program : α → Effectful State Err Unit) : Effectful State Err Unit :=
  match items with
  | [] => pure ()
  | item :: items => do
      program item
      forEach items program

@[simp]
theorem exec_pure (value : α) (state : State) :
    exec (pure value : Effectful State Err α) state = (.ok value, state) := rfl

@[simp]
theorem exec_throw (error : Err) (state : State) :
    exec (throw error : Effectful State Err α) state = (.error error, state) := rfl

variable (view : State → α)

@[simp]
theorem exec_look (state : State) :
    exec (look view : Effectful State Err α) state = (.ok (view state), state) := rfl

@[simp]
theorem exec_change (effect : State → State) (state : State) :
    exec (change effect : Effectful State Err Unit) state = (.ok (), effect state) := rfl

variable {state : State} {value : α}

theorem exec_bind (program : Effectful State Err α) (rest : α → Effectful State Err β)
    (state : State) :
    exec (program >>= rest) state =
      match exec program state with
      | (.ok value, after) => exec (rest value) after
      | (.error error, after) => (.error error, after) := by
  simp only [exec, ExceptT.run_bind, StateT.run_bind]
  rcases StateT.run (ExceptT.run program) state with ⟨_ | _, after⟩ <;> rfl

variable {program : Effectful State Err α} {rest : α → Effectful State Err β}

/-! ## Triples -/

/-- From a state in `pre` the program ends with a value and a state in `post`, or with an
error and a state in `failed`. -/
def Triple (pre : State → Prop) (program : Effectful State Err α)
    (post : α → State → Prop) (failed : Err → State → Prop) : Prop :=
  ∀ state, pre state →
    match exec program state with
    | (.ok value, after) => post value after
    | (.error error, after) => failed error after

variable {pre : State → Prop} {post : α → State → Prop} {failed : Err → State → Prop}

theorem triple_pure (holds : ∀ state, pre state → post value state) :
    Triple pre (pure value) post failed := holds

theorem triple_look {view : State → α} (holds : ∀ state, pre state → post (view state) state) :
    Triple pre (look view) post failed := holds

theorem triple_bind {between : α → State → Prop} {post : β → State → Prop}
    (first : Triple pre program between failed)
    (second : ∀ value, Triple (between value) (rest value) post failed) :
    Triple pre (program >>= rest) post failed := by
  intro state holds
  have reached := first state holds
  rw [exec_bind]
  rcases ran : exec program state with ⟨_ | value, after⟩
  · simpa only [ran] using reached
  · rw [ran] at reached
    exact second value after reached

/-- Either way the program ends, what it leaves is as wanted. -/
theorem triple_recover (first : Triple pre program post (fun _ => post value)) :
    Triple pre (recover value program) post failed := by
  intro state holds
  have reached := first state holds
  have ran : exec (recover value program) state =
      match exec program state with
      | (.ok found, after) => (.ok found, after)
      | (.error _, after) => (.ok value, after) := rfl
  rw [ran]
  revert reached
  rcases exec program state with ⟨_ | _, after⟩ <;> exact fun reached => reached

theorem triple_attempt {program : Effectful State Err Unit} {post : Unit → State → Prop}
    (first : Triple pre program post (fun _ => post ())) :
    Triple pre (attempt program) post failed := triple_recover first

variable {weaker : State → Prop} {stronger : α → State → Prop} {worse : Err → State → Prop}

theorem triple_mono (triple : Triple weaker program stronger worse)
    (enters : ∀ state, pre state → weaker state)
    (leaves : ∀ value state, stronger value state → post value state)
    (fails : ∀ error state, worse error state → failed error state) :
    Triple pre program post failed := by
  intro state holds
  have reached := triple state (enters state holds)
  rcases ran : exec program state with ⟨_ | _, after⟩
  · rw [ran] at reached
    exact fails _ _ reached
  · rw [ran] at reached
    exact leaves _ _ reached

theorem Triple.enter (triple : Triple weaker program post failed)
    (enters : ∀ state, pre state → weaker state) : Triple pre program post failed :=
  fun state holds => triple state (enters state holds)

theorem Triple.leave (triple : Triple pre program stronger failed)
    (leaves : ∀ value state, stronger value state → post value state) :
    Triple pre program post failed :=
  triple_mono triple (fun _ holds => holds) leaves fun _ _ holds => holds

theorem Triple.fail (triple : Triple pre program post worse)
    (fails : ∀ error state, worse error state → failed error state) :
    Triple pre program post failed :=
  triple_mono triple (fun _ holds => holds) (fun _ _ holds => holds) fails

variable {items : List α}

/-- A loop whose rounds each get their own item done, and undo none of those done before,
gets all of them done. -/
theorem triple_forEach {program : α → Effectful State Err Unit} {Done : α → State → Prop}
    {I : State → Prop}
    (round : ∀ item ∈ items, ∀ kept : List α, Triple (fun state => I state ∧ ∀ other ∈ kept, Done
      other state) (program item) (fun _ state => (I state ∧ ∀ other ∈ kept, Done other state) ∧
      Done item state) failed) :
    Triple I (forEach items program) (fun _ state => I state ∧ ∀ item ∈ items, Done item state)
      failed := by
  -- the items done so far are carried through the induction
  suffices loop : ∀ (kept rest : List α), (∀ item ∈ rest, item ∈ items) →
      Triple (fun state => I state ∧ ∀ other ∈ kept, Done other state) (forEach rest program)
        (fun _ state => I state ∧ ∀ item ∈ rest ++ kept, Done item state) failed by
    exact triple_mono (loop [] items fun _ mem => mem) (fun _ holds => ⟨holds, by simp⟩)
      (fun _ _ holds => by simpa using holds) (fun _ _ holds => holds)
  intro kept rest
  induction rest generalizing kept with
  | nil =>
    intro _
    exact triple_pure fun _ holds => holds
  | cons item rest ih =>
    intro within
    apply triple_bind (round item (within item (mem_cons_self ..)) kept)
    intro _
    apply triple_mono (ih (item :: kept) fun other mem =>
      within other (mem_cons_of_mem item mem))
    · rintro state ⟨⟨holds, done⟩, itemDone⟩
      exact ⟨holds, forall_mem_cons.mpr ⟨itemDone, done⟩⟩
    · rintro _ state ⟨holds, done⟩
      refine ⟨holds, fun other mem => done other ?_⟩
      rw [cons_append, mem_cons] at mem
      rw [mem_append, mem_cons]
      rcases mem with rfl | mem
      · exact .inr (.inl rfl)
      · exact (mem_append.mp mem).imp_right .inr
    · exact fun _ _ holds => holds

theorem Triple.ends (triple : Triple pre program post fun _ _ => False) (state : State)
    (holds : pre state) :
    ∃ value, (exec program state).1 = .ok value ∧ post value (exec program state).2 := by
  have reached := triple state holds
  rcases ran : exec program state with ⟨_ | value, after⟩
  · rw [ran] at reached
    exact reached.elim
  · rw [ran] at reached
    exact ⟨value, rfl, reached⟩

/-! ## Invariants -/

/-- However the program ends it keeps the invariant, and it fails only with errors in `P`. -/
def Keeps (I : State → Prop) (P : Err → Prop) (program : Effectful State Err α) : Prop :=
  Triple I program (fun _ => I) (fun error state => I state ∧ P error)

variable {I : State → Prop} {P : Err → Prop}

theorem keeps_pure (value : α) : Keeps I P (pure value) := triple_pure fun _ holds => holds

theorem keeps_look : Keeps I P (look view) := triple_look fun _ holds => holds

theorem keeps_bind (first : Keeps I P program) (second : ∀ value, Keeps I P (rest value)) :
    Keeps I P (program >>= rest) := triple_bind first second

theorem keeps_attempt {program : Effectful State Err Unit} {Q : Err → Prop}
    (first : Keeps I Q program) : Keeps I P (attempt program) :=
  triple_attempt (first.fail fun _ _ holds => holds.1)

theorem keeps_forEach {program : α → Effectful State Err Unit}
    (each : ∀ item ∈ items, Keeps I P (program item)) : Keeps I P (forEach items program) := by
  induction items with
  | nil => exact keeps_pure ()
  | cons item items ih =>
    apply keeps_bind (each item (mem_cons_self ..))
    intro _
    apply ih
    intro other mem
    exact each other (mem_cons_of_mem item mem)

theorem Keeps.safe (keeps : Keeps I (fun _ => False) program) :
    Triple I program (fun _ => I) failed :=
  Triple.fail keeps fun _ _ impossible => impossible.2.elim

theorem Keeps.exec (keeps : Keeps I P program) (holds : I state) : I (exec program state).2 := by
  have reached := keeps state holds
  rcases ran : Effectful.exec program state with ⟨_ | _, after⟩
  · rw [ran] at reached
    exact reached.1
  · rw [ran] at reached
    exact reached

theorem Keeps.error (keeps : Keeps I P program) (holds : I state) {error : Err}
    (raised : (Effectful.exec program state).1 = .error error) : P error := by
  have reached := keeps state holds
  rcases ran : Effectful.exec program state with ⟨_ | _, after⟩
  · rw [ran] at reached raised
    cases raised
    exact reached.2
  · rw [ran] at raised
    cases raised

end Effectful

end Foundation
