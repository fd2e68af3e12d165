import Mathlib.Logic.Basic

/-!
# Scripts that call into a host

A `Script` is a closure seen from the host that runs it: it makes requests one at a time,
each continuation chosen by the answer or the error, and it may open scopes whose body is
itself a script.  `Propagates` says that no continuation goes on after an error, and
`uncaught` is the script with the catches of selected errors taken out.

The host is a `Handler` over a state.  There are rules for an invariant
(`run_preserves_of_holds`), for the first error of a propagating script (`run_propagates`),
for errors that freeze the state (`view_run_uncaught`), and for the trace of a run
(`trace_invariant`).
-/

namespace Foundation

/-- A closure as its host sees it. -/
inductive Script (Call Answer Scope Arg Err : Type) where
  | done
  | throw (error : Err)
  | call (request : Call) (resume : Except Err Answer → Script Call Answer Scope Arg Err)
  | scope (name : Scope) (body : Arg → Script Call Answer Scope Arg Err)
      (resume : Except Err Unit → Script Call Answer Scope Arg Err)

/-- What answers a script: a request, the opening of a scope, and its closing. -/
structure Handler (State Call Answer Scope Arg Err : Type) where
  call : Call → State → Except Err Answer × State
  enter : Scope → State → Except Err Arg × State
  leave : State → State

namespace Script

variable {State Call Answer Scope Arg Err View : Type}

/-- Run a script to its end.  A scope is left however its body ends. -/
def run (handler : Handler State Call Answer Scope Arg Err) :
    Script Call Answer Scope Arg Err → State → Except Err Unit × State
  | .done, state => (.ok (), state)
  | .throw error, state => (.error error, state)
  | .call request resume, state =>
    run handler (resume (handler.call request state).1) (handler.call request state).2
  | .scope name body resume, state =>
    match handler.enter name state with
    | (.error error, state) => run handler (resume (.error error)) state
    | (.ok arg, state) =>
      run handler (resume (run handler (body arg) state).1)
        (handler.leave (run handler (body arg) state).2)

/-- Every request, scope and throw of the run meets its condition in the state
it is made in. -/
def Holds (handler : Handler State Call Answer Scope Arg Err) (P : Call → State → Prop)
    (Q : Scope → State → Prop) (T : Err → State → Prop) :
    Script Call Answer Scope Arg Err → State → Prop
  | .done, _ => True
  | .throw error, state => T error state
  | .call request resume, state =>
    P request state ∧ Holds handler P Q T (resume (handler.call request state).1)
      (handler.call request state).2
  | .scope name body resume, state =>
    Q name state ∧
      match handler.enter name state with
      | (.error error, state) => Holds handler P Q T (resume (.error error)) state
      | (.ok arg, state) =>
        Holds handler P Q T (body arg) state ∧
          Holds handler P Q T (resume (run handler (body arg) state).1)
            (handler.leave (run handler (body arg) state).2)

/-- No continuation goes on after an error. -/
def Propagates : Script Call Answer Scope Arg Err → Prop
  | .done => True
  | .throw _ => True
  | .call _ resume =>
    (∀ error, resume (.error error) = .throw error) ∧ ∀ answer, Propagates (resume answer)
  | .scope _ body resume =>
    (∀ arg, Propagates (body arg)) ∧ (∀ error, resume (.error error) = .throw error) ∧
      ∀ answer, Propagates (resume answer)

/-- The continuation that does not catch the errors `raised` selects. -/
def uncaughtFrom {α : Type} (raised : Err → Bool)
    (resume : Except Err α → Script Call Answer Scope Arg Err) :
    Except Err α → Script Call Answer Scope Arg Err
  | .ok answer => resume (.ok answer)
  | .error error => if raised error then .throw error else resume (.error error)

/-- The script without its catches of the errors `raised` selects. -/
def uncaught (raised : Err → Bool) :
    Script Call Answer Scope Arg Err → Script Call Answer Scope Arg Err
  | .done => .done
  | .throw error => .throw error
  | .call request resume =>
    .call request (uncaughtFrom raised fun answer => uncaught raised (resume answer))
  | .scope name body resume =>
    .scope name (fun arg => uncaught raised (body arg))
      (uncaughtFrom raised fun answer => uncaught raised (resume answer))

section Rules

variable {handler : Handler State Call Answer Scope Arg Err} {I : State → Prop}
  {P : Call → State → Prop} {Q : Scope → State → Prop} {T : Err → State → Prop}

/-- **Invariant rule under a condition.**  If every request and scope that meets
its condition keeps `I`, a run all of whose requests do keeps it. -/
theorem run_preserves_of_holds
    (call : ∀ request state, I state → P request state → I (handler.call request state).2)
    (enter : ∀ name state, I state → Q name state → I (handler.enter name state).2)
    (leave : ∀ state, I state → I (handler.leave state))
    (script : Script Call Answer Scope Arg Err) (state : State)
    (holds : script.Holds handler P Q T state) (invariant : I state) :
    I (script.run handler state).2 := by
  induction script generalizing state with
  | done | throw => exact invariant
  | call request resume ih =>
    exact ih _ _ holds.2 (call request state invariant holds.1)
  | scope name body resume bodyHypothesis resumeHypothesis =>
    rw [Holds] at holds
    obtain ⟨permitted, rest⟩ := holds
    have entered := enter name state invariant permitted
    rw [run]
    split <;> rename_i opened <;> rw [opened] at rest entered
    · exact resumeHypothesis _ _ rest entered
    · exact resumeHypothesis _ _ rest.2 (leave _ (bodyHypothesis _ _ rest.1 entered))

theorem holds_trivial (script : Script Call Answer Scope Arg Err) (state : State) :
    script.Holds handler (fun _ _ => True) (fun _ _ => True) (fun _ _ => True) state := by
  induction script generalizing state with
  | done | throw => trivial
  | call request resume ih => exact ⟨trivial, ih _ _⟩
  | scope name body resume bodyHypothesis resumeHypothesis =>
    rw [Holds]
    refine ⟨trivial, ?_⟩
    split
    · exact resumeHypothesis _ _
    · exact ⟨bodyHypothesis _ _, resumeHypothesis _ _⟩

/-- The state satisfies `I` after an answer and `S` after an error. -/
def EndsIn {α : Type} (I S : State → Prop) : Except Err α × State → Prop
  | (.ok _, after) => I after
  | (.error _, after) => S after

/-- **First-error rule.**  A propagating script keeps `I` as long as its
requests are answered, and at its first error it stops with `S`. -/
theorem run_propagates {S : State → Prop}
    (call : ∀ request state, I state → EndsIn I S (handler.call request state))
    (enter : ∀ name state, I state → EndsIn I S (handler.enter name state))
    (leaveInv : ∀ state, I state → I (handler.leave state))
    (leaveStop : ∀ state, S state → S (handler.leave state))
    (throw : ∀ state, I state → S state)
    (script : Script Call Answer Scope Arg Err) (propagates : script.Propagates)
    (state : State) (invariant : I state) : EndsIn I S (script.run handler state) := by
  induction script generalizing state with
  | done => exact invariant
  | throw => exact throw state invariant
  | call request resume ih =>
    have answered := call request state invariant
    rw [run]
    revert answered
    obtain ⟨outcome, after⟩ := handler.call request state
    cases outcome with
    | ok => exact ih _ (propagates.2 _) after
    | error error =>
      intro stopped
      rw [propagates.1 error]
      exact stopped
  | scope name body resume bodyHypothesis resumeHypothesis =>
    have opened := enter name state invariant
    rw [run]
    revert opened
    obtain ⟨outcome, entered⟩ := handler.enter name state
    cases outcome with
    | error error =>
      intro stopped
      dsimp only
      rw [propagates.2.1 error]
      exact stopped
    | ok arg =>
      intro inside
      have bodyRan := bodyHypothesis arg (propagates.1 arg) entered inside
      dsimp only
      revert bodyRan
      obtain ⟨bodyOutcome, after⟩ := (body arg).run handler entered
      cases bodyOutcome with
      | ok =>
        intro kept
        exact resumeHypothesis _ (propagates.2.2 _) _ (leaveInv _ kept)
      | error error =>
        intro stopped
        rw [propagates.2.1 error]
        exact leaveStop _ stopped

end Rules

/-! ## The requests of a run -/

/-- What a script asks of its host: a request, or the opening of a scope. -/
inductive Ask (Call Scope : Type) where
  | call (request : Call)
  | enter (name : Scope)

/-- What the run asks, in order, each time with the state it is asked in. -/
def trace (handler : Handler State Call Answer Scope Arg Err) :
    Script Call Answer Scope Arg Err → State → List (Ask Call Scope × State)
  | .done, _ => []
  | .throw _, _ => []
  | .call request resume, state =>
    (.call request, state) ::
      trace handler (resume (handler.call request state).1) (handler.call request state).2
  | .scope name body resume, state =>
    (.enter name, state) ::
      match handler.enter name state with
      | (.error error, state) => trace handler (resume (.error error)) state
      | (.ok arg, state) =>
        trace handler (body arg) state ++ trace handler (resume (run handler (body arg) state).1)
            (handler.leave (run handler (body arg) state).2)

def Ask.answered (handler : Handler State Call Answer Scope Arg Err) :
    Ask Call Scope → State → State
  | .call request, state => (handler.call request state).2
  | .enter name, state => (handler.enter name state).2

/-- **Rule for traces.**  If `J` relates what has been asked to the state reached,
and every answer and every closing of a scope keeps it, it relates the whole trace
to the state the run ends in. -/
theorem trace_invariant (handler : Handler State Call Answer Scope Arg Err)
    {J : List (Ask Call Scope × State) → State → Prop}
    (ask : ∀ asked request state, J asked state →
      J (asked ++ [(request, state)]) (request.answered handler state))
    (leave : ∀ asked state, J asked state → J asked (handler.leave state))
    (script : Script Call Answer Scope Arg Err) (state : State)
    (asked : List (Ask Call Scope × State)) (start : J asked state) :
    J (asked ++ script.trace handler state) (script.run handler state).2 := by
  induction script generalizing state asked with
  | done | throw => simpa [trace, run] using start
  | call request resume ih =>
    have rest := ih (handler.call request state).1
      (handler.call request state).2 _ (ask asked (.call request) state start)
    simpa [trace, run] using rest
  | scope name body resume bodyHypothesis resumeHypothesis =>
    have entered := ask asked (.enter name) state start
    rw [trace, run]
    revert entered
    rw [Ask.answered]
    obtain ⟨outcome, inside⟩ := handler.enter name state
    intro entered
    cases outcome with
    | error error =>
      have rest := resumeHypothesis (.error error) inside _ entered
      simpa using rest
    | ok arg =>
      have left := leave _ _ (bodyHypothesis arg inside _ entered)
      have rest := resumeHypothesis ((body arg).run handler inside).1 _ _ left
      simpa using rest

/-! ## Catching an error that has frozen the state -/

/-- A frozen state is one from which every permitted request, and every closing
of a scope, leaves `view` as it is and the state frozen; a raised error freezes. -/
structure Freezes (handler : Handler State Call Answer Scope Arg Err)
    (P : Call → State → Prop) (Q : Scope → State → Prop) (raised : Err → Bool)
    (Frozen : State → Prop) (view : State → View) : Prop where
  call : ∀ request state, Frozen state → P request state →
    Frozen (handler.call request state).2 ∧ view (handler.call request state).2 = view state
  enter : ∀ name state, Frozen state → Q name state →
    Frozen (handler.enter name state).2 ∧ view (handler.enter name state).2 = view state
  leave : ∀ state, Frozen state →
    Frozen (handler.leave state) ∧ view (handler.leave state) = view state
  callRaises : ∀ request state error, (handler.call request state).1 = .error error →
    raised error → Frozen (handler.call request state).2
  enterRaises : ∀ name state error, (handler.enter name state).1 = .error error →
    raised error → Frozen (handler.enter name state).2

section Frozen

variable {handler : Handler State Call Answer Scope Arg Err} {P : Call → State → Prop}
  {Q : Scope → State → Prop} {raised : Err → Bool} {Frozen : State → Prop} {view : State → View}
  (freezes : Freezes handler P Q raised Frozen view)
include freezes

variable (script : Script Call Answer Scope Arg Err)

theorem Freezes.run {T : Err → State → Prop} (state : State)
    (holds : script.Holds handler P Q T state) (frozen : Frozen state) :
    Frozen (script.run handler state).2 ∧ view (script.run handler state).2 = view state :=
  run_preserves_of_holds (I := fun after => Frozen after ∧ view after = view state)
    (fun request after invariant permitted =>
      let ⟨still, same⟩ := freezes.call request after invariant.1 permitted
      ⟨still, same.trans invariant.2⟩)
    (fun name after invariant permitted =>
      let ⟨still, same⟩ := freezes.enter name after invariant.1 permitted
      ⟨still, same.trans invariant.2⟩)
    (fun after invariant =>
      let ⟨still, same⟩ := freezes.leave after invariant.1
      ⟨still, same.trans invariant.2⟩)
    script state holds ⟨frozen, rfl⟩

/-- How a run and the run without the catches compare: they are the same, or
the second stopped at a raised error and the first has been frozen since. -/
def Agree (Frozen : State → Prop) (view : State → View) (raised : Err → Bool)
    (caught bare : Except Err Unit × State) : Prop :=
  (caught = bare ∧ ∀ error, bare.1 = .error error → raised error → Frozen bare.2) ∨
    (∃ error, bare.1 = .error error ∧ raised error) ∧ Frozen caught.2 ∧ Frozen bare.2 ∧
      view caught.2 = view bare.2

theorem Freezes.agree_uncaughtFrom {α : Type}
    (resume : Except Err α → Script Call Answer Scope Arg Err) (agree : ∀ answer state,
      (resume answer).Holds handler P Q (fun error state => raised error → Frozen state) state →
      Agree Frozen view raised ((resume answer).run handler state)
        (((resume answer).uncaught raised).run handler state)) (outcome : Except Err α)
    (state : State) (holds : (resume outcome).Holds handler P Q
      (fun error state => raised error → Frozen state) state)
    (frozen : ∀ error, outcome = .error error → raised error → Frozen state) :
    Agree Frozen view raised ((resume outcome).run handler state)
      ((uncaughtFrom raised (fun answer => (resume answer).uncaught raised) outcome).run
        handler state) := by
  cases outcome with
  | ok => exact agree _ _ holds
  | error error =>
    rw [uncaughtFrom]
    split
    · rename_i isRaised
      have frozenHere := frozen error rfl isRaised
      obtain ⟨still, same⟩ := freezes.run _ state holds frozenHere
      exact .inr ⟨⟨error, rfl, isRaised⟩, still, frozenHere, same⟩
    · exact agree _ _ holds

/-- **Catching changes nothing observable.**  Where a raised error freezes the
state, a run that catches it and goes on agrees with the run that does not. -/
theorem Freezes.agree (state : State)
    (holds : script.Holds handler P Q (fun error state => raised error → Frozen state) state) :
    Agree Frozen view raised (script.run handler state)
      ((script.uncaught raised).run handler state) := by
  induction script generalizing state with
  | done => exact .inl ⟨rfl, by simp [Script.uncaught, Script.run]⟩
  | throw error =>
    refine .inl ⟨rfl, ?_⟩
    rintro error' same isRaised
    obtain rfl : error = error' := by simpa [Script.uncaught, Script.run] using same
    exact holds isRaised
  | call request resume ih =>
    exact freezes.agree_uncaughtFrom resume ih _ _ holds.2
      (fun error answered => freezes.callRaises request state error answered)
  | scope name body resume bodyHypothesis resumeHypothesis =>
    rw [Script.Holds] at holds
    obtain ⟨-, rest⟩ := holds
    have enterRaises := freezes.enterRaises name state
    rw [Script.run, Script.uncaught, Script.run]
    revert rest enterRaises
    obtain ⟨outcome, entered⟩ := handler.enter name state
    intro rest enterRaises
    cases outcome with
    | error =>
      exact freezes.agree_uncaughtFrom resume resumeHypothesis _ _ rest
        (fun error' same => enterRaises error' (by simpa using same))
    | ok arg =>
      dsimp only at rest ⊢
      rcases bodyHypothesis arg entered rest.1 with ⟨same, frozen⟩ | ⟨⟨error, bare, isRaised⟩,
        caughtFrozen, bareFrozen, same⟩
      · rw [← same]
        exact freezes.agree_uncaughtFrom resume resumeHypothesis _ _ rest.2
          (fun error failed isRaised => (freezes.leave _
            (same ▸ frozen error (same ▸ failed) isRaised)).1)
      · -- the bare body stopped, so its scope's continuation rethrows
        obtain ⟨leftCaught, viewCaught⟩ := freezes.leave _ caughtFrozen
        obtain ⟨leftBare, viewBare⟩ := freezes.leave _ bareFrozen
        obtain ⟨still, unchanged⟩ := freezes.run _ _ rest.2 leftCaught
        rw [bare, uncaughtFrom, if_pos isRaised]
        refine .inr ⟨⟨error, rfl, isRaised⟩, still, leftBare, ?_⟩
        exact unchanged.trans (viewCaught.trans (same.trans viewBare.symm))

theorem Freezes.view_run_uncaught (state : State)
    (holds : script.Holds handler P Q (fun error state => raised error → Frozen state) state) :
    view (script.run handler state).2 = view ((script.uncaught raised).run handler state).2 := by
  rcases freezes.agree script state holds with ⟨same, _⟩ | ⟨_, _, _, same⟩
  · rw [same]
  · exact same

end Frozen

end Script

end Foundation
