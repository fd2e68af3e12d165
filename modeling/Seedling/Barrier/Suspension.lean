import Seedling.Barrier.Positional

/-!
# After a barrier hit

A pass that hits a barrier is over, but its closure may catch the error and go on.  Every
runtime call therefore rethrows a hit before it does anything, so that the pass commits what
it had (`dispatch_unmoved`).  Two ways around remain: a sub-action call does not look for a
hit, and a cancellation leaves no hit behind, so that calls that do not consult the cancel
flag themselves go through.

`caught_hit_changes_nothing` is the law for closures that take neither way;
`caught_hits_let_calls_through` shows both.
-/

namespace Seedling.Barrier

open Foundation

/-! ## What a call may not change -/

/-- What a pass commits and what it has done outside: the position it has
reached, its entries and its hooks. -/
structure Footprint where
  callIndex : Nat
  pending : List ActionLogEntry
  hooks : List Event

def PassState.footprint (state : PassState) : Footprint where
  callIndex := state.ctx.callIndex
  pending := state.ctx.pending
  hooks := state.effects.filter fun event => event.effect.isHook

/-- The state differs from `before` at most in what the log and the hooks do not
show. -/
structure Unmoved (before after : PassState) : Prop where
  footprint : after.footprint = before.footprint
  barrierHit : after.barrierHit = before.barrierHit
  pendingBarrier : after.ctx.pendingBarrier = before.ctx.pendingBarrier
  ticks : after.ticks = before.ticks
  cancelRaised : after.cancelRaised = before.cancelRaised

namespace Unmoved

theorem trans {first second third : PassState} (left : Unmoved first second)
    (right : Unmoved second third) : Unmoved first third :=
  ⟨right.footprint.trans left.footprint, right.barrierHit.trans left.barrierHit,
    right.pendingBarrier.trans left.pendingBarrier, right.ticks.trans left.ticks,
    right.cancelRaised.trans left.cancelRaised⟩

theorem hit {before after : PassState} (unmoved : Unmoved before after) (hit : before.Hit) :
    after.Hit :=
  ⟨unmoved.barrierHit.trans hit.1, by rw [unmoved.pendingBarrier]; exact hit.2⟩

theorem perform (state : PassState) {effects : List Effect}
    (rows : ∀ effect ∈ effects, effect.isHook = false) : Unmoved state (state.perform effects) := by
  refine ⟨?_, rfl, rfl, rfl, rfl⟩
  have none_hook : (effects.map fun effect => Event.mk state.calls.length effect).filter
      (fun event => event.effect.isHook) = [] := by
    simpa using rows
  simp [PassState.footprint, PassState.perform, none_hook]

end Unmoved

/-! ## Every guarded call rethrows -/

section AfterHit

variable {env : Env} {kind : Option CallKind} {targets : Option (List ResourceInstance)}
  {honours : Bool} {state after : PassState} {result : Except EvalError Unit}

theorem Prepared.unmoved (prepared : Prepared kind state after) : Unmoved state after := by
  obtain ⟨counter, row, -⟩ := prepared
  have recounted : Unmoved state (state.withCtx { state.ctx with anonCounter := counter }) :=
    ⟨rfl, rfl, rfl, rfl, rfl⟩
  exact recounted.trans (.perform _ row)

theorem Way.unmoved (way : Way env kind targets honours state result after)
    (blocked : state.Hit ∨ env.cancelled ∧ honours) : Unmoved state after := by
  cases way with
  | early | rethrown | cancelled | probed => exact ⟨rfl, rfl, rfl, rfl, rfl⟩
  | restarted idle live row => exact .perform state (by simpa using row)
  | acted live notHit uncancelled =>
    rcases blocked with hit | ⟨cancelled, honoured⟩
    · exact absurd hit notHit
    · exact absurd (cancelled.symm.trans (uncancelled honoured)) nofun

/-- **A call made after a hit leaves the pass as it is**, and so does one made
after a cancellation if it honours cancellations. -/
theorem dispatch_unmoved {op : Operation} (call : Call)
    (blocked : state.Hit ∨ env.cancelled ∧ call.honoursCancel) :
    Unmoved state (dispatch op env call state).2 := by
  obtain ⟨prepared, ready, answers⟩ := dispatch_comes op env call state
  exact ready.unmoved.trans (answers.unmoved (blocked.imp_left ready.unmoved.hit))

/-! ## What raising leaves behind -/

/-- A barrier error leaves the pass hit, and a cancellation is only raised where the flag is
looked at. -/
theorem Way.raises (way : Way env kind targets honours state result after)
    {error : EvalError} (raised : result = .error error) :
    match error with
    | .barrierHit _ => after.Hit
    | .cancelHit => env.cancelled ∧ honours
    | .message _ => True := by
  cases way with
  | early => cases raised; trivial
  | probed => cases raised
  | restarted idle live row plain =>
    have notHit := plain error raised
    cases error <;> trivial
  | rethrown hit pending =>
    cases raised
    exact ⟨hit, by rw [pending]; rfl⟩
  | cancelled honoured cancelled =>
    cases raised
    exact ⟨cancelled, honoured⟩
  | acted live notHit uncancelled acts =>
    cases acts with
    | drawn idle anchor plain =>
      have notHit := plain error raised
      cases error <;> trivial
    | _ => cases raised <;> trivial

end AfterHit

theorem enterAction_error {env : Env} {call : SubActionCall} {state : PassState}
    {error : EvalError} (failed : (enterAction env call state).1 = .error error) :
    ∃ text, error = .message text := by
  unfold enterAction at failed
  (repeat' split at failed) <;> cases failed <;> exact ⟨_, rfl⟩

/-! ## A pass that is over -/

/-- A barrier has been hit, or a cancellation raised, earlier in the pass. -/
def Pass.Over (pass : Pass) (state : PassState) : Prop :=
  state.Hit ∨ state.cancelRaised ∧ (pass.env state.ticks).cancelled

/-- After a raised cancellation the closure keeps to calls that honour it. -/
def PermittedCall (call : Call) (state : PassState) : Prop :=
  state.cancelRaised → call.honoursCancel

/-- The closure enters no sub-action once its pass is over. -/
def PermittedScope (_ : SubActionCall) (state : PassState) : Prop :=
  ¬ state.Hit ∧ state.cancelRaised = false

/-- A closure can rethrow a hit, but has no way to make one up. -/
def PermittedThrow (pass : Pass) (error : EvalError) (state : PassState) : Prop :=
  error.isHit → pass.Over state

theorem Pass.over_counted (pass : Pass) {α : Type} {before after : PassState}
    (kind : Option CallKind) (answer : Except EvalError α) (ended : pass.Over before)
    (unmoved : Unmoved before after) : pass.Over (after.counted kind answer) := by
  rcases ended with hit | ⟨raisedCancel, cancelled⟩
  · exact .inl (unmoved.hit hit)
  · refine .inr ⟨?_, ?_⟩
    · show (after.cancelRaised || raisesCancel answer)
      rw [unmoved.cancelRaised, raisedCancel, Bool.true_or]
    · show (pass.env (after.ticks + 1)).cancelled
      rw [unmoved.ticks]
      exact pass.staysCancelled _ _ (Nat.le_succ _) cancelled

theorem call_raises_over (op : Operation) (pass : Pass) (call : Call) (state : PassState)
    (error : EvalError) (answered : ((passHandler op pass).call call state).1 = .error error)
    (isHit : error.isHit) : pass.Over ((passHandler op pass).call call state).2 := by
  have raised : (dispatch op (pass.env state.ticks) call state).1 = .error error := answered
  obtain ⟨prepared, -, answers⟩ := dispatch_comes op (pass.env state.ticks) call state
  have left := answers.raises (by rw [raised]; rfl)
  show pass.Over ((dispatch op (pass.env state.ticks) call state).2.counted call.kind
    (dispatch op (pass.env state.ticks) call state).1)
  cases error with
  | barrierHit => exact .inl left
  | cancelHit =>
    refine .inr ⟨by simp [PassState.counted, raisesCancel, raised], ?_⟩
    show (pass.env ((dispatch op (pass.env state.ticks) call state).2.ticks + 1)).cancelled
    rw [(dispatch_unmoved call (.inr left)).ticks]
    exact pass.staysCancelled _ _ (Nat.le_succ _) left.1
  | message => cases isHit

theorem passHandler_freezes (op : Operation) (pass : Pass) :
    Script.Freezes (passHandler op pass) PermittedCall PermittedScope EvalError.isHit pass.Over
      PassState.footprint where
  call := by
    intro request state ended permitted
    have blocked : state.Hit ∨
        (pass.env state.ticks).cancelled ∧ request.honoursCancel :=
      ended.imp id fun ⟨raisedCancel, cancelled⟩ => ⟨cancelled, permitted raisedCancel⟩
    have unmoved : Unmoved state (dispatch op (pass.env state.ticks) request state).2 :=
      dispatch_unmoved request blocked
    exact ⟨pass.over_counted request.kind _ ended unmoved, unmoved.footprint⟩
  enter := by
    rintro request state (hit | ⟨raisedCancel, _⟩) ⟨noHit, noCancel⟩
    · exact absurd hit noHit
    · rw [raisedCancel] at noCancel
      cases noCancel
  leave := fun state ended => ⟨ended, rfl⟩
  callRaises := fun request state => call_raises_over op pass request state
  enterRaises := by
    intro request state error answered isHit
    obtain ⟨text, rfl⟩ := enterAction_error answered
    cases isHit

namespace Invocation

variable (invocation : Invocation)

/-- The closure catches hits as it likes, but afterwards it enters no sub-action
and, after a cancellation, keeps to calls that honour it. -/
def KeepsToGuarded (pass : Pass) (log : List ActionLogEntry) : Prop :=
  invocation.closure.Holds (passHandler invocation.op pass) PermittedCall PermittedScope
    (PermittedThrow pass) (PassState.initial invocation.action log)

def withoutCatch : Invocation :=
  { invocation with closure := invocation.closure.uncaught EvalError.isHit }

end Invocation

/-- **A caught hit changes nothing**: an error that ends a pass leaves the pass
over; from then on whatever the closure tries within `KeepsToGuarded` adds no
entry, moves no position and runs no hook; and so a pass commits what it would
have committed without the catch. -/
theorem caught_hit_changes_nothing (invocation : Invocation) (pass : Pass)
    (log : List ActionLogEntry) (guarded : invocation.KeepsToGuarded pass log) :
    (∀ call state error, ((passHandler invocation.op pass).call call state).1 = .error error →
      error.isHit → pass.Over ((passHandler invocation.op pass).call call state).2) ∧
    (∀ (rest : Closure) state, pass.Over state →
      rest.Holds (passHandler invocation.op pass) PermittedCall PermittedScope
        (PermittedThrow pass) state →
      (rest.run (passHandler invocation.op pass) state).2.footprint = state.footprint) ∧
    (invocation.pass pass log).2.footprint = (invocation.withoutCatch.pass pass log).2.footprint ∧
    invocation.logAfterPass pass log = invocation.withoutCatch.logAfterPass pass log := by
  have freezes := passHandler_freezes invocation.op pass
  have same : (invocation.pass pass log).2.footprint =
      (invocation.withoutCatch.pass pass log).2.footprint :=
    freezes.view_run_uncaught invocation.closure _ guarded
  refine ⟨call_raises_over invocation.op pass, fun rest state ended holds => ?_, same, ?_⟩
  · exact (freezes.run rest state holds ended).2
  · exact congrArg (fun footprint => commitLog log footprint.pending) same

def startApi : Call := .start (.resource (.deployment "api" 1 2 none))

def deployThen (first second : Call) (rest : Closure) : Invocation where
  op := ⟨"web", "op", fun _ _ => 5#128, fun _ => 6#128⟩
  action := "deploy"
  closure := .call first fun _ => .call second fun _ => rest

def apiReady : Call := .barrier ⟨0, fun _ => true⟩ (.ready none)

/-- Wait for `api`, catch the barrier, and start `api` again. -/
def startTwice : Invocation := deployThen startApi apiReady (.call startApi fun _ => .done)

/-- Starting `api` again after a caught barrier leaves the pass at the barrier. -/
theorem startTwice_keeps_to_its_barrier : startTwice.logAfterPass (scaledPass 2) [] =
      startTwice.withoutCatch.logAfterPass (scaledPass 2) [] := by
  refine (caught_hit_changes_nothing startTwice (scaledPass 2) [] ?_).2.2.2
  refine ⟨?_, ?_, ?_, trivial⟩ <;> exact fun raised => absurd raised (by decide)

/-- Wait for `api`, catch the barrier, and call the action `seed`. -/
def seedAnyway : Invocation :=
  deployThen startApi apiReady (.scope ⟨"seed", []⟩ (fun _ => .done) fun _ => .done)

/-- Stop `api`, catch the cancellation, and start it. -/
def startAnyway : Invocation :=
  deployThen (.stop (.resource (.deployment "api" 1 2 none)) none) startApi .done

def cancelledPass : Pass where
  env _ := { scaledEnv 2 with cancelled := true }
  staysCancelled _ _ _ cancelled := cancelled

/-- **Two ways past a caught hit.**  A sub-action entered after a caught barrier
is recorded in the same pass, and so is a start after a caught cancellation. -/
theorem caught_hits_let_calls_through :
    ((seedAnyway.logAfterPass (scaledPass 2) []).map ActionLogEntry.callKind =
        [.start, .subAction] ∧
      (seedAnyway.withoutCatch.logAfterPass (scaledPass 2) []).map ActionLogEntry.callKind =
        [.start]) ∧
    (startAnyway.logAfterPass cancelledPass []).map ActionLogEntry.callKind = [.start] ∧
      startAnyway.withoutCatch.logAfterPass cancelledPass [] = [] := by
  decide

end Seedling.Barrier
