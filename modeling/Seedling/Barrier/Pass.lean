import Seedling.Barrier.Runtime
import Seedling.Foundation.Script

/-!
# Passes of an operation

An action closure is a `Closure`: a script whose requests are the runtime calls
and whose scopes are sub-actions.  `passHandler` answers it; `Invocation.pass`
runs it once against a committed log, `logAfterPass` commits what it recorded,
and `logAfter` is the operation, pass after pass over the same log.
-/

namespace Seedling.Barrier

open Foundation

/-! ## Calls -/

/-- A runtime call, as the script makes it. -/
inductive Call where
  | start (target : Target)
  | query (target : Target)
  | warmCerts (target : Target)
  | warmImages (target : Target)
  | stop (target : Target) (deadline : Option Int)
  | signal (target : Target) (signal : String)
  | write (target : VolumeArg) (path : String) (contents : List UInt8)
  | exec (target : Target) (argv : List String) (extraEnv : List (String × String))
  | barrier (started : StartedRef) (method : BarrierMethod)
  | restart (resource : Resource)

/-- The kind of log entry the call claims a position for.  Barriers belong to
the entry of the call they are made on, and `rt.restart` is not recorded. -/
def Call.kind : Call → Option CallKind
  | .start _ => some .start
  | .query _ => some .query
  | .warmCerts _ => some .warmCerts
  | .warmImages _ => some .warmImages
  | .stop _ _ => some .stop
  | .signal _ _ => some .signal
  | .write _ _ _ => some .write
  | .exec _ _ _ => some .exec
  | .barrier _ _ => none
  | .restart _ => none

structure SubActionCall where
  action : String
  params : Params

section Calls

variable (op : Operation) (env : Env)

/-- Resolve a call's argument and go on with its instances. -/
def withTarget (reuse : InstanceReuse) (target : Target)
    (next : List Extracted → PassState → Outcome) (state : PassState) : Outcome :=
  match extractInstances op env reuse state.handles state.ctx.anonCounter target with
  | (.error text, counter) =>
    (state.withCtx { state.ctx with anonCounter := counter }).fail text
  | (.ok extracted, counter) =>
    next extracted (state.withCtx { state.ctx with anonCounter := counter })

/-- The one instance an `rt.exec` target has to resolve to. -/
def singleInstance (what : String) (extracted : List Extracted) : Except String ResourceInstance :=
  match extracted with
  | [] => .error s!"rt.exec: target {what} resolved to no instances"
  | [(inst, _)] => .ok inst
  | _ => .error s!"rt.exec: target {what} resolved to more than one instance"

def resolveExecTarget (state : PassState) : Target → Except String ResourceInstance
  | .started ref =>
    match ref.lookup state.handles with
    | none => .error "Variable not found"
    | some started =>
      match started.resources with
      | [inst] =>
        if inst.kind = .deployment ∨ inst.kind = .job then .ok inst
        else .error s!"rt.exec: target must be a Deployment or Job, got {inst.kind.debug}"
      | resources =>
        .error (s!"rt.exec: target Started must carry exactly one container instance, " ++
          s!"got {resources.length}")
  | .resource (.deployment name low high image) =>
    if name = "" then
      .error ("rt.exec: anonymous deployments must be passed via the Started returned by " ++
        "rt.start, not directly")
    else if 1 < high then
      .error (s!"rt.exec: deployment '{name}' has scale upper bound {high}; rt.exec requires " ++
        "scale 1 (so the target is unambiguous)")
    else
      match (extractResource op env .any 0 (.deployment name low high image)).1 with
      | .error text => .error s!"rt.exec: {text}"
      | .ok extracted => singleInstance "deployment" extracted
  | .resource (.job name image) =>
    if name = "" then
      .error ("rt.exec: anonymous jobs must be passed via the Started returned by rt.start, " ++
        "not directly")
    else
      match (extractResource op env .any 0 (.job name image)).1 with
      | .error text => .error s!"rt.exec: {text}"
      | .ok extracted => singleInstance "job" extracted
  | _ => .error "rt.exec: target must be a Started, Deployment, or Job"

/-- The write target of an `rt.write` argument, and the instance its entry
records. -/
def resolveVolumeWriteTarget : VolumeArg → Except String (VolumeWriteTarget × ResourceInstance)
  | .volume (some name) _ tmpfs =>
    .ok (.namedVolume name tmpfs, .newSingleton env.drawId op.app .volume name)
  | .volume none (some anonId) tmpfs =>
    .ok (.anonymousVolume anonId tmpfs,
      { id := op.anonVolumeId anonId
        app := op.app
        kind := .volume
        name := none
        variant := .singleton
        displayName := anonId })
  | .volume none none _ => .error "rt.write: volume has neither a name nor an anon_id"
  | .externalVolume name (some hostPath) =>
    .ok (.externalBound hostPath, .newSingleton env.drawId op.app .externalVolume name)
  | .externalVolume _ none =>
    .error ("rt.write: external volume has no operation-scoped binding; rt.write is only " ++
      "supported for operation-bound external volumes")
  | .other => .error "rt.write: target must be a Volume or ExternalVolume"

/-- Bump the restart generation of a named deployment.  Nothing is recorded, so
every pass that reaches the call bumps again. -/
def doRestart (resource : Resource) (state : PassState) : Outcome :=
  match resource with
  | .deployment name _ _ _ =>
    if name = "" then state.fail "rt.restart requires a named deployment"
    else if state.ctx.probeMode then (.ok .unit, state)
    else
      let outcome := env.bumpRestartGen name
      let state := state.perform [.restartGen name outcome]
      match outcome with
      | .error text => state.fail s!"rt.restart db error: {text}"
      | .ok () => (.ok .unit, state)
  | _ => state.fail "rt.restart expects a Deployment"

def dispatch (call : Call) (state : PassState) : Outcome :=
  match call with
  | .start target =>
    withTarget op env .live target (fun found => doStartOrQuery env found .start) state
  | .query target =>
    withTarget op env .any target (fun found => doStartOrQuery env found .query) state
  | .warmCerts target => withTarget op env .any target doWarmCerts state
  | .warmImages target => withTarget op env .any target (doWarmImages env) state
  | .stop target deadline =>
    withTarget op env .any target
      (fun found state =>
        match deadlineArg deadline defaultStopDeadlineSecs with
        | .error text => state.fail text
        | .ok secs => doStop env (found.map Prod.fst) (some secs) state)
      state
  | .signal target signal =>
    withTarget op env .any target (fun found => doSignal env (found.map Prod.fst) signal) state
  | .write target path contents =>
    match resolveVolumeWriteTarget op env target with
    | .error text => state.fail text
    | .ok (target, inst) => doWrite op env target inst path contents state
  | .exec target argv extraEnv =>
    if argv = [] then state.fail "rt.exec: argv must be non-empty"
    else
      match resolveExecTarget op env state target with
      | .error text => state.fail text
      | .ok inst => doExec env inst argv extraEnv state
  | .barrier ref method => doBarrier env ref method state
  | .restart resource => doRestart env resource state

/-! ## Sub-actions -/

def recoverRecordedParams (action : String) (entry : ActionLogEntry) : Except String Params :=
  match entry.extra with
  | none =>
    .error (s!"replay diverged at call {entry.callIndex}: the log records a sub-action call " ++
      "with no recorded action or params")
  | some (.subAction recorded params) =>
    if recorded = action then .ok params
    else .error (ReplayMismatch.extra entry.callIndex .subAction action (some recorded)).toText
  | some extra =>
    match extra.text?.bind env.jsonError with
    | some text =>
      .error (s!"replay diverged at call {entry.callIndex}: the log records a sub-action call " ++
        s!"whose payload cannot be read ({text})")
    | none => .error (ReplayMismatch.extra entry.callIndex .subAction action none).toText

def cycleError (action : String) (stack : List String) : String :=
  let chain := String.intercalate " → " stack
  s!"Action.invoke: cycle detected — {chain} → {action} would re-enter an action already on " ++
    "the call stack"

/-- Enter a sub-action: its parameters come from the committed entry at this
position, or are validated and recorded there. -/
def enterAction (call : SubActionCall) (state : PassState) : Except EvalError Params × PassState :=
  if call.action ∈ state.stack then
    (.error (.message (cycleError call.action state.stack)), state)
  else if !env.hasAction call.action then
    (.error (.message s!"Action.invoke: no such action \"{call.action}\""), state)
  else
    match state.ctx.replayStep .subAction none with
    | .error mismatch => (.error (.message mismatch.toText), state)
    | .ok (some entry, ctx) =>
      match recoverRecordedParams env call.action entry with
      | .error text => (.error (.message text), state.withCtx ctx)
      | .ok params =>
        (.ok params, { state with ctx := ctx, stack := state.stack ++ [call.action] })
    | .ok (none, ctx) =>
      match env.validateCallParams call.action call.params with
      | .error text => (.error (.message text), state)
      | .ok params =>
        (.ok params,
          { state with
            ctx := ctx.append .subAction [] [] (some (.subAction call.action params))
            stack := state.stack ++ [call.action] })

end Calls

/-! ## Passes -/

abbrev Closure := Script Call Answer SubActionCall Params EvalError

/-- The environments a pass runs in, one per call it makes.  Once the operation
is cancelled it stays cancelled. -/
structure Pass where
  env : Nat → Env
  staysCancelled : ∀ n m, n ≤ m → (env n).cancelled → (env m).cancelled

def raisesCancel {α : Type} : Except EvalError α → Bool
  | .error .cancelHit => true
  | _ => false

def PassState.counted {α : Type} (state : PassState) (kind : Option CallKind)
    (answer : Except EvalError α) : PassState :=
  { state with
    ticks := state.ticks + 1
    calls := state.calls ++ kind.toList
    cancelRaised := state.cancelRaised || raisesCancel answer }

/-- What answers a closure during a pass. -/
def passHandler (op : Operation) (pass : Pass) :
    Handler PassState Call Answer SubActionCall Params EvalError where
  call request state :=
    let answered := dispatch op (pass.env state.ticks) request state
    (answered.1, answered.2.counted request.kind answered.1)
  enter request state :=
    let answered := enterAction (pass.env state.ticks) request state
    (answered.1, answered.2.counted (some .subAction) answered.1)
  leave state := { state with stack := state.stack.dropLast }

def PassState.initial (action : String) (log : List ActionLogEntry) : PassState where
  ctx := ReplayContext.new log
  barrierHit := false
  handles := []
  stack := [action]
  ticks := 0
  calls := []
  cancelRaised := false
  effects := []

/-- What a closure is run with in every pass of its operation. -/
structure Invocation where
  op : Operation
  action : String
  closure : Closure

namespace Invocation

variable (invocation : Invocation)

def pass (pass : Pass) (log : List ActionLogEntry) : Except EvalError Unit × PassState :=
  invocation.closure.run (passHandler invocation.op pass) (PassState.initial invocation.action log)

def logAfterPass (pass : Pass) (log : List ActionLogEntry) : List ActionLogEntry :=
  commitLog log (invocation.pass pass log).2.ctx.pending

def logAfter (passes : List Pass) : List ActionLogEntry :=
  passes.foldl (fun log pass => invocation.logAfterPass pass log) []

theorem logAfter_append_singleton (passes : List Pass) (pass : Pass) :
    invocation.logAfter (passes ++ [pass]) =
      invocation.logAfterPass pass (invocation.logAfter passes) := by
  simp [logAfter]

end Invocation

end Seedling.Barrier
