import Seedling.Barrier.Pass
import Seedling.Instances.Registry

/-!
# Probing an app's handlers

To find the images an app may pull, its handler closures are run with a context that records
images instead of acting.  Every runtime call tests for the probe after the instances of its
arguments have been resolved; for a named deployment, service or ingress that is a request to
the registry of the live database, which creates what is missing.

Here the registry is part of the state.  A probe has no database for scaling decisions, so a
deployment resolves to its lower bound, and no table of actions, so a sub-action call fails.
-/

namespace Seedling.Barrier

open Foundation Instances

/-! ## The state of a probe -/

/-- What a probe runs in: the pass, and the registry it resolves instances in. -/
structure ProbeState where
  pass : PassState
  registry : Registry

/-- What stays the same during a probe: the ids that will be drawn, what has been
observed of the instances, the images of the registered definition, and how an
operation derives ids. -/
structure ProbeSite where
  tape : Nat → InstanceId
  world : World
  definedImage : ResourceKind → String → Option String
  nowSecs : Nat
  uuidV5 : String → String → InstanceId
  anonVolumeId : String → InstanceId

/-- The registry's own word for whether torn-down instances may be reused. -/
def InstanceReuse.registry : InstanceReuse → Instances.InstanceReuse
  | .live => .live
  | .any => .any

section Resolution

variable (site : ProbeSite) (op : Operation)

/-- What a call of a probe consults: the registry as it is, an oracle that knows of
nothing, and no hooks. -/
def probeEnv (registry : Registry) : Env where
  effectiveScale _ low _ := .ok (max low 1)
  ensureScaledGroup name count reuse :=
    .ok (ensureScaledGroup site.tape site.world op.app .deployment (some name) count
      reuse.registry registry).1.keep
  getOrCreateSingleton kind name :=
    (getOrCreateSingleton site.tape op.app kind (some name) registry).1.mapError fun _ =>
      "Query returned no rows"
  findAllInstances app kind name :=
    .ok (registry.table.rows.filter fun row =>
      row.app = app && row.kind = kind && row.name = some name)
  definedImage := site.definedImage
  drawId := site.tape registry.drawn
  lifecycleState _ := .pending
  certValidFor _ := false
  imagePresent _ := false
  terminationSuccess _ := none
  nowSecs := site.nowSecs
  cancelled := false
  signaler := none
  writer := none
  executor := none
  bumpRestartGen _ := .ok ()
  hasAction _ := false
  validateCallParams _ params := .ok params
  debugExtra _ := ""
  jsonError _ := none

def registryAfter (reuse : InstanceReuse) (registry : Registry) : Resource → Registry
  | .deployment name low _ _ =>
    if name = "" then registry
    else (ensureScaledGroup site.tape site.world op.app .deployment (some name)
      (max (max low 1) 1) reuse.registry registry).2
  | .service name =>
    if name = "" then registry
    else (getOrCreateSingleton site.tape op.app .service (some name) registry).2
  | .ingress name _ => (getOrCreateSingleton site.tape op.app .ingress (some name) registry).2
  | _ => registry

def probeCollection (reuse : InstanceReuse) (counter : Nat) (registry : Registry) :
    List Resource → (Except String (List Extracted) × Nat) × Registry
  | [] => ((.ok [], counter), registry)
  | resource :: rest =>
    let after := registryAfter site op reuse registry resource
    match extractResource op (probeEnv site op registry) reuse counter resource with
    | (.error text, counter) => ((.error text, counter), after)
    | (.ok found, counter) =>
      match probeCollection reuse counter after rest with
      | ((.error text, counter), registry) => ((.error text, counter), registry)
      | ((.ok more, counter), registry) => ((.ok (found ++ more), counter), registry)

/-- The instances an argument stands for, and the registry they leave. -/
def probeInstances (reuse : InstanceReuse) (handles : List Started) (counter : Nat)
    (registry : Registry) : Target → (Except String (List Extracted) × Nat) × Registry
  | .resource resource =>
    (extractResource op (probeEnv site op registry) reuse counter resource,
      registryAfter site op reuse registry resource)
  | .collection resources => probeCollection site op reuse counter registry resources
  | .started ref =>
    (extractInstances op (probeEnv site op registry) reuse handles counter (.started ref), registry)

/-! ## Calls -/

def withProbedTarget (reuse : InstanceReuse) (target : Target)
    (next : List Extracted → PassState → Outcome) (state : ProbeState) :
    Except EvalError Answer × ProbeState :=
  let pass := state.pass
  match probeInstances site op reuse pass.handles pass.ctx.anonCounter state.registry target with
  | ((.error text, counter), registry) =>
    (.error (.message text), ⟨pass.withCtx { pass.ctx with anonCounter := counter }, registry⟩)
  | ((.ok extracted, counter), registry) =>
    let answered := next extracted (pass.withCtx { pass.ctx with anonCounter := counter })
    (answered.1, ⟨answered.2, registry⟩)

/-- The registry once the target of an `rt.exec` has been resolved: a named
deployment is asked for if it is of scale one. -/
def execRegistryAfter (registry : Registry) : Target → Registry
  | .resource (.deployment name low high image) =>
    if name = "" ∨ 1 < high then registry
    else registryAfter site op .any registry (.deployment name low high image)
  | _ => registry

def probeDispatch (call : Call) (state : ProbeState) : Except EvalError Answer × ProbeState :=
  let env := probeEnv site op state.registry
  let inPass (answered : Outcome) : Except EvalError Answer × ProbeState :=
    (answered.1, { state with pass := answered.2 })
  match call with
  | .start target =>
    withProbedTarget site op .live target (fun found => doStartOrQuery env found .start) state
  | .query target =>
    withProbedTarget site op .any target (fun found => doStartOrQuery env found .query) state
  | .warmCerts target => withProbedTarget site op .any target doWarmCerts state
  | .warmImages target => withProbedTarget site op .any target (doWarmImages env) state
  | .stop target deadline =>
    withProbedTarget site op .any target
      (fun found pass =>
        match deadlineArg deadline defaultStopDeadlineSecs with
        | .error text => pass.fail text
        | .ok secs => doStop env (found.map Prod.fst) (some secs) pass)
      state
  | .signal target signal =>
    withProbedTarget site op .any target
      (fun found => doSignal env (found.map Prod.fst) signal) state
  | .write target path contents =>
    match resolveVolumeWriteTarget op env target with
    | .error text => inPass (state.pass.fail text)
    | .ok (target, inst) => inPass (doWrite op env target inst path contents state.pass)
  | .exec target argv extraEnv =>
    if argv = [] then inPass (state.pass.fail "rt.exec: argv must be non-empty")
    else
      let registry := execRegistryAfter site op state.registry target
      match resolveExecTarget op env state.pass target with
      | .error text => (.error (.message text), { state with registry })
      | .ok inst =>
        let answered := doExec env inst argv extraEnv state.pass
        (answered.1, ⟨answered.2, registry⟩)
  | .barrier ref method => inPass (doBarrier env ref method state.pass)
  | .restart resource => inPass (doRestart env resource state.pass)

/-- What answers a closure during a probe. -/
def probeHandlerCalls : Handler ProbeState Call Answer SubActionCall Params EvalError where
  call := probeDispatch site op
  enter _ state := (.error (.message "no active action call table"), state)
  leave state := state

end Resolution

/-! ## Handlers -/

structure ThreadFlags where
  barrierHitPending : Bool
  inActionClosure : Bool
  inProbe : Bool

inductive HandlerKind where
  | install
  | start
  | action
  | shell
  | paramChange

/-- What a parameter's schema says of a missing value. -/
structure ParamSchema where
  required : Bool
  defaultValue : Option String

/-- A handler the script registers, with the schema of its parameters. -/
structure HandlerDef where
  name : String
  kind : HandlerKind
  closure : List (String × String) → Closure
  schema : List (String × ParamSchema)

structure HandlerProbe where
  name : String
  kind : HandlerKind
  images : List String
  error : Option String
  skippedReason : Option String

structure ProbeRequest where
  actionParams : String → List (String × String)
  lenient : Bool

structure ProbedApp where
  name : String
  stored : List (String × String)

/-- Supplied, stored and default values of the parameters, and the required ones
that have none. -/
def resolveParams (schema : List (String × ParamSchema))
    (supplied stored : List (String × String)) : List (String × String) × List String :=
  let value (param : String × ParamSchema) : Option String :=
    ((supplied.lookup param.1).or (stored.lookup param.1)).or param.2.defaultValue
  (schema.filterMap fun param => (value param).map (param.1, ·),
    (schema.filter fun param => (value param).isNone && param.2.required).map Prod.fst)

/-- The system around a probe: the registry, the flags of the thread, the effects
carried out and the log entries recorded since the probe began. -/
structure ProbeWorld where
  registry : Registry
  flags : ThreadFlags
  effects : List Event
  pending : List ActionLogEntry

def EvalError.text : EvalError → String
  | .barrierHit _ => "barrier hit"
  | .cancelHit => "operation cancelled"
  | .message text => text

section Handlers

variable (site : ProbeSite) (app : ProbedApp) (request : ProbeRequest)

def ProbeState.initial (handler : String) (registry : Registry) : ProbeState where
  pass := { PassState.initial handler [] with
    ctx := { ReplayContext.new [] with probeImages := some [] } }
  registry := registry

def HandlerDef.params (handler : HandlerDef) : List (String × String) × List String :=
  resolveParams handler.schema (request.actionParams handler.name) app.stored

def probeOperation (operationId : String) : Operation :=
  ⟨app.name, operationId, site.uuidV5, site.anonVolumeId⟩

/-- Probe one handler.  Its operation is a new one, with an id of its own. -/
def probeHandler (operationId : String) (handler : HandlerDef) (world : ProbeWorld) :
    HandlerProbe × ProbeWorld :=
  let (resolved, missing) := handler.params app request
  if missing ≠ [] then
    let text := "requires params: " ++ String.intercalate ", " missing
    ({ name := handler.name
       kind := handler.kind
       images := []
       error := if request.lenient then none else some text
       skippedReason := if request.lenient then some text else none },
      world)
  else
    let (result, after) := (handler.closure resolved).run
      (probeHandlerCalls site (probeOperation site app operationId))
      (ProbeState.initial handler.name world.registry)
    ({ name := handler.name
       kind := handler.kind
       images := after.pass.ctx.probeImages.getD []
       error :=
        match result with
        | .ok () => none
        | .error error => some error.text
       skippedReason := none },
      -- the guards take their flags down; the barrier-hit flag was cleared before the run
      { registry := after.registry
        flags := ⟨after.pass.barrierHit, false, false⟩
        effects := world.effects ++ after.pass.effects
        pending := world.pending ++ after.pass.ctx.pending })

/-- Probe the handlers in turn, each in an operation of its own. -/
def probeHandlers (world : ProbeWorld) : List (String × HandlerDef) → List HandlerProbe × ProbeWorld
  | [] => ([], world)
  | (operationId, handler) :: rest =>
    let (probe, world) := probeHandler site app request operationId handler world
    let (probes, world) := probeHandlers world rest
    (probe :: probes, world)

structure ProbeResponse where
  perHandler : List HandlerProbe
  allImages : List String

/-- Probe an app: evaluate its script for the handlers, then run each of them. -/
def probeApp (script : Except String (List (String × HandlerDef))) (world : ProbeWorld) :
    Except String ProbeResponse × ProbeWorld :=
  match script with
  | .error text => (.error s!"script evaluation failed: {text}", world)
  | .ok handlers =>
    let (probes, world) := probeHandlers site app request world handlers
    let clean := probes.filter fun probe => probe.error.isNone && probe.skippedReason.isNone
    (.ok ⟨probes, clean.flatMap HandlerProbe.images⟩, world)

end Handlers

end Seedling.Barrier
