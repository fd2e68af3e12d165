import Seedling.Barrier.Resolve

/-!
# The runtime calls of an action closure

Each call surface of the runtime as a function on the state of a pass.  They share a shape:
resolve the arguments, return at once when probing, refuse when a barrier has been hit in
this pass (`PassState.guarded`), honour a cancellation, consume the committed entry at this
position or make the call and record it.  `rt.stop` and the barrier methods of a `Started`
may suspend the pass; a sub-action call (`enterAction`) neither refuses after a hit nor looks
at the cancel flag.

`effects`, `calls` and `cancelRaised` trace what a pass did; the runtime reads none of them.
-/

namespace Seedling.Barrier

/-! ## The state of a pass -/

/-- What a call does outside the log. -/
inductive Effect where
  | signal (container signal : String) (outcome : Except String Bool)
  | write (target : VolumeWriteTarget) (path : String) (contents : List UInt8)
      (outcome : Except String Unit)
  | exec (container : String) (argv : List String) (extraEnv : List (String × String))
      (outcome : Except String Int)
  | dynamicResource (inst : ResourceInstance)
  | imagePin (reference : String)
  | restartGen (deployment : String) (outcome : Except String Unit)

/-- An effect with the position, among the pass's position-claiming calls, of
the call it belongs to. -/
structure Event where
  position : Nat
  effect : Effect

structure PassState where
  ctx : ReplayContext
  barrierHit : Bool
  handles : List Started
  stack : List String
  ticks : Nat
  calls : List CallKind
  cancelRaised : Bool
  effects : List Event

inductive Answer where
  | unit
  | started (handle : Nat) (resources : List ResourceInstance)
  | executed (exitCode : Int) (targetDisplay : Option String)
  | terminated (success : Bool) (failed : List String)

abbrev Outcome := Except EvalError Answer × PassState

namespace PassState

variable (state : PassState)

def fail (text : String) : Outcome := (.error (.message text), state)

def withCtx (ctx : ReplayContext) : PassState := { state with ctx := ctx }

def perform (effects : List Effect) : PassState :=
  { state with
    effects := state.effects ++ effects.map fun effect => ⟨state.calls.length, effect⟩ }

/-- Rethrow the barrier this pass has already hit, if it has hit one. -/
def guarded (next : PassState → Outcome) : Outcome :=
  match state.barrierHit, state.ctx.pendingBarrier with
  | true, some condition => (.error (.barrierHit condition), state)
  | _, _ => next state

def suspend (condition : BarrierCondition) : Outcome :=
  (.error (.barrierHit condition),
    { state with
      barrierHit := true
      ctx := { state.ctx with pendingBarrier := some condition } })

def hand (started : Started) : Outcome :=
  (.ok (.started state.handles.length started.resources),
    { state with handles := state.handles ++ [started] })

end PassState

/-! ## Calls that return a `Started` -/

/-- Claim the position of a call that returns a `Started` anchored there. -/
def claimStarted (kind : CallKind) (resources : List ResourceInstance) (warm : WarmMode)
    (state : PassState) : Outcome :=
  match state.ctx.claimLogPosition kind resources with
  | (.error error, ctx) => (.error error, state.withCtx ctx)
  | (.ok index, ctx) => (state.withCtx ctx).hand ⟨resources, warm, some index⟩

def ReplayContext.probe (ctx : ReplayContext) (images : List String) : ReplayContext :=
  { ctx with probeImages := ctx.probeImages.map (· ++ images) }

variable (env : Env)

def doStartOrQuery (extracted : List Extracted) (kind : CallKind) (state : PassState) : Outcome :=
  let resources := extracted.map Prod.fst
  if state.ctx.probeMode then
    (state.withCtx (state.ctx.probe ((extractContainerImages env extracted).map Prod.snd))).hand
      ⟨resources, .none, none⟩
  else
    -- the rows of dynamic resources are written before the guard
    let state := state.perform
      ((extracted.filter fun pair => pair.2.isSome).map fun pair => .dynamicResource pair.1)
    state.guarded (claimStarted kind resources .none)

/-- An ingress with its own TLS, or one whose definition is not at hand. -/
def warmsCert (pair : Extracted) : Bool :=
  pair.1.kind = .ingress &&
    match pair.2 with
    | some (.ingress _ tls) => tls
    | _ => true

def doWarmCerts (extracted : List Extracted) (state : PassState) : Outcome :=
  let resources := (extracted.filter warmsCert).map Prod.fst
  if state.ctx.probeMode then state.hand ⟨resources, .certs, none⟩
  else state.guarded (claimStarted .warmCerts resources .certs)

def doWarmImages (extracted : List Extracted) (state : PassState) : Outcome :=
  let pairs := extractContainerImages env extracted
  let refs := dedupImageRefs pairs
  let resources := pairs.map Prod.fst
  if state.ctx.probeMode then
    (state.withCtx (state.ctx.probe refs)).hand ⟨resources, .images pairs, none⟩
  else
    -- pins are written before the guard
    let state := state.perform (refs.map .imagePin)
    state.guarded (claimStarted .warmImages resources (.images pairs))

/-! ## Signals, commands and writes -/

def pushInstance (instances : List ResourceInstance) (inst : ResourceInstance) :
    List ResourceInstance :=
  if instances.any fun other => other.id == inst.id then instances else instances ++ [inst]

/-- The instances one signal target stands for: every instance of a named
container resource the registry knows, or the target itself. -/
def signalInstances (inst : ResourceInstance) : List ResourceInstance :=
  match inst.name with
  | none => [inst]
  | some name =>
    if inst.kind = .deployment ∨ inst.kind = .job then
      match env.findAllInstances inst.app inst.kind name with
      | .ok (first :: rest) => first :: rest
      | _ => [inst]
    else [inst]

def expandSignalTargets (resources : List ResourceInstance) : List ResourceInstance :=
  (resources.flatMap (signalInstances env)).foldl pushInstance []

/-- Deliver a signal to each instance.  A failed delivery is logged only. -/
def deliver (instances : List ResourceInstance) (signal : String) : List Effect :=
  match env.signaler with
  | none => []
  | some send =>
    instances.map fun inst => .signal inst.displayName signal (send inst.displayName signal)

def doSignal (resources : List ResourceInstance) (signal : String) (state : PassState) : Outcome :=
  match canonicaliseSignalName signal with
  | none =>
    state.fail (s!"rt.signal: unknown signal \"{signal}\"; expected something like " ++
      "\"SIGHUP\" or \"HUP\"")
  | some canonical =>
    if resources = [] then
      state.fail s!"rt.signal: target resolved to no instances (signal={canonical})"
    else if state.ctx.probeMode then (.ok .unit, state)
    else
      state.guarded fun state =>
        match state.ctx.replayStep .signal (some canonical) with
        | .error mismatch => state.fail mismatch.toText
        | .ok (some _, ctx) => (.ok .unit, state.withCtx ctx)
        | .ok (none, ctx) =>
          let instances := expandSignalTargets env resources
          let state := state.perform (deliver env instances canonical)
          (.ok .unit, state.withCtx (ctx.append .signal instances [] (some (.text canonical))))

def summary (entry : ActionLogEntry) : String :=
  let barriers := if entry.barriers.isEmpty then "none" else
    ",".intercalate (entry.barriers.map fun record =>
      s!"{record.seq}:{record.requiredState.debug}/sat={record.satisfied}")
  s!"  [{entry.callIndex}] {entry.callKind.debug} resources={entry.resources.length} " ++
    s!"barrier={barriers} extra={env.debugExtra entry.extra}"

/-- Recover the exit code a committed entry records.  The position is consumed
before the entry is looked at. -/
def replayExec (target : ResourceInstance) (entry : ActionLogEntry) (state : PassState) : Outcome :=
  let state := state.withCtx state.ctx.advance
  let barriers := ", ".intercalate (entry.barriers.map BarrierRecord.debug)
  let log := "\n".intercalate (state.ctx.committed.map (summary env))
  if entry.callKind ≠ .exec then
    state.fail (s!"rt.exec: replay log entry mismatch at call_index {entry.callIndex}: " ++
      s!"expected Exec, found {entry.callKind.debug} (resources={entry.resources.length}, " ++
      s!"extra={env.debugExtra entry.extra}, barrier=[{barriers}]). Full committed log:\n{log}")
  else
    match entry.extra with
    | some (.exitCode code) =>
      (.ok (.executed code (some ((entry.resources.head?.getD target).displayName))), state)
    | _ =>
      state.fail (s!"rt.exec: replay log entry at call_index {entry.callIndex} has no " ++
        s!"parseable exit code (extra={env.debugExtra entry.extra})")

/-- Run the command and record its exit code.  A command that could not be run
leaves no entry. -/
def freshExec (target : ResourceInstance) (argv : List String) (extraEnv : List (String × String))
    (state : PassState) : Outcome :=
  match env.executor with
  | none =>
    (.ok (.executed 0 (some target.displayName)),
      state.withCtx (state.ctx.append .exec [target] [] (some (.exitCode 0))))
  | some run =>
    let outcome := run target.displayName argv extraEnv
    let state := state.perform [.exec target.displayName argv extraEnv outcome]
    match outcome with
    | .error text => state.fail s!"rt.exec: {text}"
    | .ok code =>
      (.ok (.executed code (some target.displayName)),
        state.withCtx (state.ctx.append .exec [target] [] (some (.exitCode code))))

def doExec (target : ResourceInstance) (argv : List String) (extraEnv : List (String × String))
    (state : PassState) : Outcome :=
  if argv = [] then state.fail "rt.exec: argv must be non-empty"
  else if state.ctx.probeMode then (.ok (.executed 0 (some target.displayName)), state)
  else
    state.guarded fun state =>
      if env.cancelled then (.error .cancelHit, state)
      else
        match state.ctx.committedEntry with
        | some entry => replayExec env target entry state
        | none => freshExec env target argv extraEnv state

/-- Write the file and record the path.  A write that failed leaves no entry. -/
def freshWrite (op : Operation) (env : Env) (target : VolumeWriteTarget)
    (inst : ResourceInstance) (path : String) (contents : List UInt8) (state : PassState) :
    Outcome :=
  let record (state : PassState) : Outcome :=
    (.ok .unit, state.withCtx (state.ctx.append .write [inst] [] (some (.text path))))
  match env.writer with
  | none => record state
  | some write =>
    let outcome := write op.app target path contents
    let state := state.perform [.write target path contents outcome]
    match outcome with
    | .error text => state.fail s!"rt.write: {text}"
    | .ok () => record state

def doWrite (op : Operation) (env : Env) (target : VolumeWriteTarget) (inst : ResourceInstance)
    (path : String) (contents : List UInt8) (state : PassState) : Outcome :=
  match validateVolumeWritePath path with
  | .error text => state.fail text
  | .ok () =>
    if state.ctx.probeMode then (.ok .unit, state)
    else
      state.guarded fun state =>
        if env.cancelled then (.error .cancelHit, state)
        else
          match state.ctx.replayStep .write none with
          | .error mismatch => state.fail mismatch.toText
          | .ok (some _, ctx) => (.ok .unit, state.withCtx ctx)
          | .ok (none, ctx) =>
            freshWrite op env target inst path contents (state.withCtx ctx)

/-! ## Stopping -/

/-- `rt.stop` makes one barrier, the first of its entry. -/
def stopBarrierSeq : Nat := 0

def missedDeadline (now : Nat) (deadline startedAt : Option Nat) : Option Nat :=
  match deadline, startedAt with
  | some deadline, some startedAt => if deadline ≤ now - startedAt then some deadline else none
  | _, _ => none

def ActionLogEntry.stopSatisfied (entry : ActionLogEntry) : Bool :=
  match entry.barrier stopBarrierSeq with
  | some record => record.requiredState = .terminated && record.satisfied
  | none => false

/-- The entry records a stop of these resources that is still waiting. -/
def ActionLogEntry.waitsToStop (resources : List ResourceInstance) (entry : ActionLogEntry) :
    Bool :=
  entry.resources = resources &&
    match entry.barrier stopBarrierSeq with
    | some record => record.requiredState = .terminated && !record.satisfied
    | none => false

/-- When the earliest waiting stop of these resources started. -/
def ReplayContext.stopStartedAt (ctx : ReplayContext) (resources : List ResourceInstance) :
    Option Nat :=
  (((ctx.committed ++ ctx.pending).find? fun entry => entry.waitsToStop resources).bind fun entry =>
    entry.barrier stopBarrierSeq).bind BarrierRecord.startedAtSecs

def allTerminated (resources : List ResourceInstance) : Bool :=
  resources.all fun inst => (env.lifecycleState inst).hasReached .terminated

/-- The record a stop leaves on its entry.  A start the committed entry at this
position holds is kept. -/
def stopRecord (ctx : ReplayContext) (resources : List ResourceInstance) (deadline : Option Nat) :
    BarrierRecord where
  seq := stopBarrierSeq
  requiredState := .terminated
  deadlineSecs := deadline
  satisfied := allTerminated env resources
  startedAtSecs :=
    ((ctx.committedEntry.bind fun entry => entry.barrier stopBarrierSeq).bind
      BarrierRecord.startedAtSecs).or (some env.nowSecs)

/-- Make the stop at the current position, first time or again: the entry is
emitted whole, with the resources of this pass. -/
def stopHere (resources : List ResourceInstance) (deadline : Option Nat) (state : PassState) :
    Outcome :=
  let missed :=
    if allTerminated env resources then none
    else missedDeadline env.nowSecs deadline (state.ctx.stopStartedAt resources)
  match missed with
  | some d => state.fail s!"Barrier deadline of {d}s exceeded waiting for Terminated (rt.stop)"
  | none =>
    let record := stopRecord env state.ctx resources deadline
    let state := state.withCtx (state.ctx.append .stop resources [record] none)
    if allTerminated env resources then (.ok .unit, state)
    else state.suspend ⟨resources, .terminated, deadline⟩

def doStop (resources : List ResourceInstance) (deadline : Option Nat) (state : PassState) :
    Outcome :=
  if state.ctx.probeMode then (.ok .unit, state)
  else
    state.guarded fun state =>
      if env.cancelled then (.error .cancelHit, state)
      else
        match state.ctx.committedEntry with
        | none => stopHere env resources deadline state
        | some entry =>
          if entry.callKind ≠ .stop then
            state.fail (ReplayMismatch.kind state.ctx.callIndex .stop entry.callKind).toText
          else if entry.stopSatisfied then (.ok .unit, state.withCtx state.ctx.advance)
          else stopHere env resources deadline state

/-! ## Barriers on a `Started` -/

/-- The group has reached the state the barrier asks for.  A warm group is ready
when its certificates are valid, or its images present. -/
def Started.reached (started : Started) (env : Env) (required : LifecycleState) : Bool :=
  match started.warm, required with
  | .certs, .ready => started.resources.all env.certValidFor
  | .images pairs, .ready => pairs.all fun pair => env.imagePresent pair.2
  | _, required => started.resources.all fun inst => (env.lifecycleState inst).hasReached required

/-- The committed entry of the barrier's call records the barrier as passed. -/
def ReplayContext.alreadySatisfied (ctx : ReplayContext) (anchor : Option Nat) (seq : Nat)
    (required : LifecycleState) : Bool :=
  let record := (anchor.bind fun i => ctx.committed.find? fun entry => entry.callIndex == i).bind
    fun entry => entry.barrier seq
  match record with
  | some record => record.requiredState = required && record.satisfied
  | none => false

/-- When the wait of the barrier started, if it is recorded as waiting. -/
def ReplayContext.waitStartedAt (ctx : ReplayContext) (anchor : Option Nat) (seq : Nat)
    (required : LifecycleState) : Option Nat :=
  let entry := anchor.bind fun i =>
    (ctx.pending ++ ctx.committed).find? fun entry => entry.callIndex == i
  ((entry.bind fun entry => entry.barrier seq).filter fun record =>
    record.requiredState = required && !record.satisfied).bind BarrierRecord.startedAtSecs

/-- Write the record under the barrier's call, if it has one. -/
def ReplayContext.recordAt (ctx : ReplayContext) (anchor : Option Nat) (record : BarrierRecord) :
    Bool × ReplayContext :=
  match anchor with
  | none => (false, ctx)
  | some i => ctx.recordAtAnchor i record

def ReplayContext.drawSeq (ctx : ReplayContext) (anchor : Option Nat) : Nat × ReplayContext :=
  match anchor with
  | none => (0, ctx)
  | some i => ctx.nextBarrierSeq i

/-- Record the barrier as waiting.  One with no entry behind it gets one. -/
def ReplayContext.recordWaiting (ctx : ReplayContext) (started : Started)
    (record : BarrierRecord) : ReplayContext :=
  match ctx.recordAt started.originIndex record with
  | (true, ctx) => ctx
  | (false, ctx) => ctx.append .start started.resources [record] none

def checkBarrier (started : Started) (required : LifecycleState) (deadline : Option Nat)
    (state : PassState) : Outcome :=
  state.guarded fun state =>
    if state.ctx.probeMode then (.ok .unit, state)
    else if env.cancelled then (.error .cancelHit, state)
    else
      let anchor := started.originIndex
      let (seq, ctx) := state.ctx.drawSeq anchor
      let state := state.withCtx ctx
      if ctx.alreadySatisfied anchor seq required then (.ok .unit, state)
      else if started.reached env required then
        (.ok .unit, state.withCtx
          (ctx.recordAt anchor ⟨seq, required, deadline, true, some env.nowSecs⟩).2)
      else
        match missedDeadline env.nowSecs deadline (ctx.waitStartedAt anchor seq required) with
        | some d =>
          state.fail s!"Barrier deadline of {d}s exceeded waiting for {required.debug}"
        | none =>
          let ctx := ctx.recordWaiting started ⟨seq, required, deadline, false, some env.nowSecs⟩
          (state.withCtx ctx).suspend ⟨started.resources, required, deadline⟩

/-- How the group terminated: an outcome that is not known counts as a failure. -/
def computeTermination (started : Started) : Answer :=
  let failed := (started.resources.filter fun inst =>
    !(env.terminationSuccess inst).getD false).map ResourceInstance.displayName
  .terminated failed.isEmpty failed

inductive BarrierMethod where
  | scheduled (deadline : Option Int)
  | running (deadline : Option Int)
  | ready (deadline : Option Int)
  | readyEventually
  | terminated (deadline : Option Int)
  | terminatedEventually

namespace BarrierMethod

def required : BarrierMethod → LifecycleState
  | .scheduled _ => .scheduled
  | .running _ => .running
  | .ready _ => .ready
  | .readyEventually => .ready
  | .terminated _ => .terminated
  | .terminatedEventually => .terminated

def deadline : BarrierMethod → Except String (Option Nat)
  | .scheduled d => (deadlineArg d defaultScheduledDeadlineSecs).map some
  | .running d => (deadlineArg d defaultRunningDeadlineSecs).map some
  | .ready d => (deadlineArg d defaultReadyDeadlineSecs).map some
  | .readyEventually => .ok none
  | .terminated d => (deadlineArg d defaultTerminatedDeadlineSecs).map some
  | .terminatedEventually => .ok none

/-- What the method returns once its barrier is passed. -/
def answer (method : BarrierMethod) (env : Env) (started : Started) (state : PassState) : Answer :=
  match method.required with
  | .terminated =>
    if state.ctx.probeMode then .terminated true [] else computeTermination env started
  | _ => .unit

end BarrierMethod

def doBarrier (ref : StartedRef) (method : BarrierMethod) (state : PassState) : Outcome :=
  match ref.lookup state.handles with
  | none => state.fail "Variable not found"
  | some started =>
    match method.deadline with
    | .error text => state.fail text
    | .ok deadline =>
      match checkBarrier env started method.required deadline state with
      | (.error error, state) => (.error error, state)
      | (.ok _, state) => (.ok (method.answer env started state), state)

end Seedling.Barrier
