import Seedling.Apps.Handlers
import Seedling.Operations.Scheduler

/-!
# The daemon

Operator requests, schedule ticks, startup and the ends of runners, over the
states of all apps, the scheduler and the runners that have been started.

A runner is the task that carries an accepted operation out.  `submit` asks for
the slot and starts a runner if the request is accepted; `scheduleOnChange` asks
for the slot on behalf of a parameter's change handler.  `runnerEnds` releases
the slot and starts a runner for the operation that gets it next.
-/

namespace Seedling.Operations

open Apps Function
open Barrier (Params)

/-! ## State -/

structure Runner where
  operationId : OperationId
  app : String
  action : String
deriving DecidableEq

structure Daemon (Bundle : Type) where
  apps : Store Bundle
  scheduler : Scheduler
  /-- The runners that have been started and have not ended. -/
  runners : List Runner
  /-- The operations a runner has been started for since the daemon started. -/
  started : List OperationId
  nextId : OperationId

/-- What the daemon runs with: the host of its apps, and the checks of action
parameters and install requirements. -/
structure DaemonHost (Bundle : Type) extends Host Bundle where
  rejectReservedKeys : Params → Except OiError Unit
  applySchema : AppDef → String → Params → Except OiError Params
  runRequirements : AppDef → Params → Except OiError Params

structure Answer where
  schedule : Option String
  operationId : Option OperationId
  generation : Option Nat

def Answer.none : Answer := ⟨.none, .none, .none⟩

namespace Daemon

variable {Bundle : Type} (host : DaemonHost Bundle) (daemon : Daemon Bundle)

def init : Daemon Bundle where
  apps := fun _ => .blank
  scheduler := .new
  runners := []
  started := []
  nextId := 0

def entry (app : String) : Option (AppEntry Bundle) := (daemon.apps app).entry

def serveApp (app : String) (request : AppRequest Bundle) : Outcome × Daemon Bundle :=
  let served := serve host.toHost app request (daemon.apps app)
  (served.1, { daemon with apps := update daemon.apps app served.2 })

def busy (app : String) : Bool := daemon.scheduler.hasOperationFor app

/-! ## Runners -/

/-- Start a runner for an operation that holds the slot.  An install shows as
soon as its runner starts.  If the app is gone there is nothing to run. -/
def spawnAcceptedOperation (op : QueuedOperation) : Daemon Bundle :=
  match daemon.entry op.app with
  | none => daemon
  | some _ =>
    let running :=
      { daemon with
        runners := daemon.runners ++ [⟨op.operationId, op.app, op.action⟩]
        started := daemon.started ++ [op.operationId] }
    if op.action = "install" then (running.serveApp host op.app (.enterPhase .installing)).2
    else running

inductive RunnerEnd where
  | completed
  | failed
  | cancelled
  | scriptDoesNotCompile
  | databaseUnavailable
  | panicked

def RunnerEnd.success : RunnerEnd → Bool
  | .completed => true
  | _ => false

/-- A runner ends: an install is settled, the slot is released, and the
operation that gets it is started. -/
def runnerEnds (operationId : OperationId) (reason : RunnerEnd) : Daemon Bundle :=
  match daemon.runners.find? (·.operationId = operationId) with
  | none => daemon
  | some runner =>
    let settled :=
      if runner.action = "install" then
        (daemon.serveApp host runner.app
          (.enterPhase (if reason.success then .installed else .notInstalled))).2
      else daemon
    let (next, scheduler) := settled.scheduler.completeCurrent
    let released :=
      { settled with
        scheduler
        runners := settled.runners.filter (·.operationId ≠ operationId) }
    match next with
    | none => released
    | some op => released.spawnAcceptedOperation host op

/-! ## Asking for the slot -/

def request (app action : String) (params : Params) (source target : Nat) (trigger : String) :
    ScheduleResult × QueuedOperation × Daemon Bundle :=
  let op : QueuedOperation :=
    { app
      action
      operationId := daemon.nextId
      params
      sourceGeneration := source
      targetGeneration := target
      trigger }
  let (result, scheduler) := daemon.scheduler.requestWithId op
  (result, op, { daemon with scheduler, nextId := daemon.nextId + 1 })

def rejection (app : String) : RejectReason → OiError
  | .sameAppOperationInProgress => operationInProgress app
  | .sameAppAlreadyQueued => ⟨.alreadyQueued, s!"already queued for app: {app}"⟩

/-- Ask for the slot and start a runner if it is free. -/
def submit (app action : String) (params : Params) (generation : Nat) (trigger : String) :
    Except OiError Answer × Daemon Bundle :=
  match daemon.request app action params generation generation trigger with
  | (.accepted, op, daemon) =>
    (.ok ⟨some "accepted", some op.operationId, none⟩, daemon.spawnAcceptedOperation host op)
  | (.queued, op, daemon) => (.ok ⟨some "queued", some op.operationId, none⟩, daemon)
  | (.rejected reason, _, daemon) => (.error (rejection app reason), daemon)

/-- Ask for the slot for a change handler.  Accepted or queued, no runner is
started here. -/
def scheduleOnChange (app name : String) (generation : Nat) :
    Except OiError String × Daemon Bundle :=
  match daemon.request app name [] (generation - 1) generation "param_change" with
  | (.accepted, _, daemon) => (.ok "accepted", daemon)
  | (.queued, _, daemon) => (.ok "accepted", daemon)
  | (.rejected reason, _, daemon) => (.error (rejection app reason), daemon)

/-! ## Requests -/

/-- The checks of an action request, and the generation it runs at. -/
def checkInvoke (app action : String) (params : Params) : Except OiError (Params × Nat) := do
  host.rejectReservedKeys params
  match daemon.entry app with
  | none => throw (appNotFound app)
  | some entry =>
    if entry.phase ≠ .installed then
      throw ⟨.notInstalled, s!"app is not installed: {app}"⟩
    if entry.scriptError.isSome then
      throw (.scriptError s!"app has a script error: {app}")
    if action ∈ entry.appDef.shells then
      throw (.notFound s!"'{action}' is a shell action; use /shells/start")
    if action = "start" then
      throw (.notFound "'start' is a lifecycle action and cannot be manually invoked")
    if action ∉ entry.appDef.actions.map ActionDef.name then
      throw (.notFound s!"action not found: {action}")
    let params ← host.applySchema entry.appDef action params
    return (params, entry.currentGeneration)

def invokeAction (app action : String) (params : Params) : Except OiError Answer × Daemon Bundle :=
  match daemon.checkInvoke host app action params with
  | .error error => (.error error, daemon)
  | .ok (params, generation) => daemon.submit host app action params generation "operator"

/-- The checks of an install request: the requirements, the generation, and
whether there is an install action to run. -/
def checkInstall (app : String) (params : Params) : Except OiError (Params × Nat × Bool) := do
  match daemon.entry app with
  | none => throw (appNotFound app)
  | some entry =>
    match entry.phase with
    | .notInstalled => pure ()
    | .installing =>
      throw ⟨.installInProgress, s!"install already in progress for app: {app}"⟩
    | .installed | .uninstalling =>
      throw ⟨.alreadyInstalled, s!"app is already installed: {app}"⟩
    if entry.scriptError.isSome then
      throw (.scriptError s!"app has a script error: {app}")
    let params ←
      if entry.appDef.install then host.runRequirements entry.appDef params
      else if params = [] then pure []
      else throw ⟨.requirementsInvalid, "app has no install params"⟩
    return (params, entry.currentGeneration, entry.appDef.install)

def invokeInstall (app : String) (params : Params) : Except OiError Answer × Daemon Bundle :=
  match daemon.checkInstall host app params with
  | .error error => (.error error, daemon)
  | .ok (_, _, false) =>
    (.ok ⟨some "accepted", none, none⟩, (daemon.serveApp host app (.enterPhase .installed)).2)
  | .ok (params, generation, true) =>
    daemon.submit host app "install" params generation "operator"

/-- Serve a request that may have changed a parameter, and schedule the change
handler if there is one to run. -/
def changeAndSchedule (app : String) (request : AppRequest Bundle) :
    Except OiError Answer × Daemon Bundle :=
  match daemon.serveApp host app request with
  | (⟨.error error, _, _⟩, daemon) => (.error error, daemon)
  | (⟨.ok ⟨generation, none⟩, _, _⟩, daemon) =>
    (.ok ⟨some "not_scheduled", none, generation⟩, daemon)
  | (⟨.ok ⟨generation, some name⟩, _, _⟩, daemon) =>
    match daemon.scheduleOnChange app name (generation.getD 0) with
    | (.error error, daemon) => (.error error, daemon)
    | (.ok schedule, daemon) => (.ok ⟨some schedule, none, generation⟩, daemon)

/-- Cancel the app's active operation; with none active, an app stuck in an
install is sent to teardown. -/
def cancelAction (app : String) : Except OiError Answer × Daemon Bundle :=
  let (outcome, scheduler) := daemon.scheduler.requestCancel app
  match outcome with
  | .cancelled _ | .alreadyCancelled _ => (.ok .none, { daemon with scheduler })
  | .noActiveOp =>
    if (daemon.entry app).any (·.phase = .installing) then
      (.ok .none, (daemon.serveApp host app (.enterPhase .uninstalling)).2)
    else (.error (.notFound s!"no active operation to cancel for app: {app}"), daemon)

/-! ## Schedules -/

structure DueSchedule where
  app : String
  action : String
  cronexpr : String

/-- Fire one due schedule: the app must be installed.  The operation is returned
if it was accepted at once. -/
def fireSchedule (now : Nat) (fired : List QueuedOperation × Daemon Bundle) (due : DueSchedule) :
    List QueuedOperation × Daemon Bundle :=
  let (operations, daemon) := fired
  match daemon.entry due.app with
  | none => (operations, daemon)
  | some entry =>
    if entry.phase ≠ .installed then (operations, daemon)
    else
      match daemon.request due.app due.action [] entry.currentGeneration
        entry.currentGeneration "schedule" with
      | (.accepted, op, daemon) =>
        (operations ++ [op],
          (daemon.serveApp host due.app (.fired now due.action due.cronexpr true)).2)
      | (.queued, _, daemon) =>
        (operations, (daemon.serveApp host due.app (.fired now due.action due.cronexpr false)).2)
      | (.rejected _, _, daemon) => (operations, daemon)

/-- A schedule tick: fire what is due, then start the accepted operations. -/
def scheduleTick (now : Nat) (due : List DueSchedule) : Daemon Bundle :=
  let (operations, daemon) := due.foldl (fireSchedule host now) ([], daemon)
  operations.foldl (fun daemon op => daemon.spawnAcceptedOperation host op) daemon

/-! ## Startup -/

/-- The operation a previous run was carrying out, as the database holds it.
`params` is what reading its parameters back gives. -/
structure Interrupted where
  app : String
  action : String
  operationId : OperationId
  sourceGeneration : Nat
  targetGeneration : Nat
  params : Except String (Option Params)
  cancelRequested : Bool

def installInterrupted : Fault :=
  ⟨"install_interrupted", "",
    "install was interrupted by a runtime restart and could not be replayed"⟩

/-- An install that cannot be replayed is undone. -/
def revertInstallAndFault (app : String) : Daemon Bundle :=
  if (daemon.entry app).any (·.phase = .installing) then
    ((daemon.serveApp host app (.transition .notInstalled)).2.serveApp host app
      (.fault installInterrupted)).2
  else daemon

/-- Take the slot for an interrupted operation under its old id, pass on a
cancellation requested before the restart, and start its runner. -/
def resume (interrupted : Interrupted) (params : Params) : Daemon Bundle :=
  let op : QueuedOperation :=
    { app := interrupted.app
      action := interrupted.action
      operationId := interrupted.operationId
      params
      sourceGeneration := interrupted.sourceGeneration
      targetGeneration := interrupted.targetGeneration
      trigger := "replay" }
  match daemon.scheduler.requestWithId op with
  | (.accepted, scheduler) =>
    let scheduler :=
      if interrupted.cancelRequested then (scheduler.requestCancel op.app).2 else scheduler
    let resumed :=
      { daemon with scheduler, nextId := max daemon.nextId (interrupted.operationId + 1) }
    resumed.spawnAcceptedOperation host op
  | (_, scheduler) => { daemon with scheduler }

def replayInterruptedOperation (interrupted : Interrupted) : Daemon Bundle :=
  match daemon.entry interrupted.app with
  | none => daemon
  | some entry =>
    let isInstall := interrupted.action = "install"
    let mayRun (params : Params) : Daemon Bundle :=
      if isInstall && !(entry.phase = .installing || entry.phase = .notInstalled) then daemon
      else if !isInstall && entry.phase ≠ .installed then daemon
      else daemon.resume host interrupted params
    match interrupted.params with
    | .ok (some params) => mayRun params
    | .ok none =>
      if isInstall then daemon.revertInstallAndFault host interrupted.app else mayRun []
    | .error _ =>
      if isInstall then daemon.revertInstallAndFault host interrupted.app else daemon

variable (interrupted : Option Interrupted)

/-- An app that a previous run left in an inconsistent phase. -/
def isStuck (hasInstances : String → Bool) (app : String) (state : AppState Bundle) : Bool :=
  !(interrupted.any (·.app = app)) &&
    state.entry.any fun entry =>
      entry.phase = .installing || (entry.phase = .notInstalled && hasInstances app)

/-- Send stuck apps to teardown. -/
def recoverStuck (hasInstances : String → Bool) : Daemon Bundle :=
  { daemon with
    apps := fun app =>
      if isStuck interrupted hasInstances app (daemon.apps app) then
        (serve host.toHost app (.enterPhase .uninstalling) (daemon.apps app)).2
      else daemon.apps app }

/-- A new process: every app is loaded from its rows, and nothing runs. -/
def loadAll : Daemon Bundle where
  apps := (storeMachine host.toHost).next daemon.apps .restart
  scheduler := .new
  runners := []
  started := []
  nextId := daemon.nextId

/-- The daemon restarts: apps are loaded, an interrupted operation is replayed,
and stuck apps are sent to teardown. -/
def restart (hasInstances : String → Bool) : Daemon Bundle :=
  match interrupted with
  | none => (daemon.loadAll host).recoverStuck host none hasInstances
  | some op =>
    ((daemon.loadAll host).replayInterruptedOperation host op).recoverStuck host (some op)
      hasInstances

end Daemon

/-! ## The machine -/

inductive DaemonRequest (Bundle : Type) where
  | invokeAction (app action : String) (params : Params)
  | invokeInstall (app : String) (params : Params)
  | cancelAction (app : String)
  | register (app : String) (bundle : Bundle)
  | setParam (app name value : String)
  | unsetParam (app name : String)
  | update (app : String) (bundle : Bundle) (param : Option (String × Option String))
  | uninstall (app : String)
  | deregister (app : String)
  | scale (app deployment : String) (scale : Nat)
  | stop (app : String) (kind : ResourceKind) (name : String)
  | unstop (app : String) (kind : ResourceKind) (name : String)
  | scheduleTick (now : Nat) (due : List Daemon.DueSchedule)
  | runnerEnds (operationId : OperationId) (reason : Daemon.RunnerEnd)
  | tornDown (app : String)
  | fault (app : String) (fault : Fault)
  | restart (interrupted : Option Daemon.Interrupted) (hasInstances : String → Bool)

namespace Daemon

variable {Bundle : Type} (host : DaemonHost Bundle) (daemon : Daemon Bundle)

def answerApp (app : String) (request : AppRequest Bundle) :
    Except OiError Answer × Daemon Bundle :=
  match daemon.serveApp host app request with
  | (outcome, daemon) => (outcome.answer.map fun reply => ⟨none, none, reply.generation⟩, daemon)

def step : DaemonRequest Bundle → Except OiError Answer × Daemon Bundle
  | .invokeAction app action params => daemon.invokeAction host app action params
  | .invokeInstall app params => daemon.invokeInstall host app params
  | .cancelAction app => daemon.cancelAction host app
  | .register app bundle => daemon.answerApp host app (.register bundle)
  | .setParam app name value =>
    daemon.changeAndSchedule host app (.setParam (daemon.busy app) name value)
  | .unsetParam app name =>
    daemon.changeAndSchedule host app (.unsetParam (daemon.busy app) name)
  | .update app bundle param =>
    daemon.changeAndSchedule host app (.update (daemon.busy app) bundle param)
  | .uninstall app => daemon.answerApp host app .uninstall
  | .deregister app => daemon.answerApp host app (.deregister (daemon.busy app))
  | .scale app deployment scale => daemon.answerApp host app (.scale deployment scale)
  | .stop app kind name => daemon.answerApp host app (.stop (daemon.busy app) kind name)
  | .unstop app kind name => daemon.answerApp host app (.unstop (daemon.busy app) kind name)
  | .scheduleTick now due => (.ok .none, daemon.scheduleTick host now due)
  | .runnerEnds operationId reason => (.ok .none, daemon.runnerEnds host operationId reason)
  | .tornDown app =>
    if (daemon.entry app).any (·.phase = .uninstalling) then
      daemon.answerApp host app (.transition .notInstalled)
    else (.ok .none, daemon)
  | .fault app fault => daemon.answerApp host app (.fault fault)
  | .restart interrupted hasInstances => (.ok .none, daemon.restart host interrupted hasInstances)

end Daemon

def daemonMachine {Bundle : Type} (host : DaemonHost Bundle) :
    Foundation.Machine (Daemon Bundle) (DaemonRequest Bundle) (Except OiError Answer) where
  step daemon request := daemon.step host request

end Seedling.Operations
