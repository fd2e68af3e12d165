import Seedling.Reconcile.Pods

/-!
# Installs that fail

Passes of an install's closure place instances into the desired state, ticks act on it, and
when the closure has ended the resources it made without a name are torn down and the app
becomes installed or, if the install failed or was cancelled, not installed.

A tick does not look at an app that is not installed, so what the closure has started by name
runs on: nothing is left running exactly if nothing that it started runs at the moment the
app goes back to not installed (`failed_install_strands_nothing_iff`).
-/

namespace Seedling.Reconcile

open Apps Barrier Instances Foundation

/-- How far the runner of the install has got. -/
inductive InstallStage where
  | inLoop
  | cleaning (success : Bool)
  | ended
deriving DecidableEq

structure Installation where
  app : AppRecord
  running : Running
  stage : InstallStage
  records : List ResourceInstance
  started : List ResourceInstance

inductive InstallEvent where
  | pass (entries : List ActionLogEntry) (dynamicDefs : List (ResourceInstance × Resource))
  | tick (world : TickWorld)
  /-- The closure completes, or fails or is cancelled. -/
  | closureEnds (success : Bool)
  /-- The wait for dynamic resources is over. -/
  | cleanedUp (timedOut : Bool)

/-- A definition that is only good for stopping. -/
def minimalDefinition : ResourceKind → Option Resource
  | .deployment => some (.deployment "" ⟨[], [], []⟩)
  | .job => some (.job "" ⟨[], [], []⟩)
  | _ => none

/-- What the reconciler is given to tear the recorded resources down. -/
def cleanupProgress (records : List ResourceInstance) : OperationProgress :=
  records.foldl
    (fun progress record =>
      match minimalDefinition record.kind with
      | none => progress
      | some definition =>
        { progress.stopped record with
          dynamicDefs := progress.dynamicDefs ++ [(record, definition)] })
    .new

namespace Installation

variable (installation : Installation)

def start (app : AppRecord) (running : Running) : Installation where
  app := { app with phase := .installing, activeProgress := none }
  running := running
  stage := .inLoop
  records := []
  started := []

def pass (entries : List ActionLogEntry) (dynamicDefs : List (ResourceInstance × Resource)) :
    Installation :=
  if installation.stage = .inLoop then
    { installation with
      app :=
        { installation.app with
          activeProgress := some { OperationProgress.fromLog entries with dynamicDefs } }
      records := installation.records ++ dynamicDefs.map Prod.fst
      started := installation.started ++
        (entries.filter (·.callKind = .start)).flatMap ActionLogEntry.resources }
  else installation

def tick (world : TickWorld) : Installation :=
  { installation with running := runPods world installation.app installation.running }

/-- The closure has ended; its dynamic resources are to be torn down. -/
def closureEnds (success : Bool) : Installation :=
  if installation.stage = .inLoop then
    let cleanup := cleanupProgress installation.records
    { installation with
      stage := .cleaning success
      app :=
        { installation.app with
          activeProgress :=
            if cleanup.resources = [] then installation.app.activeProgress else some cleanup } }
  else installation

/-- The wait may end: it has timed out, or nothing waited for runs. -/
def mayEnd (timedOut : Bool) : Bool :=
  timedOut || (cleanupProgress installation.records).resources.all
    fun entry => !installation.running entry.1

/-- The runner ends: the install is final, or is taken back. -/
def cleanedUp (timedOut : Bool) : Installation :=
  match installation.stage with
  | .cleaning success =>
    if installation.mayEnd timedOut then
      { installation with
        stage := .ended
        app :=
          { installation.app with
            activeProgress := none
            phase := if success then .installed else .notInstalled } }
    else installation
  | _ => installation

def step : InstallEvent → Installation
  | .pass entries dynamicDefs => installation.pass entries dynamicDefs
  | .tick world => installation.tick world
  | .closureEnds success => installation.closureEnds success
  | .cleanedUp timedOut => installation.cleanedUp timedOut

end Installation

def installMachine : Machine Installation InstallEvent Unit where
  step installation event := ((), installation.step event)

namespace Installation

/-- The app has come to rest not installed while an instance that the install started
runs. -/
def Stranded (installation : Installation) : Prop :=
  installation.stage = .ended ∧ installation.app.phase = .notInstalled ∧
    ∃ instance' ∈ installation.started, installation.running instance'

/-- When the install is taken back, nothing that it started runs. -/
def LeavesNothing (installation : Installation) : InstallEvent → Prop
  | .cleanedUp timedOut =>
    installation.stage = .cleaning false → installation.mayEnd timedOut →
      ∀ instance' ∈ installation.started, installation.running instance' = false
  | _ => True

variable {installation : Installation}

theorem stranded_of_tick {world : TickWorld} (stranded : (installation.tick world).Stranded) :
    installation.Stranded := by
  obtain ⟨ended, phase, instance', started, runs⟩ := stranded
  have spared : (installation.tick world).running instance' = _ :=
    congrFun (runPods_notInstalled world phase installation.running) instance'
  rw [spared] at runs
  exact ⟨ended, phase, instance', started, (Bool.and_eq_true_iff.mp runs).1⟩

variable (event : InstallEvent)

theorem step_not_stranded (sound : ¬ installation.Stranded)
    (leaves : installation.LeavesNothing event) : ¬ (installation.step event).Stranded := by
  cases event with
  | pass entries dynamicDefs =>
    simp only [step, pass]
    split
    · rename_i inLoop
      rintro ⟨ended, _⟩
      simp only [inLoop] at ended
      cases ended
    · exact sound
  | tick => exact fun stranded => sound (stranded_of_tick stranded)
  | closureEnds =>
    simp only [step, closureEnds]
    split
    · rintro ⟨ended, _⟩
      cases ended
    · exact sound
  | cleanedUp timedOut =>
    simp only [step, cleanedUp]
    split
    · rename_i success cleaning
      split
      · rename_i may
        rintro ⟨_, phase, instance', started, runs⟩
        cases success with
        | true => cases phase
        | false =>
          rw [show installation.running instance' = false from
            leaves cleaning may instance' started] at runs
          cases runs
      · exact sound
    · exact sound

theorem step_strands (leaves : ¬ installation.LeavesNothing event) :
    (installation.step event).Stranded := by
  cases event with
  | pass | tick | closureEnds => exact absurd trivial leaves
  | cleanedUp =>
    simp only [LeavesNothing] at leaves
    push Not at leaves
    obtain ⟨cleaning, may, instance', started, runs⟩ := leaves
    simp only [step, cleanedUp, cleaning, may]
    exact ⟨rfl, rfl, instance', started, by simpa using runs⟩

end Installation

/-- **A failed or cancelled install strands nothing exactly if nothing that it started
runs at the moment it is taken back**, whatever the closure, the ticks and the units
do. -/
theorem failed_install_strands_nothing_iff (app : AppRecord) (running : Running)
    (events : List InstallEvent) :
    installMachine.Along Installation.LeavesNothing (.start app running) events ↔
      ∀ earlier later, events = earlier ++ later →
        ¬ (installMachine.run (.start app running) earlier).Stranded :=
  installMachine.along_iff_everywhere (I := fun installation => ¬ installation.Stranded)
    (fun _ event sound leaves => Installation.step_not_stranded event sound leaves)
    (fun _ sound => sound)
    (fun _ event _ leaves sound => sound (Installation.step_strands event leaves))
    (.start app running) events nofun

def blog : AppRecord where
  name := "blog"
  phase := .notInstalled
  appDef := ⟨[.deployment "web" ⟨[], [], []⟩], by decide⟩
  activeProgress := none
  effectiveScales _ := none
  stopped _ := false

def blogInstance : ResourceInstance := .newSingleton 1#128 "blog" .deployment "web"

def quietTick : TickWorld where
  held := false
  exits _ := false
  observe _ := some ⟨false, false, false, false, false, false, true⟩
  registry := .ofTable (fun _ => 1#128) ⟨fun _ => false, fun _ => false⟩ Registry.init
  effectiveScales _ := none
  stopped _ := false

theorem failed_install_leaves_deployment :
    let left := installMachine.run (.start blog fun _ => false)
      [.pass [⟨0, .start, [blogInstance], [], none⟩] [], .tick quietTick, .closureEnds false,
        .cleanedUp false, .tick quietTick, .tick quietTick]
    left.app.phase = .notInstalled ∧ left.stage = .ended ∧ blogInstance ∈ left.started ∧
      left.running blogInstance := by
  decide

end Seedling.Reconcile
