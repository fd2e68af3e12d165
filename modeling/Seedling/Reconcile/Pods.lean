import Seedling.Reconcile.Snapshot

/-!
# Running pods

What a tick does to the units of one app: each wanted pod that is not running is
started, each that is to be `unscheduled` is stopped, and the rest of the app's units
are not looked at.  An app that takes no part in the tick has none of its units looked
at (`runPods_notInstalled`).
-/

namespace Seedling.Reconcile

open Apps Barrier Instances Function

def Resource.isPod : Resource → Bool
  | .deployment _ _ | .job _ _ => true
  | _ => false

def Resource.isJob : Resource → Bool
  | .job _ _ => true
  | _ => false

/-- What is observed of an instance besides whether it runs, and whether a start would
go through. -/
structure PodFacts where
  jobDone : Bool
  crashLooped : Bool
  specStale : Bool
  inhibitStop : Bool
  unitFailed : Bool
  unitActive : Bool
  starts : Bool

/-- Whether the instance runs once it has been acted on.  What is asked to stop stops. -/
def actuateOnePod (facts : PodFacts) (isRunning : Bool) (wanted : DesiredResource) : Bool :=
  if wanted.definition.isJob && wanted.desired = .ready && facts.jobDone then false
  else if facts.crashLooped && wanted.desired = .ready then isRunning
  else
    match wanted.desired with
    | .ready =>
      if !isRunning || facts.specStale then
        if facts.specStale && facts.inhibitStop then isRunning
        else if facts.unitFailed || facts.unitActive || facts.specStale then false
        else facts.starts
      else isRunning
    | .unscheduled => false
    | _ => isRunning

abbrev Running := ResourceInstance → Bool

/-- What a tick finds: whether it is held before any app is looked at, the units that
have ended on their own since the last tick, and what observing an instance gives. -/
structure TickWorld where
  held : Bool
  exits : ResourceInstance → Bool
  observe : ResourceInstance → Option PodFacts
  registry : InstanceRegistry
  effectiveScales : String → Option Nat
  stopped : ResourceId → Bool

section Tick

variable (world : TickWorld)

def actuate (running : Running) (wanted : DesiredResource) : Running :=
  match world.observe wanted.instance' with
  | none => running
  | some facts =>
    if wanted.definition.isPod then
      update running wanted.instance' (actuateOnePod facts (running wanted.instance') wanted)
    else running

def observeAndActuate (desired : DesiredState) (running : Running) : Running :=
  desired.foldl (actuate world) running

/-- The units of an app after a tick. -/
def runPods (app : AppRecord) (running : Running) : Running :=
  let left : Running := fun instance' => running instance' && !world.exits instance'
  if world.held then left
  else
    match snapshotApp world.registry
      { app with effectiveScales := world.effectiveScales, stopped := world.stopped } with
    | some (.ok snapshot) => observeAndActuate world snapshot.desired left
    | _ => left

theorem runPods_notInstalled {app : AppRecord} (phase : app.phase = .notInstalled)
    (running : Running) :
    runPods world app running = fun instance' => running instance' && !world.exits instance' := by
  simp only [runPods, phase]
  split <;> rfl

end Tick

end Seedling.Reconcile
