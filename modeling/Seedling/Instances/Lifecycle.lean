import Seedling.Foundation.Newest
import Seedling.Instances.Registry

/-!
# Lifecycle states from observations

The history of an instance is the list of its observations, read in the order of their
timestamps and, within a timestamp, of their insertion.  The lifecycle state of the
instance is derived from it by reading the observations one after another.

An ended run starts over with any observation of a container, also one that tells of no new
run; `finished_stays_finished_iff` says which do not reopen it.

`Observations.world` is what the instance registry makes of the histories when it keeps
or sets aside the members of a group.
-/

namespace Seedling

namespace LifecycleState

/-- The transitions of the lifecycle: forward step by step, skips within the active
portion, and from any state but the last to `unscheduled`. -/
def canTransitionTo : LifecycleState → LifecycleState → Bool
  | .pending, .scheduled | .scheduled, .running | .running, .ready
  | .ready, .terminating | .terminating, .terminated | .terminated, .unscheduled => true
  | .pending, .running | .pending, .ready | .pending, .terminated
  | .scheduled, .ready | .scheduled, .terminated
  | .running, .terminating | .running, .terminated | .ready, .terminated => true
  | .pending, .unscheduled | .scheduled, .unscheduled
  | .running, .unscheduled | .ready, .unscheduled
  | .terminating, .unscheduled => true
  | _, _ => false

def isOpen : LifecycleState → Bool
  | .pending | .scheduled | .running | .ready => true
  | _ => false

def isFinished : LifecycleState → Bool
  | .terminated | .unscheduled => true
  | _ => false

end LifecycleState

namespace Instances

open Foundation

/-! ## Observations -/

/-- What an observation says.  A text that the runtime does not know is kept as it is. -/
inductive ObsKind where
  | containerCreated
  | containerRunning
  | containerExited
  | containerRemoved
  | healthCheckPass
  | healthCheckFail
  | unitStartLimitHit
  | volumeBackendMismatch
  | imagePullStarted
  | stopSent
  | unitFailed
  | volumeCreated
  | volumeReady
  | volumeRemoved
  | volumeCleanedUp
  | networkCreated
  | backendHealthy
  | networkRemoved
  | networkCleanedUp
  | ingressConfigured
  | ingressReady
  | ingressRemoved
  | ingressCleanedUp
  | other (text : String)
deriving DecidableEq

/-- The kinds of observation that an instance is gone. -/
def unscheduledObsKinds : List ObsKind :=
  [.containerRemoved, .networkCleanedUp, .ingressCleanedUp, .volumeCleanedUp]

structure WorldObservation where
  recordedAt : Int
  resource : InstanceId
  obsKind : ObsKind
deriving DecidableEq

def WorldObservation.isTerminal (observation : WorldObservation) : Bool :=
  observation.obsKind ∈ unscheduledObsKinds

/-- The table of observations, in the order of insertion. -/
abbrev Observations := List WorldObservation

namespace Observations

def about (observations : Observations) (id : InstanceId) : List WorldObservation :=
  observations.filter (·.resource = id)

/-- The history of an instance, by timestamp and then by insertion. -/
def queryObservations (observations : Observations) (id : InstanceId) : List WorldObservation :=
  sortBy WorldObservation.recordedAt (observations.about id)

end Observations

/-! ## Derivation -/

abbrev Derived := LifecycleState × Option Int

/-- A cycle that has ended starts over with the next observation. -/
def recycle (current : Derived) : Derived :=
  if current.1 = .terminated || current.1 = .unscheduled then (.pending, none) else current

/-- Go on to a state that is not reached yet, if there is such a transition. -/
def advance (current : Derived) (next : LifecycleState) (recordedAt : Int) : Derived :=
  if current.1.hasReached next then current
  else if current.1.canTransitionTo next then (next, some recordedAt)
  else current

def driveObservation (obsToState : ObsKind → Option LifecycleState) (current : Derived)
    (observation : WorldObservation) : Derived :=
  match obsToState observation.obsKind with
  | none => current
  | some next => advance (recycle current) next observation.recordedAt

variable (observations : List WorldObservation)

def driveObservations (obsToState : ObsKind → Option LifecycleState) : Derived :=
  observations.foldl (driveObservation obsToState) (.pending, none)

def containerState : ObsKind → Option LifecycleState
  | .containerCreated | .imagePullStarted => some .scheduled
  | .containerRunning => some .running
  | .healthCheckPass => some .ready
  | .stopSent => some .terminating
  | .containerExited => some .terminated
  | .containerRemoved => some .unscheduled
  | _ => none

/-- Read one observation of a container.  Any observation starts an ended cycle over,
and a failing health check takes a ready container back to running. -/
def observeContainer (current : Derived) (observation : WorldObservation) : Derived :=
  let current := recycle current
  if observation.obsKind = .healthCheckFail then
    if current.1 = .ready then (.running, some observation.recordedAt) else current
  else
    match containerState observation.obsKind with
    | none => current
    | some next => advance current next observation.recordedAt

def deriveContainerLifecycle : Derived :=
  observations.foldl observeContainer (.pending, none)

/-- What is observed of a container once a run has begun, and not otherwise. -/
def ObsKind.startsRun : ObsKind → Bool
  | .containerCreated | .imagePullStarted | .containerRunning | .healthCheckPass => true
  | _ => false

theorem isOpen_observeContainer {current : Derived} {observation : WorldObservation}
    (finished : current.1.isFinished) (noStart : observation.obsKind.startsRun = false) :
    (observeContainer current observation).1.isOpen = false ↔
      observation.obsKind = .containerExited ∨ observation.obsKind = .containerRemoved := by
  have recycled : recycle current = (.pending, none) := by
    rw [recycle, if_pos]
    revert finished
    cases current.1 <;> decide
  obtain ⟨recordedAt, resource, kind⟩ := observation
  rw [observeContainer, recycled]
  cases kind <;> simp [containerState, advance, LifecycleState.hasReached,
      LifecycleState.ordinal, LifecycleState.canTransitionTo, LifecycleState.isOpen] at noStart ⊢

/-- **A finished container stays finished, whatever is observed but a new run, exactly if
that is an exit or a removal.** -/
theorem finished_stays_finished_iff (history : List WorldObservation)
    (observation : WorldObservation) (noStart : observation.obsKind.startsRun = false) :
    ((deriveContainerLifecycle history).1.isFinished →
        (deriveContainerLifecycle (history ++ [observation])).1.isOpen = false) ↔
      ((deriveContainerLifecycle history).1.isFinished →
        observation.obsKind = .containerExited ∨ observation.obsKind = .containerRemoved) := by
  rw [deriveContainerLifecycle, deriveContainerLifecycle, List.foldl_append]
  exact forall_congr' fun finished => isOpen_observeContainer finished noStart

theorem removal_stays_finished : (deriveContainerLifecycle
      ([⟨1, 0#128, .containerExited⟩] ++ [⟨2, 0#128, .containerRemoved⟩])).1.isOpen = false :=
  (finished_stays_finished_iff [⟨1, 0#128, .containerExited⟩] ⟨2, 0#128, .containerRemoved⟩
    rfl).mpr (fun _ => .inr rfl) rfl

/-- **A failed unit reopens a container that has exited.** -/
theorem unit_failure_reopens :
    (deriveContainerLifecycle [⟨1, 0#128, .containerExited⟩]).1 = .terminated ∧
      (deriveContainerLifecycle
        [⟨1, 0#128, .containerExited⟩, ⟨2, 0#128, .unitFailed⟩]).1 = .pending := by
  decide

def deriveServiceLifecycle : Derived :=
  driveObservations observations fun
    | .networkCreated => some .scheduled
    | .backendHealthy => some .ready
    | .stopSent => some .terminating
    | .networkRemoved => some .terminated
    | .networkCleanedUp => some .unscheduled
    | _ => none

def deriveIngressLifecycle : Derived :=
  driveObservations observations fun
    | .ingressConfigured => some .scheduled
    | .ingressReady => some .ready
    | .stopSent => some .terminating
    | .ingressRemoved => some .terminated
    | .ingressCleanedUp => some .unscheduled
    | _ => none

def deriveVolumeLifecycle : Derived :=
  driveObservations observations fun
    | .volumeCreated => some .scheduled
    | .volumeReady => some .ready
    | .stopSent => some .terminating
    | .volumeRemoved => some .terminated
    | .volumeCleanedUp => some .unscheduled
    | _ => none

def deriveLifecycleWithMs (kind : ResourceKind) (observations : List WorldObservation) : Derived :=
  match kind with
  | .deployment | .job => deriveContainerLifecycle observations
  | .service => deriveServiceLifecycle observations
  | .ingress => deriveIngressLifecycle observations
  | .volume | .externalVolume => deriveVolumeLifecycle observations
  | _ => (.pending, none)

def deriveLifecycleState (kind : ResourceKind) (observations : List WorldObservation) :
    LifecycleState :=
  (deriveLifecycleWithMs kind observations).1

/-! ## What the registry makes of a history -/

/-- The last observation says that the instance is gone. -/
def latestIsTerminal (history : List WorldObservation) : Bool :=
  history.getLast?.any WorldObservation.isTerminal

/-- The instances that are ready, and those that have been torn down. -/
def Observations.world (observations : Observations) : World where
  ready row := deriveLifecycleState row.kind (observations.queryObservations row.id) = .ready
  tornDown row :=
    let history := observations.queryObservations row.id
    deriveLifecycleState row.kind history = .unscheduled || latestIsTerminal history

end Instances

end Seedling
