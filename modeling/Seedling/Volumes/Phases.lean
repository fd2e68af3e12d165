import Seedling.Volumes.Ownership
import Seedling.Foundation.Machine

/-!
# The volume phase and the pod phase on one volume

Within a tick the volume phase and the pod phase run at the same time, and either may create
the directory of a volume.  `volumeStep` takes the next system call of the volume phase,
which observes the volume, sets aside or migrates what is in its place, creates it and
applies the declared writes one by one; `podStep` takes the next one of a pod that mounts
the volume, which creates the directory if it is not there and starts the pod's unit.  Any
call may fail, and the daemon may stop between any two.
-/

namespace Seedling.Volumes.Seeding

open Foundation Instances

/-! ## States -/

/-- A named volume kept in a directory, with the files declared for it. -/
structure Declared where
  app : String
  name : String
  writes : List (String × String)

namespace Declared

variable (volume : Declared)

def canonical : String := VolumeName.forApp volume.app volume.name

def legacy : String := legacyName volume.app volume.name

end Declared

/-- The state the reconciler wants a volume in. -/
inductive Desired where
  | ready
  | unscheduled
  | other

inductive Fact where
  | present
  | missing
  | backendMismatch
deriving DecidableEq

/-- Why a directory is set aside. -/
inductive HoldReason where
  | backendChanged
  | legacyMigration
deriving DecidableEq

/-- Where the volume phase is: the system call it makes next. -/
inductive VolumePoint where
  | observe
  | hold (reason : HoldReason)
  | recordHold (reason : HoldReason)
  | findLegacy
  | readCanonical
  | clearCanonical
  | renameLegacy
  | find
  | create
  | write (rest : List (String × String))
  | remove
  | done
deriving DecidableEq

/-- The writes a phase at that point still has to apply. -/
def VolumePoint.rest : VolumePoint → List (String × String)
  | .write rest => rest
  | _ => []

/-- The volume phase of a tick, as far as it concerns the volume. -/
structure VolumeTask where
  desired : Desired
  seen : Option Fact
  point : VolumePoint

/-- Where a pod that mounts the volume is in being started. -/
inductive PodPoint where
  | findVolume
  | createVolume
  | startUnit
  | done
deriving DecidableEq

structure PodTask where
  pod : String
  point : PodPoint

/-- What is done with the volume: a container that mounts it is started, or it is
recorded ready.  Either finds the directory as it is then. -/
inductive Use where
  | started (pod : String)
  | recordedReady
deriving DecidableEq

/-- A use of the volume, whether its directory was newly made, and the files in it. -/
structure Event where
  use : Use
  newlyMade : Bool
  files : Option Contents
deriving DecidableEq

structure State where
  volumes : Directory
  newlyMade : Bool
  task : Option VolumeTask
  pods : List PodTask
  log : List Event

namespace State

def initial (volumes : Directory) : State := ⟨volumes, false, none, [], []⟩

variable (volume : Declared) (state : State)

def files : Option Contents := state.volumes.dir volume.canonical

def present : Bool := (state.files volume).isSome

def goto (task : VolumeTask) (point : VolumePoint) : State :=
  { state with task := some { task with point := point } }

/-- Create the directory; one that is there is left as it is. -/
def create : State :=
  if state.present volume then state
  else { state with volumes := state.volumes.put volume.canonical [], newlyMade := true }

def drop : State := { state with volumes := state.volumes.drop volume.canonical }

def note (use : Use) : State :=
  { state with log := state.log ++ [⟨use, state.newlyMade, state.files volume⟩] }

def outstanding : List (String × String) :=
  match state.task with
  | some task => task.point.rest
  | none => []

end State

/-! ## The volume phase -/

/-- The operating system's answer to a call.  Asked what a directory is kept in,
it may name another storage backend than the daemon uses. -/
inductive Answer where
  | failed
  | ok
  | otherBackend
deriving DecidableEq

def observeVolume (present : Bool) (answer : Answer) : Fact :=
  if present then if answer = .otherBackend then .backendMismatch else .present else .missing

/-- What the volume phase does about it. -/
def reactTo : Desired → Fact → VolumePoint
  | .ready, .backendMismatch => .hold .backendChanged
  | .ready, .missing => .findLegacy
  | .unscheduled, .present => .remove
  | .unscheduled, .backendMismatch => .remove
  | _, _ => .done

/-- What follows once a directory has been set aside. -/
def HoldReason.next : HoldReason → VolumePoint
  | .backendChanged => .findLegacy
  | .legacyMigration => .renameLegacy

variable (volume : Declared)

/-- The next call of the volume phase, made and answered without an error. -/
def volumeCall (answer : Answer) (task : VolumeTask) (state : State) : State :=
  match task.point with
  | .observe =>
    let fact := observeVolume (state.present volume) answer
    state.goto { task with seen := some fact } (reactTo task.desired fact)
  | .hold reason =>
    if state.present volume then (state.drop volume).goto task (.recordHold reason)
    else
      match reason with
      | .backendChanged => state.goto task .findLegacy
      | .legacyMigration => state.goto task .done
  | .recordHold reason => state.goto task reason.next
  | .findLegacy =>
    if (state.volumes.dir volume.legacy).isNone ∨ volume.legacy = volume.canonical then
      state.goto task .find
    else if state.present volume then state.goto task .readCanonical
    else state.goto task .renameLegacy
  | .readCanonical =>
    match state.files volume with
    | none => state.goto task .done
    | some [] => state.goto task .clearCanonical
    | some (_ :: _) => state.goto task (.hold .legacyMigration)
  | .clearCanonical => (state.drop volume).goto task .renameLegacy
  | .renameLegacy =>
    match state.volumes.dir volume.legacy, state.files volume with
    | some moved, none | some moved, some [] =>
      { state with
        volumes := (state.volumes.drop volume.legacy).put volume.canonical moved
        newlyMade := false }.goto task .find
    -- a directory that is not empty is not replaced by a rename
    | _, _ => state.goto task .done
  | .find => state.goto task (if state.present volume then .done else .create)
  | .create => (state.create volume).goto task (.write volume.writes)
  | .write [] => state.goto task .done
  | .write (write :: rest) =>
    match state.files volume with
    | none => state.goto task .done
    | some files =>
      { state with volumes := state.volumes.put volume.canonical (files ++ [write]) }.goto task
        (.write rest)
  | .remove => (state.drop volume).goto task .done
  | .done => state

/-- The next call of the volume phase.  One that fails ends the phase for the
volume: the error is reported, and the next tick observes the volume again. -/
def volumeStep (answer : Answer) (state : State) : State :=
  match state.task with
  | none => state
  | some task =>
    if answer = .failed then state.goto task .done else volumeCall volume answer task state

/-! ## The pod phase -/

/-- The next call of a pod: find the volume's directory, create it if it is not
there, start the unit.  A failure gives up until the next tick. -/
def podStep (position : Nat) (ok : Bool) (state : State) : State :=
  match state.pods[position]? with
  | none => state
  | some task =>
    let goto (point : PodPoint) (state : State) : State :=
      { state with pods := state.pods.set position { task with point := point } }
    if ok = false then goto .done state
    else
      match task.point with
      | .findVolume =>
        goto (if state.present volume then .startUnit else .createVolume) state
      | .createVolume => goto .startUnit (state.create volume)
      | .startUnit => goto .done (state.note volume (.started task.pod))
      | .done => state

/-! ## Ticks -/

inductive Step where
  /-- a tick begins, wanting the volume in a state and starting pods that mount it -/
  | tick (desired : Option Desired) (pods : List String)
  | volume (answer : Answer)
  | pod (position : Nat) (ok : Bool)
  /-- both phases are over, and what the volume phase observed is recorded -/
  | record
  /-- the daemon stops, and starts again -/
  | stop
  | containerWrite (file : String × String)
  /-- something happens to another directory -/
  | elsewhere (path : String) (contents : Option Contents)

def record (state : State) : State :=
  if state.task.all (·.point = .done) ∧ state.pods.all (·.point = .done) then
    let noted :=
      if state.task.bind VolumeTask.seen = some .present then state.note volume .recordedReady
      else state
    { noted with task := none, pods := [] }
  else state

def step (state : State) : Step → State
  | .tick desired pods =>
    if state.task.isNone ∧ state.pods = [] then
      { state with
        task := desired.map fun desired => ⟨desired, none, .observe⟩
        pods := pods.map fun pod => ⟨pod, .findVolume⟩ }
    else state
  | .volume answer => volumeStep volume answer state
  | .pod position ok => podStep volume position ok state
  | .record => record volume state
  | .stop => { state with task := none, pods := [] }
  | .containerWrite file =>
    match state.files volume with
    | none => state
    | some files =>
      { state with volumes := state.volumes.put volume.canonical (files ++ [file]) }
  | .elsewhere path contents =>
    if path = volume.canonical then state
    else
      match contents with
      | none => { state with volumes := state.volumes.drop path }
      | some contents => { state with volumes := state.volumes.put path contents }

def machine : Machine State Step Unit where
  step state label := ((), step volume state label)

section Files

variable {volume : Declared}

theorem files_put (state : State) (contents : Contents) :
    ({ state with volumes := state.volumes.put volume.canonical contents } : State).files volume =
      some contents := by
  simp [State.files, Directory.put]

theorem files_drop (state : State) : (state.drop volume).files volume = none := by
  simp [State.files, State.drop, Directory.drop]

end Files

end Seedling.Volumes.Seeding
