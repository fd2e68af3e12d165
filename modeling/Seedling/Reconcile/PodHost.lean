import Seedling.Foundation.Effectful
import Seedling.Reconcile.PodHistory

/-!
# Starting and stopping a pod on its host

The unit, the container, the network and the volumes of a pod instance, and the calls by which
the actuator makes and removes them.  Every call may fail; a stop that is accepted need not
have taken effect when it returns; and the runtime refuses to remove a network or a volume
that a container uses.  What a call did stays done when a later one fails.
-/

namespace Seedling.Reconcile.PodHost

open Foundation Effectful PodHistory

/-! ## The host -/

def podNetworkName (displayName : String) : String := "seedling-" ++ displayName

def unitName (displayName : String) : String := "seedling-" ++ displayName ++ ".service"

variable {one other : String}

theorem podNetworkName_inj : podNetworkName one = podNetworkName other ↔ one = other := by
  simp [podNetworkName]

theorem unitName_inj : unitName one = unitName other ↔ one = other := by
  simp [unitName]

/-- A container, running or exited, with its network and the volumes of the container
runtime it mounts. -/
structure Container where
  name : String
  running : Bool
  network : String
  volumes : List String

def Container.ended (name : String) (container : Container) : Container :=
  if container.name = name then { container with running := false } else container

/-- What is on the host: the loaded units, the containers, networks and volumes of the
container runtime, the directories that are bind-mounted, and how many calls have been
answered. -/
structure Host where
  units : String → Option ActiveState
  containers : List Container
  networks : List String
  volumes : List String
  directories : List String
  calls : Nat

/-- A call that may fail. -/
inductive Request where
  | ensureImage
  | resolveServiceMounts
  | networkExists (network : String)
  | createNetwork (network : String)
  | removeNetwork (network : String)
  | volumeExists (volume : String)
  | createVolume (volume : String)
  | volumeMountpoint (volume : String)
  | removeVolume (volume : String)
  | createDirectory (path : String)
  | storeVolume (path : String)
  | writeFile (root file : String)
  | removeDirectory (path : String)
  | unitState (unit : String)
  | stopUnit (unit : String)
  | resetFailedUnit (unit : String)
  | startTransient (unit : String)
  | removeContainer (name : String)
deriving DecidableEq

inductive PodError where
  | failed (request : Request)
  | networkInUse (network : String)
  | volumeInUse (volume : String)
  | noSuchContainer (name : String)
deriving DecidableEq

/-- How the host answers an actuation: which of its calls fail, counted in order; the
state an instance's unit is in when its stop has been accepted, `none` if it is unloaded
by then; whether its container is still there by then; and which of two concurrent steps
of a start comes first. -/
structure Driver where
  fails : Nat → Request → Bool
  lingers : String → Option ActiveState
  outlives : String → Bool
  networkFirst : Bool

namespace Host

def empty : Host := ⟨fun _ => none, [], [], [], [], 0⟩

variable (host : Host)

def called : Host := { host with calls := host.calls + 1 }

def unitIn (unit : String) (state : Option ActiveState) : Host :=
  { host with units := Function.update host.units unit state }

def hasContainer (name : String) : Bool := host.containers.any (·.name = name)

def running (name : String) : Bool := host.containers.any fun c => c.name = name && c.running

def dropContainer (name : String) : Host :=
  { host with containers := host.containers.filter (·.name ≠ name) }

def removeContainer (name : String) : Except PodError Host :=
  if host.hasContainer name then .ok (host.dropContainer name)
  else .error (.noSuchContainer name)

def createNetwork (network : String) : Host :=
  { host with networks := network :: host.networks }

def dropNetwork (network : String) : Host :=
  { host with networks := host.networks.filter (· ≠ network) }

/-- Without force, a network with a container on it is not removed. -/
def removeNetwork (network : String) : Except PodError Host :=
  if host.containers.any (·.network = network) then .error (.networkInUse network)
  else .ok (host.dropNetwork network)

def createVolume (volume : String) : Host := { host with volumes := volume :: host.volumes }

def dropVolume (volume : String) : Host :=
  { host with volumes := host.volumes.filter (· ≠ volume) }

/-- Without force, a volume that a container mounts is not removed. -/
def removeVolume (volume : String) : Except PodError Host :=
  if host.containers.any (·.volumes.contains volume) then .error (.volumeInUse volume)
  else .ok (host.dropVolume volume)

def createDirectory (path : String) : Host :=
  { host with directories := path :: host.directories }

def dropDirectory (path : String) : Host :=
  { host with directories := host.directories.filter (· ≠ path) }

def resetFailedUnit (unit : String) : Host :=
  match host.units unit with
  | some .inactive | some .failed => host.unitIn unit none
  | _ => host

/-- A unit runs its container: refused when the name is taken or the network is not
there; a volume that is not there is made. -/
def launch (name : String) (volumes : List String) : Host :=
  if host.hasContainer name || !host.networks.contains (podNetworkName name) then host
  else { host with
    containers := ⟨name, true, podNetworkName name, volumes⟩ :: host.containers
    volumes := volumes ++ host.volumes }

/-- A container ends by itself, and is gone or left behind. -/
def endContainer (name : String) (removed : Bool) : Host :=
  if removed then host.dropContainer name
  else { host with containers := host.containers.map (Container.ended name) }

/-- Its unit, if it is loaded, is then in the state left, or unloaded. -/
def exit (name : String) (removed : Bool) (left : Option ActiveState) : Host :=
  if (host.units (unitName name)).isSome then
    (host.endContainer name removed).unitIn (unitName name) left
  else host.endContainer name removed

/-- The supervisor runs the container of an active unit again. -/
def relaunch (name : String) (volumes : List String) : Host :=
  match host.units (unitName name) with
  | some .active | some .activating => host.launch name volumes
  | _ => host

variable {name : String} {container : Container} {host : Host} {volumes : List String}

theorem mem_launch (mem : container ∈ (host.launch name volumes).containers) :
    container ∈ host.containers ∨ container = ⟨name, true, podNetworkName name, volumes⟩ := by
  unfold launch at mem
  split at mem
  · exact .inl mem
  · exact (List.mem_cons.mp mem).symm

theorem mem_relaunch (mem : container ∈ (host.relaunch name volumes).containers) :
    container ∈ host.containers ∨ container = ⟨name, true, podNetworkName name, volumes⟩ := by
  unfold relaunch at mem
  split at mem
  · exact mem_launch mem
  · exact mem_launch mem
  · exact .inl mem

theorem mem_exit {removed : Bool} {left : Option ActiveState}
    (mem : container ∈ (host.exit name removed left).containers) :
    ∃ earlier ∈ host.containers, container = earlier ∨ container = earlier.ended name := by
  have ending : container ∈ (host.endContainer name removed).containers := by
    unfold exit at mem
    split at mem <;> exact mem
  unfold endContainer at ending
  split at ending
  · exact ⟨container, List.mem_of_mem_filter ending, .inl rfl⟩
  · obtain ⟨earlier, there, rfl⟩ := List.mem_map.mp ending
    exact ⟨earlier, there, .inr rfl⟩

theorem resetFailedUnit_eq (unit : String) : host.resetFailedUnit unit =
      { host with units := (host.resetFailedUnit unit).units } := by
  unfold resetFailedUnit
  split <;> rfl

variable {after : Host}

theorem removeContainer_eq_ok (removed : host.removeContainer name = .ok after) :
    after = host.dropContainer name := by
  unfold removeContainer at removed
  split at removed <;> cases removed
  rfl

variable {network : String}

theorem removeNetwork_eq_ok (removed : host.removeNetwork network = .ok after) :
    after = host.dropNetwork network ∧
      ∀ container ∈ host.containers, container.network ≠ network := by
  unfold removeNetwork at removed
  split at removed <;> cases removed
  rename_i free
  exact ⟨rfl, by simpa using free⟩

variable {volume : String}

theorem removeVolume_eq_ok (removed : host.removeVolume volume = .ok after) :
    after = host.dropVolume volume ∧
      ∀ container ∈ host.containers, volume ∉ container.volumes := by
  unfold removeVolume at removed
  split at removed <;> cases removed
  rename_i free
  exact ⟨rfl, by simpa using free⟩

variable {error : PodError}

theorem removeNetwork_eq_error (refused : host.removeNetwork network = .error error) :
    error = .networkInUse network ∧
      ∃ container ∈ host.containers, container.network = network := by
  unfold removeNetwork at refused
  split at refused <;> cases refused
  rename_i used
  exact ⟨rfl, by simpa using used⟩

theorem removeVolume_eq_error (refused : host.removeVolume volume = .error error) :
    error = .volumeInUse volume ∧
      ∃ container ∈ host.containers, volume ∈ container.volumes := by
  unfold removeVolume at refused
  split at refused <;> cases refused
  rename_i used
  exact ⟨rfl, by simpa using used⟩

end Host

/-! ## Calls -/

abbrev Act (α : Type) := Effectful Host PodError α

section Calls

variable {α : Type} (driver : Driver)

/-- Make a call: it fails without effect, or it goes through. -/
def ask (request : Request) : Act Unit := do
  let number ← look Host.calls
  change Host.called
  if driver.fails number request then throw (.failed request)

def query (request : Request) (view : Host → α) : Act α := do
  ask driver request
  look view

/-- A call that changes the host, or is refused. -/
def command (request : Request) (effect : Host → Except PodError Host) : Act Unit := do
  ask driver request
  match effect (← look id) with
  | .ok host => change fun _ => host
  | .error error => throw error

variable (displayName : String)

def networkExists : Act Bool :=
  query driver (.networkExists (podNetworkName displayName)) fun host =>
    host.networks.contains (podNetworkName displayName)

def createNetwork : Act Unit :=
  command driver (.createNetwork (podNetworkName displayName)) fun host =>
    .ok (host.createNetwork (podNetworkName displayName))

def removeNetwork : Act Unit :=
  command driver (.removeNetwork (podNetworkName displayName))
    (Host.removeNetwork · (podNetworkName displayName))

def unitState : Act (Option ActiveState) :=
  query driver (.unitState (unitName displayName)) fun host => host.units (unitName displayName)

def stopUnit : Act Unit :=
  command driver (.stopUnit (unitName displayName)) fun host =>
    let stopped := host.unitIn (unitName displayName) (driver.lingers displayName)
    .ok (if driver.outlives displayName then stopped else stopped.dropContainer displayName)

def resetFailedUnit : Act Unit :=
  command driver (.resetFailedUnit (unitName displayName)) fun host =>
    .ok (host.resetFailedUnit (unitName displayName))

def removeContainer : Act Unit :=
  command driver (.removeContainer displayName) (Host.removeContainer · displayName)

def startTransient (volumes : List String) : Act Unit :=
  command driver (.startTransient (unitName displayName)) fun host =>
    .ok ((host.unitIn (unitName displayName) (some .active)).launch displayName volumes)

end Calls

/-! ## Volumes of a container -/

/-- What a container mounts: a volume with a name or an anonymous one, or a volume of
elsewhere. -/
inductive VolumeMount where
  | named (name : String) (tmpfs : Bool) (writes : List String)
  | anonymous (anonId : String) (tmpfs : Bool) (writes : List String)
  | external (name : String)

structure ContainerVolume where
  name : String
  tmpfs : Bool
  writes : List String
  removeOnStop : Bool
  hostPath : Option String

def tmpfsVolumesDir : String := "/run/seedling/tmpfs-volumes"

def tmpfsPath (volume : String) : String := tmpfsVolumesDir ++ "/" ++ volume

theorem tmpfsPath_inj : tmpfsPath one = tmpfsPath other ↔ one = other := by
  simp [tmpfsPath]

/-- A pod as the actuator is given it. -/
structure Workload where
  app : String
  displayName : String
  mounts : List VolumeMount

def collectContainerVolumes (volumesDir : String) (workload : Workload) : List ContainerVolume :=
  workload.mounts.filterMap fun
    | .anonymous anonId tmpfs writes =>
      some ⟨anonId, tmpfs, writes, true, if tmpfs then some (tmpfsPath anonId) else none⟩
    | .named name tmpfs writes =>
      let volume := VolumeName.forApp workload.app name
      some ⟨volume, tmpfs, writes, false,
        some (if tmpfs then tmpfsPath volume else volumesDir ++ "/" ++ volume)⟩
    | .external _ => none

def podmanVolumes (volumes : List ContainerVolume) : List String :=
  volumes.filterMap fun volume => if volume.hostPath = none then some volume.name else none

section Volumes

variable (driver : Driver)

def volumeExists (volume : String) : Act Bool :=
  query driver (.volumeExists volume) fun host => host.volumes.contains volume

def createVolume (volume : String) : Act Unit :=
  command driver (.createVolume volume) fun host => .ok (host.createVolume volume)

def removeVolume (volume : String) : Act Unit :=
  command driver (.removeVolume volume) (Host.removeVolume · volume)

def pathExists (path : String) : Act Bool := look fun host => host.directories.contains path

def createDirectory (request : Request) (path : String) : Act Unit :=
  command driver request fun host => .ok (host.createDirectory path)

def removeDirectory (path : String) : Act Unit :=
  command driver (.removeDirectory path) fun host => .ok (host.dropDirectory path)

def writeFiles (root : String) (files : List String) : Act Unit :=
  forEach files fun file => ask driver (.writeFile root file)

def ensureVolume (volume : ContainerVolume) : Act Unit :=
  match volume.hostPath with
  | some path =>
    if volume.tmpfs then do
      createDirectory driver (.createDirectory path) path
      writeFiles driver path volume.writes
    else do
      if ← pathExists path then pure ()
      else createDirectory driver (.storeVolume path) path
  | none => do
      if ← volumeExists driver volume.name then pure ()
      else
        createVolume driver volume.name
        -- the declared files are written only when the volume was just made
        if volume.writes.isEmpty then pure ()
        else
          ask driver (.volumeMountpoint volume.name)
          writeFiles driver volume.name volume.writes

def ensureVolumes (volumes : List ContainerVolume) : Act Unit :=
  forEach volumes (ensureVolume driver)

/-- What a stop does about one anonymous volume. -/
def clearVolume (volume : ContainerVolume) : Act Unit :=
  match volume.hostPath with
  | some path => do
      -- a directory that cannot be removed is only warned about
      if ← pathExists path then attempt (removeDirectory driver path)
      else pure ()
  | none => do
      if ← volumeExists driver volume.name then removeVolume driver volume.name
      else pure ()

end Volumes

/-! ## Actuations -/

section Actuations

variable (driver : Driver) (displayName : String)

def ensureNetwork : Act Unit := do
  if ← networkExists driver displayName then pure ()
  else createNetwork driver displayName

/-- The unit of the instance, already running or not: `true` if there is nothing to start. -/
def findUnit : Act Bool := do
  match ← unitState driver displayName with
  | some .active | some .activating => return true
  | some _ =>
    resetFailedUnit driver displayName
    return false
  | none => return false

variable (volumes : List ContainerVolume)

/-- The volumes and the network are seen to concurrently; a failure of one stops the other
where it is. -/
def prepare : Act Unit := do
  if driver.networkFirst then
    ensureNetwork driver displayName
    ensureVolumes driver volumes
  else
    ensureVolumes driver volumes
    ensureNetwork driver displayName

/-- Start the unit, once what an earlier one left behind is out of the way. -/
def startUnit : Act Unit := do
  if ← findUnit driver displayName then pure ()
  else
    attempt (removeContainer driver displayName)
    ask driver .resolveServiceMounts
    startTransient driver displayName (podmanVolumes volumes)

def startPodInstance : Act Unit := do
  ask driver .ensureImage
  prepare driver displayName volumes
  startUnit driver displayName volumes

/-- Stop the unit if it runs, reset it if it has ended. -/
def settleUnit : Act Unit := do
  match ← unitState driver displayName with
  | some .active | some .activating | some .deactivating => stopUnit driver displayName
  | some .inactive | some .failed => resetFailedUnit driver displayName
  | none => pure ()

def clearNetwork : Act Unit := do
  if ← networkExists driver displayName then removeNetwork driver displayName
  else pure ()

def stopPodInstance (anonVolumes : List ContainerVolume) : Act Unit := do
  settleUnit driver displayName
  attempt (removeContainer driver displayName)
  clearNetwork driver displayName
  forEach anonVolumes (clearVolume driver)

end Actuations

def start (driver : Driver) (volumesDir : String) (workload : Workload) : Act Unit :=
  startPodInstance driver workload.displayName (collectContainerVolumes volumesDir workload)

/-- Stop a pod, with the anonymous volumes of its definition. -/
def stop (driver : Driver) (volumesDir : String) (workload : Workload) : Act Unit :=
  stopPodInstance driver workload.displayName
    ((collectContainerVolumes volumesDir workload).filter (·.removeOnStop))

end Seedling.Reconcile.PodHost
