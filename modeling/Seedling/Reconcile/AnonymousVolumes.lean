import Seedling.Foundation.Separated
import Seedling.Reconcile.PodEffects

/-!
# Anonymous volumes of an operation

An anonymous volume is named for the operation and its number in the closure, and may be
mounted on several of the deployments and jobs the closure starts.  Stopping any of them
removes the anonymous volumes of its definition.

* `stop_spares_iff_unshared`: stops take no volume from another instance, and are held up
  by none, in all runs of exactly those closures that mount no anonymous volume twice;
* `finished_job_takes_volumes`: a job that finishes takes the directory of a shared volume
  from under another.
-/

namespace Seedling.Reconcile.AnonymousVolumes

open Foundation Effectful PodHistory PodHost List

/-! ## Closures -/

/-- What the names of an operation's anonymous volumes begin with. -/
def anonVolStem (operation : String) : String :=
  "seedling-anon-" ++ String.ofList (operation.toList.take 8) ++ "-vol-"

/-- The name of the anonymous volume a closure makes when it has made `counter` of them. -/
def nextAnonVolId (operation : String) (counter : Nat) : String :=
  anonVolStem operation ++ counter.repr

theorem nextAnonVolId_inj {operation : String} {one other : Nat} :
    nextAnonVolId operation one = nextAnonVolId operation other ↔ one = other :=
  (String.append_right_inj (anonVolStem operation)).trans repr_inj

/-- A mount of a closure's pod: one of the closure's anonymous volumes, by its number, or
another volume. -/
inductive Mount where
  | anonymous (number : Nat)
  | named (name : String) (tmpfs : Bool) (writes : List String)
  | external (name : String)

structure Pod where
  displayName : String
  mounts : List Mount

/-- What a closure makes: anonymous volumes, and the deployments and jobs that it starts. -/
structure Closure where
  app : String
  operation : String
  volumesDir : String
  tmpfs : Nat → Bool
  writes : Nat → List String
  count : Nat
  pod : Fin count → Pod
  distinct : Function.Injective fun index => (pod index).displayName

namespace Closure

variable (closure : Closure)

def anonId (number : Nat) : String := nextAnonVolId closure.operation number

def name (index : Fin closure.count) : String := (closure.pod index).displayName

def volumeMount : Mount → VolumeMount
  | .anonymous number =>
    .anonymous (closure.anonId number) (closure.tmpfs number) (closure.writes number)
  | .named name tmpfs writes => .named name tmpfs writes
  | .external name => .external name

def workload (index : Fin closure.count) : Workload where
  app := closure.app
  displayName := closure.name index
  mounts := (closure.pod index).mounts.map closure.volumeMount

def volumes (index : Fin closure.count) : List ContainerVolume :=
  collectContainerVolumes closure.volumesDir (closure.workload index)

def Mounts (index : Fin closure.count) (number : Nat) : Prop :=
  .anonymous number ∈ (closure.pod index).mounts

def anonymous (number : Nat) : ContainerVolume where
  name := closure.anonId number
  tmpfs := closure.tmpfs number
  writes := closure.writes number
  removeOnStop := true
  hostPath := if closure.tmpfs number then some (tmpfsPath (closure.anonId number)) else none

end Closure

/-! ## Runs -/

/-- The host, and which of the closure's pods have been started. -/
structure State (closure : Closure) where
  host : Host
  started : List (Fin closure.count)

variable (closure : Closure)

def State.initial : State closure := ⟨.empty, []⟩

/-- A pod is started or stopped; its container ends, and is gone or left behind, its unit
then being in some state; or its unit runs the container again. -/
inductive Event (closure : Closure) where
  | start (index : Fin closure.count) (driver : Driver)
  | exit (index : Fin closure.count) (removed : Bool) (left : Option ActiveState)
  | relaunch (index : Fin closure.count)
  | stop (index : Fin closure.count) (driver : Driver)

def step (state : State closure) :
    Event closure → Except PodError Unit × State closure
  | .start index driver =>
    let done := exec (PodHost.start driver closure.volumesDir (closure.workload index)) state.host
    (done.1, ⟨done.2, index :: state.started⟩)
  | .exit index removed left =>
    (.ok (), { state with host := state.host.exit (closure.name index) removed left })
  | .relaunch index =>
    (.ok (), { state with
      host := state.host.relaunch (closure.name index) (podmanVolumes (closure.volumes index)) })
  | .stop index driver =>
    let done := exec (PodHost.stop driver closure.volumesDir (closure.workload index)) state.host
    (done.1, { state with host := done.2 })

def machine : Machine (State closure) (Event closure) (Except PodError Unit) :=
  ⟨step closure⟩

/-! ## Sparing the other pods -/

/-- No other pod that mounts the volume runs, or is still to be started. -/
def Idle (state : State closure) (index : Fin closure.count) (number : Nat) : Prop :=
  ∀ other, other ≠ index → closure.Mounts other number →
    other ∈ state.started ∧ state.host.running (closure.name other) = false

/-- A stop removes an anonymous volume only if it is idle otherwise, and does not fail
over a volume that another container mounts. -/
structure Spares (closure : Closure) (state : State closure) (index : Fin closure.count)
    (driver : Driver) : Prop where
  removed : ∀ number, Present (closure.anonymous number) state.host →
    ¬ Present (closure.anonymous number) (step closure state (.stop index driver)).2.host →
    Idle closure state index number
  unblocked : ∀ volume, (step closure state (.stop index driver)).1 = .error (.volumeInUse volume) →
    ∀ container ∈ state.host.containers, volume ∈ container.volumes →
      container.name = closure.name index

/-- Whatever is stopped, the other pods are spared. -/
def SparesOthers (state : State closure) : Event closure → Prop
  | .stop index driver => Spares closure state index driver
  | _ => True

/-- No anonymous volume is mounted on two pods. -/
def Unshared : Prop :=
  ∀ number index other, index ≠ other → closure.Mounts index number → ¬ closure.Mounts other number

/-! ## Volumes of the pods -/

section Volumes

variable {closure : Closure} {index : Fin closure.count} {number : Nat}

/-- The volumes a stop of the pod is to remove. -/
def Closure.anonVolumes (closure : Closure) (index : Fin closure.count) : List ContainerVolume :=
  (closure.volumes index).filter (·.removeOnStop)

theorem mem_anonVolumes {volume : ContainerVolume} : volume ∈ closure.anonVolumes index ↔
      ∃ number, closure.Mounts index number ∧ closure.anonymous number = volume := by
  constructor
  · intro mem
    obtain ⟨collected, removed⟩ := mem_filter.mp mem
    obtain ⟨_, listed, made⟩ := mem_filterMap.mp collected
    obtain ⟨mount, mounted, rfl⟩ := mem_map.mp listed
    cases mount with
    | anonymous number =>
      cases made
      exact ⟨number, mounted, rfl⟩
    | named =>
      cases made
      cases removed
    | external => cases made
  · rintro ⟨number, mounts, rfl⟩
    refine mem_filter.mpr ⟨mem_filterMap.mpr ?_, rfl⟩
    exact ⟨_, mem_map_of_mem mounts, rfl⟩

theorem mem_volumes (mounts : closure.Mounts index number) :
    closure.anonymous number ∈ closure.volumes index :=
  mem_of_mem_filter (mem_anonVolumes.mpr ⟨number, mounts, rfl⟩)

theorem exists_of_mem_podmanVolumes {name : String}
    (mem : name ∈ podmanVolumes (closure.volumes index)) :
    ∃ number, closure.Mounts index number ∧ closure.anonId number = name := by
  obtain ⟨volume, collected, named⟩ := mem_filterMap.mp mem
  obtain ⟨podman, rfl⟩ : volume.hostPath = none ∧ volume.name = name := by simpa using named
  have anonymous : volume ∈ closure.anonVolumes index := by
    refine mem_filter.mpr ⟨collected, ?_⟩
    obtain ⟨mount, _, made⟩ := mem_filterMap.mp collected
    split at made
    · cases made
      rfl
    · cases made
      cases podman
    · cases made
  obtain ⟨number, mounts, rfl⟩ := mem_anonVolumes.mp anonymous
  exact ⟨number, mounts, rfl⟩

theorem anonId_inj {other : Nat} :
    closure.anonId number = closure.anonId other ↔ number = other := nextAnonVolId_inj

end Volumes

/-! ## Containers mount their own pod's volumes -/

section Belonging

variable {closure : Closure} {index : Fin closure.count} {state : State closure}

/-- The container is one of the closure's pods and mounts only its volumes. -/
def Closure.Owns (closure : Closure) (container : Container) : Prop :=
  ∃ index, container.name = closure.name index ∧
    ∀ volume ∈ container.volumes, volume ∈ podmanVolumes (closure.volumes index)

def Belongs (closure : Closure) (state : State closure) : Prop :=
  ∀ container ∈ state.host.containers, closure.Owns container

theorem owns_ended {container : Container} (name : String) (owned : closure.Owns container) :
    closure.Owns (container.ended name) := by
  unfold Container.ended
  split <;> exact owned

theorem belongs_step (belongs : Belongs closure state) (event : Event closure) :
    Belongs closure ((machine closure).next state event) := by
  cases event with
  | start index =>
    exact (startPodInstance_keeps (containers_closed_start
      ⟨index, rfl, fun _ mem => mem⟩)).exec belongs
  | exit =>
    intro container mem
    obtain ⟨earlier, there, rfl | rfl⟩ := Host.mem_exit mem
    · exact belongs container there
    · exact owns_ended _ (belongs earlier there)
  | relaunch index =>
    intro container mem
    rcases Host.mem_relaunch mem with there | rfl
    · exact belongs container there
    · exact ⟨index, rfl, fun _ mem => mem⟩
  | stop =>
    exact (stopPodInstance_keeps containers_closed_stop).exec belongs

end Belonging

/-! ## Closures that share no volume -/

section Unshared

variable {closure : Closure} {index : Fin closure.count} {state : State closure}
  {driver : Driver} {number : Nat}

theorem present_iff {host : Host} : Present (closure.anonymous number) host ↔
    if closure.tmpfs number then tmpfsPath (closure.anonId number) ∈ host.directories
    else closure.anonId number ∈ host.volumes := by
  by_cases tmpfs : closure.tmpfs number <;> simp [Present, Closure.anonymous, tmpfs]

theorem path_of_anonymous {path : String}
    (bound : (closure.anonymous number).hostPath = some path) :
    path = tmpfsPath (closure.anonId number) := by
  simp only [Closure.anonymous] at bound
  split at bound <;> cases bound
  rfl

theorem present_closed_stop (other : ¬ closure.Mounts index number) :
    Closed (Present (closure.anonymous number))
      (StopEffect (driver.lingers (closure.name index)) (closure.name index)
        (closure.anonVolumes index)) := by
  -- no volume the stop removes has the name of this one
  have apart : ∀ own, closure.Mounts index own → closure.anonId number ≠ closure.anonId own :=
    fun own mounts same => other (anonId_inj.mp same ▸ mounts)
  intro host after present effect
  rw [present_iff] at present ⊢
  cases effect with
  | call | unit | network | container => exact present
  | reset =>
    rw [Host.resetFailedUnit_eq]
    exact present
  | volume volume mem =>
    obtain ⟨own, mounts, rfl⟩ := mem_anonVolumes.mp mem
    by_cases tmpfs : closure.tmpfs number
    · rw [if_pos tmpfs] at present ⊢
      exact present
    · rw [if_neg tmpfs] at present ⊢
      exact mem_filter.mpr ⟨present, decide_eq_true (apart own mounts)⟩
  | directory volume mem bound =>
    obtain ⟨own, mounts, rfl⟩ := mem_anonVolumes.mp mem
    rw [path_of_anonymous bound]
    by_cases tmpfs : closure.tmpfs number
    · rw [if_pos tmpfs] at present ⊢
      refine mem_filter.mpr ⟨present, decide_eq_true fun same => ?_⟩
      exact apart own mounts (tmpfsPath_inj.mp same)
    · rw [if_neg tmpfs] at present ⊢
      exact present

theorem mounts_of_removed (present : Present (closure.anonymous number) state.host)
    (absent : ¬ Present (closure.anonymous number)
      (step closure state (.stop index driver)).2.host) : closure.Mounts index number := by
  by_contra other
  exact absent ((stopPodInstance_keeps (present_closed_stop other)).exec present)

theorem mounts_of_blamed {volume : String}
    (blamed : (step closure state (.stop index driver)).1 = .error (.volumeInUse volume)) :
    ∃ number, closure.Mounts index number ∧ closure.anonId number = volume := by
  have closed : Closed (fun _ => True)
      (StopEffect (driver.lingers (closure.name index)) (closure.name index)
        (closure.anonVolumes index)) := fun _ _ _ _ => trivial
  obtain ⟨own, mem, _, rfl⟩ := (stopPodInstance_keeps closed).error trivial blamed volume rfl
  obtain ⟨number, mounts, rfl⟩ := mem_anonVolumes.mp mem
  exact ⟨number, mounts, rfl⟩

theorem spares_of_unshared (unshared : Unshared closure) (belongs : Belongs closure state)
    (index : Fin closure.count) (driver : Driver) : Spares closure state index driver where
  removed := by
    intro number present absent other different mounts
    exact absurd mounts (unshared number index other different.symm
      (mounts_of_removed present absent))
  unblocked := by
    intro volume blamed container there used
    obtain ⟨number, mounts, rfl⟩ := mounts_of_blamed blamed
    obtain ⟨owner, named, own⟩ := belongs container there
    obtain ⟨same, mounted, equal⟩ := exists_of_mem_podmanVolumes (own _ used)
    by_contra other
    refine unshared number index owner ?_ mounts (anonId_inj.mp equal ▸ mounted)
    rintro rfl
    exact other named

end Unshared

/-! ## Closures that share one -/

section Shared

variable {closure : Closure} {index other : Fin closure.count} {number : Nat}

/-- Started and then stopped, a pod leaves none of its volumes to one that mounts it too
and is still to be started. -/
theorem not_spared_of_shared (different : index ≠ other) (mounts : closure.Mounts index number)
    (shared : closure.Mounts other number) :
    ¬ (machine closure).Along (SparesOthers closure) (.initial closure)
      [.start index calm, .stop index calm] := by
  rintro ⟨_, spares, _⟩
  have present : Present (closure.anonymous number)
      (step closure (.initial closure) (.start index calm)).2.host :=
    startPodInstance_present calm_reliable _ _ (mem_volumes mounts)
  have closed : Closed (Alone (closure.name index))
      (StartEffect (closure.name index) (podmanVolumes (closure.volumes index))) :=
    containers_closed_start rfl
  have empty : Alone (closure.name index) Host.empty := fun _ mem =>
    absurd mem not_mem_nil
  have alone : Alone (closure.name index)
      (step closure (.initial closure) (.start index calm)).2.host :=
    (startPodInstance_keeps closed).exec empty
  have absent := stopPodInstance_clears calm_reliable alone _
    (mem_anonVolumes.mpr ⟨number, mounts, rfl⟩)
  obtain ⟨started, _⟩ := spares.removed number present absent other different.symm shared
  exact different (mem_singleton.mp started).symm

end Shared

/-- **Stops take no volume from another pod, and are held up by none, in every run of a
closure exactly if it mounts no anonymous volume on two pods.** -/
theorem stop_spares_iff_unshared (closure : Closure) :
    (∀ events, (machine closure).Along (SparesOthers closure) (.initial closure) events) ↔
      Unshared closure := by
  constructor
  · intro always number index other different mounts shared
    exact not_spared_of_shared different mounts shared (always _)
  · intro unshared events
    have spares : ∀ state event, Belongs closure state → True →
        SparesOthers closure state event := by
      intro state event belongs _
      cases event with
      | stop index driver => exact spares_of_unshared unshared belongs index driver
      | start | exit | relaunch => trivial
    exact (machine closure).along_of_preserves (fun _ event belongs _ => belongs_step belongs event)
      spares _ events ((machine closure).along_of_forall (fun _ _ => trivial) _ _)
      (fun _ mem => absurd mem not_mem_nil)

def sharing : Closure where
  app := "clinic"
  operation := "0197c2a4-5d10-7c3e-9f00-2b7a61c0d9ee"
  volumesDir := "/var/lib/seedling/volumes"
  tmpfs number := number = 0
  writes _ := []
  count := 2
  pod index := ⟨if index = 0 then "clinic-export-1a2b3c4d" else "clinic-upload-5e6f7a8b",
    [.anonymous 0, .anonymous 1]⟩
  distinct := by
    unfold Function.Injective
    decide

def exporter : Fin sharing.count := ⟨0, by decide⟩

def uploader : Fin sharing.count := ⟨1, by decide⟩

def exportEnds : List (Event sharing) :=
  [.start exporter calm, .start uploader calm, .exit exporter true none]

/-- The job that ends first takes the tmpfs volume from the one that runs, and its stop
fails over the other volume. -/
theorem finished_job_takes_volumes :
    let before := (machine sharing).run (.initial sharing) exportEnds
    let stopped := step sharing before (.stop exporter calm)
    before.host.running (sharing.name uploader) ∧
      tmpfsPath (sharing.anonId 0) ∈ before.host.directories ∧
      tmpfsPath (sharing.anonId 0) ∉ stopped.2.host.directories ∧
      stopped.1 = .error (.volumeInUse (sharing.anonId 1)) ∧
      ¬ (machine sharing).Along (SparesOthers sharing) (.initial sharing)
        (exportEnds ++ [.stop exporter calm]) := by
  intro before stopped
  have runs : before.host.running (sharing.name uploader) := by decide
  have there : tmpfsPath (sharing.anonId 0) ∈ before.host.directories := by decide
  have gone : tmpfsPath (sharing.anonId 0) ∉ stopped.2.host.directories := by decide
  refine ⟨runs, there, gone, rfl, ?_⟩
  intro spared
  obtain ⟨spares, _⟩ := ((machine sharing).along_append.mp spared).2
  have idle : Idle sharing before exporter 0 := spares.removed 0 there gone
  have ended := (idle uploader (by decide) (mem_cons_self ..)).2
  cases ended

end Seedling.Reconcile.AnonymousVolumes
