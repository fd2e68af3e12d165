import Seedling.Reconcile.Moorings

/-!
# The records of dynamic workloads

An operation's deployments and jobs are recorded when they are started, so that they are
found again when the operation is over.  The records are deleted when its runner has ended,
after a wait for the instances to be torn down that has a time limit; and when the daemon
starts, after an attempt to stop what an earlier run left behind.

`deleted_only_when_gone` says when a record is deleted only when its instance is gone.
Where a stop fails until the limit, or has not taken effect when a startup goes on, the
record is deleted all the same (`deleted_while_running`).
-/

namespace Seedling.Reconcile.DynamicCleanup

open Foundation Effectful Instances PodHistory PodHost List

/-! ## Records -/

/-- What an instance id stands for: ids are derived from the operation and the resource. -/
structure Instance where
  kind : ResourceKind
  displayName : String

structure Record where
  id : InstanceId
  operation : String
deriving DecidableEq

structure Waiting where
  operation : String
  instances : List InstanceId

/-- The host, the table of dynamic resources, and the cleanup that is under way. -/
structure State where
  host : Host
  records : List Record
  waiting : Option Waiting

def State.initial : State := ⟨.empty, [], none⟩

def isWorkload (kind : ResourceKind) : Bool := kind = .deployment || kind = .job

def insertDynamicResource (record : Record) (records : List Record) : List Record :=
  record :: records.filter (·.id ≠ record.id)

def deleteDynamicResourcesForOperation (operation : String) (records : List Record) : List Record :=
  records.filter (·.operation ≠ operation)

/-! ## After the runner has ended -/

section Cleanup

variable (instances : InstanceId → Instance)

/-- The wait is over: the records of the operation are deleted, if the database allows. -/
def finish (operation : String) (deletes : Bool) (state : State) : State :=
  { state with
    records := if deletes then deleteDynamicResourcesForOperation operation state.records
      else state.records
    waiting := none }

/-- The deployments and jobs of the operation on record.  A list that cannot be read is
taken for empty. -/
def workloadsOf (operation : String) (listed : Bool) (records : List Record) : List InstanceId :=
  ((if listed then records.filter (·.operation = operation) else []).map Record.id).filter
    fun id => isWorkload (instances id).kind

/-- The runner has ended: what it started is to be torn down. -/
def cleanupDynamicResources (operation : String) (listed deletes : Bool) (state : State) : State :=
  if (workloadsOf instances operation listed state.records).isEmpty then
    finish operation deletes state
  else
    { state with waiting := some ⟨operation, workloadsOf instances operation listed state.records⟩ }

/-- What one round of the wait finds: whether the time limit has passed, the observations
of the instances (those that cannot be read being taken for none), how the container
runtime answers, and whether a deletion succeeds. -/
structure Poll where
  expired : Bool
  observations : InstanceId → List WorldObservation
  driver : Driver
  deletes : Bool

def lifecyclesTerminal (poll : Poll) (waited : List InstanceId) : Bool :=
  waited.all fun id =>
    (deriveLifecycleState (instances id).kind (poll.observations id)).hasReached .terminated

/-- A network that cannot be asked about is assumed to be there. -/
def networksAllGone (driver : Driver) : List String → Act Bool
  | [] => return true
  | name :: names => do
      if ← recover true (networkExists driver name) then return false
      else networksAllGone driver names

/-- Ask for the networks of the instances: what is found, and the host after the calls. -/
def askNetworks (poll : Poll) (waited : List InstanceId) (host : Host) :
    Except PodError Bool × Host :=
  exec (networksAllGone poll.driver (waited.map fun id => (instances id).displayName)) host

/-- One round of the wait: both checks are made, and the wait ends when both hold. -/
def pollCleanup (poll : Poll) (state : State) : State :=
  match state.waiting with
  | none => state
  | some waiting =>
    if poll.expired then finish waiting.operation poll.deletes state
    else
      let asked := askNetworks instances poll waiting.instances state.host
      if lifecyclesTerminal instances poll waiting.instances && asked.1 = .ok true then
        finish waiting.operation poll.deletes { state with host := asked.2 }
      else { state with host := asked.2 }

/-! ## When the daemon starts -/

def stopOrphanUnit (driver : Driver) (name : String) : Act Unit := do
  match ← unitState driver name with
  | some _ =>
    attempt (stopUnit driver name)
    attempt (resetFailedUnit driver name)
  | none => pure ()

/-- Unit, network and container of an orphan, in this order, every error dropped. -/
def cleanupOrphan (driver : Driver) (name : String) : Act Unit := do
  attempt (stopOrphanUnit driver name)
  if ← recover false (networkExists driver name) then attempt (removeNetwork driver name)
  else pure ()
  attempt (removeContainer driver name)

def orphans (replay : Option String) (records : List Record) : List Record :=
  records.filter fun record => some record.operation ≠ replay

/-- The daemon starts: nothing is waited for, and the orphans are cleaned up, unless the
list cannot be read. -/
def boot (replay : Option String) (listed deletes : Bool) (driver : Driver) (state : State) :
    State :=
  if listed then
    let names := (orphans replay state.records).map fun record => (instances record.id).displayName
    { host := (exec (forEach names (cleanupOrphan driver)) state.host).2
      records := if deletes then state.records.filter fun record => some record.operation = replay
        else state.records
      waiting := none }
  else { state with waiting := none }

end Cleanup

/-! ## Runs -/

/-- An instance is recorded as an operation starts it; the reconciler starts or stops it;
its container ends or is run again; a runner ends; a round of the wait; the daemon stops
and starts again. -/
inductive Event where
  | record (id : InstanceId) (operation : String)
  | start (id : InstanceId) (volumes : List ContainerVolume) (driver : Driver)
  | stop (id : InstanceId) (volumes : List ContainerVolume) (driver : Driver)
  | exit (id : InstanceId) (removed : Bool) (left : Option ActiveState)
  | relaunch (id : InstanceId) (volumes : List String)
  | ended (operation : String) (listed deletes : Bool)
  | poll (poll : Poll)
  | boot (replay : Option String) (listed deletes : Bool) (driver : Driver)

section Runs

variable (instances : InstanceId → Instance)

def nameOf (id : InstanceId) : String := (instances id).displayName

def handle (state : State) : Event → State
  | .record id operation =>
    -- an operation whose runner has ended starts nothing
    if state.waiting.any (·.operation = operation) then state
    else { state with records := insertDynamicResource ⟨id, operation⟩ state.records }
  | .start id volumes driver =>
    { state with
      host := (exec (startPodInstance driver (nameOf instances id) volumes) state.host).2 }
  | .stop id volumes driver =>
    { state with
      host := (exec (stopPodInstance driver (nameOf instances id) volumes) state.host).2 }
  | .exit id removed left =>
    { state with host := state.host.exit (nameOf instances id) removed left }
  | .relaunch id volumes => { state with host := state.host.relaunch (nameOf instances id) volumes }
  | .ended operation listed deletes =>
    cleanupDynamicResources instances operation listed deletes state
  | .poll poll => pollCleanup instances poll state
  | .boot replay listed deletes driver => boot instances replay listed deletes driver state

def machine : Machine State Event Unit where
  step state event := ((), handle instances state event)

def OnRecord (records : List Record) (displayName : String) : Prop :=
  ∃ record ∈ records, isWorkload (instances record.id).kind ∧
    nameOf instances record.id = displayName

abbrev AllRecorded (records : List Record) (host : Host) : Prop :=
  ∀ displayName, Here host displayName → OnRecord instances records displayName

/-- The step deletes the record of a deployment or job only if nothing of it is left, and
what is left on the host after it is on record. -/
structure Leaves (state : State) (event : Event) : Prop where
  deleted : ∀ record ∈ state.records, isWorkload (instances record.id).kind →
    (∀ other ∈ (handle instances state event).records, other.id ≠ record.id) →
    Gone (handle instances state event).host (nameOf instances record.id)
  recorded : ∀ displayName, Here (handle instances state event).host displayName →
    OnRecord instances (handle instances state event).records displayName

/-- At a startup every call is answered, a unit asked to stop is unloaded when the call
returns and its container gone, and no container is there without its unit. -/
structure Answered (host : Host) (driver : Driver) (names : List String) : Prop where
  reliable : driver.Reliable
  unloads : ∀ name ∈ names, driver.lingers name = none
  takes : ∀ name ∈ names, driver.outlives name = false
  supervised : ∀ name ∈ names, (∃ container ∈ host.containers, container.name = name) →
    host.units (unitName name) ≠ none

/-- Nothing is left of what the operation has on record. -/
def NothingLeft (state : State) (operation : String) : Prop :=
  ∀ record ∈ state.records, record.operation = operation → isWorkload (instances record.id).kind →
    Gone state.host (nameOf instances record.id)

/-- What has to be true of a step for the records to be kept long enough: what is started
is on record; a unit that is asked to stop is unloaded when the call returns; the records of
an operation of which something is left are deleted neither without having been read nor
because the time is up; and a startup is answered. -/
def Sound (state : State) : Event → Prop
  | .start id _ _ =>
    isWorkload (instances id).kind ∧ ∃ record ∈ state.records, record.id = id
  | .stop id _ driver => driver.lingers (nameOf instances id) = none
  | .ended operation listed deletes => deletes → listed ∨ NothingLeft instances state operation
  | .poll poll => poll.deletes → poll.expired → ∀ waiting ∈ state.waiting,
      NothingLeft instances state waiting.operation
  | .boot replay listed _ driver => listed →
      Answered state.host driver ((orphans replay state.records).map (nameOf instances ·.id))
  | _ => True

end Runs

/-! ## What the wait and the startup find -/

section Finding

variable {driver : Driver} {I : Host → Prop}

theorem networksAllGone_gone (called : Callable I) (networks names : List String) :
    Triple (fun host => I host ∧ host.networks = networks) (networksAllGone driver names)
      (fun gone host => (I host ∧ host.networks = networks) ∧
        (gone → ∀ name ∈ names, podNetworkName name ∉ networks))
      (fun _ _ => False) := by
  induction names with
  | nil => exact triple_pure fun _ holds => ⟨holds, by simp⟩
  | cons name names ih =>
    have asked : Triple (fun host => I host ∧ host.networks = networks)
        (recover true (networkExists driver name))
        (fun found host => (I host ∧ host.networks = networks) ∧
          (found = false → podNetworkName name ∉ networks)) (fun _ _ => False) := by
      apply triple_recover
      apply triple_query
      · rintro _ host ⟨holds, same⟩
        exact ⟨⟨called host holds, same⟩, by simp⟩
      · rintro host ⟨holds, rfl⟩
        exact ⟨⟨called host holds, rfl⟩, fun found => by simpa [Host.called] using found⟩
    apply triple_bind asked
    intro found
    split
    · exact triple_pure fun _ holds => ⟨holds.1, by simp⟩
    · rename_i missing
      by_cases first : podNetworkName name ∈ networks
      · exact fun host holds => absurd first (holds.2 (by simpa using missing))
      · exact triple_mono ih (fun _ holds => holds.1)
          (fun _ _ holds => ⟨holds.1, fun gone =>
            forall_mem_cons.mpr ⟨first, holds.2 gone⟩⟩) (fun _ _ holds => holds)

variable {names : List String} {name : String}

/-- No container is there without its unit. -/
def Supervised (names : List String) (host : Host) : Prop :=
  ∀ name ∈ names, (∃ container ∈ host.containers, container.name = name) →
    host.units (unitName name) ≠ none

/-- The pod is not here, and the rest of the host is as a startup needs it. -/
structure Left (names : List String) (name : String) (host : Host) : Prop where
  moored : Moored host
  supervised : Supervised names host
  absent : ¬ Here host name

theorem left_closed : Closed (Left names name) (StopEffect none name []) := by
  intro host after left effect
  have absent : ¬ Here after name := fun here => left.absent (here_of_stop effect here)
  have unloaded : host.units (unitName name) = none := by
    by_contra loaded
    exact left.absent (.inr loaded)
  refine ⟨(unloaded_closed_stop host after ⟨left.moored, unloaded⟩ effect).1, ?_, absent⟩
  rintro other mem ⟨container, there, rfl⟩
  have before := left.supervised _ mem ⟨container, containers_closed_stop
    (Q := (· ∈ host.containers)) host after (fun _ there => there) effect container there, rfl⟩
  have apart : container.name ≠ name := by
    rintro rfl
    exact absent (.inl ⟨container, there, rfl⟩)
  cases effect with
  | call | container | network | volume | directory => exact before
  | unit => rwa [units_unitIn, if_neg apart]
  | reset =>
    unfold Host.resetFailedUnit
    split
    · rwa [units_unitIn, if_neg apart]
    · rwa [units_unitIn, if_neg apart]
    · exact before

/-- What stays true of a host whatever is stopped on it. -/
def Stays (G : Host → Prop) : Prop := ∀ name, Closed G (StopEffect none name [])

/-- The state of a host before an orphan is cleaned up. -/
structure Orphaned (G : Host → Prop) (names : List String) (host : Host) : Prop where
  moored : Moored host
  supervised : Supervised names host
  stays : G host

variable {G : Host → Prop}

variable (stays : Stays G)
include stays

theorem orphaned_called (host : Host) (orphaned : Orphaned G names host) :
    Orphaned G names host.called :=
  ⟨moored_called host orphaned.moored, orphaned.supervised,
    stays "" host _ orphaned.stays (.call host)⟩

theorem left_of_stopped {host : Host} (orphaned : Orphaned G names host) :
    Left names name ((host.unitIn (unitName name) none).dropContainer name) ∧
      G ((host.unitIn (unitName name) none).dropContainer name) := by
  have unloaded : Unloaded name ((host.unitIn (unitName name) none).dropContainer name) :=
    unloaded_stopped orphaned.moored false
  have dropped : ∀ container ∈ ((host.unitIn (unitName name) none).dropContainer name).containers,
      container ∈ host.containers ∧ container.name ≠ name := by
    simp [Host.dropContainer, Host.unitIn]
  refine ⟨⟨unloaded.1, ?_, ?_⟩, ?_⟩
  · rintro other mem ⟨container, there, rfl⟩
    obtain ⟨before, apart⟩ := dropped container there
    have supervised := orphaned.supervised _ mem ⟨container, before, rfl⟩
    change (host.unitIn (unitName name) none).units (unitName container.name) ≠ none
    rwa [units_unitIn, if_neg apart]
  · rintro (⟨container, there, named⟩ | loaded)
    · exact (dropped container there).2 named
    · exact loaded unloaded.2
  · exact stays name _ _ (stays name _ _ orphaned.stays (.unit host)) (.container _)

theorem stopOrphanUnit_leaves (reliable : driver.Reliable) (mem : name ∈ names)
    (unloads : driver.lingers name = none) (takes : driver.outlives name = false) :
    Triple (Orphaned G names) (stopOrphanUnit driver name)
      (fun _ host => Left names name host ∧ G host) (fun _ _ => False) := by
  have closed : Closed (fun host => Left names name host ∧ G host) (StopEffect none name []) :=
    and_closed left_closed (stays name)
  have found : Triple (Orphaned G names) (unitState driver name)
      (fun found host => Orphaned G names host ∧ host.units (unitName name) = found)
      (fun _ _ => False) :=
    triple_query reliable.elim fun host orphaned => ⟨orphaned_called stays host orphaned, rfl⟩
  apply triple_bind found
  intro state
  split
  · have stops : Triple (fun host => Orphaned G names host ∧ host.units (unitName name) = some ‹_›)
        (attempt (stopUnit driver name)) (fun _ host => Left names name host ∧ G host)
        (fun _ _ => False) := by
      apply triple_attempt
      apply triple_command reliable.elim
      · rintro _ _ _ ⟨⟩
      · rintro host _ ⟨orphaned, _⟩ ⟨⟩
        simp only [unloads, takes]
        exact left_of_stopped stays (orphaned_called stays host orphaned)
    apply triple_bind stops
    intro _
    have resets : Keeps (fun host => Left names name host ∧ G host) (fun _ => False)
        (resetFailedUnit driver name) :=
      keeps_effect (fun host holds => closed _ _ holds (.call host)) (reliable.allowed _)
        fun host holds => closed _ _ holds (.reset host)
    exact (keeps_attempt resets).safe
  · apply triple_pure
    rintro host ⟨orphaned, unloaded⟩
    refine ⟨⟨orphaned.moored, orphaned.supervised, ?_⟩, orphaned.stays⟩
    rintro (there | loaded)
    · exact orphaned.supervised name mem there unloaded
    · exact loaded unloaded

theorem cleanupOrphan_gone (reliable : driver.Reliable) (mem : name ∈ names)
    (unloads : driver.lingers name = none) (takes : driver.outlives name = false) :
    Triple (Orphaned G names) (cleanupOrphan driver name)
      (fun _ host => Orphaned G names host ∧ Gone host name) (fun _ _ => False) := by
  have closed : Closed (fun host => Left names name host ∧ G host) (StopEffect none name []) :=
    and_closed left_closed (stays name)
  have called : ∀ host, Left names name host ∧ G host →
      Left names name host.called ∧ G host.called := fun host holds => closed _ _ holds (.call host)
  have stopped : Triple (Orphaned G names) (attempt (stopOrphanUnit driver name))
      (fun _ host => Left names name host ∧ G host) (fun _ _ => False) :=
    triple_attempt ((stopOrphanUnit_leaves stays reliable mem unloads takes).fail
      fun _ _ impossible => impossible.elim)
  have found : Triple (fun host => Left names name host ∧ G host)
      (recover false (networkExists driver name))
      (fun found host => (Left names name host ∧ G host) ∧
        (found = false → podNetworkName name ∉ host.networks)) (fun _ _ => False) := by
    apply triple_recover
    apply triple_query reliable.elim
    intro host holds
    exact ⟨called host holds, fun found => by simpa using found⟩
  have removes : Triple (fun host => Left names name host ∧ G host)
      (attempt (removeNetwork driver name))
      (fun _ host => (Left names name host ∧ G host) ∧ podNetworkName name ∉ host.networks)
      (fun _ _ => False) := by
    apply triple_attempt
    apply triple_command reliable.elim
    · rintro host error ⟨left, _⟩ inUse
      obtain ⟨_, container, there, used⟩ := Host.removeNetwork_eq_error inUse
      rw [left.moored.wired container there, podNetworkName_inj] at used
      exact absurd (.inl ⟨container, there, used⟩) left.absent
    · rintro host after holds removed
      obtain ⟨rfl, free⟩ := Host.removeNetwork_eq_ok removed
      refine ⟨closed _ _ (called host holds) (.network _ free), ?_⟩
      simp [Host.dropNetwork]
  have drops : Triple
      (fun host => (Left names name host ∧ G host) ∧ podNetworkName name ∉ host.networks)
      (attempt (removeContainer driver name))
      (fun _ host => Orphaned G names host ∧ Gone host name) (fun _ _ => False) := by
    have kept : Closed
        (fun host => (Left names name host ∧ G host) ∧ podNetworkName name ∉ host.networks)
        (StopEffect none name []) :=
      and_closed closed fun _ _ absent effect there => absent (networks_of_stop effect there)
    have removed : Keeps
        (fun host => (Left names name host ∧ G host) ∧ podNetworkName name ∉ host.networks)
        (fun _ => False) (attempt (removeContainer driver name)) :=
      keeps_attempt (removeContainer_keeps (fun host holds => kept _ _ holds (.call host))
        fun host holds => kept _ _ holds (.container host))
    refine removed.safe.leave ?_
    rintro _ host ⟨⟨left, holds⟩, disconnected⟩
    exact ⟨⟨left.moored, left.supervised, holds⟩, gone_iff.mpr ⟨left.absent, disconnected⟩⟩
  apply triple_bind stopped
  intro _
  apply triple_bind found
  intro there
  split
  · exact triple_bind (removes.enter fun _ holds => holds.1) fun _ => drops
  · rename_i missing
    exact drops.enter fun _ holds => ⟨holds.1, holds.2 (by simpa using missing)⟩

theorem cleanupOrphans_gone {host : Host} (answered : Answered host driver names)
    (moored : Moored host) (holds : G host) :
    let after := (exec (forEach names (cleanupOrphan driver)) host).2
    (Moored after ∧ G after) ∧ ∀ name ∈ names, Gone after name := by
  have loop : Triple (Orphaned G names) (forEach names (cleanupOrphan driver))
      (fun _ host => Orphaned G names host ∧ ∀ name ∈ names, Gone host name)
      (fun _ _ => False) := by
    apply triple_forEach
    intro name mem kept
    -- the orphans cleaned up before stay gone
    have staysBoth : Stays fun host => G host ∧ ∀ other ∈ kept, Gone host other := by
      intro stopped
      apply and_closed (stays stopped)
      intro before after gone effect other done
      obtain ⟨absent, disconnected⟩ := gone_iff.mp (gone other done)
      exact gone_iff.mpr ⟨fun here => absent (here_of_stop effect here),
        fun there => disconnected (networks_of_stop effect there)⟩
    refine triple_mono (cleanupOrphan_gone staysBoth answered.reliable mem
      (answered.unloads name mem) (answered.takes name mem)) ?_ ?_ (fun _ _ holds => holds)
    · rintro host ⟨orphaned, gone⟩
      exact ⟨orphaned.moored, orphaned.supervised, orphaned.stays, gone⟩
    · rintro _ host ⟨orphaned, gone⟩
      exact ⟨⟨⟨orphaned.moored, orphaned.supervised, orphaned.stays.1⟩, orphaned.stays.2⟩, gone⟩
  obtain ⟨_, _, orphaned, gone⟩ := loop.ends host ⟨moored, answered.supervised, holds⟩
  exact ⟨⟨orphaned.moored, orphaned.stays⟩, gone⟩

end Finding

/-! ## Records are kept long enough -/

section Keeping

variable {instances : InstanceId → Instance} {state : State}

/-- The host is moored, what is on it is on record, and a wait is for all of its
operation. -/
structure Inv (instances : InstanceId → Instance) (state : State) : Prop where
  moored : Moored state.host
  recorded : AllRecorded instances state.records state.host
  awaited : ∀ waiting, state.waiting = some waiting → ∀ record ∈ state.records,
    record.operation = waiting.operation → isWorkload (instances record.id).kind →
    record.id ∈ waiting.instances

theorem inv_initial : Inv instances .initial where
  moored := moored_empty
  recorded _ here := by
    have networked := moored_empty.networked _ here
    exact absurd networked not_mem_nil
  awaited _ waits := by cases waits

variable {host : Host}

theorem Inv.onHost (inv : Inv instances state) (moored : Moored host)
    (recorded : AllRecorded instances state.records host) :
    Inv instances { state with host := host } := ⟨moored, recorded, inv.awaited⟩

variable {records : List Record} {id : InstanceId}

theorem recorded_closed_start {names : List String}
    (onRecord : OnRecord instances records (nameOf instances id)) :
    Closed (AllRecorded instances records) (StartEffect (nameOf instances id) names) := by
  intro host after recorded effect displayName here
  rcases here_of_start effect here with before | rfl
  · exact recorded displayName before
  · exact onRecord

theorem recorded_closed_stop {name : String} {volumes : List ContainerVolume} :
    Closed (AllRecorded instances records) (StopEffect none name volumes) :=
  fun _ _ recorded effect displayName here => recorded displayName (here_of_stop effect here)

variable {keeps : Record → Bool}

theorem onRecord_filter
    (gone : ∀ record ∈ records, keeps record = false → isWorkload (instances record.id).kind
      → Gone host (nameOf instances record.id)) (recorded : AllRecorded instances records host) :
    AllRecorded instances (records.filter keeps) host := by
  intro displayName here
  obtain ⟨record, mem, workload, rfl⟩ := recorded displayName here
  refine ⟨record, mem_filter.mpr ⟨mem, ?_⟩, workload, rfl⟩
  by_contra dropped
  exact (gone_iff.mp (gone record mem (by simpa using dropped) workload)).1 here

/-- A record that is no longer there is one of a pod that is gone. -/
def Settled (instances : InstanceId → Instance) (before : List Record) (after : State) : Prop :=
  ∀ record ∈ before, isWorkload (instances record.id).kind →
    (∀ other ∈ after.records, other.id ≠ record.id) →
    Gone after.host (nameOf instances record.id)

variable {before : List Record} {after : State}

theorem settled_of_kept (kept : ∀ record ∈ before, ∃ other ∈ after.records, other.id = record.id) :
    Settled instances before after := by
  intro record mem _ missing
  obtain ⟨other, there, same⟩ := kept record mem
  exact absurd same (missing other there)

theorem settled_of_same (same : after.records = before) : Settled instances before after :=
  settled_of_kept fun record mem => ⟨record, same ▸ mem, rfl⟩

/-- The invariant holds after a step, and the step settles the records it deletes. -/
abbrev Leaving (instances : InstanceId → Instance) (before : List Record) (after : State) : Prop :=
  Inv instances after ∧ Settled instances before after

variable {deletes : Bool}

theorem delete_leaves (moored : Moored host) (recorded : AllRecorded instances records host)
    (gone : deletes → ∀ record ∈ records, keeps record = false → isWorkload (instances
      record.id).kind → Gone host (nameOf instances record.id)) :
    Leaving instances records ⟨host, if deletes then records.filter keeps else records, none⟩ := by
  cases deletes with
  | false => exact ⟨⟨moored, recorded, by rintro _ ⟨⟩⟩, settled_of_same rfl⟩
  | true =>
    refine ⟨⟨moored, onRecord_filter (gone rfl) recorded, by rintro _ ⟨⟩⟩, ?_⟩
    intro record mem workload missing
    refine gone rfl record mem ?_ workload
    by_contra kept
    exact missing record (mem_filter.mpr ⟨mem, by simpa using kept⟩) rfl

variable {operation : String} (inv : Inv instances state)
include inv

theorem finish_leaves (gone : deletes → NothingLeft instances state operation) :
    Leaving instances state.records (finish operation deletes state) :=
  delete_leaves inv.moored inv.recorded fun deleting record mem same =>
    gone deleting record mem (by simpa using same)

variable {listed : Bool}

theorem cleanup_leaves (read : deletes → listed ∨ NothingLeft instances state operation) :
    Leaving instances state.records
      (cleanupDynamicResources instances operation listed deletes state) := by
  have listedIn : listed → ∀ record ∈ state.records, record.operation = operation →
      isWorkload (instances record.id).kind →
      record.id ∈ workloadsOf instances operation listed state.records := by
    rintro rfl record mem same workload
    exact mem_filter.mpr ⟨mem_map_of_mem (mem_filter.mpr ⟨mem, by simpa using same⟩), workload⟩
  unfold cleanupDynamicResources
  split
  · rename_i none
    apply finish_leaves inv
    intro deleting
    refine (read deleting).elim (fun isListed record mem same workload => ?_) id
    have there := listedIn isListed record mem same workload
    rw [isEmpty_iff.mp none] at there
    cases there
  · rename_i some
    have isListed : listed := by
      by_contra unread
      simp [workloadsOf, unread] at some
    refine ⟨⟨inv.moored, inv.recorded, ?_⟩, settled_of_same rfl⟩
    rintro _ ⟨⟩ record mem same workload
    exact listedIn isListed record mem same workload

theorem askNetworks_gone (poll : Poll) (waited : List InstanceId) :
    let asked := askNetworks instances poll waited state.host
    Moored asked.2 ∧ AllRecorded instances state.records asked.2 ∧ (asked.1 = .ok true →
        ∀ id ∈ waited, podNetworkName (nameOf instances id) ∉ asked.2.networks) := by
  have called : ∀ host, Moored host ∧ AllRecorded instances state.records host →
      Moored host.called ∧ AllRecorded instances state.records host.called :=
    fun host holds => ⟨moored_called host holds.1, holds.2⟩
  obtain ⟨gone, ended, ⟨⟨moored, recorded⟩, networks⟩, absent⟩ :=
    (networksAllGone_gone called state.host.networks (waited.map (nameOf instances))).ends
      state.host ⟨⟨inv.moored, inv.recorded⟩, rfl⟩
  refine ⟨moored, recorded, ?_⟩
  intro found id mem
  cases ended.symm.trans found
  rw [show (askNetworks instances poll waited state.host).2.networks = _ from networks]
  exact absent rfl _ (mem_map_of_mem mem)

theorem poll_leaves {poll : Poll} (inTime : poll.deletes → poll.expired →
      ∀ waiting ∈ state.waiting, NothingLeft instances state waiting.operation) :
    Leaving instances state.records (pollCleanup instances poll state) := by
  unfold pollCleanup
  split
  · exact ⟨inv, settled_of_same rfl⟩
  · rename_i waiting waits
    split
    · rename_i expired
      exact finish_leaves inv fun deleting => inTime deleting expired waiting waits
    · obtain ⟨moored, recorded, absent⟩ := askNetworks_gone inv poll waiting.instances
      have after := inv.onHost moored recorded
      dsimp only
      split
      · rename_i both
        apply finish_leaves after
        intro _ record mem same workload
        have asked : (askNetworks instances poll waiting.instances state.host).1 = .ok true := by
          simpa using (Bool.and_eq_true_iff.mp both).2
        exact moored.gone (absent asked record.id (inv.awaited waiting waits record mem same
          workload))
      · exact ⟨after, settled_of_same rfl⟩

theorem boot_leaves {replay : Option String} {driver : Driver}
    (answered : listed → Answered state.host driver ((orphans replay state.records).map
      (nameOf instances ·.id))) :
    Leaving instances state.records (boot instances replay listed deletes driver state) := by
  unfold boot
  split
  · rename_i read
    obtain ⟨⟨moored, recorded⟩, gone⟩ :=
      cleanupOrphans_gone (fun _ => recorded_closed_stop) (answered read) inv.moored inv.recorded
    apply delete_leaves moored recorded
    intro _ record mem dropped _
    have orphan : record ∈ orphans replay state.records :=
      mem_filter.mpr ⟨mem, by simpa using dropped⟩
    exact gone _ (mem_map_of_mem orphan)
  · exact ⟨⟨inv.moored, inv.recorded, by rintro _ ⟨⟩⟩, settled_of_same rfl⟩

omit inv in
theorem exists_mem_insert {record : Record} (new : Record) (mem : record ∈ records) :
    ∃ other ∈ insertDynamicResource new records, other.id = record.id := by
  by_cases same : record.id = new.id
  · exact ⟨new, mem_cons_self .., same.symm⟩
  · exact ⟨record, mem_cons_of_mem _ (mem_filter.mpr ⟨mem, by simpa using same⟩), rfl⟩

theorem record_leaves (running : ¬ state.waiting.any (·.operation = operation)) :
    Leaving instances state.records
      { state with records := insertDynamicResource ⟨id, operation⟩ state.records } := by
  refine ⟨⟨inv.moored, ?_, ?_⟩, settled_of_kept fun _ mem => exists_mem_insert _ mem⟩
  · intro displayName here
    obtain ⟨record, mem, workload, rfl⟩ := inv.recorded displayName here
    obtain ⟨other, there, same⟩ := exists_mem_insert ⟨id, operation⟩ mem
    exact ⟨other, there, by rw [same]; exact workload, by rw [same]⟩
  · intro waiting waits record mem same workload
    rcases mem_cons.mp mem with rfl | old
    · have held : state.waiting = some waiting := waits
      exact absurd (by simpa [held] using same.symm) running
    · exact inv.awaited waiting waits record (mem_of_mem_filter old) same workload

/-- **Every sound step keeps the invariant, and settles the records it deletes.** -/
theorem handle_leaves {event : Event} (sound : Sound instances state event) :
    Leaving instances state.records (handle instances state event) := by
  cases event with
  | record =>
    simp only [handle]
    split
    · exact ⟨inv, settled_of_same rfl⟩
    · exact record_leaves inv ‹_›
  | start =>
    obtain ⟨workload, record, mem, rfl⟩ := sound
    refine ⟨inv.onHost (startPodInstance_moored.exec inv.moored) ?_, settled_of_same rfl⟩
    exact (startPodInstance_keeps (recorded_closed_start ⟨record, mem, workload, rfl⟩)).exec
      inv.recorded
  | stop id volumes driver =>
    have unloads : driver.lingers (nameOf instances id) = none := sound
    refine ⟨inv.onHost ((stopPodInstance_moored unloads).exec inv.moored) ?_, settled_of_same rfl⟩
    exact (stopPodInstance_keeps (unloads ▸ recorded_closed_stop)).exec inv.recorded
  | exit id removed left =>
    exact ⟨inv.onHost (moored_exit inv.moored removed left) fun displayName here =>
      inv.recorded displayName (here_of_exit here), settled_of_same rfl⟩
  | relaunch =>
    exact ⟨inv.onHost (moored_relaunch inv.moored) fun displayName here =>
      inv.recorded displayName (here_of_relaunch here), settled_of_same rfl⟩
  | ended => exact cleanup_leaves inv sound
  | poll => exact poll_leaves inv sound
  | boot => exact boot_leaves inv sound

end Keeping

/-- **In every run of sound steps a record is deleted only when nothing of its instance is
left, and whatever is left is on record.** -/
theorem deleted_only_when_gone (instances : InstanceId → Instance) (events : List Event)
    (sound : (machine instances).Along (Sound instances) .initial events) :
    (machine instances).Along (Leaves instances) .initial events := by
  apply (machine instances).along_of_preserves (I := Inv instances) _ _ _ _ sound inv_initial
  · intro state event inv sound
    exact (handle_leaves inv sound).1
  · intro state event inv sound
    obtain ⟨after, settled⟩ := handle_leaves inv sound
    exact ⟨settled, after.recorded⟩

def exportJob (_ : InstanceId) : Instance := ⟨.job, "clinic-export-1a2b3c4d"⟩

def exportId : InstanceId := 0x1a2b3c4d#128

def inTime (kinds : List ObsKind) : Poll where
  expired := false
  observations id := kinds.map fun kind => ⟨0, id, kind⟩
  driver := calm
  deletes := true

/-- The job runs, its operation ends and it is stopped, the wait going on until then. -/
def tornDown : List Event :=
  [.record exportId "backup", .start exportId [] calm, .ended "backup" true true,
    .poll (inTime [.containerRunning]), .stop exportId [] calm,
    .poll (inTime [.containerRunning, .containerRemoved])]

/-- The record of the job outlives it, and is then deleted. -/
theorem torn_down_is_deleted : (machine exportJob).Along (Leaves exportJob) .initial tornDown ∧
      ((machine exportJob).run .initial (tornDown.take 5)).records = [⟨exportId, "backup"⟩] ∧
      ((machine exportJob).run .initial tornDown).records = [] := by
  refine ⟨deleted_only_when_gone exportJob tornDown ?_, by decide, by decide⟩
  exact ⟨trivial, ⟨rfl, ⟨exportId, "backup"⟩, by decide, rfl⟩, fun _ => .inl rfl, nofun, rfl,
    nofun, trivial⟩

def stopFails : Driver :=
  { calm with fails := fun _ request => request = .stopUnit (unitName "clinic-export-1a2b3c4d") }

def neverStops : List Event :=
  [.record exportId "backup", .start exportId [] calm, .ended "backup" true true,
    .stop exportId [] stopFails, .poll { inTime [.containerRunning] with expired := true }]

/-- A host on which a unit that is asked to stop takes a while to do so. -/
def slowStop : Driver :=
  { calm with lingers := fun _ => some .deactivating, outlives := fun _ => true }

/-- The daemon is restarted while the job runs, and its operation is not replayed. -/
def restarted : List Event :=
  [.record exportId "backup", .start exportId [] calm, .boot none true true slowStop]

/-- After a wait that has run out the job runs on with no record of it; and a restart that
does not wait for the unit leaves the unit and the network with none. -/
theorem deleted_while_running : (((machine exportJob).run .initial neverStops).records = [] ∧
      ((machine exportJob).run .initial neverStops).host.running "clinic-export-1a2b3c4d" ∧
      ¬ (machine exportJob).Along (Leaves exportJob) .initial neverStops) ∧
    ((machine exportJob).run .initial restarted).records = [] ∧
      ((machine exportJob).run .initial restarted).host.units
        (unitName "clinic-export-1a2b3c4d") = some .deactivating ∧
      podNetworkName "clinic-export-1a2b3c4d" ∈
        ((machine exportJob).run .initial restarted).host.networks ∧
      ¬ (machine exportJob).Along (Leaves exportJob) .initial restarted := by
  refine ⟨⟨by decide, by decide, ?_⟩, by decide, by decide, by decide, ?_⟩
  · rintro ⟨_, _, _, _, leaves, _⟩
    have gone := leaves.deleted ⟨exportId, "backup"⟩ (by decide) rfl (by decide)
    exact absurd gone.disconnected (by decide)
  · rintro ⟨_, _, leaves, _⟩
    have gone := leaves.deleted ⟨exportId, "backup"⟩ (by decide) rfl (by decide)
    exact absurd gone.disconnected (by decide)

end Seedling.Reconcile.DynamicCleanup
