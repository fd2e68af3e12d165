import Seedling.Instances.Lifecycle

/-!
# The stored history of a pod

Each tick observes a pod, turns what it sees into observations and stores those whose
kind is not among the ones already written for the instance.  A start of the pod, or a
retirement that is stuck, empties the set of written kinds, and a restart of the daemon
fills it from the stored history.

`observed_health_derived` is what is derived at each tick of every run.  A pod that turned
unhealthy and is healthy again may stay `running`, its health check having been written before.
-/

namespace Seedling.Reconcile.PodHistory

open Foundation Instances List

/-! ## Facts -/

inductive ContainerStatus where
  | created
  | running
  | paused
  | exited
  | stopping
  | unknown
deriving DecidableEq

inductive ContainerHealth where
  | none
  | starting
  | healthy
  | unhealthy
deriving DecidableEq

structure ContainerState where
  status : ContainerStatus
  health : ContainerHealth
  pid : Option Nat
  exitCode : Option Int
  specHash : Option String
deriving DecidableEq

inductive ActiveState where
  | active
  | activating
  | deactivating
  | inactive
  | failed
deriving DecidableEq

structure UnitState where
  active : ActiveState
  sub : String
  restarts : Option Nat
deriving DecidableEq

inductive ObservationFact where
  | containerMissing
  | containerCreated
  | containerRunning (pid : Nat)
  | containerExited (exitCode : Int)
  | containerHealthy
  | containerUnhealthy
  | containerPresentIndeterminate
  | containerSpecHash (hash : String)
  | networkPresent
  | networkMissing
  | unitActive
  | unitInactive
  | unitFailed
  | unitStartLimitHit
  | unitGone
  | unitRestartCounter (count : Nat)
deriving DecidableEq

def ObservationFact.toObsKinds : ObservationFact → List ObsKind
  | .containerCreated => [.containerCreated]
  | .containerRunning _ => [.containerRunning]
  | .containerExited _ => [.containerExited]
  | .containerHealthy => [.healthCheckPass]
  | .containerUnhealthy => [.healthCheckFail]
  | .containerMissing => [.containerRemoved]
  | .unitFailed => [.unitFailed]
  | .unitStartLimitHit => [.unitStartLimitHit]
  | .containerSpecHash _ | .containerPresentIndeterminate | .networkPresent | .networkMissing
  | .unitActive | .unitInactive | .unitGone | .unitRestartCounter _ => []

/-- What the container runtime and the supervisor say of a pod. -/
structure Probe where
  netExists : Bool
  container : Option ContainerState
  unit : Option UnitState
deriving DecidableEq

def lifecycleFact (container : ContainerState) : ObservationFact :=
  match container.status with
  | .created | .paused => .containerCreated
  | .running => .containerRunning (container.pid.getD 0)
  | .exited => .containerExited (container.exitCode.getD (-1))
  | .stopping | .unknown => .containerPresentIndeterminate

/-- A running container with no health check is healthy. -/
def healthFacts (container : ContainerState) : List ObservationFact :=
  match container.health with
  | .healthy => [.containerHealthy]
  | .unhealthy => [.containerUnhealthy]
  | .none => if container.status = .running then [.containerHealthy] else []
  | .starting => []

def containerFacts : Option ContainerState → List ObservationFact
  | none => [.containerMissing]
  | some container =>
    [lifecycleFact container] ++
      (if container.status = .running then
        (container.specHash.map ObservationFact.containerSpecHash).toList
      else []) ++ healthFacts container

def unitFact : Option UnitState → ObservationFact
  | none => .unitGone
  | some unit =>
    match unit.active with
    | .inactive | .deactivating => .unitInactive
    | .active | .activating => .unitActive
    | .failed => if unit.sub = "start-limit-hit" then .unitStartLimitHit else .unitFailed

theorem unitFact_cases (unit : Option UnitState) :
    unitFact unit ∈ [.unitGone, .unitInactive, .unitActive, .unitFailed, .unitStartLimitHit] := by
  cases unit with
  | none => decide
  | some =>
    rw [unitFact]
    split
    case h_5 => split <;> decide
    all_goals decide

def observePodInstance (probe : Probe) : List ObservationFact :=
  [if probe.netExists then .networkPresent else .networkMissing] ++
    containerFacts probe.container ++ [unitFact probe.unit] ++
      ((probe.unit.bind UnitState.restarts).map ObservationFact.unitRestartCounter).toList

/-! ## Acting on a pod -/

structure Pod where
  id : InstanceId
  isJob : Bool

def Pod.kind (pod : Pod) : ResourceKind := if pod.isJob then .job else .deployment

/-- One tick: what probing the pod gave, if it did not fail, the state that is wanted of
it, and what else acting on it depends on. -/
structure Tick where
  time : Int
  probe : Option Probe
  desired : LifecycleState
  specStale : Bool
  inhibitStop : Bool
  crashLooped : Bool
  startSucceeds : Bool

/-- The stored observations of the pod in the order of insertion, the kinds already
written, and what is remembered of a job. -/
structure State where
  history : List WorldObservation
  written : List ObsKind
  startedJob : Bool
  completedJob : Bool
deriving DecidableEq

/-- What acting on the pod adds: a stop that is recorded, a start, a completed job. -/
structure Actuation where
  stopSent : Bool
  started : Bool
  completedJob : Bool

def Actuation.idle : Actuation := ⟨false, false, false⟩

def isRunning (probe : Probe) : Bool := probe.container.any (·.status = .running)

def actuateOnePod (pod : Pod) (tick : Tick) (probe : Probe) (state : State) : Actuation :=
  let hasExited := probe.container.any (·.status = .exited)
  let previouslyRan := .containerRunning ∈ state.written || state.startedJob
  let isDone := hasExited ||
    (probe.container.isNone && !isRunning probe && previouslyRan) || state.completedJob
  let unitFailed := unitFact probe.unit = .unitFailed
  let unitActive := unitFact probe.unit = .unitActive
  let startLimitHit := unitFact probe.unit = .unitStartLimitHit
  -- the spec hash is compared of a running container only
  let specStale := isRunning probe && tick.specStale
  if pod.isJob && tick.desired = .ready && isDone then { Actuation.idle with completedJob := true }
  else if (startLimitHit || tick.crashLooped) && tick.desired = .ready then .idle
  else
    match tick.desired with
    | .ready =>
      if !isRunning probe || specStale then
        if specStale && tick.inhibitStop then .idle
        else if unitFailed || unitActive || specStale then .idle
        else { Actuation.idle with started := tick.startSucceeds }
      else .idle
    | .unscheduled =>
      { Actuation.idle with
        stopSent := isRunning probe || probe.container.isSome || probe.netExists }
    | _ => .idle

/-! ## Storing observations -/

/-- Store an observation unless its kind is written already. -/
def persistOne (id : InstanceId) (time : Int) (state : State) (kind : ObsKind) : State :=
  if kind ∈ state.written then state
  else
    { state with
      history := state.history ++ [⟨time, id, kind⟩]
      written := kind :: state.written }

def persistObs (id : InstanceId) (time : Int) (kinds : List ObsKind) (state : State) : State :=
  kinds.foldl (persistOne id time) state

def observations (probe : Probe) (actuation : Actuation) : List ObsKind :=
  (observePodInstance probe).flatMap ObservationFact.toObsKinds ++
    if actuation.stopSent then [.stopSent] else []

def ingest (pod : Pod) (tick : Tick) (probe : Probe) (state : State) : State :=
  let actuation := actuateOnePod pod tick probe state
  let state := persistObs pod.id tick.time (observations probe actuation) state
  let state :=
    if actuation.started then
      { state with
        written := []
        completedJob := false
        startedJob := state.startedJob || pod.isJob }
    else state
  if actuation.completedJob then { state with completedJob := true, startedJob := false }
  else state

/-! ## Runs -/

def State.derived (pod : Pod) (state : State) : LifecycleState :=
  deriveLifecycleState pod.kind (sortBy WorldObservation.recordedAt state.history)

/-- The kinds that are taken for written when the daemon starts.  A text that is not
known is not one of them. -/
def seedWrittenObs (history : List WorldObservation) : List ObsKind :=
  (history.map WorldObservation.obsKind).filter fun
    | .other _ => false
    | _ => true

def boot (history : List WorldObservation) : State :=
  ⟨history, seedWrittenObs history, false, false⟩

def retireEligible (pod : Pod) (state : State) : Bool :=
  state.derived pod = .unscheduled || state.history = [] ||
    state.history.any fun observation =>
      observation.obsKind = .containerRemoved || observation.obsKind = .networkCleanedUp

/-- The retirement of a pod in excess: its records are deleted, if that succeeds, or what
is written is forgotten while the pod is stuck terminating. -/
def retire (pod : Pod) (deletes : Bool) (state : State) : State :=
  if retireEligible pod state then
    if deletes then { state with history := [], written := [] } else state
  else if state.derived pod = .terminating || state.derived pod = .terminated then
    { state with written := [] }
  else state

/-- What happens to a pod: a tick, its retirement, the deletion of its records by the
sweep, and a restart of the daemon. -/
inductive Event where
  | tick (tick : Tick)
  | retire (deletes : Bool)
  | sweep
  | restart

def handle (pod : Pod) (state : State) : Event → State
  | .tick tick =>
    match tick.probe with
    | none => state
    | some probe => ingest pod tick probe state
  | .retire deletes => retire pod deletes state
  | .sweep => { state with history := [], written := [] }
  | .restart => boot state.history

def machine (pod : Pod) : Machine State Event Unit where
  step := fun state event => ((), handle pod state event)

/-! ## Deriving while storing -/

/-- The stored observations are in the order of their timestamps. -/
def State.InOrder (state : State) : Prop :=
  state.history.Pairwise fun first second => first.recordedAt ≤ second.recordedAt

instance (state : State) : Decidable state.InOrder :=
  inferInstanceAs (Decidable (state.history.Pairwise _))

/-- The clock of a tick is not behind the stored observations. -/
def OnTime (state : State) : Event → Prop
  | .tick tick => ∀ observation ∈ state.history, observation.recordedAt ≤ tick.time
  | _ => True

variable {pod : Pod} {state : State} {time : Int} {kind : ObsKind}

theorem derived_eq_foldl (inOrder : state.InOrder) :
    state.derived pod = (state.history.foldl observeContainer (.pending, none)).1 := by
  have sorted : sortBy WorldObservation.recordedAt state.history = state.history :=
    mergeSort_of_pairwise (inOrder.imp decide_eq_true)
  rw [State.derived, sorted]
  cases job : pod.isJob with
  | false | true => simp only [Pod.kind, job]; rfl

/-- The state after one more observation. -/
def observeKind (current : LifecycleState) (kind : ObsKind) : LifecycleState :=
  (observeContainer (current, none) ⟨0, 0, kind⟩).1

/-- The time of the last transition has no say in the next. -/
theorem observeContainer_fst (current : Derived) (observation : WorldObservation) :
    (observeContainer current observation).1 = observeKind current.1 observation.obsKind := by
  obtain ⟨current, since⟩ := current
  simp only [observeContainer, advance]
  cases current <;> cases observation.obsKind <;> rfl

/-- The history is in order and ends by the given time. -/
structure State.By (time : Int) (state : State) : Prop where
  inOrder : state.InOrder
  past : ∀ observation ∈ state.history, observation.recordedAt ≤ time

variable (ordered : state.By time)
include ordered

theorem State.By.persistOne (kind : ObsKind) : (persistOne pod.id time state kind).By time := by
  rw [PodHistory.persistOne]
  split
  case isTrue => exact ordered
  case isFalse =>
    constructor
    · refine pairwise_append.mpr ⟨ordered.inOrder, pairwise_singleton _ _, ?_⟩
      intro old present added mem
      rw [mem_singleton.mp mem]
      exact ordered.past old present
    · intro observation mem
      rcases mem_append.mp mem with old | added
      · exact ordered.past observation old
      · rw [mem_singleton.mp added]

theorem derived_persistOne (kind : ObsKind) : (persistOne pod.id time state kind).derived pod =
      if kind ∈ state.written then state.derived pod
      else observeKind (state.derived pod) kind := by
  have after : (PodHistory.persistOne pod.id time state kind).By time := ordered.persistOne kind
  rw [derived_eq_foldl after.inOrder, derived_eq_foldl ordered.inOrder, persistOne]
  split
  case isTrue => rfl
  case isFalse => rw [foldl_append, foldl_cons, foldl_nil, observeContainer_fst]

theorem State.By.persistObs (kinds : List ObsKind) :
    (persistObs pod.id time kinds state).By time := by
  induction kinds generalizing state with
  | nil => exact ordered
  | cons kind kinds ih => exact ih (ordered.persistOne kind)

variable {kinds : List ObsKind}

/-- A state that each kind of a batch leaves is derived after it too. -/
theorem derived_persistObs_of_kept
    (kept : ∀ kind ∈ kinds, observeKind (state.derived pod) kind = state.derived pod) :
    (persistObs pod.id time kinds state).derived pod = state.derived pod := by
  induction kinds generalizing state with
  | nil => rfl
  | cons kind kinds ih =>
    have same : (persistOne pod.id time state kind).derived pod = state.derived pod := by
      rw [derived_persistOne ordered, kept kind (mem_cons_self ..), ite_self]
    have rest := ih (ordered.persistOne kind) fun later mem => by
      rw [same]
      exact kept later (mem_cons_of_mem _ mem)
    exact rest.trans same

omit ordered in
theorem observeKind_ne_ready {current : LifecycleState} (notReady : current ≠ .ready)
    (notPass : kind ≠ .healthCheckPass) : observeKind current kind ≠ .ready := by
  cases kind <;> cases current <;> first | contradiction | (intro same; cases same)

theorem derived_persistObs_ne_ready (notReady : state.derived pod ≠ .ready)
    (noPass : .healthCheckPass ∉ kinds) :
    (persistObs pod.id time kinds state).derived pod ≠ .ready := by
  induction kinds generalizing state with
  | nil => exact notReady
  | cons kind kinds ih =>
    rw [mem_cons, not_or] at noPass
    apply ih (ordered.persistOne kind) _ noPass.2
    rw [derived_persistOne ordered]
    split
    · exact notReady
    · exact observeKind_ne_ready notReady (Ne.symm noPass.1)

omit ordered

/-! ## Ticks that see the pod run -/

/-- The container was seen running, and of the given health. -/
def Tick.sawRunning (tick : Tick) (health : ObservationFact) : Prop :=
  ∃ probe, tick.probe = some probe ∧ isRunning probe ∧ health ∈ observePodInstance probe

variable {probe : Probe}

theorem isRunning_iff : isRunning probe ↔
    ∃ container, probe.container = some container ∧ container.status = .running := by
  rw [isRunning]
  cases probe.container with
  | none | some => simp

variable {container : ContainerState}

/-- What a tick stores of a running container: that it runs, its health, what its unit
says, and a stop. -/
theorem observations_running (found : probe.container = some container)
    (status : container.status = .running) (actuation : Actuation) :
    observations probe actuation = .containerRunning ::
        ((healthFacts container).flatMap ObservationFact.toObsKinds ++
          ((unitFact probe.unit).toObsKinds ++
            if actuation.stopSent then [.stopSent] else [])) := by
  have hash : ((container.specHash.map ObservationFact.containerSpecHash).toList).flatMap
      ObservationFact.toObsKinds = [] := by
    cases container.specHash <;> rfl
  have counter : (((probe.unit.bind UnitState.restarts).map
      ObservationFact.unitRestartCounter).toList).flatMap ObservationFact.toObsKinds = [] := by
    cases probe.unit.bind UnitState.restarts <;> rfl
  have network : (if probe.netExists then ObservationFact.networkPresent
      else .networkMissing).toObsKinds = [] := by
    cases probe.netExists <;> rfl
  have running : (lifecycleFact container).toObsKinds = [.containerRunning] := by
    rw [lifecycleFact, status]
    rfl
  rw [observations, observePodInstance, found, containerFacts, if_pos status]
  simp only [flatMap_append, flatMap_cons, network, running, hash,
    counter, nil_append, cons_append, append_assoc]

variable {health : ObservationFact}

theorem healthFacts_of_mem (found : probe.container = some container)
    (isHealth : health = .containerHealthy ∨ health = .containerUnhealthy)
    (mem : health ∈ observePodInstance probe) : healthFacts container = [health] := by
  have listed : health ∈ healthFacts container := by
    simp only [observePodInstance, containerFacts, found, mem_append, mem_singleton] at mem
    rcases isHealth with rfl | rfl
    all_goals
      rcases mem with ((network | (lifecycle | hash) | listed) | unit) | counter
      · split at network <;> cases network
      · rw [lifecycleFact] at lifecycle
        split at lifecycle <;> cases lifecycle
      · split at hash
        · cases given : container.specHash <;> simp at hash
        · cases hash
      · exact listed
      · have cases := unitFact_cases probe.unit
        rw [← unit] at cases
        exact absurd cases (by decide)
      · cases given : probe.unit.bind UnitState.restarts <;> simp [given] at counter
  rw [healthFacts] at listed ⊢
  split at listed <;> simp_all

theorem derived_ingest (tick : Tick) (probe : Probe) : (ingest pod tick probe state).derived pod =
      (persistObs pod.id tick.time (observations probe (actuateOnePod pod tick probe state))
        state).derived pod := by
  rw [ingest]
  split
  · split <;> rfl
  · split <;> rfl

variable {tick : Tick}

theorem desired_of_stopSent (sent : (actuateOnePod pod tick probe state).stopSent) :
    tick.desired = .unscheduled := by
  rw [actuateOnePod] at sent
  split at sent
  · cases sent
  · split at sent
    · cases sent
    · split at sent
      · split at sent
        · split at sent
          · cases sent
          · split at sent <;> cases sent
        · cases sent
      · rename_i unscheduled
        exact unscheduled
      · cases sent

theorem unitKinds_cases {unit : Option UnitState} {kind : ObsKind}
    (mem : kind ∈ (unitFact unit).toObsKinds) :
    kind = .unitFailed ∨ kind = .unitStartLimitHit := by
  have cases := unitFact_cases unit
  generalize unitFact unit = fact at cases mem
  simp only [mem_cons, not_mem_nil, or_false] at cases
  rcases cases with rfl | rfl | rfl | rfl | rfl
  · cases mem
  · cases mem
  · cases mem
  · exact .inl (mem_singleton.mp mem)
  · exact .inr (mem_singleton.mp mem)

theorem mem_written_persistOne {other : ObsKind} (different : other ≠ kind) (id : InstanceId) :
    other ∈ (persistOne id time state kind).written ↔ other ∈ state.written := by
  rw [persistOne]
  split
  · exact Iff.rfl
  · rw [mem_cons]
    exact or_iff_right different

/-- Seen running, a pod stays ready, and does not become one that terminates. -/
theorem derived_persist_running (pod : Pod) (ordered : state.By time) :
    (state.derived pod = .ready →
      (persistOne pod.id time state .containerRunning).derived pod = .ready) ∧
    (state.derived pod ≠ .terminating →
      (persistOne pod.id time state .containerRunning).derived pod ≠ .terminating) := by
  rw [derived_persistOne ordered]
  split
  · exact ⟨fun same => same, fun same => same⟩
  · cases state.derived pod <;> decide

theorem observeKind_pass {current : LifecycleState} (notTerminating : current ≠ .terminating) :
    observeKind current .healthCheckPass = .ready := by
  cases current <;> first | contradiction | rfl

theorem derived_ingest_running {result : LifecycleState} (ordered : state.By tick.time)
    (found : probe.container = some container) (status : container.status = .running)
    (facts : healthFacts container = [health]) (stores : health.toObsKinds = [kind])
    (wanted : tick.desired ≠ .unscheduled)
    (derived : (persistOne pod.id tick.time (persistOne pod.id tick.time state .containerRunning)
      kind).derived pod = result) (active : result = .running ∨ result = .ready) :
    (ingest pod tick probe state).derived pod = result := by
  have noStop : (actuateOnePod pod tick probe state).stopSent = false := by
    rw [← Bool.not_eq_true]
    exact fun sent => wanted (desired_of_stopSent sent)
  rw [derived_ingest, observations_running found status, facts, noStop]
  simp only [flatMap_singleton, stores, Bool.false_eq_true, if_false, append_nil]
  refine (derived_persistObs_of_kept ((ordered.persistOne _).persistOne _) ?_).trans derived
  intro kind mem
  rw [derived]
  rcases active with rfl | rfl
  · rcases unitKinds_cases mem with rfl | rfl <;> rfl
  · rcases unitKinds_cases mem with rfl | rfl <;> rfl

/-- **Healthy.** Seen running and healthy, a pod that is not being stopped is ready, if
it was before or if no passing health check is written. -/
theorem tick_healthy (ordered : state.By tick.time) (found : probe.container = some container)
    (status : container.status = .running) (health : healthFacts container = [.containerHealthy])
    (wanted : tick.desired ≠ .unscheduled) (notTerminating : state.derived pod ≠ .terminating)
    (fresh : .healthCheckPass ∈ state.written → state.derived pod = .ready) :
    (ingest pod tick probe state).derived pod = .ready := by
  obtain ⟨staysReady, staysWanted⟩ := derived_persist_running pod ordered
  refine derived_ingest_running ordered found status health rfl wanted ?_ (.inr rfl)
  rw [derived_persistOne (ordered.persistOne _)]
  split
  case isTrue written =>
    exact staysReady (fresh ((mem_written_persistOne (by decide) _).mp written))
  case isFalse => exact observeKind_pass (staysWanted notTerminating)

/-- **Unhealthy.** Seen running and unhealthy, a pod is not ready, if it was not before or
if no failing health check is written. -/
theorem tick_unhealthy (ordered : state.By tick.time) (found : probe.container = some container)
    (status : container.status = .running) (health : healthFacts container = [.containerUnhealthy])
    (fresh : .healthCheckFail ∈ state.written → state.derived pod ≠ .ready) :
    (ingest pod tick probe state).derived pod ≠ .ready := by
  rw [derived_ingest, observations_running found status, health]
  simp only [flatMap_singleton, ObservationFact.toObsKinds, singleton_append]
  have orderedFirst : (persistOne pod.id tick.time state .containerRunning).By tick.time :=
    ordered.persistOne _
  apply derived_persistObs_ne_ready (orderedFirst.persistOne .healthCheckFail)
  · rw [derived_persistOne orderedFirst]
    split
    case isTrue written =>
      have notReady := fresh ((mem_written_persistOne (by decide) _).mp written)
      rw [derived_persistOne ordered]
      split
      · exact notReady
      · exact observeKind_ne_ready notReady (by decide)
    case isFalse =>
      generalize (persistOne pod.id tick.time state .containerRunning).derived pod = current
      cases current <;> decide
  · intro mem
    rcases mem_append.mp mem with unit | stop
    · rcases unitKinds_cases unit with same | same <;> cases same
    · split at stop
      · cases mem_singleton.mp stop
      · cases stop

/-! ## Whole runs -/

variable {event : Event}

theorem handle_inOrder (inOrder : state.InOrder) (onTime : OnTime state event) :
    ((machine pod).next state event).InOrder := by
  cases event with
  | tick tick =>
    change (handle pod state (.tick tick)).InOrder
    rw [handle]
    split
    · exact inOrder
    · have ordered : state.By tick.time := ⟨inOrder, onTime⟩
      rename_i probe _
      have stored : (persistObs pod.id tick.time
          (observations probe (actuateOnePod pod tick probe state)) state).InOrder :=
        (ordered.persistObs _).inOrder
      rw [ingest]
      split
      · split <;> exact stored
      · split <;> exact stored
  | retire deletes =>
    change (retire pod deletes state).InOrder
    rw [retire]
    split
    · split
      · exact .nil
      · exact inOrder
    · split <;> exact inOrder
  | sweep => exact .nil
  | restart => exact inOrder

/-- What is derived after a tick: a pod seen running and healthy is ready, unless it is
being stopped; one seen running and unhealthy is not.  Nothing is said of a health check
that is written already and was overtaken since. -/
def Derives (pod : Pod) (state : State) : Event → Prop
  | .tick tick =>
    (tick.sawRunning .containerHealthy → tick.desired ≠ .unscheduled →
      state.derived pod ≠ .terminating →
        (.healthCheckPass ∈ state.written → state.derived pod = .ready) →
          ((machine pod).next state (.tick tick)).derived pod = .ready) ∧
    (tick.sawRunning .containerUnhealthy →
      (.healthCheckFail ∈ state.written → state.derived pod ≠ .ready) →
        ((machine pod).next state (.tick tick)).derived pod ≠ .ready)
  | _ => True

theorem derives_of_inOrder (inOrder : state.InOrder) (onTime : OnTime state event) :
    Derives pod state event := by
  cases event with
  | tick tick =>
    have ordered : state.By tick.time := ⟨inOrder, onTime⟩
    have ingested {probe : Probe} (given : tick.probe = some probe) :
        (machine pod).next state (.tick tick) = ingest pod tick probe state := by
      change handle pod state (.tick tick) = _
      rw [handle, given]
    constructor
    · rintro ⟨probe, given, running, healthy⟩ wanted notTerminating fresh
      obtain ⟨container, found, status⟩ := isRunning_iff.mp running
      rw [ingested given]
      exact tick_healthy ordered found status
        (healthFacts_of_mem found (.inl rfl) healthy) wanted notTerminating fresh
    · rintro ⟨probe, given, running, unhealthy⟩ fresh
      obtain ⟨container, found, status⟩ := isRunning_iff.mp running
      rw [ingested given]
      exact tick_unhealthy ordered found status
        (healthFacts_of_mem found (.inr rfl) unhealthy) fresh
  | retire | sweep | restart => trivial

/-- **What is observed is derived**, at each tick of every run whose clock does not go
back. -/
theorem observed_health_derived (pod : Pod) (history : List WorldObservation)
    (inOrder : (boot history).InOrder) (events : List Event)
    (onTime : (machine pod).Along OnTime (boot history) events) :
    (machine pod).Along (Derives pod) (boot history) events :=
  (machine pod).along_of_preserves (fun _ _ => handle_inOrder) (fun _ _ => derives_of_inOrder)
    (boot history) events onTime inOrder

/-! ## A pod that is being stopped -/

/-- A pod seen running and healthy is ready after the tick, and one seen running and
unhealthy is not, whatever is asked of it. -/
def DerivesAlways (pod : Pod) (state : State) : Event → Prop
  | .tick tick =>
    (tick.sawRunning .containerHealthy →
      ((machine pod).next state (.tick tick)).derived pod = .ready) ∧
    (tick.sawRunning .containerUnhealthy →
      ((machine pod).next state (.tick tick)).derived pod ≠ .ready)
  | _ => True

def servingProbe : Probe where
  netExists := true
  container := some ⟨.running, .healthy, some 42, none, none⟩
  unit := some ⟨.active, "running", some 0⟩

def servingTick (time : Int) (desired : LifecycleState) : Tick where
  time := time
  probe := some servingProbe
  desired := desired
  specStale := false
  inhibitStop := false
  crashLooped := false
  startSucceeds := true

def servingPod : Pod := ⟨5#128, false⟩

theorem serving_health_derived : (machine servingPod).Along (Derives servingPod) (boot [])
      [.tick (servingTick 0 .ready), .restart, .tick (servingTick 1 .ready)] := by
  refine observed_health_derived servingPod [] .nil _ ⟨?_, trivial, ?_, trivial⟩
  · intro observation mem
    cases mem
  · change ∀ observation ∈ _, _
    decide

/-- A tick that finds the pod serving and is to unschedule it sends a stop, and the pod
is terminating. -/
theorem stopped_not_ready : ¬ (machine servingPod).Along (DerivesAlways servingPod) (boot [])
      [.tick (servingTick 0 .unscheduled)] := by
  rintro ⟨⟨ready, -⟩, -⟩
  have derived := ready ⟨servingProbe, rfl, by decide, by decide⟩
  have inOrder : ((machine servingPod).next (boot [])
      (.tick (servingTick 0 .unscheduled))).InOrder :=
    handle_inOrder .nil (fun observation mem => by cases mem)
  rw [derived_eq_foldl inOrder] at derived
  revert derived
  decide

end Seedling.Reconcile.PodHistory
