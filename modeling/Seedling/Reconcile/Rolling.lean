import Seedling.Reconcile.PodHistory

/-!
# Rolling updates

A deployment of scale `n` whose instances run an old specification is brought to the new
one while it serves.  Each tick computes how many instances there should be, splits the
instances into those kept and those in excess by their stored histories, decides from
what it observes which stale ones must not be stopped, and acts on each.

A tick leaves the stale instances alone, or it stops one
(`computeStopInhibitions_cases`).
-/

namespace Seedling.Reconcile.Rolling

open Foundation Instances List
open PodHistory (Probe Pod ObservationFact observePodInstance unitFact actuateOnePod ingest
  retireEligible retire)

/-! ## Instances -/

/-- An instance of the deployment: what probing it gives, whether its container was made
from an older specification, and its stored history. -/
structure Instance where
  id : Nat
  probe : Probe
  oldSpec : Bool
  history : PodHistory.State
deriving DecidableEq

namespace Instance

variable (inst : Instance)

def pod : Pod := ⟨BitVec.ofNat 128 inst.id, false⟩

def isRunning : Bool := PodHistory.isRunning inst.probe

/-- The specification is compared of a running container only. -/
def specStale : Bool := inst.isRunning && inst.oldSpec

/-- The health of a container is reported whether or not it runs. -/
def observedHealthy : Bool :=
  .containerHealthy ∈ observePodInstance inst.probe

def isServing : Bool := inst.isRunning && inst.observedHealthy

def ready : Bool := inst.history.derived inst.pod = .ready

def minted (id : Nat) : Instance := ⟨id, ⟨false, none, none⟩, false, PodHistory.boot []⟩

end Instance

/-- The instances in the order of creation, and whether the last tick found the update
active. -/
structure State where
  rolling : Bool
  nextId : Nat
  instances : List Instance
deriving DecidableEq

/-- What probing gives of a container that does not run. -/
abbrev IdleProbe := { probe : Probe // PodHistory.isRunning probe = false }

/-- What a tick is given: the clock, the two sets that also decide on the scale, which
instances can be observed, which are in a crash loop, and what is there after a stop or a
start that did not fail. -/
structure Round where
  time : Int
  replaceFailed : Bool
  unhealthyReplace : Bool
  observes : Nat → Bool
  crashLooped : Nat → Bool
  afterStop : Nat → Option IdleProbe
  afterStart : Nat → Option Probe

/-! ## The group -/

def saturatingSucc (scale : Nat) : Nat := min (scale + 1) 65535

/-- The scale, and one more for each of the two reasons to have a replacement, unless
replacements were found to fail; scales are 16 bits. -/
def effectiveScale (declared : UInt16) (rolling : Bool) (round : Round) : Nat :=
  let scale := declared.toNat
  if round.replaceFailed then scale
  else
    let scale := if rolling then saturatingSucc scale else scale
    if round.unhealthyReplace then saturatingSucc scale else scale

/-- The instances and as many new ones as are missing. -/
def ensured (count : Nat) (state : State) : List Instance :=
  state.instances ++ (List.range (count - state.instances.length)).map fun offset =>
    Instance.minted (state.nextId + offset)

/-- The ready ones first, each in the order of creation. -/
def readyFirst (instances : List Instance) : List Instance :=
  instances.filter (·.ready) ++ instances.filter (!·.ready)

section Group

variable (declared : UInt16) (state : State) (round : Round)

def group : List Instance := ensured (effectiveScale declared state.rolling round) state

def kept : List Instance :=
  (readyFirst (group declared state round)).take (effectiveScale declared state.rolling round)

def demoted : List Instance :=
  (readyFirst (group declared state round)).drop (effectiveScale declared state.rolling round)

def isKept (inst : Instance) : Bool := inst.id ∈ (kept declared state round).map (·.id)

end Group

/-! ## The inhibition of stops -/

/-- The stale instances that must not be stopped, and whether the update is active: all
of them while an instance of the new specification is awaited, and then all but the
first. -/
def computeStopInhibitions (kept demoted : List Instance) : List Nat × Bool :=
  let staleRunning := ((kept ++ demoted).filter (·.specStale)).map (·.id)
  let currentReady := kept.filter (!·.specStale)
  let currentHealthy := currentReady.countP (·.observedHealthy)
  let currentPending := currentReady.length - currentHealthy
  match staleRunning with
  | [] => ([], false)
  | victim :: _ =>
    if currentHealthy = 0 then (staleRunning, true)
    else if currentPending > 0 then (staleRunning, true)
    else
      let inhibited := staleRunning.filter (· ≠ victim)
      (inhibited, inhibited ≠ [])

/-! ## Acting on an instance -/

section Acting

variable (round : Round) (inhibited : List Nat) (keeps : Bool) (inst : Instance)

def podTick : PodHistory.Tick where
  time := round.time
  probe := if round.observes inst.id then some inst.probe else none
  desired := if keeps then .ready else .unscheduled
  specStale := inst.oldSpec
  inhibitStop := inst.id ∈ inhibited
  crashLooped := round.crashLooped inst.id
  startSucceeds := (round.afterStart inst.id).isSome

/-- An instance that is to be ready has its unit torn down when that is broken, or when
the specification is stale and the stop is not inhibited. -/
def stopsBroken : Bool :=
  let unit := unitFact inst.probe.unit
  keeps && !(unit = .unitStartLimitHit || round.crashLooped inst.id) &&
    (!inst.isRunning || inst.specStale) &&
    !(inst.specStale && inst.id ∈ inhibited) &&
    (unit = .unitFailed || unit = .unitActive || inst.specStale)

def actuation : PodHistory.Actuation :=
  actuateOnePod inst.pod (podTick round inhibited keeps inst) inst.probe
    inst.history

def stops : Bool :=
  round.observes inst.id && ((actuation round inhibited keeps inst).stopSent ||
      stopsBroken round inhibited keeps inst)

/-- What is there afterwards.  A new container is made from the new specification. -/
def actuate : Instance :=
  if !round.observes inst.id then inst
  else if (actuation round inhibited keeps inst).started then
    match round.afterStart inst.id with
    | some probe => { inst with probe := probe, oldSpec := false }
    | none => inst
  else if stops round inhibited keeps inst then
    match round.afterStop inst.id with
    | some idle => { inst with probe := idle.1 }
    | none => inst
  else inst

def recorded : PodHistory.State :=
  if round.observes inst.id then
    ingest inst.pod (podTick round inhibited keeps inst) inst.probe inst.history
  else inst.history

/-- The instance after the tick.  One in excess is deleted once its history says that it
is gone. -/
def settle : Option Instance :=
  let history := recorded round inhibited keeps inst
  let after := actuate round inhibited keeps inst
  if keeps then some { after with history := history }
  else if retireEligible inst.pod history then none
  else some { after with history := retire inst.pod false history }

end Acting

/-! ## Ticks -/

section Tick

variable (declared : UInt16) (state : State) (round : Round)

/-- Only what was observed has a say in the inhibition. -/
def inhibitions : List Nat × Bool :=
  computeStopInhibitions ((kept declared state round).filter (round.observes ·.id))
    ((demoted declared state round).filter (round.observes ·.id))

def tick : State where
  rolling := (inhibitions declared state round).2
  nextId := state.nextId + (effectiveScale declared state.rolling round - state.instances.length)
  instances := (group declared state round).filterMap fun inst =>
    settle round (inhibitions declared state round).1 (isKept declared state round inst)
      inst

end Tick

/-- How a container changes between ticks.  One that serves goes on serving, one of the
old specification that was stopped does not come back, and nothing is asked of one that
was started. -/
def mayBecome (inst : Instance) (probe : Probe) : Bool :=
  if inst.isServing then { inst with probe := probe }.isServing
  else !inst.oldSpec || !PodHistory.isRunning probe

inductive Event where
  | tick (round : Round)
  | become (id : Nat) (probe : Probe)

def become (id : Nat) (probe : Probe) (inst : Instance) : Instance :=
  if inst.id = id && mayBecome inst probe then { inst with probe := probe }
  else inst

def handle (declared : UInt16) (state : State) : Event → State
  | .tick round => tick declared state round
  | .become id probe => { state with instances := state.instances.map (become id probe) }

def machine (declared : UInt16) : Machine State Event Unit where
  step := fun state event => ((), handle declared state event)

/-! ## While all are kept -/

def advance (round : Round) (inhibited : List Nat) (inst : Instance) : Instance :=
  { actuate round inhibited true inst with
    history := recorded round inhibited true inst }

section Kept

variable {declared : UInt16} {state : State} {round : Round}

theorem readyFirst_perm (instances : List Instance) : (readyFirst instances).Perm instances :=
  filter_append_perm _ _

theorem length_readyFirst_group : (readyFirst (group declared state round)).length =
      max state.instances.length (effectiveScale declared state.rolling round) := by
  rw [(readyFirst_perm _).length_eq, group, ensured, length_append, length_map, length_range]
  omega

variable (fits : state.instances.length ≤ effectiveScale declared state.rolling round)

include fits

theorem kept_eq : kept declared state round = readyFirst (group declared state round) := by
  apply take_of_length_le
  rw [length_readyFirst_group]
  omega

theorem demoted_eq_nil : demoted declared state round = [] := by
  apply drop_of_length_le
  rw [length_readyFirst_group]
  omega

variable {inst : Instance}

theorem mem_kept :
    inst ∈ kept declared state round ↔ inst ∈ group declared state round := by
  rw [kept_eq fits]
  exact (readyFirst_perm _).mem_iff

theorem isKept_of_mem (mem : inst ∈ group declared state round) :
    isKept declared state round inst :=
  decide_eq_true (mem_map_of_mem ((mem_kept fits).mpr mem))

theorem tick_instances : (tick declared state round).instances =
      (group declared state round).map (advance round (inhibitions declared state round).1) := by
  rw [← filterMap_eq_map]
  apply filterMap_congr
  intro inst mem
  rw [isKept_of_mem fits mem]
  rfl

theorem inhibitions_eq (observed : ∀ inst ∈ group declared state round,
      round.observes inst.id) :
    inhibitions declared state round =
      computeStopInhibitions (kept declared state round) [] := by
  rw [inhibitions, demoted_eq_nil fits, filter_nil, filter_eq_self.mpr]
  intro inst mem
  exact observed inst ((mem_kept fits).mp mem)

end Kept

/-! ## One stop at a time -/

/-- Some instances are not stale, and each of these reports that it is healthy. -/
def Settled (instances : List Instance) : Prop :=
  (∃ current ∈ instances, current.specStale = false) ∧
    ∀ current ∈ instances, current.specStale = false → current.observedHealthy

variable {kept : List Instance}

theorem settled_of_healthy (some' : (kept.filter (!·.specStale)).countP (·.observedHealthy) ≠ 0)
    (all : ¬ (kept.filter (!·.specStale)).length - (kept.filter (!·.specStale)).countP
      (·.observedHealthy) > 0) : Settled kept := by
  have bound := (kept.filter (!·.specStale)).countP_le_length (p := (·.observedHealthy))
  have whole := countP_eq_length.mp (by omega :
    (kept.filter (!·.specStale)).countP (·.observedHealthy) = _)
  obtain ⟨current, mem, -⟩ := countP_pos_iff.mp (Nat.pos_of_ne_zero some')
  obtain ⟨listed, notStale⟩ := mem_filter.mp mem
  refine ⟨⟨current, listed, by simpa using notStale⟩, ?_⟩
  intro other here current'
  exact whole other (mem_filter.mpr ⟨here, by simp [current']⟩)

/-- A tick leaves every stale instance alone, or it finds the others healthy and stops
one.  The update is active while a stop is inhibited. -/
theorem computeStopInhibitions_cases (stale : ∃ old ∈ kept, old.specStale) :
    ((computeStopInhibitions kept []).2 ∧
      ∀ old ∈ kept, old.specStale → old.id ∈ (computeStopInhibitions kept []).1) ∨
    (Settled kept ∧
      (∃ victim, ∀ old ∈ kept, old.specStale → old.id ≠ victim →
        old.id ∈ (computeStopInhibitions kept []).1 ∧
          (computeStopInhibitions kept []).2) ∧
      ((computeStopInhibitions kept []).2 → ∃ old ∈ kept, old.specStale ∧
        old.id ∈ (computeStopInhibitions kept []).1)) := by
  have listed : ∀ old ∈ kept, old.specStale →
      old.id ∈ (kept.filter (·.specStale)).map (·.id) :=
    fun old mem isStale => mem_map_of_mem (mem_filter.mpr ⟨mem, isStale⟩)
  simp only [computeStopInhibitions, append_nil]
  split
  case h_1 none =>
    obtain ⟨old, mem, isStale⟩ := stale
    have absurd' := listed old mem isStale
    rw [none] at absurd'
    cases absurd'
  case h_2 victim _ _ =>
    split_ifs with noneHealthy somePending
    · exact .inl ⟨rfl, listed⟩
    · exact .inl ⟨rfl, listed⟩
    · refine .inr ⟨settled_of_healthy noneHealthy somePending, ⟨victim, ?_⟩, ?_⟩
      · intro old mem isStale different
        have inhibited : old.id ∈ ((kept.filter (·.specStale)).map (·.id)).filter (· ≠ victim) :=
          mem_filter.mpr ⟨listed old mem isStale, decide_eq_true different⟩
        exact ⟨inhibited, decide_eq_true (ne_nil_of_mem inhibited)⟩
      · intro active
        obtain ⟨id, inhibited⟩ := exists_mem_of_ne_nil _ (of_decide_eq_true active)
        obtain ⟨old, here, rfl⟩ := mem_map.mp (mem_filter.mp inhibited).1
        exact ⟨old, (mem_filter.mp here).1, (mem_filter.mp here).2, inhibited⟩

theorem computeStopInhibitions_none {demoted : List Instance}
    (none : ∀ inst ∈ kept ++ demoted, inst.specStale = false) :
    computeStopInhibitions kept demoted = ([], false) := by
  have empty : (kept ++ demoted).filter (·.specStale) = [] :=
    filter_eq_nil_iff.mpr fun inst mem => by simp [none inst mem]
  simp [computeStopInhibitions, empty]

/-! ## Kept instances -/

section Acting

variable {round : Round} {inhibited : List Nat} {inst : Instance}

theorem Instance.isServing_iff :
    inst.isServing ↔ inst.isRunning ∧ inst.observedHealthy :=
  Bool.and_eq_true_iff

theorem Instance.specStale_iff :
    inst.specStale ↔ inst.isRunning ∧ inst.oldSpec :=
  Bool.and_eq_true_iff

theorem stopSent_kept : (actuation round inhibited true inst).stopSent = false := by
  simp only [actuation, actuateOnePod]
  split_ifs <;> rfl

theorem not_started_of_running (running : inst.isRunning) :
    (actuation round inhibited true inst).started = false := by
  have probed : PodHistory.isRunning inst.probe := running
  simp only [actuation, actuateOnePod, podTick, probed, Bool.not_true,
    Bool.false_or, Bool.true_and]
  cases old : inst.oldSpec with
  | false =>
    simp only [Bool.false_eq_true, if_false]
    split_ifs <;> rfl
  | true =>
    simp only [Bool.or_true]
    split_ifs <;> rfl

/-- An instance that runs and is to be ready is stopped only if it is stale and that is
not inhibited. -/
theorem not_stops_of_inhibited (round : Round) (running : inst.isRunning)
    (spared : inst.specStale → inst.id ∈ inhibited) :
    stops round inhibited true inst = false := by
  simp only [stops, stopSent_kept, stopsBroken, running, Bool.not_true]
  cases stale : inst.specStale with
  | false => simp
  | true => simp [spared stale]

theorem actuate_of_not_stops (running : inst.isRunning)
    (notStopped : stops round inhibited true inst = false) :
    actuate round inhibited true inst = inst := by
  simp [actuate, not_started_of_running running, notStopped]

theorem not_started_of_excess : (actuation round inhibited false inst).started = false := by
  simp [actuation, actuateOnePod, podTick, PodHistory.Actuation.idle]

theorem oldSpec_actuate {keeps : Bool}
    (notStarted : (actuation round inhibited keeps inst).started = false) :
    (actuate round inhibited keeps inst).oldSpec = inst.oldSpec := by
  rw [actuate, notStarted]
  split_ifs <;> first | rfl | contradiction | split <;> rfl

theorem actuate_cases (round : Round) (inhibited : List Nat) (inst : Instance) :
    actuate round inhibited true inst = inst ∨
      (actuate round inhibited true inst).oldSpec = false ∨
      (actuate round inhibited true inst).isRunning = false := by
  rw [actuate]
  split_ifs
  · exact .inl rfl
  · split
    · exact .inr (.inl rfl)
    · exact .inl rfl
  · split
    case h_1 idle _ => exact .inr (.inr idle.2)
    case h_2 => exact .inl rfl
  · exact .inl rfl

@[simp]
theorem id_actuate {keeps : Bool} : (actuate round inhibited keeps inst).id = inst.id := by
  rw [actuate]
  split_ifs <;> first | rfl | split <;> rfl

end Acting

end Seedling.Reconcile.Rolling
