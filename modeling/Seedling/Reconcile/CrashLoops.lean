import Seedling.Identity

/-!
# Crash-loop faults

The restart counters of an app's units are compared with stored baselines, and what moved is
recorded.  An instance whose recoveries within the window reach the threshold is reported,
and the fault phase files a `crash_loop` fault for it.  The same phase then clears the
faults of the instances whose container was seen running, so that a container that flaps
keeps its fault only while it is seen down (`fault_active_iff`).
-/

namespace Seedling.Reconcile.CrashLoops

open Function List

/-! ## Restart accounting -/

inductive Cause where
  | recovery
  | deliberate
deriving DecidableEq

structure RestartSettings where
  threshold : Nat
  windowSecs : Int

/-- Of each instance: the counter at the last look, and the restarts recorded, with their
times in milliseconds, in the order of time and then of insertion. -/
structure Restarts where
  baseline : InstanceId → Option Nat
  records : InstanceId → List (Cause × Int)

def retainPerInstance : Nat := 50

def Restarts.record (restarts : Restarts) (id : InstanceId) (cause : Cause) (at' : Int) :
    Restarts :=
  let held := restarts.records id
  let rows := held.takeWhile (·.2 ≤ at') ++ (cause, at') :: held.dropWhile (·.2 ≤ at')
  { restarts with
    records := update restarts.records id (rows.drop (rows.length - retainPerInstance)) }

def Restarts.setBaseline (restarts : Restarts) (id : InstanceId) (count : Nat) : Restarts :=
  { restarts with baseline := update restarts.baseline id (some count) }

def Restarts.recentRecoveryCount (restarts : Restarts) (id : InstanceId) (now windowSecs : Int) :
    Nat :=
  (restarts.records id).countP fun row => row.1 = .recovery && now - windowSecs * 1000 ≤ row.2

inductive CrashLoopCause where
  | restartRate (count : Nat) (windowSecs : Int)
  | startLimitHit

structure CrashLoop where
  instance' : ResourceInstance
  cause : CrashLoopCause

/-- A start of an instance that has been seen before is a deliberate restart, and its new
unit counts from zero. -/
def rebaseline (now : Int) (restarts : Restarts) (instance' : ResourceInstance) : Restarts :=
  match restarts.baseline instance'.id with
  | some _ => (restarts.record instance'.id .deliberate now).setBaseline instance'.id 0
  | none => restarts

/-- The restarts a counter tells of: none at the first sight of a unit, and all it holds if
it went backwards. -/
def newRestarts (previous : Option Nat) (observed : Nat) : Nat :=
  match previous with
  | none => 0
  | some previous => if observed < previous then observed else observed - previous

variable (settings : RestartSettings)

/-- Account for one counter; the instance is reported if its recoveries have reached the
threshold.  The restarts of a burst are a millisecond apart. -/
def reconcileCounter (now : Int) (started : List ResourceInstance)
    (progress : List CrashLoop × Restarts) (counter : ResourceInstance × Nat) :
    List CrashLoop × Restarts :=
  let (loops, restarts) := progress
  let id := counter.1.id
  if started.any (·.id = id) then (loops, restarts)
  else
    let fresh := newRestarts (restarts.baseline id) counter.2
    let restarts := restarts.setBaseline id counter.2
    if fresh = 0 then (loops, restarts)
    else
      let restarts := (range fresh).foldl (fun restarts n =>
        restarts.record id .recovery (now - ((fresh : Int) - 1 - n))) restarts
      let count := restarts.recentRecoveryCount id now settings.windowSecs
      if settings.threshold ≤ count then
        (loops ++ [⟨counter.1, .restartRate count settings.windowSecs⟩], restarts)
      else (loops, restarts)

def reconcileCounters (now : Int) (restarts : Restarts) (counters : List (ResourceInstance × Nat))
    (started : List ResourceInstance) :
    List CrashLoop × Restarts :=
  counters.foldl (reconcileCounter settings now started)
    ([], started.foldl (rebaseline now) restarts)

/-! ## The fault phase -/

/-- What the pod phase reports: the counters, the instances started, those whose unit has
hit its start limit, and those that are to be ready and were seen running. -/
structure PodUpdate where
  restartCounters : List (ResourceInstance × Nat)
  startedInstances : List ResourceInstance
  crashLoops : List CrashLoop
  unitHealthy : List ResourceInstance

def addUnlessListed {Row : Type} (key : Row → InstanceId) (rows : List Row) (row : Row) :
    List Row :=
  if rows.any (key · = key row) then rows else rows ++ [row]

/-- The loops to file, those told by their rate after those told by the start limit. -/
def recordRestarts (update : PodUpdate) (rateLoops : List CrashLoop) : List CrashLoop :=
  rateLoops.foldl (addUnlessListed (·.instance'.id)) update.crashLoops

def CrashLoop.description (loop : CrashLoop) : String :=
  let name := loop.instance'.displayName
  match loop.cause with
  | .restartRate count windowSecs =>
    s!"{name} restarted {count} times in the last {windowSecs / 60} " ++
      "minutes. Auto-recovery is paused until this fault is cleared."
  | .startLimitHit =>
    s!"systemd hit start-limit for {name}: too many restarts in " ++
      "window. Auto-recovery is paused until this fault is cleared."

/-- The active `crash_loop` faults of the app: file one for each loop, and then clear those
of the instances that are healthy. -/
def applyCrashLoopFaults (faults : List (InstanceId × String)) (crashLoops : List CrashLoop)
    (unitHealthy : List ResourceInstance) : List (InstanceId × String) :=
  unitHealthy.foldl (fun faults healthy => faults.filter (·.1 ≠ healthy.id))
    (crashLoops.foldl (fun faults loop =>
      addUnlessListed Prod.fst faults (loop.instance'.id, loop.description)) faults)

def faultPhase (now : Int) (restarts : Restarts) (update : PodUpdate)
    (faults : List (InstanceId × String)) : List (InstanceId × String) :=
  applyCrashLoopFaults faults
    (recordRestarts update (reconcileCounters settings now restarts update.restartCounters
      update.startedInstances).1) update.unitHealthy

/-! ## Which faults are left -/

section Listed

variable {Row Source : Type} (key : Row → InstanceId)

def Listed (rows : List Row) (id : InstanceId) : Prop := ∃ row ∈ rows, key row = id

theorem listed_addUnlessListed (rows : List Row) (row : Row) (id : InstanceId) :
    Listed key (addUnlessListed key rows row) id ↔ Listed key rows id ∨ key row = id := by
  unfold addUnlessListed Listed
  split
  · rename_i listed
    refine ⟨.inl, ?_⟩
    rintro (before | rfl)
    · exact before
    · simpa using listed
  · simp

theorem listed_foldl_add (row : Source → Row) (sources : List Source) (rows : List Row)
    (id : InstanceId) :
    Listed key (sources.foldl (fun rows source => addUnlessListed key rows (row source)) rows) id ↔
      Listed key rows id ∨ ∃ source ∈ sources, key (row source) = id := by
  induction sources generalizing rows with
  | nil => simp
  | cons source sources ih =>
    rw [foldl_cons, ih, listed_addUnlessListed, exists_mem_cons_iff, or_assoc]

theorem mem_foldl_clear (healthy : List ResourceInstance) (faults : List (InstanceId × String))
    (fault : InstanceId × String) :
    fault ∈ healthy.foldl (fun faults healthy => faults.filter (·.1 ≠ healthy.id)) faults ↔
      fault ∈ faults ∧ ∀ instance' ∈ healthy, instance'.id ≠ fault.1 := by
  induction healthy generalizing faults with
  | nil => simp
  | cons first healthy ih =>
    rw [foldl_cons, ih, mem_filter, forall_mem_cons, decide_eq_true_eq, and_assoc,
      ne_comm]

end Listed

/-- **An instance that is reported has its fault after the phase exactly if it was not seen
running.** -/
theorem fault_active_iff (settings : RestartSettings) (now : Int) (restarts : Restarts)
    (update : PodUpdate) (faults : List (InstanceId × String)) (loop : CrashLoop)
    (reported : loop ∈ (reconcileCounters settings now restarts update.restartCounters
      update.startedInstances).1) :
    Listed Prod.fst (faultPhase settings now restarts update faults) loop.instance'.id ↔
      ∀ healthy ∈ update.unitHealthy, healthy.id ≠ loop.instance'.id := by
  obtain ⟨filed, mem, same⟩ := (listed_foldl_add (fun loop : CrashLoop => loop.instance'.id) id
    _ update.crashLoops _).mpr (.inr ⟨loop, reported, rfl⟩)
  constructor
  · rintro ⟨fault, active, own⟩
    exact own ▸ ((mem_foldl_clear ..).mp active).2
  · intro unseen
    obtain ⟨fault, present, own⟩ := (listed_foldl_add Prod.fst
      (fun loop : CrashLoop => (loop.instance'.id, loop.description)) _ faults _).mpr
        (.inr ⟨filed, mem, same⟩)
    exact ⟨fault, (mem_foldl_clear ..).mpr ⟨present, own ▸ unseen⟩, own⟩

def flapping : ResourceInstance := .newScaled 1#128 "web" .deployment "api"

def flappingTick (unitHealthy : List ResourceInstance) : PodUpdate :=
  ⟨[(flapping, 5)], [], [], unitHealthy⟩

def seenOnce : Restarts := ⟨fun _ => some 0, fun _ => []⟩

theorem flapping_down_faulted :
    Listed Prod.fst (faultPhase ⟨5, 1800⟩ 0 seenOnce (flappingTick []) []) flapping.id :=
  (fault_active_iff ⟨5, 1800⟩ 0 seenOnce (flappingTick []) [] ⟨flapping, .restartRate 5 1800⟩
    (mem_singleton.mpr rfl)).mpr nofun

/-- **A container that restarted five times and is seen running has no fault.** -/
theorem flapping_up_unfaulted :
    (reconcileCounters ⟨5, 1800⟩ 0 seenOnce [(flapping, 5)] []).1.map (·.instance') = [flapping] ∧
      faultPhase ⟨5, 1800⟩ 0 seenOnce (flappingTick [flapping]) [] = [] := by
  decide +kernel

end Seedling.Reconcile.CrashLoops
