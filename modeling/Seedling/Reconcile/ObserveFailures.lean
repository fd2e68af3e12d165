import Mathlib.Data.List.Induction
import Mathlib.Data.List.Nodup
import Seedling.Foundation.Machine
import Seedling.Identity

/-!
# Observations that keep failing

A pod whose observation fails on three ticks in a row is to become a fault.  The streaks
of all apps are in one map, and ingesting the results of one app drops the streak of
every instance that is not among that app's failures.

* `Counted.tick`: while no app's results are ingested over the streaks of another's
  instances, each streak is at least the number of ticks the instance failed in a row;
* `failures_become_faults`: then three ticks make a fault.
-/

namespace Seedling.Reconcile.ObserveFailures

open Foundation Function List Machine

/-! ## Ingesting results -/

/-- What the pod phase of an app reports of its observations: those that failed, with
their errors, and the instances whose unit was observed healthy. -/
structure PodUpdate where
  observeFailures : List (ResourceInstance × String)
  unitHealthy : List ResourceInstance

/-- How many consecutive ticks an observation must fail before it becomes a fault. -/
def observeFaultAfterFailures : Nat := 3

/-- The consecutive failures of each instance, none for one that is not in the map. -/
abbrev Streaks := InstanceId → Nat

def isFailing (failures : List (ResourceInstance × String)) (id : InstanceId) : Bool :=
  failures.any fun failure => failure.1.id = id

/-- One failure: its streak grows by one, and it escalates from three on. -/
def countFailure (counted : List (ResourceInstance × String) × Streaks)
    (failure : ResourceInstance × String) : List (ResourceInstance × String) × Streaks :=
  let streak := counted.2 failure.1.id + 1
  (if observeFaultAfterFailures ≤ streak then counted.1 ++ [failure] else counted.1,
    update counted.2 failure.1.id streak)

/-- Drop the streaks of the instances that are not failing, count the failures, and
return those that escalate. -/
def escalateObserveFailures (streaks : Streaks) (failures : List (ResourceInstance × String)) :
    List (ResourceInstance × String) × Streaks :=
  failures.foldl countFailure ([], fun id => if isFailing failures id then streaks id else 0)

/-- The streaks, and which instances of an app have an active `observe_failed` fault. -/
structure State where
  streaks : Streaks
  faults : String → InstanceId → Bool

def fileUnitFailureFaults (app : String) (healthy : List ResourceInstance) (state : State) :
    State :=
  { state with
    faults := fun other id =>
      state.faults other id && !(decide (other = app) && healthy.any (·.id = id)) }

def filePodActuationFaults (app : String) (failures : List (ResourceInstance × String))
    (state : State) : State :=
  let escalated := escalateObserveFailures state.streaks failures
  { streaks := escalated.2
    faults := fun other id =>
      state.faults other id || (decide (other = app) && isFailing escalated.1 id) }

def ingest (state : State) (result : String × PodUpdate) : State :=
  filePodActuationFaults result.1 result.2.observeFailures
    (fileUnitFailureFaults result.1 result.2.unitHealthy state)

/-! ## What ingesting does to a streak -/

variable (failures : List (ResourceInstance × String))
include failures

theorem isFailing_iff (id : InstanceId) :
    isFailing failures id ↔ ∃ failure ∈ failures, failure.1.id = id := by
  simp [isFailing]

variable {id : InstanceId}

theorem countFailures_other (absent : isFailing failures id = false)
    (counted : List (ResourceInstance × String) × Streaks) :
    (failures.foldl countFailure counted).2 id = counted.2 id ∧
      isFailing (failures.foldl countFailure counted).1 id = isFailing counted.1 id := by
  induction failures generalizing counted with
  | nil => exact ⟨rfl, rfl⟩
  | cons failure failures ih =>
    rw [isFailing, any_cons, Bool.or_eq_false_iff, decide_eq_false_iff_not] at absent
    obtain ⟨streak, escalated⟩ := ih absent.2 (countFailure counted failure)
    rw [foldl_cons, streak, escalated]
    refine ⟨update_of_ne (fun same => absent.1 same.symm) _ _, ?_⟩
    rw [countFailure]
    split
    · simp [isFailing, absent.1]
    · rfl

theorem countFailures_grow (id : InstanceId) (counted : List (ResourceInstance × String) × Streaks) :
    counted.2 id ≤ (failures.foldl countFailure counted).2 id ∧ (isFailing counted.1 id →
        isFailing (failures.foldl countFailure counted).1 id) := by
  induction failures generalizing counted with
  | nil => exact ⟨Nat.le_refl _, fun escalated => escalated⟩
  | cons failure failures ih =>
    obtain ⟨grows, keeps⟩ := ih (countFailure counted failure)
    have step : counted.2 id ≤ (countFailure counted failure).2 id := by
      by_cases same : id = failure.1.id
      · subst same
        simp [countFailure]
      · simp [countFailure, update_of_ne same]
    refine ⟨Nat.le_trans step grows, fun escalated => keeps ?_⟩
    rw [countFailure]
    split
    · rw [isFailing, any_append, Bool.or_eq_true]
      exact .inl escalated
    · exact escalated

theorem countFailures_own (failing : isFailing failures id)
    (counted : List (ResourceInstance × String) × Streaks) :
    counted.2 id + 1 ≤ (failures.foldl countFailure counted).2 id ∧
      (observeFaultAfterFailures ≤ counted.2 id + 1 →
        isFailing (failures.foldl countFailure counted).1 id) := by
  induction failures generalizing counted with
  | nil => cases failing
  | cons failure failures ih =>
    by_cases own : failure.1.id = id
    · subst own
      obtain ⟨grows, keeps⟩ :=
        countFailures_grow failures failure.1.id (countFailure counted failure)
      have counts : (countFailure counted failure).2 failure.1.id =
          counted.2 failure.1.id + 1 := update_self _ _ _
      refine ⟨counts ▸ grows, fun escalates => keeps ?_⟩
      rw [countFailure, if_pos escalates]
      simp [isFailing]
    · have later : isFailing failures id := by
        simpa [isFailing, own] using failing
      have unchanged : (countFailure counted failure).2 id = counted.2 id :=
        update_of_ne (fun same => own same.symm) _ _
      rw [← unchanged]
      exact ih later _

omit failures

variable {state : State} {app : String} {result : PodUpdate} {id : InstanceId}

/-- A failing instance of the app: its streak grows, and from three on it has a fault. -/
theorem ingest_failing (failing : isFailing result.observeFailures id) :
    state.streaks id + 1 ≤ (ingest state (app, result)).streaks id ∧
      (observeFaultAfterFailures ≤ state.streaks id + 1 →
        (ingest state (app, result)).faults app id) := by
  have counts := countFailures_own result.observeFailures failing
    ([], fun id => if isFailing result.observeFailures id then state.streaks id else 0)
  simp only [failing] at counts
  refine ⟨counts.1, fun escalates => ?_⟩
  have escalated := counts.2 escalates
  simp [ingest, filePodActuationFaults, escalateObserveFailures, fileUnitFailureFaults, escalated]

/-- An instance that is not among the failures, of the app or of any other, loses its
streak. -/
theorem streaks_ingest_of_not_failing (observed : isFailing result.observeFailures id = false) :
    (ingest state (app, result)).streaks id = 0 := by
  have counts := (countFailures_other result.observeFailures observed
    ([], fun id => if isFailing result.observeFailures id then state.streaks id else 0)).1
  dsimp only at counts
  rw [observed] at counts
  exact counts

theorem faults_ingest_of_ne {other : String} (different : other ≠ app) :
    (ingest state (app, result)).faults other id = state.faults other id := by
  simp [ingest, filePodActuationFaults, fileUnitFailureFaults, different]

/-! ## Ticks

An instance belongs to one app, `owner`, whose results alone name it. -/

/-- A tick: the faults the operator cleared before it, and the results of the apps that
were reconciled, each app once. -/
structure Tick (owner : InstanceId → String) where
  cleared : List (String × InstanceId)
  results : List (String × PodUpdate)
  distinct : (results.map Prod.fst).Nodup
  owned : ∀ result ∈ results, ∀ failure ∈ result.2.observeFailures, owner failure.1.id = result.1

variable {owner : InstanceId → String}

def Tick.failed (tick : Tick owner) (id : InstanceId) : Bool :=
  tick.results.any fun result => isFailing result.2.observeFailures id

def clearFaults (cleared : List (String × InstanceId)) (state : State) : State :=
  { state with faults := fun app id => state.faults app id && !decide ((app, id) ∈ cleared) }

def ingestion : Machine State (String × PodUpdate) Unit where
  step := fun state result => ((), ingest state result)

def machine (owner : InstanceId → String) : Machine State (Tick owner) Unit where
  step := fun state tick => ((), ingestion.run (clearFaults tick.cleared state) tick.results)

variable (faults : String → InstanceId → Bool)

/-- A daemon starts with no streaks, and with the faults it finds. -/
def initial : State := ⟨fun _ => 0, faults⟩

/-- On how many ticks in a row, up to the last, the instance's observation failed. -/
def failedInARow (ticks : List (Tick owner)) (id : InstanceId) : Nat :=
  (ticks.reverse.takeWhile (·.failed id)).length

theorem failedInARow_concat (ticks : List (Tick owner)) (tick : Tick owner) (id : InstanceId) :
    failedInARow (ticks ++ [tick]) id =
      if tick.failed id then failedInARow ticks id + 1 else 0 := by
  rw [failedInARow, reverse_append, reverse_singleton, singleton_append, takeWhile_cons]
  split
  · rfl
  · rfl

/-! ## What a tick does to a streak -/

/-- No instance of another app than the one whose results are ingested has a streak. -/
def Undisturbed (owner : InstanceId → String) (state : State) (result : String × PodUpdate) :
    Prop :=
  ∀ id, state.streaks id ≠ 0 → owner id = result.1

/-- Each app's results are ingested undisturbed. -/
def UndisturbedTick (state : State) (tick : Tick owner) : Prop :=
  ingestion.Along (Undisturbed owner) (clearFaults tick.cleared state) tick.results

theorem not_isFailing_of_owner {result : String × PodUpdate}
    (owned : ∀ failure ∈ result.2.observeFailures, owner failure.1.id = result.1)
    (other : owner id ≠ result.1) : isFailing result.2.observeFailures id = false := by
  rw [← Bool.not_eq_true, isFailing_iff]
  rintro ⟨failure, mem, same⟩
  exact other (same ▸ owned failure mem)

/-- What there is about one instance: its streak, and whether it has a fault. -/
def State.about (owner : InstanceId → String) (state : State) (id : InstanceId) : Nat × Bool :=
  (state.streaks id, state.faults (owner id) id)

theorem about_ingestion_others (results : List (String × PodUpdate))
    (owned : ∀ result ∈ results, ∀ failure ∈ result.2.observeFailures,
      owner failure.1.id = result.1)
    (others : ∀ result ∈ results, owner id ≠ result.1) {state : State}
    (undisturbed : ingestion.Along (Undisturbed owner) state results) :
    (ingestion.run state results).about owner id = state.about owner id := by
  induction results generalizing state with
  | nil => rfl
  | cons result results ih =>
    obtain ⟨here, later⟩ := undisturbed
    have other := others result (mem_cons_self ..)
    have none : state.streaks id = 0 := by
      by_contra streak
      exact other (here id streak)
    have dropped : (ingest state result).streaks id = 0 :=
      streaks_ingest_of_not_failing (not_isFailing_of_owner (owned result (mem_cons_self ..)) other)
    have faults : (ingest state result).faults (owner id) id = state.faults (owner id) id :=
      faults_ingest_of_ne other
    rw [run_cons, ih (fun result mem => owned result (mem_cons_of_mem _ mem))
      (fun result mem => others result (mem_cons_of_mem _ mem)) later]
    change ((ingest state result).streaks id, (ingest state result).faults (owner id) id) =
      (state.streaks id, state.faults (owner id) id)
    rw [dropped, none, faults]

/-- In an undisturbed tick, the results of an instance's own app are ingested with its
streak as it was before the tick, and what they make of it is left. -/
theorem about_tick {tick : Tick owner} (undisturbed : UndisturbedTick state tick)
    (mem : (owner id, result) ∈ tick.results) :
    ∃ middle : State, middle.streaks id = state.streaks id ∧
      ((machine owner).next state tick).about owner id =
        (ingest middle (owner id, result)).about owner id := by
  obtain ⟨before, after, split⟩ := append_of_mem mem
  have distinct := tick.distinct
  have owned := tick.owned
  rw [split, map_append, map_cons, nodup_middle, nodup_cons, mem_append, not_or] at distinct
  rw [split] at owned
  rw [UndisturbedTick, split, along_append] at undisturbed
  obtain ⟨quietBefore, -, quietAfter⟩ := undisturbed
  have others (apps : List (String × PodUpdate)) (absent : owner id ∉ apps.map Prod.fst) :
      ∀ result ∈ apps, owner id ≠ result.1 := by
    intro result mem same
    exact absent (same ▸ mem_map_of_mem mem)
  have keptBefore := about_ingestion_others before
    (fun result mem => owned result (mem_append_left _ mem))
    (others before distinct.1.1) quietBefore
  have keptAfter := about_ingestion_others after
    (fun result mem => owned result (mem_append_right _ (mem_cons_of_mem _ mem)))
    (others after distinct.1.2) quietAfter
  refine ⟨_, congrArg Prod.fst keptBefore, ?_⟩
  change (ingestion.run (clearFaults tick.cleared state) tick.results).about owner id = _
  rw [split, run_append]
  exact keptAfter

/-! ## Streaks count the ticks -/

/-- Every streak is at least the number of ticks the observation failed in a row, and
three of them have made a fault. -/
def Counted (ticks : List (Tick owner)) (state : State) : Prop :=
  ∀ id, failedInARow ticks id ≤ state.streaks id ∧
    (observeFaultAfterFailures ≤ failedInARow ticks id → state.faults (owner id) id)

theorem Counted.tick {ticks : List (Tick owner)} {tick : Tick owner}
    (counted : Counted ticks state) (undisturbed : UndisturbedTick state tick) :
    Counted (ticks ++ [tick]) ((machine owner).next state tick) := by
  intro id
  rw [failedInARow_concat]
  split
  case isFalse => exact ⟨Nat.zero_le _, fun reached => absurd reached (by decide)⟩
  case isTrue failed =>
    obtain ⟨⟨app, result⟩, mem, failing⟩ := any_eq_true.mp failed
    obtain ⟨failure, listed, same⟩ := (isFailing_iff _ _).mp failing
    obtain rfl : owner id = app := same ▸ tick.owned _ mem failure listed
    obtain ⟨middle, streak, about⟩ := about_tick undisturbed mem
    obtain ⟨streakAfter, faultAfter⟩ := Prod.mk.injEq .. ▸ about
    have own : middle.streaks id + 1 ≤ (ingest middle (owner id, result)).streaks id ∧
        (observeFaultAfterFailures ≤ middle.streaks id + 1 →
          (ingest middle (owner id, result)).faults (owner id) id) :=
      ingest_failing failing
    rw [streakAfter, faultAfter]
    rw [streak] at own
    have upToDate := (counted id).1
    exact ⟨Nat.le_trans (Nat.succ_le_succ upToDate) own.1,
      fun reached => own.2 (Nat.le_trans reached (Nat.succ_le_succ upToDate))⟩

theorem run_counted (ticks : List (Tick owner))
    (undisturbed : (machine owner).Along UndisturbedTick (initial faults) ticks) :
    Counted ticks ((machine owner).run (initial faults) ticks) := by
  induction ticks using reverseRecOn with
  | nil =>
    intro id
    exact ⟨Nat.le_refl 0, fun reached => absurd reached (show ¬ 3 ≤ 0 by decide)⟩
  | append_singleton ticks tick ih =>
    rw [along_append] at undisturbed
    rw [run_append]
    exact (ih undisturbed.1).tick undisturbed.2.1

/-! ## Failures become faults -/

/-- After the ticks, an instance that failed on three of them in a row has a fault, and
one that did not fail when its app was last reconciled starts from zero. -/
def Escalates (ticks : List (Tick owner)) : Prop :=
  (∀ id, 3 ≤ failedInARow ticks id →
    ((machine owner).run (initial faults) ticks).faults (owner id) id) ∧
  ∀ before last id, ticks = before ++ [last] → last.failed id = false →
    owner id ∈ last.results.map Prod.fst →
      ((machine owner).run (initial faults) ticks).streaks id = 0

/-- **Failures become faults.** While no app's results are ingested over the streaks of
another app's instances, three failing ticks in a row make a fault, and a tick that
observes the instance starts its count again. -/
theorem failures_become_faults (owner : InstanceId → String)
    (faults : String → InstanceId → Bool) (ticks : List (Tick owner))
    (undisturbed : (machine owner).Along UndisturbedTick (initial faults) ticks) :
    Escalates faults ticks := by
  refine ⟨fun id => (run_counted faults ticks undisturbed id).2, ?_⟩
  rintro before last id rfl observed reconciled
  obtain ⟨⟨app, result⟩, mem, own⟩ := mem_map.mp reconciled
  obtain rfl : app = owner id := own
  have succeeded : isFailing result.observeFailures id = false :=
    Bool.eq_false_iff.mpr (any_eq_false.mp observed _ mem)
  rw [along_append] at undisturbed
  obtain ⟨middle, -, about⟩ := about_tick undisturbed.2.1 mem
  rw [run_append]
  exact (congrArg Prod.fst about).trans (streaks_ingest_of_not_failing succeeded)

def stuck : ResourceInstance := .newScaled 1#128 "web" .deployment "front"

def aloneTick : Tick fun _ => "web" where
  cleared := []
  results := [("web", ⟨[(stuck, "podman: timed out")], []⟩)]
  distinct := List.nodup_singleton _
  owned := by
    intro result member failure _
    rw [List.mem_singleton.mp member]

theorem alone_failures_become_faults : 3 ≤ failedInARow [aloneTick, aloneTick, aloneTick] stuck.id ∧
      Escalates (fun _ _ => false) [aloneTick, aloneTick, aloneTick] := by
  have undisturbed (state : State) : UndisturbedTick state aloneTick := ⟨fun _ _ => rfl, trivial⟩
  refine ⟨by decide, failures_become_faults _ _ _ ?_⟩
  exact ⟨undisturbed _, undisturbed _, undisturbed _, trivial⟩

def twoApps (id : InstanceId) : String := if id = 2#128 then "blog" else "web"

/-- A tick that reconciles `web`, whose instance fails, and then `blog`, where nothing
does. -/
def besideTick : Tick twoApps where
  cleared := []
  results := [("web", ⟨[(stuck, "podman: timed out")], []⟩), ("blog", ⟨[], []⟩)]
  distinct := by decide
  owned := by decide

/-- `blog` has no failures, so ingesting its results drops the streak of `web`'s instance:
after three failing ticks there is no fault. -/
theorem beside_failures_no_fault :
    ¬ Escalates (fun _ _ => false) [besideTick, besideTick, besideTick] := by
  intro escalates
  have fault := escalates.1 stuck.id (by decide)
  revert fault
  decide

end Seedling.Reconcile.ObserveFailures
