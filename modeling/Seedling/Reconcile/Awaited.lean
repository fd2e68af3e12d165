import Seedling.Barrier.Handles
import Seedling.Barrier.Suspension
import Seedling.Reconcile.Snapshot

/-!
# What a barrier waits for is desired

During an operation the reconciler runs what the log of the operation makes desired: the
instances of its starts, unless a later stop names them.  A barrier waits for the
instances of the `Started` it is made on, and these were resolved in the pass that waits.

* `awaited_is_desired`: in a pass whose replayed starts resolve to what their entries
  record, every instance a start's barrier waits for is desired;
* `scaled_up_awaits_undesired`: scaled up between two passes, a deployment's barrier waits
  for a replica that nothing asks the reconciler to run.
-/

namespace Seedling.Reconcile

open Foundation Barrier List OperationProgress

/-! ## Desired by the log -/

/-- The log makes the instance desired ready, or a later stop takes it back. -/
def MadeDesired (log : List ActionLogEntry) (index : Nat) (resource : ResourceInstance) : Prop :=
  (resource, LifecycleState.ready) ∈ (OperationProgress.fromLog log).resources ∨
    ∃ later ∈ log, index < later.callIndex ∧ later.callKind = .stop ∧ resource ∈ later.resources

namespace OperationProgress

variable {progress : OperationProgress} {resource : ResourceInstance}

theorem mem_started_self (progress : OperationProgress) (resource : ResourceInstance) :
    (resource, .ready) ∈ (progress.started resource).resources :=
  mem_upsert_self _ _

variable (held : (resource, .ready) ∈ progress.resources)
include held

theorem mem_started (other : ResourceInstance) :
    (resource, .ready) ∈ (progress.started other).resources := by
  by_cases same : resource = other
  · subst same
    exact mem_started_self progress resource
  · exact mem_upsert_other held same

theorem mem_foldl_started (others : List ResourceInstance) :
    (resource, .ready) ∈ (others.foldl started progress).resources := by
  induction others generalizing progress with
  | nil => exact held
  | cons other others ih => exact ih (mem_started held other)

variable {others : List ResourceInstance}

theorem mem_foldl_stopped (apart : resource ∉ others) :
    (resource, .ready) ∈ (others.foldl stopped progress).resources := by
  induction others generalizing progress with
  | nil => exact held
  | cons other others ih =>
    rw [mem_cons, not_or] at apart
    exact ih (mem_upsert_other held apart.1) apart.2

omit held in
theorem mem_foldl_started_self (mem : resource ∈ others) :
    (resource, .ready) ∈ (others.foldl started progress).resources := by
  induction others generalizing progress with
  | nil => cases mem
  | cons other others ih =>
    rcases mem_cons.mp mem with rfl | later
    · exact mem_foldl_started (mem_started_self progress resource) others
    · exact ih later

theorem mem_record {entry : ActionLogEntry}
    (spared : entry.callKind = .stop → resource ∉ entry.resources) :
    (resource, .ready) ∈ (progress.record entry).resources := by
  rw [record]
  split
  case h_1 => exact mem_foldl_started held entry.resources
  case h_2 isStop => exact mem_foldl_stopped held (spared isStop)
  all_goals exact held

theorem mem_foldl_record {entries : List ActionLogEntry}
    (spared : ∀ entry ∈ entries, entry.callKind = .stop → resource ∉ entry.resources) :
    (resource, .ready) ∈ (entries.foldl record progress).resources := by
  induction entries generalizing progress with
  | nil => exact held
  | cons entry entries ih =>
    rw [forall_mem_cons] at spared
    exact ih (mem_record held spared.1) spared.2

end OperationProgress

/-- **An instance that a start records is desired**, unless a later stop names it. -/
theorem madeDesired_of_start {log : List ActionLogEntry} (soundLog : SoundLog log) {index : Nat}
    {entry : ActionLogEntry} (atIndex : log[index]? = some entry)
    (isStart : entry.callKind = .start) {resource : ResourceInstance}
    (recorded : resource ∈ entry.resources) : MadeDesired log index resource := by
  by_cases stopped : ∃ later ∈ log, index < later.callIndex ∧ later.callKind = .stop ∧
      resource ∈ later.resources
  · exact .inr stopped
  · refine .inl ?_
    obtain ⟨inside, rfl⟩ := List.getElem?_eq_some_iff.mp atIndex
    have split : log = log.take index ++ log[index] :: log.drop (index + 1) := by
      rw [getElem_cons_drop, take_append_drop]
    rw [fromLog, split, foldl_append, foldl_cons]
    apply mem_foldl_record
    · rw [record, isStart]
      exact mem_foldl_started_self recorded
    · intro later mem isStop named
      obtain ⟨offset, at_offset⟩ := getElem?_of_mem mem
      rw [getElem?_drop] at at_offset
      have position := soundLog.positional.key_eq at_offset
      exact stopped ⟨later, mem_of_getElem? at_offset, by omega, isStop, named⟩

/-! ## Barriers -/

/-- The pass suspends at what is asked for: a barrier on a `Started` of the call at
`index`, which waits for the condition. -/
inductive Waits (pass : Pass) : Asked → Nat → BarrierCondition → Prop where
  | suspends {ref : StartedRef} {method : BarrierMethod} {state : PassState} {started : Started}
      {index : Nat} {condition : BarrierCondition}
      (found : ref.lookup state.handles = some started)
      (origin : started.originIndex = some index) (first : state.barrierHit = false)
      (raised : (doBarrier (pass.env state.ticks) ref method state).1 =
        .error (.barrierHit condition)) :
      Waits pass (.call (.barrier ref method), state) index condition

variable {started : Started} {state : PassState} {condition : BarrierCondition}

/-- A barrier that is the first to suspend its pass waits for the instances of its
`Started`. -/
theorem checkBarrier_awaits {env : Env} {required : LifecycleState} {deadline : Option Nat}
    (first : state.barrierHit = false)
    (raised : (checkBarrier env started required deadline state).1 = .error (.barrierHit condition)) :
    condition.resources = started.resources := by
  rw [checkBarrier, PassState.guarded, first] at raised
  dsimp only at raised
  split at raised
  · cases raised
  · split at raised
    · cases raised
    · split at raised
      · cases raised
      · split at raised
        · cases raised
        · split at raised
          · cases raised
          · cases raised
            rfl

theorem doBarrier_awaits {env : Env} {ref : StartedRef} {method : BarrierMethod}
    (found : ref.lookup state.handles = some started) (first : state.barrierHit = false)
    (raised : (doBarrier env ref method state).1 = .error (.barrierHit condition)) :
    condition.resources = started.resources := by
  rw [doBarrier, found] at raised
  dsimp only at raised
  split at raised
  · cases raised
  · split at raised
    case h_1 checked =>
      apply checkBarrier_awaits first
      rw [checked]
      exact raised
    case h_2 => cases raised

/-- **What a barrier waits for is desired.**  After any passes of the operation, in a pass
whose replayed starts resolve to instances their entries record, every instance that a
start's barrier waits for is one the log makes desired. -/
theorem awaited_is_desired (invocation : Invocation) (earlier : List Pass) (pass : Pass)
    (within : ∀ one ∈ invocation.asked pass (invocation.logAfter earlier),
      StartResolvesWithin invocation.op pass one)
    (one : Asked) (asked : one ∈ invocation.asked pass (invocation.logAfter earlier))
    (index : Nat) (condition : BarrierCondition) (waits : Waits pass one index condition) :
    ∃ entry, (invocation.logAfter (earlier ++ [pass]))[index]? = some entry ∧
      (entry.callKind = .start → ∀ resource ∈ condition.resources,
        MadeDesired (invocation.logAfter (earlier ++ [pass])) index resource) := by
  have soundAfter := invocation.logAfter_sound (earlier ++ [pass])
  rw [Invocation.logAfter_append_singleton] at soundAfter ⊢
  cases waits with
  | suspends found origin first raised =>
    obtain ⟨entry, atIndex, recorded⟩ := invocation.awaited_recorded
      (invocation.logAfter_sound earlier) within asked found origin
    refine ⟨entry, atIndex, ?_⟩
    intro isStart resource awaited
    rw [doBarrier_awaits found first raised] at awaited
    exact madeDesired_of_start soundAfter atIndex isStart (recorded isStart awaited)

/-! ## A deployment scaled up under a barrier -/

def deployApi : Invocation := deployThen startApi apiReady .done

def waitingAsk (first second : Nat) : Asked :=
  (.call apiReady, (dispatch deployApi.op (scaledEnv second) startApi
      (.initial "deploy" (deployApi.logAfter [scaledPass first]))).2.counted (some .start) (.ok ()))

def replicasReady (replicas : List ResourceInstance) : BarrierCondition :=
  ⟨replicas, .ready, some 30⟩

/-- At a constant scale the barrier of the second pass waits for what the first started. -/
theorem steady_awaits_desired :
    MadeDesired (deployApi.logAfter [scaledPass 1, scaledPass 1]) 0 (apiReplica 1#128) := by
  have within : ∀ one ∈ deployApi.asked (scaledPass 1) (deployApi.logAfter [scaledPass 1]),
      StartResolvesWithin deployApi.op (scaledPass 1) one := by
    refine forall_mem_cons.mpr ⟨?_, forall_mem_cons.mpr ⟨?_, ?_⟩⟩
    · intro entry resources replaying _ resolved
      cases replaying
      cases resolved
      exact List.Subset.refl _
    · intro entry resources _ _ resolved
      cases resolved
    · intro one mem
      cases mem
  have asked : waitingAsk 1 1 ∈ deployApi.asked (scaledPass 1)
      (deployApi.logAfter [scaledPass 1]) := mem_cons_of_mem _ mem_cons_self
  have waits : Waits (scaledPass 1) (waitingAsk 1 1) 0 (replicasReady [apiReplica 1#128]) :=
    .suspends rfl rfl rfl rfl
  obtain ⟨entry, atIndex, desired⟩ :=
    awaited_is_desired deployApi [scaledPass 1] (scaledPass 1) within _ asked _ _ waits
  cases atIndex
  exact desired rfl _ (mem_singleton_self _)

/-- **A barrier waits for an instance that nothing asks for.**  The deployment is scaled
from one to two between the passes: the second pass waits for both replicas, and its log
still names the first alone. -/
theorem scaled_up_awaits_undesired :
    waitingAsk 1 2 ∈ deployApi.asked (scaledPass 2) (deployApi.logAfter [scaledPass 1]) ∧
      Waits (scaledPass 2) (waitingAsk 1 2) 0 (replicasReady [apiReplica 1#128, apiReplica 2#128]) ∧
      ((deployApi.logAfter [scaledPass 1, scaledPass 2])[0]?.map ActionLogEntry.callKind =
        some .start) ∧
      ¬ MadeDesired (deployApi.logAfter [scaledPass 1, scaledPass 2]) 0 (apiReplica 2#128) := by
  refine ⟨mem_cons_of_mem _ mem_cons_self, .suspends rfl rfl rfl rfl, rfl, ?_⟩
  rintro (ready | ⟨later, mem, after, -⟩)
  · revert ready
    decide
  · cases mem_singleton.mp mem
    cases after

end Seedling.Reconcile
