import Seedling.Operations.Motion

/-!
# What the motions of the daemon keep

Invariants of the daemon that hold at all times, proved motion by motion.  `Numbered` is
about operation ids: each has been drawn, and is in one place.  `Solo` is about apps:
each has one operation at most, and only the holder of the slot has a runner.
`Retired` says that nothing is left of an operation; that too stays, unless a startup
takes the operation up again.
-/

namespace Seedling.Operations

open Apps Function Foundation List Scheduler
open Barrier (Params)

/-! ## The ids of the scheduler -/

namespace Scheduler

variable (scheduler : Scheduler)

def waitingIds : List OperationId := scheduler.queue.map QueuedOperation.operationId

def ids : List OperationId :=
  scheduler.active.toList.map ActiveOperation.operationId ++ scheduler.waitingIds

theorem ids_requestWithId (op : QueuedOperation) :
    (scheduler.requestWithId op).2.ids.Perm scheduler.ids ∨
      (scheduler.requestWithId op).2.ids.Perm (op.operationId :: scheduler.ids) := by
  rcases scheduler.request_cases op with
    ⟨free, accepted⟩ | ⟨taken, _, queued⟩ | ⟨_, reason, rejected⟩
  · rw [accepted]
    refine .inr (List.Perm.of_eq ?_)
    simp [ids, waitingIds, free, QueuedOperation.activate]
  · rw [queued]
    refine .inr ?_
    simp only [ids, waitingIds, map_append, ← append_assoc]
    exact perm_append_singleton _ _
  · rw [rejected]
    exact .inl (List.Perm.refl _)

theorem mem_waitingIds_requestWithId {op : QueuedOperation} {id : OperationId}
    (waits : id ∈ (scheduler.requestWithId op).2.waitingIds) :
    id ∈ scheduler.waitingIds ∨ id = op.operationId := by
  rcases scheduler.request_cases op with
    ⟨free, accepted⟩ | ⟨taken, _, queued⟩ | ⟨_, reason, rejected⟩
  · rw [accepted] at waits
    exact .inl waits
  · rw [queued] at waits
    simpa [waitingIds, or_comm] using waits
  · rw [rejected] at waits
    exact .inl waits

theorem ids_requestCancel (app : String) : (scheduler.requestCancel app).2.ids = scheduler.ids ∧
      (scheduler.requestCancel app).2.waitingIds = scheduler.waitingIds := by
  rcases scheduler.requestCancel_cases app with same | ⟨active, holds, flagged⟩
  · rw [same]
    exact ⟨rfl, rfl⟩
  · rw [flagged]
    exact ⟨by simp [ids, waitingIds, holds], rfl⟩

theorem ids_completeCurrent : scheduler.completeCurrent.2.ids = scheduler.waitingIds := by
  unfold completeCurrent
  split
  · rename_i empty
    simp [ids, waitingIds, empty]
  · rename_i op rest queued
    simp [ids, waitingIds, queued, QueuedOperation.activate]

theorem waitingIds_subset_ids : scheduler.waitingIds ⊆ scheduler.ids := subset_append_right _ _

end Scheduler

namespace Daemon

variable {Bundle : Type} {host : DaemonHost Bundle} {replayed : OperationId → Prop}
  {daemon : Daemon Bundle}

/-! ## Operation ids -/

/-- What holds of operation ids at all times: they have been drawn, none is in the
scheduler twice, and no runner's operation is waiting. -/
structure Numbered (daemon : Daemon Bundle) : Prop where
  distinct : daemon.scheduler.ids.Nodup
  below : ∀ id ∈ daemon.scheduler.ids, id < daemon.nextId
  apart : ∀ runner ∈ daemon.runners,
    runner.operationId < daemon.nextId ∧ runner.operationId ∉ daemon.scheduler.waitingIds

theorem numbered_init : Numbered (init : Daemon Bundle) := ⟨nodup_nil, nofun, nofun⟩

/-- Nothing is left of an operation: its id has been drawn, and neither the scheduler
nor a runner has it. -/
structure Retired (daemon : Daemon Bundle) (id : OperationId) : Prop where
  drawn : id < daemon.nextId
  unknown : id ∉ daemon.scheduler.ids
  idle : ∀ runner ∈ daemon.runners, runner.operationId ≠ id

variable {op : QueuedOperation}

theorem mem_ids_of_holds
    (holds : daemon.scheduler.active.map ActiveOperation.runner = some op.runner) :
    op.operationId ∈ daemon.scheduler.ids := by
  obtain ⟨active, found, same⟩ := Option.map_eq_some_iff.mp holds
  have sameId : active.operationId = op.operationId := congrArg Runner.operationId same
  simp [ids, found, sameId]

theorem Numbered.not_waiting_of_holds (numbered : daemon.Numbered)
    (holds : daemon.scheduler.active.map ActiveOperation.runner = some op.runner) :
    op.operationId ∉ daemon.scheduler.waitingIds := by
  obtain ⟨active, found, same⟩ := Option.map_eq_some_iff.mp holds
  have sameId : active.operationId = op.operationId := congrArg Runner.operationId same
  have distinct := numbered.distinct
  rw [ids, found] at distinct
  exact sameId ▸ (nodup_cons.mp distinct).1

section Asked

variable {op : QueuedOperation} {next : OperationId}

theorem Numbered.asked (numbered : daemon.Numbered) (fresh : op.operationId ∉ daemon.scheduler.ids)
    (idle : ∀ runner ∈ daemon.runners, runner.operationId ≠ op.operationId)
    (above : daemon.nextId ≤ next) (below : op.operationId < next) :
    Numbered
      { daemon with scheduler := (daemon.scheduler.requestWithId op).2, nextId := next } where
  distinct := by
    rcases daemon.scheduler.ids_requestWithId op with same | added
    · exact same.nodup_iff.mpr numbered.distinct
    · exact added.nodup_iff.mpr (nodup_cons.mpr ⟨fresh, numbered.distinct⟩)
  below id mem := by
    rcases daemon.scheduler.ids_requestWithId op with same | added
    · exact (numbered.below id (same.mem_iff.mp mem)).trans_le above
    · rcases mem_cons.mp (added.mem_iff.mp mem) with rfl | known
      · exact below
      · exact (numbered.below id known).trans_le above
  apart runner running := by
    obtain ⟨drawn, elsewhere⟩ := numbered.apart runner running
    refine ⟨drawn.trans_le above, fun waits => ?_⟩
    rcases daemon.scheduler.mem_waitingIds_requestWithId waits with known | same
    · exact elsewhere known
    · exact idle runner running same

theorem Retired.asked {id : OperationId} (retired : daemon.Retired id)
    (other : op.operationId ≠ id) (above : daemon.nextId ≤ next) :
    Retired
      { daemon with scheduler := (daemon.scheduler.requestWithId op).2, nextId := next } id where
  drawn := retired.drawn.trans_le above
  unknown mem := by
    rcases daemon.scheduler.ids_requestWithId op with same | added
    · exact retired.unknown (same.mem_iff.mp mem)
    · rcases mem_cons.mp (added.mem_iff.mp mem) with same | known
      · exact other same.symm
      · exact retired.unknown known
  idle := retired.idle

end Asked

variable {after : Daemon Bundle}

theorem Numbered.motion (numbered : daemon.Numbered) (motion : Motion host replayed daemon after) :
    after.Numbered := by
  have fresh {id : OperationId} (drawn : id < daemon.nextId) : id ≠ daemon.nextId :=
    Nat.ne_of_lt drawn
  cases motion with
  | serve | recover => exact ⟨numbered.distinct, numbered.below, numbered.apart⟩
  | ask =>
    refine numbered.asked (fun mem => ?_) (fun runner running => ?_) (Nat.le_succ _)
      (Nat.lt_succ_self _)
    · exact fresh (numbered.below _ mem) rfl
    · exact fresh (numbered.apart runner running).1
  | cancel app =>
    obtain ⟨ids, waiting⟩ := daemon.scheduler.ids_requestCancel app
    refine ⟨?_, ?_, ?_⟩
    · exact ids.symm ▸ numbered.distinct
    · exact ids.symm ▸ numbered.below
    · exact waiting.symm ▸ numbered.apart
  | release =>
    have kept : daemon.scheduler.completeCurrent.2.ids ⊆ daemon.scheduler.ids := by
      rw [ids_completeCurrent]
      exact daemon.scheduler.waitingIds_subset_ids
    refine ⟨?_, fun id mem => numbered.below id (kept mem), fun other remains => ?_⟩
    · rw [ids_completeCurrent]
      exact (nodup_append.mp numbered.distinct).2.1
    · obtain ⟨drawn, elsewhere⟩ := numbered.apart other (mem_filter.mp remains).1
      refine ⟨drawn, fun waits => elsewhere ?_⟩
      rw [← ids_completeCurrent]
      exact waitingIds_subset_ids _ waits
  | enlist op holds =>
    refine ⟨numbered.distinct, numbered.below, fun runner running => ?_⟩
    rcases mem_append.mp running with earlier | last
    · exact numbered.apart runner earlier
    · cases mem_singleton.mp last
      exact ⟨numbered.below _ (mem_ids_of_holds holds), numbered.not_waiting_of_holds holds⟩
  | load => exact ⟨nodup_nil, nofun, nofun⟩
  | seat op known idle quiet =>
    refine numbered.asked ?_ ?_ (Nat.le_max_left _ _)
      (Nat.lt_of_lt_of_le (Nat.lt_succ_self _) (Nat.le_max_right _ _))
    · rw [idle]
      exact nofun
    · rw [quiet]
      exact nofun

variable {id : OperationId}

/-- An operation of which nothing is left stays so unless a startup takes it up. -/
theorem Retired.motion (retired : daemon.Retired id) (forgotten : ¬ replayed id)
    (motion : Motion host replayed daemon after) :
    after.Retired id := by
  cases motion with
  | serve | recover => exact ⟨retired.drawn, retired.unknown, retired.idle⟩
  | ask =>
    exact retired.asked (Nat.ne_of_gt retired.drawn) (Nat.le_succ _)
  | cancel app =>
    obtain ⟨ids, _⟩ := daemon.scheduler.ids_requestCancel app
    exact ⟨retired.drawn, ids.symm ▸ retired.unknown, retired.idle⟩
  | release =>
    refine ⟨retired.drawn, fun mem => retired.unknown ?_, fun other remains => ?_⟩
    · rw [ids_completeCurrent] at mem
      exact daemon.scheduler.waitingIds_subset_ids mem
    · exact retired.idle other (mem_filter.mp remains).1
  | enlist op holds =>
    refine ⟨retired.drawn, retired.unknown, fun runner running => ?_⟩
    rcases mem_append.mp running with earlier | last
    · exact retired.idle runner earlier
    · cases mem_singleton.mp last
      rintro rfl
      exact retired.unknown (mem_ids_of_holds holds)
  | load => exact ⟨retired.drawn, nofun, nofun⟩
  | seat op known =>
    refine retired.asked ?_ (Nat.le_max_left _ _)
    rintro rfl
    exact forgotten known

theorem Numbered.moves (numbered : daemon.Numbered) (moves : Moves host replayed daemon after) :
    after.Numbered := by
  induction moves with
  | refl => exact numbered
  | tail _ motion ih => exact ih.motion motion

theorem Retired.moves (retired : daemon.Retired id) (forgotten : ¬ replayed id)
    (moves : Moves host replayed daemon after) : after.Retired id := by
  induction moves with
  | refl => exact retired
  | tail _ motion ih => exact ih.motion forgotten motion

theorem Numbered.retired_of_runnerEnds (numbered : daemon.Numbered) {operationId : OperationId}
    {runner : Runner} (found : daemon.runners.find? (·.operationId = operationId) = some runner)
    (reason : RunnerEnd) : (daemon.runnerEnds host operationId reason).Retired operationId := by
  have same : runner.operationId = operationId := by simpa using find?_some found
  obtain ⟨drawn, elsewhere⟩ := numbered.apart runner (mem_of_find?_eq_some found)
  have released : (daemon.released host runner reason).Retired operationId := by
    subst same
    refine ⟨?_, ?_, ?_⟩
    · rwa [released_nextId]
    · rwa [released_scheduler, ids_completeCurrent]
    · intro other running
      simpa using (mem_filter.mp running).2
  rw [runnerEnds_eq _ found]
  split
  · exact released
  · rename_i op next
    have moves : Moves host (fun _ => False) (daemon.released host runner reason) _ :=
      Moves.spawn .refl (holds_released next runner reason)
    exact released.moves not_false moves

/-! ## One operation for each app -/

/-- No app has two operations: an empty slot has nobody waiting for it, no two waiting
operations are of one app, none is of the holder's app, and only the holder has a
runner. -/
structure Solo (daemon : Daemon Bundle) : Prop where
  idle : daemon.scheduler.active = none → daemon.scheduler.queue = []
  distinct : (daemon.scheduler.queue.map QueuedOperation.app).Nodup
  holder : ∀ active, daemon.scheduler.active = some active →
    ∀ op ∈ daemon.scheduler.queue, op.app ≠ active.app
  running : ∀ runner ∈ daemon.runners,
    daemon.scheduler.active.map ActiveOperation.runner = some runner

theorem solo_init : Solo (init : Daemon Bundle) := ⟨fun _ => rfl, nodup_nil, nofun, nofun⟩

variable (solo : daemon.Solo)
include solo

theorem Solo.quiet_of_free (free : daemon.scheduler.active = none) : daemon.runners = [] := by
  rw [eq_nil_iff_forall_not_mem]
  intro runner running
  have holds := solo.running runner running
  rw [free] at holds
  cases holds

theorem Solo.asked (op : QueuedOperation) (next : OperationId) :
    Solo { daemon with scheduler := (daemon.scheduler.requestWithId op).2, nextId := next } := by
  rcases daemon.scheduler.request_cases op with
    ⟨free, accepted⟩ | ⟨taken, absent, queued⟩ | ⟨_, reason, rejected⟩
  · rw [accepted]
    have empty := solo.idle free
    refine ⟨nofun, solo.distinct, fun active _ other mem => ?_, fun runner running => ?_⟩
    · rw [show daemon.scheduler.queue = [] from empty] at mem
      cases mem
    · rw [show daemon.runners = [] from solo.quiet_of_free free] at running
      cases running
  · rw [queued]
    simp only [hasOperationFor, Bool.or_eq_false_iff, Option.any_eq_false,
      any_eq_false, decide_eq_true_eq, decide_eq_false_iff_not] at absent
    refine ⟨fun free => ?_, ?_, fun active holds other mem => ?_, solo.running⟩
    · rw [show daemon.scheduler.active = none from free] at taken
      cases taken
    · rw [map_append, nodup_append]
      refine ⟨solo.distinct, by simp, fun app mem _ last => ?_⟩
      obtain ⟨other, waits, rfl⟩ := mem_map.mp mem
      cases mem_singleton.mp last
      exact absent.2 other waits
    · rcases mem_append.mp mem with earlier | last
      · exact solo.holder active holds other earlier
      · cases mem_singleton.mp last
        exact fun same => absent.1 active holds same.symm
  · rw [rejected]
    exact ⟨solo.idle, solo.distinct, solo.holder, solo.running⟩

theorem Solo.motion (motion : Motion host replayed daemon after) : after.Solo := by
  cases motion with
  | serve | recover => exact ⟨solo.idle, solo.distinct, solo.holder, solo.running⟩
  | ask => exact solo.asked _ _
  | cancel app =>
    have runner := daemon.scheduler.runner_requestCancel app
    rcases daemon.scheduler.requestCancel_cases app with same | ⟨active, holds, flagged⟩
    · rw [same]
      exact solo
    · rw [flagged] at runner ⊢
      refine ⟨?_, solo.distinct, fun other same op mem => ?_, fun other running => ?_⟩
      · rintro ⟨⟩
      · cases same
        exact solo.holder active holds op mem
      · exact runner.trans (solo.running other running)
  | release runner running =>
    -- every runner is the holder's, so none is left
    have emptied : daemon.runners.filter (·.operationId ≠ runner.operationId) = [] := by
      rw [filter_eq_nil_iff]
      intro other remains
      have same := (solo.running other remains).symm.trans (solo.running runner running)
      simp [Option.some.inj same]
    rw [emptied]
    cases queue : daemon.scheduler.queue with
    | nil =>
      simp only [completeCurrent, queue]
      refine ⟨fun _ => rfl, nodup_nil, ?_, ?_⟩ <;> rintro _ ⟨⟩
    | cons =>
      have distinct := solo.distinct
      rw [queue, map_cons, nodup_cons] at distinct
      simp only [completeCurrent, queue]
      refine ⟨?_, distinct.2, fun active holds other mem same => ?_, ?_⟩
      · rintro ⟨⟩
      · cases holds
        exact distinct.1 (mem_map.mpr ⟨other, mem, same⟩)
      · rintro _ ⟨⟩
  | enlist op holds =>
    refine ⟨solo.idle, solo.distinct, solo.holder, fun runner running => ?_⟩
    rcases mem_append.mp running with earlier | last
    · exact solo.running runner earlier
    · cases mem_singleton.mp last
      exact holds
  | load => refine ⟨fun _ => rfl, nodup_nil, ?_, ?_⟩ <;> rintro _ ⟨⟩
  | seat op => exact solo.asked op _

theorem Solo.moves (moves : Moves host replayed daemon after) : after.Solo := by
  induction moves with
  | refl => exact solo
  | tail _ motion ih => exact ih.motion motion

omit solo

/-- **Operations keep apart**, whatever is requested and however often the daemon restarts:
only the operation in the slot runs, no app has two, none waits for a free slot, and the ids
are distinct and have been drawn. -/
theorem operations_kept_apart (host : DaemonHost Bundle) (requests : List (DaemonRequest Bundle)) :
    let daemon := (daemonMachine host).run init requests
    let ⟨active, queue⟩ := daemon.scheduler
    (∀ runner ∈ daemon.runners, active.map ActiveOperation.runner = some runner) ∧
      ((active.map ActiveOperation.app).toList ++ queue.map QueuedOperation.app).Nodup ∧
      (active = none → queue = [] ∧ daemon.runners = []) ∧
      daemon.scheduler.ids.Nodup ∧ ∀ id ∈ daemon.scheduler.ids, id < daemon.nextId := by
  intro daemon
  obtain ⟨numbered, solo⟩ : daemon.Numbered ∧ daemon.Solo :=
    (daemonMachine host).run_invariant (I := fun daemon => daemon.Numbered ∧ daemon.Solo)
      (fun _ request holds => ⟨holds.1.moves (step_moves _ request),
        holds.2.moves (step_moves _ request)⟩) init requests ⟨numbered_init, solo_init⟩
  refine ⟨solo.running, ?_, fun free => ⟨solo.idle free, solo.quiet_of_free free⟩,
    numbered.distinct, numbered.below⟩
  cases holds : daemon.scheduler.active with
  | none => exact solo.distinct
  | some active =>
    refine nodup_cons.mpr ⟨fun waits => ?_, solo.distinct⟩
    obtain ⟨op, mem, same⟩ := mem_map.mp waits
    exact solo.holder active holds op mem same

end Daemon

end Seedling.Operations
