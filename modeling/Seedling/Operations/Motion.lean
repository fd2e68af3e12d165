import Seedling.Operations.Slot

/-!
# The motions of the daemon

Whatever a request does, it does by few motions: a request about an app is served,
the slot is asked for, flagged or released, a runner is enlisted for the operation
that holds the slot, and at startup apps are loaded, an interrupted operation is
seated in the empty slot, and stuck apps are recovered.

`step_moves` decomposes every step of the daemon into motions, so what is to hold of
every step needs proving for the motions only.
-/

namespace Seedling.Operations

open Apps Function Foundation List ActiveOperation
open Barrier (Params)

theorem Scheduler.runner_requestCancel (scheduler : Scheduler) (app : String) :
    (scheduler.requestCancel app).2.active.map runner =
      scheduler.active.map runner := by
  rcases scheduler.requestCancel_cases app with same | ⟨active, holds, flagged⟩
  · rw [same]
  · rw [flagged, holds]
    rfl

namespace Daemon

variable {Bundle : Type} (host : DaemonHost Bundle)

/-! ## Motions -/

/-- A motion of the daemon; `replayed` are the operations that a startup may take up
again. -/
inductive Motion (replayed : OperationId → Prop) : Daemon Bundle → Daemon Bundle → Prop where
  | serve (daemon : Daemon Bundle) (app : String) (request : AppRequest Bundle) :
      Motion replayed daemon (daemon.serveApp host app request).2
  | ask (daemon : Daemon Bundle) (app action : String) (params : Params) (source target : Nat)
      (trigger : String) :
      Motion replayed daemon (daemon.request app action params source target trigger).2.2
  | cancel (daemon : Daemon Bundle) (app : String) :
      Motion replayed daemon
        { daemon with scheduler := (daemon.scheduler.requestCancel app).2 }
  | release (daemon : Daemon Bundle) (runner : Runner) (running : runner ∈ daemon.runners) :
      Motion replayed daemon
        { daemon with
          scheduler := daemon.scheduler.completeCurrent.2
          runners := daemon.runners.filter (·.operationId ≠ runner.operationId) }
  | enlist (daemon : Daemon Bundle) (op : QueuedOperation)
      (holds : daemon.scheduler.active.map ActiveOperation.runner = some op.runner) :
      Motion replayed daemon
        { daemon with
          runners := daemon.runners ++ [⟨op.operationId, op.app, op.action⟩]
          started := daemon.started ++ [op.operationId] }
  | load (daemon : Daemon Bundle) : Motion replayed daemon (daemon.loadAll host)
  | seat (daemon : Daemon Bundle) (op : QueuedOperation) (known : replayed op.operationId)
      (idle : daemon.scheduler = .new) (quiet : daemon.runners = []) :
      Motion replayed daemon
        { daemon with
          scheduler := (daemon.scheduler.requestWithId op).2
          nextId := max daemon.nextId (op.operationId + 1) }
  | recover (daemon : Daemon Bundle) (interrupted : Option Interrupted)
      (hasInstances : String → Bool) :
      Motion replayed daemon (daemon.recoverStuck host interrupted hasInstances)

abbrev Moves (replayed : OperationId → Prop) : Daemon Bundle → Daemon Bundle → Prop :=
  Relation.ReflTransGen (Motion host replayed)

variable {host} {replayed : OperationId → Prop} {start daemon : Daemon Bundle}
  (moves : Moves host replayed start daemon)
include moves

theorem Moves.serve (app : String) (request : AppRequest Bundle) :
    Moves host replayed start (daemon.serveApp host app request).2 :=
  moves.tail (.serve daemon app request)

variable {op : QueuedOperation}

theorem Moves.spawn (holds : daemon.scheduler.active.map runner = some op.runner) :
    Moves host replayed start (daemon.spawnAcceptedOperation host op) := by
  unfold spawnAcceptedOperation
  split
  · exact moves
  · have enlisted : Moves host replayed start _ := moves.tail (.enlist daemon op holds)
    split
    · exact enlisted.serve op.app _
    · exact enlisted

omit moves in
theorem released_nextId (runner : Runner) (reason : RunnerEnd) :
    (daemon.released host runner reason).nextId = daemon.nextId := by
  unfold released
  split <;> rfl

omit moves in
theorem holds_released (next : daemon.scheduler.queue.head? = some op) (runner : Runner)
    (reason : RunnerEnd) :
    (daemon.released host runner reason).scheduler.active.map ActiveOperation.runner =
      some op.runner := by
  obtain ⟨rest, queue⟩ := head?_eq_some_iff.mp next
  rw [released_scheduler, Scheduler.completeCurrent, queue]
  rfl

theorem Moves.released {runner : Runner} (running : runner ∈ daemon.runners) (reason : RunnerEnd) :
    Moves host replayed start (daemon.released host runner reason) := by
  unfold Daemon.released
  split
  · exact (moves.serve runner.app _).tail (.release _ runner running)
  · exact moves.tail (.release daemon runner running)

theorem Moves.runnerEnds (operationId : OperationId) (reason : RunnerEnd) :
    Moves host replayed start (daemon.runnerEnds host operationId reason) := by
  cases found : daemon.runners.find? (·.operationId = operationId) with
  | none =>
    unfold Daemon.runnerEnds
    rwa [found]
  | some runner =>
    have released := moves.released (mem_of_find?_eq_some found) reason
    rw [runnerEnds_eq _ found]
    split
    · exact released
    · rename_i op next
      exact Moves.spawn released (holds_released next runner reason)

/-! ## Requests -/

variable {app action trigger : String} {params : Params} {source target : Nat}
  {after : Daemon Bundle}

omit moves in
theorem holds_of_accepted
    (accepted : daemon.request app action params source target trigger = (.accepted, op, after)) :
    daemon.scheduler.active = none ∧
      after.scheduler.active.map runner = some op.runner := by
  rcases daemon.scheduler.request_cases
      (daemon.requested app action params source target trigger) with
    ⟨free, answered⟩ | ⟨_, _, answered⟩ | ⟨_, _, answered⟩
  all_goals
    rw [request_eq app action params source target trigger answered] at accepted
    cases accepted
  exact ⟨free, rfl⟩

omit moves in
theorem active_of_refused {result : ScheduleResult}
    (answer : daemon.request app action params source target trigger = (result, op, after))
    (refused : result ≠ .accepted) : after.scheduler.active = daemon.scheduler.active := by
  rcases daemon.scheduler.request_cases
      (daemon.requested app action params source target trigger) with
    ⟨_, answered⟩ | ⟨_, _, answered⟩ | ⟨_, _, answered⟩
  all_goals
    rw [request_eq app action params source target trigger answered] at answer
    cases answer
  · exact absurd rfl refused
  · rfl
  · rfl

theorem Moves.ask {result : ScheduleResult}
    (answer : daemon.request app action params source target trigger = (result, op, after)) :
    Moves host replayed start after := by
  have asked := moves.tail (.ask daemon app action params source target trigger)
  rwa [answer] at asked

theorem Moves.submit (app action : String) (params : Params) (generation : Nat) (trigger : String) :
    Moves host replayed start (daemon.submit host app action params generation trigger).2 := by
  unfold Daemon.submit
  split
  · rename_i accepted
    exact (moves.ask accepted).spawn (holds_of_accepted accepted).2
  · rename_i queued
    exact moves.ask queued
  · rename_i rejected
    exact moves.ask rejected

theorem Moves.changeAndSchedule (app : String) (request : AppRequest Bundle) :
    Moves host replayed start (daemon.changeAndSchedule host app request).2 := by
  have served := moves.serve app request
  rcases @changeAndSchedule_cases Bundle daemon host app request with
    ⟨_, same⟩ | ⟨_, name, generation, same⟩
  · rwa [same]
  · rw [same, scheduleOnChange_eq]
    exact served.tail (.ask _ app name [] (generation - 1) generation "param_change")

theorem Moves.cancelAction (app : String) :
    Moves host replayed start (daemon.cancelAction host app).2 := by
  have flagged : Moves host replayed start _ := moves.tail (.cancel daemon app)
  unfold Daemon.cancelAction
  dsimp only
  split
  · exact flagged
  · exact flagged
  · split
    · exact moves.serve app _
    · exact moves

/-! ## Ticks and restarts -/

/-- While a tick fires schedules, what it has accepted holds the slot. -/
def Underway (host : DaemonHost Bundle) (replayed : OperationId → Prop) (start : Daemon Bundle)
    (fired : List QueuedOperation × Daemon Bundle) : Prop :=
  Moves host replayed start fired.2 ∧
    ∀ op ∈ fired.1, fired.2.scheduler.active.map ActiveOperation.runner = some op.runner

omit moves in
theorem Underway.fireSchedule {fired : List QueuedOperation × Daemon Bundle}
    (underway : Underway host replayed start fired) (now : Nat) (due : DueSchedule) :
    Underway host replayed start (Daemon.fireSchedule host now fired due) := by
  obtain ⟨moves, holding⟩ := underway
  unfold Daemon.fireSchedule
  dsimp only
  split
  · exact ⟨moves, holding⟩
  · split
    · exact ⟨moves, holding⟩
    · split
      · rename_i op after accepted
        obtain ⟨free, holds⟩ := holds_of_accepted accepted
        refine ⟨(moves.ask accepted).serve due.app _, fun other mem => ?_⟩
        rcases mem_append.mp mem with earlier | last
        · have held := holding other earlier
          simp only [free] at held
          cases held
        · cases mem_singleton.mp last
          exact holds
      · rename_i queued
        refine ⟨(moves.ask queued).serve due.app _, fun other mem => ?_⟩
        exact (congrArg _ (active_of_refused queued (by simp))).trans (holding other mem)
      · rename_i rejected
        refine ⟨moves.ask rejected, fun other mem => ?_⟩
        exact (congrArg _ (active_of_refused rejected (by simp))).trans (holding other mem)

theorem Moves.scheduleTick (now : Nat) (due : List DueSchedule) :
    Moves host replayed start (daemon.scheduleTick host now due) := by
  have fired : Underway host replayed start
      (due.foldl (Daemon.fireSchedule host now) ([], daemon)) :=
    foldlRecOn due _ ⟨moves, nofun⟩ fun _ underway row _ => underway.fireSchedule now row
  unfold Daemon.scheduleTick
  generalize due.foldl (Daemon.fireSchedule host now) ([], daemon) = outcome at fired ⊢
  obtain ⟨operations, after⟩ := outcome
  obtain ⟨moved, holding⟩ := fired
  -- starting a runner leaves the slot to its holder
  refine (foldlRecOn (motive := fun daemon => Moves host replayed start daemon ∧
    daemon.scheduler = after.scheduler) operations _ ⟨moved, rfl⟩ ?_).1
  rintro daemon ⟨moves, same⟩ op mem
  exact ⟨moves.spawn (same ▸ holding op mem), (spawn_scheduler host op).trans same⟩

theorem Moves.revertInstallAndFault (app : String) :
    Moves host replayed start (daemon.revertInstallAndFault host app) := by
  unfold Daemon.revertInstallAndFault
  split
  · exact Moves.serve (moves.serve app _) app _
  · exact moves

variable {interrupted : Interrupted}

theorem Moves.resume (known : replayed interrupted.operationId) (idle : daemon.scheduler = .new)
    (quiet : daemon.runners = []) (params : Params) :
    Moves host replayed start (daemon.resume host interrupted params) := by
  have free : daemon.scheduler.active = none := by rw [idle]; rfl
  unfold Daemon.resume
  dsimp only
  generalize operation : (⟨interrupted.app, interrupted.action, interrupted.operationId, params,
      interrupted.sourceGeneration, interrupted.targetGeneration, "replay"⟩ : QueuedOperation) = op
  have sameId : op.operationId = interrupted.operationId := by rw [← operation]
  have seated : Moves host replayed start _ :=
    moves.tail (.seat daemon op (sameId ▸ known) idle quiet)
  simp only [Scheduler.requestWithId_of_free _ free, sameId] at seated ⊢
  split
  · have flagged : Moves host replayed start _ := seated.tail (.cancel _ interrupted.app)
    exact Moves.spawn flagged (Scheduler.runner_requestCancel _ _)
  · exact Moves.spawn seated rfl

theorem Moves.replayInterruptedOperation (known : replayed interrupted.operationId)
    (idle : daemon.scheduler = .new) (quiet : daemon.runners = []) :
    Moves host replayed start (daemon.replayInterruptedOperation host interrupted) := by
  rcases @replay_cases Bundle daemon host interrupted with
    ⟨_, params, resumed⟩ | ⟨_, same | reverted⟩
  · rw [resumed]
    exact moves.resume known idle quiet params
  · rwa [same]
  · rw [reverted]
    exact moves.revertInstallAndFault interrupted.app

/-- The operation that the request makes the daemon take up again. -/
def replayedBy (request : DaemonRequest Bundle) (id : OperationId) : Prop :=
  ∃ interrupted hasInstances,
    request = .restart (some interrupted) hasInstances ∧ id = interrupted.operationId

theorem Moves.restart (interrupted : Option Interrupted) (hasInstances : String → Bool)
    (known : ∀ op, interrupted = some op → replayed op.operationId) :
    Moves host replayed start (daemon.restart host interrupted hasInstances) := by
  have loaded : Moves host replayed start _ := moves.tail (.load daemon)
  cases interrupted with
  | none => exact loaded.tail (.recover _ none hasInstances)
  | some op =>
    have replay := Moves.replayInterruptedOperation loaded (known op rfl) rfl rfl
    exact replay.tail (.recover _ (some op) hasInstances)

omit moves

/-- **Every step of the daemon is made of motions.** -/
theorem step_moves (daemon : Daemon Bundle) (request : DaemonRequest Bundle) :
    Moves host (replayedBy request) daemon (daemon.step host request).2 := by
  have still : Moves host (replayedBy request) daemon daemon := .refl
  cases request with
  | invokeAction app action params =>
    show Moves host _ daemon (daemon.invokeAction host app action params).2
    unfold Daemon.invokeAction
    split
    · exact still
    · exact still.submit app action _ _ _
  | invokeInstall app params =>
    show Moves host _ daemon (daemon.invokeInstall host app params).2
    unfold Daemon.invokeInstall
    split
    · exact still
    · exact still.serve app _
    · exact still.submit app _ _ _ _
  | cancelAction app => exact still.cancelAction app
  | register app | uninstall app | deregister app | scale app | stop app | unstop app | fault app =>
    exact still.serve app _
  | setParam app | unsetParam app | update app => exact still.changeAndSchedule app _
  | scheduleTick now due => exact still.scheduleTick now due
  | runnerEnds operationId reason => exact still.runnerEnds operationId reason
  | tornDown app =>
    rw [Daemon.step]
    split
    · exact still.serve app _
    · exact still
  | restart interrupted hasInstances =>
    refine still.restart interrupted hasInstances fun op same => ?_
    exact ⟨op, hasInstances, by rw [same], rfl⟩

end Daemon

end Seedling.Operations
