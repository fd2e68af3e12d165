import Seedling.Apps.Effects
import Seedling.Operations.Daemon

/-!
# The operation slot

Whenever an operation holds the slot, one runner has been started for it, and
when that runner ends the slot goes to the first operation in the queue.

Every request keeps the slot `Held`, with one exception: a change handler that is
accepted at once gets the slot and no runner.  `slot_attended_iff` is the law with that
exception, and `change_handler_holds_the_slot` shows it.
-/

namespace Seedling.Apps

/-! ## Requests that keep an app registered -/

/-- The request cannot make a registered app disappear. -/
def AppRequest.keepsEntry {Bundle : Type} : AppRequest Bundle → Bool
  | .deregister busy => busy
  | .load => false
  | _ => true

def Outcome.schedulesHandler (outcome : Outcome) : Bool :=
  match outcome.answer with
  | .ok reply => reply.onChange.isSome
  | .error _ => false

theorem Outcome.Plain.schedules_nothing {outcome : Outcome} (plain : outcome.Plain) :
    outcome.schedulesHandler = false := by
  unfold Outcome.schedulesHandler
  split
  · rename_i reply answered
    rw [plain.unscheduled reply answered]
    rfl
  · rfl

theorem AppEffect.entry_isSome {Bundle : Type} {host : Host Bundle} {app : String}
    {state : AppState Bundle} {request : AppRequest Bundle} {result : Outcome × AppState Bundle}
    (effect : AppEffect host app state request result)
    (kept : request.keepsEntry ∧ state.entry.isSome ∨
      result.1.schedulesHandler) : result.2.entry.isSome := by
  cases effect with
  | unchanged _ _ plain | adjusted _ _ _ _ _ _ _ plain =>
    exact (kept.resolve_right (by simp [plain.schedules_nothing])).2
  | registered => rfl
  | unrecorded => simpa using (kept.resolve_right nofun).2
  | paramChanged =>
    rfl
  | updated =>
    rw [publishUpdate_eq]
    rfl
  | deregistered _ _ _ plain => cases (kept.resolve_right (by simp [plain.schedules_nothing])).1
  | rephased =>
    obtain ⟨entry, found⟩ := Option.isSome_iff_exists.mp (kept.resolve_right nofun).2
    simp [AppState.setPhaseAndPersist, found]
  | transitioned _ _ _ _ _ _ plain =>
    simpa [AppState.transitionPhase] using
      (kept.resolve_right (by simp [plain.schedules_nothing])).2
  | skipped | loaded => cases (kept.resolve_right nofun).1

end Seedling.Apps

namespace Seedling.Operations

open Apps Function List
open Barrier (Params)

def ActiveOperation.runner (op : ActiveOperation) : Runner := ⟨op.operationId, op.app, op.action⟩

def QueuedOperation.runner (op : QueuedOperation) : Runner := ⟨op.operationId, op.app, op.action⟩

namespace Daemon

variable {Bundle : Type}

/-! ## The invariants -/

/-- What holds of the queue and the operation ids at all times. -/
structure Ordered (daemon : Daemon Bundle) : Prop where
  idle : daemon.scheduler.active = none → daemon.scheduler.queue = []
  registered : ∀ app, daemon.busy app → (daemon.entry app).isSome
  distinct : (daemon.scheduler.queue.map QueuedOperation.operationId).Nodup
  waiting : ∀ op ∈ daemon.scheduler.queue,
    op.operationId < daemon.nextId ∧ op.operationId ∉ daemon.started
  holder : ∀ op, daemon.scheduler.active = some op → op.operationId < daemon.nextId ∧
    ∀ other ∈ daemon.scheduler.queue, other.operationId ≠ op.operationId
  known : ∀ id ∈ daemon.started, id < daemon.nextId

/-- The holder of the slot, and it alone, has a runner. -/
structure Held (daemon : Daemon Bundle) : Prop extends Ordered daemon where
  running : daemon.runners = daemon.scheduler.active.toList.map ActiveOperation.runner
  once : ∀ op, daemon.scheduler.active = some op → daemon.started.count op.operationId = 1

/-- The slot has been given to `op`, whose runner is still to be started. -/
structure Granted (daemon : Daemon Bundle) (op : QueuedOperation) : Prop
    extends Ordered daemon where
  given : daemon.scheduler.active.map ActiveOperation.runner = some op.runner
  none_running : daemon.runners = []
  not_started : op.operationId ∉ daemon.started

theorem ordered_init : Ordered (init : Daemon Bundle) where
  idle _ := rfl
  registered _ busy := by cases busy
  distinct := nodup_nil
  waiting _ mem := by cases mem
  holder _ active := by cases active
  known _ mem := by cases mem

theorem held_init : Held (init : Daemon Bundle) where
  toOrdered := ordered_init
  running := rfl
  once _ active := by cases active

section Keeps

variable {daemon : Daemon Bundle} {apps : Store Bundle}

theorem Ordered.withApps (ordered : daemon.Ordered)
    (kept : ∀ app, daemon.busy app → (apps app).entry.isSome) :
    Ordered { daemon with apps } where
  idle := ordered.idle
  registered := kept
  distinct := ordered.distinct
  waiting := ordered.waiting
  holder := ordered.holder
  known := ordered.known

variable {after : Daemon Bundle} {op : QueuedOperation}

theorem Held.of_ordered (held : daemon.Held) (ordered : after.Ordered)
    (active : after.scheduler.active = daemon.scheduler.active)
    (runners : after.runners = daemon.runners) (started : after.started = daemon.started) :
    Held after where
  toOrdered := ordered
  running := by rw [runners, active, held.running]
  once other holds := by rw [started, held.once other (active ▸ holds)]

theorem Granted.of_ordered (granted : daemon.Granted op) (ordered : after.Ordered)
    (active : after.scheduler.active = daemon.scheduler.active)
    (runners : after.runners = daemon.runners) (started : after.started = daemon.started) :
    Granted after op where
  toOrdered := ordered
  given := by rw [active, granted.given]
  none_running := by rw [runners, granted.none_running]
  not_started := by rw [started]; exact granted.not_started

variable (host : DaemonHost Bundle) {app : String}

theorem Ordered.update_registered (ordered : daemon.Ordered) {request : AppRequest Bundle}
    (kept : daemon.busy app → request.keepsEntry) (other : String)
    (busy : daemon.busy other) :
    (update daemon.apps app (serve host.toHost app request (daemon.apps app)).2
      other).entry.isSome := by
  have known := ordered.registered other busy
  by_cases same : other = app
  · subst same
    rw [update_self]
    exact (serve_effect request).entry_isSome (.inl ⟨kept busy, known⟩)
  · rw [update_of_ne same]
    exact known

theorem Held.serveApp (held : daemon.Held) {request : AppRequest Bundle}
    (kept : daemon.busy app → request.keepsEntry) :
    Held (daemon.serveApp host app request).2 :=
  held.of_ordered (held.withApps (held.update_registered host kept)) rfl rfl rfl

theorem Granted.serveApp (granted : daemon.Granted op) {request : AppRequest Bundle}
    (kept : daemon.busy app → request.keepsEntry) :
    Granted (daemon.serveApp host app request).2 op :=
  granted.of_ordered (granted.withApps (granted.update_registered host kept)) rfl rfl rfl

/-! ## Starting a runner -/

theorem Granted.registered_op (granted : daemon.Granted op) :
    (daemon.entry op.app).isSome := by
  apply granted.registered
  obtain ⟨active, holds, same⟩ := Option.map_eq_some_iff.mp granted.given
  have app : active.app = op.app := congrArg Runner.app same
  simp [busy, Scheduler.hasOperationFor, holds, app]

theorem spawn_scheduler (op : QueuedOperation) :
    (daemon.spawnAcceptedOperation host op).scheduler = daemon.scheduler := by
  unfold spawnAcceptedOperation
  split
  · rfl
  · split <;> rfl

theorem Granted.spawn (granted : daemon.Granted op) :
    Held (daemon.spawnAcceptedOperation host op) := by
  obtain ⟨entry, found⟩ := Option.isSome_iff_exists.mp granted.registered_op
  obtain ⟨active, holds, same⟩ := Option.map_eq_some_iff.mp granted.given
  have id : active.operationId = op.operationId := congrArg Runner.operationId same
  have running : Held
      { daemon with
        runners := daemon.runners ++ [⟨op.operationId, op.app, op.action⟩]
        started := daemon.started ++ [op.operationId] } := by
    refine ⟨⟨granted.idle, granted.registered, granted.distinct, fun other mem => ?_,
      granted.holder, fun known mem => ?_⟩, ?_, fun other active' => ?_⟩
    · obtain ⟨below, fresh⟩ := granted.waiting other mem
      have differs := (granted.holder active holds).2 other mem
      rw [id] at differs
      exact ⟨below, by simp [fresh, differs]⟩
    · rcases mem_append.mp mem with earlier | last
      · exact granted.known known earlier
      · obtain rfl : known = op.operationId := by simpa using last
        exact id ▸ (granted.holder active holds).1
    · show daemon.runners ++ [op.runner] = daemon.scheduler.active.toList.map _
      rw [granted.none_running, holds, ← same]
      rfl
    · obtain rfl : active = other := Option.some.inj (holds.symm.trans active')
      rw [id, count_append, count_eq_zero_of_not_mem granted.not_started]
      simp
  unfold spawnAcceptedOperation
  rw [found]
  dsimp only
  split
  · exact running.serveApp host fun _ => rfl
  · exact running

/-! ## Asking for the slot -/

def requested (daemon : Daemon Bundle) (app action : String) (params : Params)
    (source target : Nat) (trigger : String) : QueuedOperation where
  app := app
  action := action
  operationId := daemon.nextId
  params := params
  sourceGeneration := source
  targetGeneration := target
  trigger := trigger

variable (ordered : daemon.Ordered)
include ordered

theorem Ordered.nextId_fresh : daemon.nextId ∉ daemon.started :=
  fun mem => absurd (ordered.known _ mem) (Nat.lt_irrefl _)

theorem Ordered.drawn (next : OperationId) (above : daemon.nextId ≤ next) :
    Ordered { daemon with nextId := next } where
  idle := ordered.idle
  registered := ordered.registered
  distinct := ordered.distinct
  waiting op mem := ⟨(ordered.waiting op mem).1.trans_le above, (ordered.waiting op mem).2⟩
  holder op active := ⟨(ordered.holder op active).1.trans_le above, (ordered.holder op active).2⟩
  known id mem := (ordered.known id mem).trans_le above

theorem Ordered.accept (op : QueuedOperation) (active : ActiveOperation) (next : OperationId)
    (same : active.runner = op.runner) (free : daemon.scheduler.active = none)
    (quiet : daemon.runners = []) (known : (daemon.entry op.app).isSome)
    (fresh : op.operationId ∉ daemon.started) (below : op.operationId < next)
    (above : daemon.nextId ≤ next) :
    Granted
      { daemon with
        scheduler := { daemon.scheduler with active := some active }
        nextId := next } op := by
  have empty := ordered.idle free
  have app : active.app = op.app := congrArg Runner.app same
  have id : active.operationId = op.operationId := congrArg Runner.operationId same
  refine ⟨⟨fun taken => ?_, fun other busy => ?_, ?_, fun other mem => ?_,
    fun other holds => ?_, fun other mem => ?_⟩, ?_, quiet, fresh⟩
  · cases taken
  · obtain rfl : op.app = other := by
      simpa [Daemon.busy, Scheduler.hasOperationFor, empty, app] using busy
    exact known
  · exact ordered.distinct
  · rw [show daemon.scheduler.queue = [] from empty] at mem
    cases mem
  · obtain rfl : active = other := Option.some.inj holds
    refine ⟨id ▸ below, fun waiting mem => ?_⟩
    rw [show daemon.scheduler.queue = [] from empty] at mem
    cases mem
  · exact (ordered.known other mem).trans_le above
  · exact congrArg some same

theorem Ordered.enqueue (taken : daemon.scheduler.active.isSome)
    (known : (daemon.entry op.app).isSome) (drawn : op.operationId = daemon.nextId) :
    Ordered
      { daemon with
        scheduler := { daemon.scheduler with queue := daemon.scheduler.queue ++ [op] }
        nextId := daemon.nextId + 1 } := by
  have below : ∀ other ∈ daemon.scheduler.queue, other.operationId < daemon.nextId :=
    fun other mem => (ordered.waiting other mem).1
  refine ⟨fun free => ?_, fun app busy => ?_, ?_, fun other mem => ?_, fun active holds => ?_,
    fun id mem => (ordered.known id mem).trans (Nat.lt_succ_self _)⟩
  · rw [show daemon.scheduler.active = none from free] at taken
    cases taken
  · by_cases same : op.app = app
    · exact same ▸ known
    · refine ordered.registered app ?_
      simpa [Daemon.busy, Scheduler.hasOperationFor, same] using busy
  · rw [map_append, nodup_append]
    refine ⟨ordered.distinct, by simp, fun id mem id' last => ?_⟩
    obtain ⟨other, queued, rfl⟩ := mem_map.mp mem
    obtain rfl : id' = op.operationId := by simpa using last
    exact Nat.ne_of_lt (drawn ▸ below other queued)
  · rcases mem_append.mp mem with queued | last
    · obtain ⟨less, fresh⟩ := ordered.waiting other queued
      exact ⟨less.trans (Nat.lt_succ_self _), fresh⟩
    · obtain rfl : other = op := by simpa using last
      exact ⟨by rw [drawn]; exact Nat.lt_succ_self _, by rw [drawn]; exact ordered.nextId_fresh⟩
  · obtain ⟨less, differs⟩ := ordered.holder active holds
    refine ⟨less.trans (Nat.lt_succ_self _), fun other mem => ?_⟩
    rcases mem_append.mp mem with queued | last
    · exact differs other queued
    · obtain rfl : other = op := by simpa using last
      exact (Nat.ne_of_lt (drawn ▸ less)).symm

omit ordered

variable (held : daemon.Held)
include held

theorem Held.quiet_of_free (free : daemon.scheduler.active = none) : daemon.runners = [] := by
  rw [held.running, free]
  rfl

theorem Held.runners_eq {holder : ActiveOperation} (holds : daemon.scheduler.active = some holder) :
    daemon.runners = [holder.runner] := by
  rw [held.running, holds]
  rfl

section Request

variable (app action : String) (params : Params) (source target : Nat) (trigger : String)

omit held in
theorem request_eq {result : ScheduleResult} {scheduler : Scheduler}
    (answered : daemon.scheduler.requestWithId
      (daemon.requested app action params source target trigger) = (result, scheduler)) :
    daemon.request app action params source target trigger =
      (result, daemon.requested app action params source target trigger,
        { daemon with scheduler, nextId := daemon.nextId + 1 }) := by
  unfold requested at answered
  unfold Daemon.request requested
  dsimp only
  rw [answered]

omit held in
theorem Ordered.request (ordered : daemon.Ordered) (known : (daemon.entry app).isSome)
    (taken : daemon.scheduler.active.isSome) :
    ∃ result op after,
      daemon.request app action params source target trigger = (result, op, after) ∧
        result ≠ .accepted ∧ after.Ordered ∧
        after.scheduler.active = daemon.scheduler.active ∧ after.runners = daemon.runners ∧
        after.started = daemon.started := by
  rcases daemon.scheduler.request_cases
      (daemon.requested app action params source target trigger) with
    ⟨free, _⟩ | ⟨_, _, queued⟩ | ⟨_, reason, rejected⟩
  · rw [free] at taken
    cases taken
  · exact ⟨.queued, _, _, request_eq app action params source target trigger queued, nofun,
      ordered.enqueue taken known rfl, rfl, rfl, rfl⟩
  · exact ⟨.rejected reason, _, _, request_eq app action params source target trigger rejected,
      nofun, ordered.drawn _ (Nat.le_succ _), rfl, rfl, rfl⟩

omit held in
/-- A request gets an idle slot, and changes nothing for the holder of a taken
one. -/
theorem Held.request (held : daemon.Held) (known : (daemon.entry app).isSome) :
    (daemon.scheduler.active = none ∧ ∃ op after,
        daemon.request app action params source target trigger = (.accepted, op, after) ∧
          after.Granted op) ∨
      daemon.scheduler.active.isSome ∧ ∃ result op after,
        daemon.request app action params source target trigger = (result, op, after) ∧
          result ≠ .accepted ∧ after.Held := by
  cases holder : daemon.scheduler.active with
  | none =>
    refine .inl ⟨rfl, _, _, request_eq app action params source target trigger
      (Scheduler.requestWithId_of_free _ holder _), ?_⟩
    exact held.accept (daemon.requested app action params source target trigger) _ _ rfl holder
      (held.quiet_of_free holder) known held.nextId_fresh (Nat.lt_succ_self _) (Nat.le_succ _)
  | some =>
    obtain ⟨result, op, after, answered, refused, ordered, same, runners, started⟩ :=
      held.toOrdered.request app action params source target trigger known (by rw [holder]; rfl)
    exact .inr ⟨rfl, result, op, after, answered, refused,
      held.of_ordered ordered same runners started⟩

omit held in
theorem Granted.request {first : QueuedOperation} (granted : daemon.Granted first)
    (known : (daemon.entry app).isSome) :
    ∃ result op after,
      daemon.request app action params source target trigger = (result, op, after) ∧
        result ≠ .accepted ∧ after.Granted first := by
  obtain ⟨active, holds, _⟩ := Option.map_eq_some_iff.mp granted.given
  obtain ⟨result, op, after, answered, refused, ordered, same, runners, started⟩ :=
    granted.toOrdered.request app action params source target trigger known (by rw [holds]; rfl)
  exact ⟨result, op, after, answered, refused, granted.of_ordered ordered same runners started⟩

omit held in
theorem Held.submit (held : daemon.Held) (known : (daemon.entry app).isSome) :
    Held (daemon.submit host app action params source trigger).2 := by
  unfold Daemon.submit
  rcases held.request app action params source source trigger known with
    ⟨_, op, after, accepted, granted⟩ | ⟨_, result, op, after, answered, refused, keeps⟩
  · rw [accepted]
    exact granted.spawn host
  · rw [answered]
    cases result with
    | accepted => exact absurd rfl refused
    | queued | rejected => exact keeps

end Request

/-! ## Releasing the slot -/

/-- The daemon once a runner has ended and the slot has been passed on, before the
runner of the operation that gets it is started. -/
def released (daemon : Daemon Bundle) (runner : Runner) (reason : RunnerEnd) : Daemon Bundle :=
  let settled :=
    if runner.action = "install" then
      (daemon.serveApp host runner.app
        (.enterPhase (if reason.success then .installed else .notInstalled))).2
    else daemon
  { settled with
    scheduler := settled.scheduler.completeCurrent.2
    runners := settled.runners.filter (·.operationId ≠ runner.operationId) }

omit held in
theorem released_scheduler (runner : Runner) (reason : RunnerEnd) :
    (daemon.released host runner reason).scheduler = daemon.scheduler.completeCurrent.2 := by
  unfold released
  split <;> rfl

omit held in
theorem released_runners (runner : Runner) (reason : RunnerEnd) :
    (daemon.released host runner reason).runners =
      daemon.runners.filter (·.operationId ≠ runner.operationId) := by
  unfold released
  split <;> rfl

omit held in
theorem runnerEnds_eq {operationId : OperationId} {runner : Runner}
    (found : daemon.runners.find? (·.operationId = operationId) = some runner)
    (reason : RunnerEnd) :
    daemon.runnerEnds host operationId reason =
      match daemon.scheduler.queue.head? with
      | none => daemon.released host runner reason
      | some op => (daemon.released host runner reason).spawnAcceptedOperation host op := by
  have same : runner.operationId = operationId := by simpa using find?_some found
  subst same
  unfold Daemon.runnerEnds released
  rw [found]
  dsimp only
  generalize settles : (if runner.action = "install" then
    (daemon.serveApp host runner.app
      (.enterPhase (if reason.success = true then .installed else .notInstalled))).2
    else daemon) = settled
  have queue : daemon.scheduler.queue = settled.scheduler.queue := by
    rw [← settles]
    split <;> rfl
  rw [queue]
  simp only [Scheduler.completeCurrent]
  cases settled.scheduler.queue <;> rfl

theorem Held.release_empty : Held { daemon with scheduler := ⟨none, []⟩, runners := [] } where
  idle _ := rfl
  registered _ busy := by cases busy
  distinct := nodup_nil
  waiting _ mem := by cases mem
  holder _ active := by cases active
  known := held.known
  running := rfl
  once _ active := by cases active

theorem Held.release_next {next : QueuedOperation} {rest : List QueuedOperation}
    (queue : daemon.scheduler.queue = next :: rest) :
    Granted { daemon with scheduler := ⟨some next.activate, rest⟩, runners := [] } next := by
  have distinct := held.distinct
  rw [queue, map_cons, nodup_cons] at distinct
  have waiting := held.waiting
  rw [queue] at waiting
  refine ⟨⟨fun taken => ?_, fun app busy => ?_, distinct.2, fun op mem => ?_,
    fun active holds => ?_, held.known⟩, rfl, rfl, (waiting next (mem_cons_self ..)).2⟩
  · cases taken
  · refine held.registered app ?_
    have listed : daemon.scheduler.queue.any (·.app = app) := by
      rw [queue]
      simpa [Daemon.busy, Scheduler.hasOperationFor, QueuedOperation.activate] using busy
    simp [Daemon.busy, Scheduler.hasOperationFor, listed]
  · exact waiting op (mem_cons_of_mem _ mem)
  · obtain rfl : next.activate = active := Option.some.inj holds
    refine ⟨(waiting next (mem_cons_self ..)).1, fun other mem same => ?_⟩
    exact distinct.1 (mem_map.mpr ⟨other, mem, same⟩)

/-- **The end of a runner frees the slot**, whatever the reason, and the first
operation in the queue gets it together with a runner. -/
theorem Held.runnerEnds {op : ActiveOperation} (holds : daemon.scheduler.active = some op)
    (reason : RunnerEnd) :
    Held (daemon.runnerEnds host op.operationId reason) ∧
      (daemon.runnerEnds host op.operationId reason).scheduler =
        daemon.scheduler.completeCurrent.2 := by
  have running := held.runners_eq holds
  have found : daemon.runners.find? (·.operationId = op.operationId) = some op.runner := by
    rw [running]
    exact find?_cons_of_pos (decide_eq_true rfl)
  -- Settling an install changes its app only.
  have settled : Held { daemon.released host op.runner reason with
      scheduler := daemon.scheduler, runners := daemon.runners } := by
    unfold released
    split
    · exact held.serveApp host fun _ => rfl
    · exact held
  have scheduler := daemon.released_scheduler host op.runner reason
  have quiet := daemon.released_runners host op.runner reason
  rw [running, filter_cons_of_neg (by simp)] at quiet
  rw [runnerEnds_eq host found]
  generalize daemon.released host op.runner reason = released at settled scheduler quiet
  obtain ⟨apps, _, _, started, nextId⟩ := released
  subst scheduler quiet
  cases queue : daemon.scheduler.queue with
  | nil =>
    simp only [Scheduler.completeCurrent, queue]
    exact ⟨settled.release_empty, rfl⟩
  | cons next rest =>
    simp only [Scheduler.completeCurrent, queue]
    exact ⟨(settled.release_next queue).spawn host, spawn_scheduler host next⟩

theorem Held.runnerEnds_any (operationId : OperationId) (reason : RunnerEnd) :
    Held (daemon.runnerEnds host operationId reason) := by
  cases holder : daemon.scheduler.active with
  | none =>
    unfold Daemon.runnerEnds
    rw [held.quiet_of_free holder]
    exact held
  | some op =>
    by_cases same : op.operationId = operationId
    · subst same
      exact (held.runnerEnds host holder reason).1
    · unfold Daemon.runnerEnds
      rw [held.runners_eq holder, find?_cons_of_neg (by simp [ActiveOperation.runner, same])]
      exact held

/-! ## Requests -/

omit held in
theorem checkInvoke_registered {action : String} {params : Params} {checked : Params × Nat}
    (passed : daemon.checkInvoke host app action params = .ok checked) :
    (daemon.entry app).isSome := by
  cases found : daemon.entry app with
  | some => rfl
  | none =>
    unfold checkInvoke at passed
    rw [found] at passed
    cases reserved : host.rejectReservedKeys params with
    | error | ok => rw [reserved] at passed; cases passed

omit held in
theorem checkInstall_registered {params : Params} {checked : Params × Nat × Bool}
    (passed : daemon.checkInstall host app params = .ok checked) :
    (daemon.entry app).isSome := by
  cases found : daemon.entry app with
  | some => rfl
  | none =>
    unfold checkInstall at passed
    rw [found] at passed
    cases passed

theorem Held.invokeAction (app action : String) (params : Params) :
    Held (daemon.invokeAction host app action params).2 := by
  unfold Daemon.invokeAction
  split
  · exact held
  · rename_i checked
    exact held.submit host app action _ _ _ (checkInvoke_registered host checked)

theorem Held.invokeInstall (app : String) (params : Params) :
    Held (daemon.invokeInstall host app params).2 := by
  unfold Daemon.invokeInstall
  split
  · exact held
  · exact held.serveApp host fun _ => rfl
  · rename_i checked
    exact held.submit host app "install" _ _ _ (checkInstall_registered host checked)

theorem Held.requestCancel (app : String) :
    Held { daemon with scheduler := (daemon.scheduler.requestCancel app).2 } := by
  rcases daemon.scheduler.requestCancel_cases app with same | ⟨active, holds, flagged⟩
  · rw [same]
    exact held
  · rw [flagged]
    -- The flag is not part of what a runner is.
    refine ⟨⟨fun free => (by cases free), fun other busy => held.registered other ?_,
      held.distinct, held.waiting, fun other same => ?_, held.known⟩, ?_, fun other same => ?_⟩
    · simpa [Daemon.busy, Scheduler.hasOperationFor, holds] using busy
    · cases same
      exact held.holder active holds
    · rw [held.running, holds]
      rfl
    · cases same
      exact held.once active holds

theorem Held.cancelAction (app : String) : Held (daemon.cancelAction host app).2 := by
  unfold Daemon.cancelAction
  dsimp only
  split
  · exact held.requestCancel app
  · exact held.requestCancel app
  · split
    · exact held.serveApp host fun _ => rfl
    · exact held

/-! ## Change handlers -/

/-- The request of an app that may schedule a change handler. -/
def changeRequest (daemon : Daemon Bundle) :
    DaemonRequest Bundle → Option (String × AppRequest Bundle)
  | .setParam app name value => some (app, .setParam (daemon.busy app) name value)
  | .unsetParam app name => some (app, .unsetParam (daemon.busy app) name)
  | .update app bundle param => some (app, .update (daemon.busy app) bundle param)
  | _ => none

/-- No change handler is scheduled while the slot is free. -/
def Permitted (daemon : Daemon Bundle) (request : DaemonRequest Bundle) : Prop :=
  ∀ app appRequest, daemon.changeRequest request = some (app, appRequest) →
    (serve host.toHost app appRequest (daemon.apps app)).1.schedulesHandler →
    daemon.scheduler.active.isSome

omit held in
/-- What becomes of a request that may schedule a change handler. -/
theorem changeAndSchedule_cases (app : String) (request : AppRequest Bundle) :
    ((daemon.serveApp host app request).1.schedulesHandler = false ∧
        (daemon.changeAndSchedule host app request).2 = (daemon.serveApp host app request).2) ∨
      (daemon.serveApp host app request).1.schedulesHandler ∧ ∃ name generation,
        (daemon.changeAndSchedule host app request).2 =
          ((daemon.serveApp host app request).2.scheduleOnChange app name generation).2 := by
  unfold Daemon.changeAndSchedule
  split
  · rename_i served
    simp [served, Outcome.schedulesHandler]
  · rename_i served
    simp [served, Outcome.schedulesHandler]
  · rename_i generation name _ _ after served
    refine .inr ⟨by simp [served, Outcome.schedulesHandler], name, generation.getD 0, ?_⟩
    rw [served]
    split <;> rename_i scheduled <;> rw [scheduled]

omit held in
theorem scheduleOnChange_eq (app name : String) (generation : Nat) :
    (daemon.scheduleOnChange app name generation).2 =
      (daemon.request app name [] (generation - 1) generation "param_change").2.2 := by
  unfold Daemon.scheduleOnChange
  split <;> rename_i answered <;> rw [answered]

omit held in
theorem registered_of_schedules {request : AppRequest Bundle}
    (schedules : (daemon.serveApp host app request).1.schedulesHandler) :
    ((daemon.serveApp host app request).2.entry app).isSome := by
  show (update daemon.apps app _ app).entry.isSome
  rw [update_self]
  exact (serve_effect request).entry_isSome (.inr schedules)

theorem Held.changeAndSchedule {request : AppRequest Bundle} (kept : request.keepsEntry)
    (taken : (serve host.toHost app request (daemon.apps app)).1.schedulesHandler →
      daemon.scheduler.active.isSome) :
    Held (daemon.changeAndSchedule host app request).2 := by
  have served : Held (daemon.serveApp host app request).2 := held.serveApp host fun _ => kept
  rcases changeAndSchedule_cases host app request with
    ⟨_, after⟩ | ⟨schedules, name, generation, after⟩
  · rw [after]
    exact served
  · rw [after, scheduleOnChange_eq]
    rcases served.request app name [] (generation - 1) generation "param_change"
        (registered_of_schedules host schedules) with
      ⟨free, _⟩ | ⟨_, result, op, rest, answered, _, keeps⟩
    · have holds := taken schedules
      rw [show daemon.scheduler.active = none from free] at holds
      cases holds
    · rw [answered]
      exact keeps

/-- A handler that is scheduled while the slot is free takes it without a
runner. -/
theorem Held.changeAndSchedule_orphans {request : AppRequest Bundle}
    (kept : request.keepsEntry)
    (schedules : (serve host.toHost app request (daemon.apps app)).1.schedulesHandler)
    (free : daemon.scheduler.active = none) :
    (daemon.changeAndSchedule host app request).2.scheduler.active.isSome ∧
      (daemon.changeAndSchedule host app request).2.runners = [] := by
  have served : Held (daemon.serveApp host app request).2 := held.serveApp host fun _ => kept
  rcases changeAndSchedule_cases host app request with
    ⟨nothing, _⟩ | ⟨_, name, generation, after⟩
  · rw [show (daemon.serveApp host app request).1.schedulesHandler = true from schedules] at nothing
    cases nothing
  · rw [after, scheduleOnChange_eq]
    rcases served.request app name [] (generation - 1) generation "param_change"
        (registered_of_schedules host schedules) with
      ⟨_, op, rest, answered, granted⟩ | ⟨taken, _⟩
    · rw [answered]
      obtain ⟨active, holds, _⟩ := Option.map_eq_some_iff.mp granted.given
      exact ⟨by simp [holds], granted.none_running⟩
    · rw [show (daemon.serveApp host app request).2.scheduler.active = none from free] at taken
      cases taken

/-! ## Schedule ticks -/

/-- While a tick fires schedules, at most one operation has been accepted, and
it is the one that is still to be started. -/
def Firing (fired : List QueuedOperation × Daemon Bundle) : Prop :=
  (fired.1 = [] ∧ fired.2.Held) ∨ ∃ op, fired.1 = [op] ∧ fired.2.Granted op

omit held in
theorem Firing.fireSchedule {fired : List QueuedOperation × Daemon Bundle} (firing : Firing fired)
    (now : Nat) (due : DueSchedule) : Firing (fireSchedule host now fired due) := by
  obtain ⟨operations, daemon⟩ := fired
  unfold Daemon.fireSchedule
  dsimp only
  split
  · exact firing
  · rename_i entry found
    have known : (daemon.entry due.app).isSome := by simp [found]
    split
    · exact firing
    · rcases firing with ⟨none, held⟩ | ⟨op, one, granted⟩
      · obtain rfl : operations = [] := none
        rcases held.request due.app due.action [] entry.currentGeneration entry.currentGeneration
            "schedule" known with
          ⟨_, op, after, accepted, granted⟩ | ⟨_, result, op, after, answered, refused, keeps⟩
        · rw [accepted]
          exact .inr ⟨op, rfl, granted.serveApp host fun _ => rfl⟩
        · rw [answered]
          cases result with
          | accepted => exact absurd rfl refused
          | queued => exact .inl ⟨rfl, keeps.serveApp host fun _ => rfl⟩
          | rejected => exact .inl ⟨rfl, keeps⟩
      · obtain ⟨result, other, after, answered, refused, keeps⟩ := granted.request due.app
          due.action [] entry.currentGeneration entry.currentGeneration "schedule" known
        rw [answered]
        cases result with
        | accepted => exact absurd rfl refused
        | queued => exact .inr ⟨op, one, keeps.serveApp host fun _ => rfl⟩
        | rejected => exact .inr ⟨op, one, keeps⟩

theorem Held.scheduleTick (now : Nat) (due : List DueSchedule) :
    Held (daemon.scheduleTick host now due) := by
  unfold Daemon.scheduleTick
  have fired : Firing (due.foldl (Daemon.fireSchedule host now) ([], daemon)) :=
    foldlRecOn due _ (.inl ⟨rfl, held⟩) fun _ firing row _ =>
      firing.fireSchedule host now row
  revert fired
  obtain ⟨operations, after⟩ := due.foldl (Daemon.fireSchedule host now) ([], daemon)
  rintro (⟨none, keeps⟩ | ⟨op, one, granted⟩)
  · obtain rfl : operations = [] := none
    exact keeps
  · obtain rfl : operations = [op] := one
    exact granted.spawn host

/-! ## Restarts -/

theorem Held.revertInstallAndFault (app : String) :
    Held (daemon.revertInstallAndFault host app) := by
  unfold Daemon.revertInstallAndFault
  split
  · exact (held.serveApp host fun _ => rfl).serveApp host fun _ => rfl
  · exact held

variable (interrupted : Interrupted)

theorem Held.resume (params : Params) (known : (daemon.entry interrupted.app).isSome)
    (none_started : daemon.started = []) (free : daemon.scheduler.active = none) :
    Held (daemon.resume host interrupted params) := by
  unfold Daemon.resume
  dsimp only
  split
  · rename_i scheduler accepted
    refine Granted.spawn host ?_
    obtain ⟨active, same, holds⟩ : ∃ active : ActiveOperation,
        active.runner = ⟨interrupted.operationId, interrupted.app, interrupted.action⟩ ∧
          (if interrupted.cancelRequested then (scheduler.requestCancel interrupted.app).2
            else scheduler) = { daemon.scheduler with active := some active } := by
      simp only [Scheduler.requestWithId, free, Prod.mk.injEq, true_and] at accepted
      subst accepted
      split
      · rcases Scheduler.requestCancel_cases { daemon.scheduler with active := some _ }
          interrupted.app with kept | ⟨active, holds, flagged⟩
        · exact ⟨_, rfl, kept⟩
        · cases holds
          exact ⟨_, rfl, flagged⟩
      · exact ⟨_, rfl, rfl⟩
    rw [holds]
    exact held.accept _ active _ same free (held.quiet_of_free free) known (by simp [none_started])
      (Nat.lt_of_lt_of_le (Nat.lt_succ_self _) (Nat.le_max_right _ _)) (Nat.le_max_left _ _)
  · rename_i notAccepted refused
    simp only [Scheduler.requestWithId, free, Prod.mk.injEq] at refused
    exact absurd refused.1.symm notAccepted

def phaseAllows (action : String) (phase : AppPhase) : Bool :=
  if action = "install" then phase = .installing || phase = .notInstalled
  else phase = .installed

/-- Startup takes the interrupted operation up again: its app is registered, its
parameters are there and the phase fits. -/
def replays (daemon : Daemon Bundle) (interrupted : Interrupted) : Bool :=
  (daemon.entry interrupted.app).any fun entry =>
    match interrupted.params with
    | .ok (some _) => phaseAllows interrupted.action entry.phase
    | .ok none => interrupted.action ≠ "install" && phaseAllows interrupted.action entry.phase
    | .error _ => false

omit held in
theorem replay_cases : (daemon.replays interrupted ∧ ∃ params,
        daemon.replayInterruptedOperation host interrupted =
          daemon.resume host interrupted params) ∨
      daemon.replays interrupted = false ∧
        (daemon.replayInterruptedOperation host interrupted = daemon ∨
          daemon.replayInterruptedOperation host interrupted =
            daemon.revertInstallAndFault host interrupted.app) := by
  unfold replays Daemon.replayInterruptedOperation phaseAllows
  cases daemon.entry interrupted.app with
  | none => exact .inr ⟨rfl, .inl rfl⟩
  | some entry =>
    dsimp only [Option.any_some]
    by_cases install : interrupted.action = "install"
    · simp only [install]
      rcases interrupted.params with error | _ | params
      · exact .inr ⟨rfl, .inr rfl⟩
      · exact .inr ⟨rfl, .inr rfl⟩
      · cases decide (entry.phase = .installing) || decide (entry.phase = .notInstalled) with
        | true => exact .inl ⟨rfl, params, rfl⟩
        | false => exact .inr ⟨rfl, .inl rfl⟩
    · simp only [install, ne_eq]
      by_cases fits : entry.phase = .installed
      · simp only [fits]
        rcases interrupted.params with error | _ | params
        · exact .inr ⟨rfl, .inl rfl⟩
        · exact .inl ⟨rfl, [], rfl⟩
        · exact .inl ⟨rfl, params, rfl⟩
      · simp only [fits]
        rcases interrupted.params with error | _ | params <;> exact .inr ⟨rfl, .inl rfl⟩

theorem Held.replayInterruptedOperation (none_started : daemon.started = [])
    (free : daemon.scheduler.active = none) :
    Held (daemon.replayInterruptedOperation host interrupted) := by
  rcases @replay_cases Bundle daemon host interrupted with ⟨replays, params, resumed⟩ | ⟨_, same | reverted⟩
  · have known : (daemon.entry interrupted.app).isSome := by
      cases found : daemon.entry interrupted.app with
      | some => rfl
      | none => simp [Daemon.replays, found] at replays
    rw [resumed]
    exact held.resume host interrupted params known none_started free
  · rwa [same]
  · rw [reverted]
    exact held.revertInstallAndFault host _

variable (interrupted : Option Interrupted)

theorem Held.recoverStuck (hasInstances : String → Bool) :
    Held (daemon.recoverStuck host interrupted hasInstances) := by
  refine held.of_ordered (held.withApps fun app busy => ?_) rfl rfl rfl
  have known := held.registered app busy
  split
  · exact (serve_effect _).entry_isSome (.inl ⟨rfl, known⟩)
  · exact known

omit held in
theorem held_loadAll : Held (daemon.loadAll host) :=
  ⟨⟨fun _ => rfl, nofun, nodup_nil, nofun, nofun, nofun⟩, rfl, nofun⟩

omit held in
theorem held_restart (hasInstances : String → Bool) :
    Held (daemon.restart host interrupted hasInstances) := by
  cases interrupted with
  | none => exact (held_loadAll host).recoverStuck host none hasInstances
  | some op =>
    exact ((held_loadAll host).replayInterruptedOperation host op rfl rfl).recoverStuck host
      (some op) hasInstances

/-! ## The law -/

variable (request : DaemonRequest Bundle)

theorem Held.step (permitted : daemon.Permitted host request) :
    Held (daemon.step host request).2 := by
  cases request with
  | invokeAction app action params => exact held.invokeAction host app action params
  | invokeInstall app params => exact held.invokeInstall host app params
  | cancelAction app => exact held.cancelAction host app
  | register | uninstall | scale | stop | unstop | fault => exact held.serveApp host fun _ => rfl
  | setParam | unsetParam | update => exact held.changeAndSchedule host rfl (permitted _ _ rfl)
  | deregister => exact held.serveApp host fun busy => busy
  | scheduleTick now due => exact held.scheduleTick host now due
  | runnerEnds operationId reason => exact held.runnerEnds_any host operationId reason
  | tornDown =>
    unfold Daemon.step
    dsimp only
    split
    · exact held.serveApp host fun _ => rfl
    · exact held
  | restart interrupted hasInstances => exact held_restart host interrupted hasInstances

theorem Held.step_orphans (refused : ¬ daemon.Permitted host request) :
    (daemon.step host request).2.scheduler.active.isSome ∧
      (daemon.step host request).2.runners = [] := by
  unfold Permitted at refused
  push Not at refused
  obtain ⟨app, appRequest, changes, schedules, free⟩ := refused
  replace free := Option.not_isSome_iff_eq_none.mp free
  cases request <;> cases changes
  · exact held.changeAndSchedule_orphans host rfl schedules free
  · exact held.changeAndSchedule_orphans host rfl schedules free
  · exact held.changeAndSchedule_orphans host rfl schedules free

/-- The slot is attended: its holder has the one runner, started once; an idle
slot has nobody waiting for it; and when the runner ends, for any reason, the
slot and a runner go to the first operation in the queue. -/
structure Attended (daemon : Daemon Bundle) : Prop where
  running : ∀ op, daemon.scheduler.active = some op →
    daemon.runners = [op.runner] ∧ daemon.started.count op.operationId = 1
  idle : daemon.scheduler.active = none → daemon.runners = [] ∧ daemon.scheduler.queue = []
  released : ∀ op reason, daemon.scheduler.active = some op →
    (daemon.runnerEnds host op.operationId reason).scheduler.active =
        daemon.scheduler.queue.head?.map QueuedOperation.activate ∧
      (daemon.runnerEnds host op.operationId reason).scheduler.queue = daemon.scheduler.queue.tail ∧
      (daemon.runnerEnds host op.operationId reason).runners =
        (daemon.scheduler.queue.head?.map QueuedOperation.runner).toList

theorem Held.attended : Attended host daemon where
  running op holds := ⟨held.runners_eq holds, held.once op holds⟩
  idle free := ⟨held.quiet_of_free free, held.idle free⟩
  released op reason holds := by
    obtain ⟨after, scheduler⟩ := held.runnerEnds host holds reason
    rw [after.running, scheduler]
    cases queue : daemon.scheduler.queue with
    | nil => simp [Scheduler.completeCurrent, queue]
    | cons =>
      simp [Scheduler.completeCurrent, queue]
      rfl

end Keeps

end Daemon

/-- **The slot is never held by nothing**, exactly as long as no change handler
is scheduled while the slot is free: over every list of requests, ticks,
restarts and runner ends, each of them is permitted if and only if the slot is
attended in every state reached. -/
theorem slot_attended_iff {Bundle : Type} (host : DaemonHost Bundle)
    (requests : List (DaemonRequest Bundle)) :
    (daemonMachine host).Along (fun daemon => daemon.Permitted host) Daemon.init requests ↔
      ∀ earlier later, requests = earlier ++ later →
        Daemon.Attended host ((daemonMachine host).run Daemon.init earlier) := by
  refine (daemonMachine host).along_iff_everywhere
    (I := Daemon.Held) (fun daemon request held permitted => held.step host request permitted)
    (fun daemon held => held.attended host) (fun daemon request held refused attended => ?_)
    Daemon.init requests Daemon.held_init
  obtain ⟨taken, none_running⟩ := held.step_orphans host request refused
  obtain ⟨op, holds⟩ := Option.isSome_iff_exists.mp taken
  have running := (attended.running op holds).1
  rw [show ((daemonMachine host).next daemon request).runners = [] from none_running] at running
  cases running

/-- A host whose one definition declares the parameter `mode` with a change
handler, and has no install action. -/
def modeHost : DaemonHost Unit where
  engine :=
    { build := fun _ _ _ =>
        { params := [("mode", ⟨false⟩)]
          params_nodup := by decide
          actions := []
          shells := []
          install := false
          paramChanges := ["mode"]
          deployments := []
          resources := []
          registries := [] }
      error := fun _ _ _ => none
      rejections := fun _ _ _ _ => []
      checkInstallable := fun _ => .ok ()
      unsupported := fun _ => none }
  cipher := .transparent
  allowed := []
  rejectReservedKeys _ := .ok ()
  applySchema _ _ params := .ok params
  runRequirements _ params := .ok params

/-- The same with the action `backup` and no change handler. -/
def backupHost : DaemonHost Unit :=
  { modeHost with
    engine :=
      { modeHost.engine with
        build := fun bundle values existing =>
          { modeHost.engine.build bundle values existing with
            actions := [⟨"backup", []⟩]
            paramChanges := [] } } }

/-- **A change handler holds the slot with no runner**: register an app, install
it, and set its parameter. -/
theorem change_handler_holds_the_slot : (((daemonMachine modeHost).run Daemon.init
        [.register "web" (), .invokeInstall "web" [],
          .setParam "web" "mode" "on"]).scheduler.active.map ActiveOperation.runner =
      some ⟨0, "web", "mode"⟩) ∧
    ((daemonMachine modeHost).run Daemon.init
        [.register "web" (), .invokeInstall "web" [], .setParam "web" "mode" "on"]).runners =
      [] := by
  decide

end Seedling.Operations
