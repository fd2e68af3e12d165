import Seedling.Operations.Numbering

/-!
# The phase an operation is started in

An action is to be started for an installed app, and an install for one that is not installed
yet.  Requests check the phase when they arrive; an operation that has to wait is started when
a runner ends and the slot is passed on, and the phase is not looked at again.

Every runner is started in the phase its action is for exactly when the slot is passed on only
to operations whose app is in that phase, and no action or schedule goes by the name of the
install action (`starts_in_phase_iff`).
-/

namespace Seedling.Operations

open Apps Function Foundation List Option Daemon
open Barrier (Params)

namespace Daemon

variable {Bundle : Type} (host : DaemonHost Bundle) (daemon : Daemon Bundle)

/-- If the app is registered, its phase is one that the action may find it in. -/
def fits (action app : String) : Bool :=
  (daemon.entry app).all fun entry => phaseAllows action entry.phase

def atStart : DaemonRequest Bundle → Daemon Bundle
  | .runnerEnds operationId reason =>
    match daemon.runners.find? (·.operationId = operationId) with
    | none => daemon
    | some runner => daemon.released host runner reason
  | .scheduleTick now due => (due.foldl (fireSchedule host now) ([], daemon)).2
  | .restart _ _ => daemon.loadAll host
  | _ => daemon

/-- Every runner that the request starts is of a registered app in the phase that its
action is for. -/
def StartsInPhase (request : DaemonRequest Bundle) : Prop :=
  ∀ runner ∈ (daemon.step host request).2.runners, runner ∉ (daemon.atStart host request).runners →
      ((daemon.atStart host request).entry runner.app).any
        (fun entry => phaseAllows runner.action entry.phase)

/-- No action by the name of the install action gets the slot at once, and the slot is
passed on only to an operation whose app is in the phase for it. -/
def PhaseKept : DaemonRequest Bundle → Prop
  | .invokeAction app action params =>
    (daemon.checkInvoke host app action params).toBool →
      daemon.scheduler.active = none → action ≠ "install"
  | .scheduleTick now due =>
    ∀ op ∈ (due.foldl (fireSchedule host now) ([], daemon)).1, op.action ≠ "install"
  | .runnerEnds operationId _ =>
    daemon.runners.any (·.operationId = operationId) →
      ∀ op, daemon.scheduler.queue.head? = some op → daemon.fits op.action op.app
  | _ => True

variable {host} {daemon}

/-! ## Starting one runner -/

def InPhase (before after : Daemon Bundle) : Prop :=
  ∀ runner ∈ after.runners, runner ∉ before.runners →
    (before.entry runner.app).any (fun entry => phaseAllows runner.action entry.phase)

variable {runner : Runner} {op : QueuedOperation}

theorem mem_runners_spawn : runner ∈ (daemon.spawnAcceptedOperation host op).runners ↔
      runner ∈ daemon.runners ∨ runner = op.runner ∧ (daemon.entry op.app).isSome := by
  unfold spawnAcceptedOperation
  cases daemon.entry op.app with
  | none => simp
  | some =>
    have listed : runner ∈ daemon.runners ++ [⟨op.operationId, op.app, op.action⟩] ↔
        runner ∈ daemon.runners ∨ runner = op.runner := by
      rw [mem_append, mem_singleton]
      rfl
    simp only [isSome_some, and_true]
    split
    · exact listed
    · exact listed

/-- A runner that was not there is started in its phase exactly if the phase fits. -/
theorem spawn_in_phase_iff (absent : op.runner ∉ daemon.runners) :
    InPhase daemon (daemon.spawnAcceptedOperation host op) ↔
      daemon.fits op.action op.app := by
  simp only [InPhase, mem_runners_spawn, fits]
  constructor
  · intro starts
    cases found : daemon.entry op.app with
    | none => rfl
    | some =>
      have inPhase := starts op.runner (.inr ⟨rfl, by rw [found]; rfl⟩) absent
      simpa [QueuedOperation.runner, found] using inPhase
  · rintro fitting runner (running | ⟨rfl, known⟩) new
    · exact absurd running new
    · obtain ⟨entry, found⟩ := isSome_iff_exists.mp known
      simpa [QueuedOperation.runner, found] using fitting

theorem in_phase_of_same_runners {before after : Daemon Bundle}
    (same : after.runners = before.runners) : InPhase before after := by
  intro runner running new
  rw [same] at running
  exact absurd running new

/-! ## Asking for the slot -/

theorem Numbered.absent_of_drawn (numbered : daemon.Numbered)
    (drawn : daemon.nextId ≤ runner.operationId) : runner ∉ daemon.runners :=
  fun running => absurd (numbered.apart runner running).1 (Nat.not_lt.mpr drawn)

theorem Numbered.submit_in_phase_iff (numbered : daemon.Numbered) (app action trigger : String)
    (params : Params) (generation : Nat) :
    InPhase daemon (daemon.submit host app action params generation trigger).2 ↔
      (daemon.scheduler.active = none → daemon.fits action app) := by
  unfold submit
  rcases daemon.scheduler.request_cases
      (daemon.requested app action params generation generation trigger) with
    ⟨free, accepted⟩ | ⟨taken, _, queued⟩ | ⟨_, reason, rejected⟩
  · rw [request_eq app action params generation generation trigger accepted]
    refine Iff.trans (spawn_in_phase_iff ?_) ⟨fun fitting _ => fitting, fun fitting => fitting free⟩
    exact numbered.absent_of_drawn (le_refl daemon.nextId)
  · rw [request_eq app action params generation generation trigger queued]
    have busy : daemon.scheduler.active ≠ none := isSome_iff_ne_none.mp taken
    exact iff_of_true (in_phase_of_same_runners rfl) fun free => absurd free busy
  · rw [request_eq app action params generation generation trigger rejected]
    refine iff_of_true (in_phase_of_same_runners rfl) fun free => ?_
    simp only [Scheduler.requestWithId, free] at rejected
    cases rejected

variable {app : String} {params : Params} {action : String}

theorem checkInvoke_installed {checked : Params × Nat}
    (passed : daemon.checkInvoke host app action params = .ok checked) :
    ∃ entry, daemon.entry app = some entry ∧ entry.phase = .installed := by
  obtain ⟨entry, found⟩ := isSome_iff_exists.mp (checkInvoke_registered host passed)
  refine ⟨entry, found, ?_⟩
  by_contra other
  unfold checkInvoke at passed
  rw [found] at passed
  cases reserved : host.rejectReservedKeys params with
  | error => rw [reserved] at passed; cases passed
  | ok =>
    rw [reserved] at passed
    simp only [ne_eq, other] at passed
    cases passed

theorem checkInstall_notInstalled {checked : Params × Nat × Bool}
    (passed : daemon.checkInstall host app params = .ok checked) :
    ∃ entry, daemon.entry app = some entry ∧ entry.phase = .notInstalled := by
  obtain ⟨entry, found⟩ := isSome_iff_exists.mp (checkInstall_registered host passed)
  refine ⟨entry, found, ?_⟩
  unfold checkInstall at passed
  rw [found] at passed
  cases phase : entry.phase with
  | notInstalled => rfl
  | installing | installed | uninstalling =>
    simp only [phase] at passed
    cases passed

theorem fits_iff_of_installed {entry : AppEntry Bundle} (found : daemon.entry app = some entry)
    (installed : entry.phase = .installed) :
    daemon.fits action app ↔ action ≠ "install" := by
  simp [fits, found, phaseAllows, installed]

theorem Numbered.invokeAction_in_phase_iff (numbered : daemon.Numbered) (app action : String)
    (params : Params) :
    daemon.StartsInPhase host (.invokeAction app action params) ↔
      daemon.PhaseKept host (.invokeAction app action params) := by
  simp only [StartsInPhase, PhaseKept, step, invokeAction]
  cases checked : daemon.checkInvoke host app action params with
  | error =>
    exact iff_of_true (in_phase_of_same_runners rfl) fun passed => by cases passed
  | ok =>
    obtain ⟨entry, found, installed⟩ := checkInvoke_installed checked
    refine (numbered.submit_in_phase_iff app action _ _ _).trans ?_
    rw [fits_iff_of_installed found installed]
    exact ⟨fun named _ => named, fun named => named rfl⟩

theorem Numbered.invokeInstall_in_phase (numbered : daemon.Numbered) (app : String)
    (params : Params) : daemon.StartsInPhase host (.invokeInstall app params) := by
  simp only [StartsInPhase, step, invokeInstall]
  split
  · exact in_phase_of_same_runners rfl
  · exact in_phase_of_same_runners rfl
  · rename_i checked
    obtain ⟨entry, found, phase⟩ := checkInstall_notInstalled checked
    refine (numbered.submit_in_phase_iff app "install" _ _ _).mpr fun _ => ?_
    simp [fits, found, phaseAllows, phase]

/-! ## Passing the slot on -/

theorem released_entry (other : app ≠ runner.app) (reason : RunnerEnd) :
    (daemon.released host runner reason).entry app = daemon.entry app := by
  unfold released entry
  split
  · exact congrArg AppState.entry (update_of_ne other _ _)
  · rfl

theorem runnerEnds_in_phase_iff (numbered : daemon.Numbered) (solo : daemon.Solo)
    (operationId : OperationId) (reason : RunnerEnd) :
    daemon.StartsInPhase host (.runnerEnds operationId reason) ↔
      daemon.PhaseKept host (.runnerEnds operationId reason) := by
  simp only [StartsInPhase, atStart, PhaseKept, step]
  cases found : daemon.runners.find? (·.operationId = operationId) with
  | none =>
    have ended : daemon.runnerEnds host operationId reason = daemon := by
      unfold runnerEnds
      rw [found]
    have nobody : daemon.runners.any (·.operationId = operationId) = false := by
      simpa using found
    rw [ended, nobody]
    exact iff_of_true (in_phase_of_same_runners rfl) (by rintro ⟨⟩)
  | some runner =>
    have running := mem_of_find?_eq_some found
    have known : daemon.runners.any (·.operationId = operationId) :=
      any_eq_true.mpr ⟨runner, running, by simpa using find?_some found⟩
    rw [runnerEnds_eq _ found, known, forall_prop_of_true rfl]
    cases next : daemon.scheduler.queue.head? with
    | none => exact iff_of_true (in_phase_of_same_runners rfl) (by rintro _ ⟨⟩)
    | some op =>
      have waits : op ∈ daemon.scheduler.queue := mem_of_head? next
      have otherApp : op.app ≠ runner.app := by
        obtain ⟨active, holds, same⟩ := map_eq_some_iff.mp (solo.running runner running)
        rw [← same]
        exact solo.holder active holds op waits
      have absent : op.runner ∉ (daemon.released host runner reason).runners := by
        rw [released_runners]
        intro remains
        refine (numbered.apart op.runner (mem_filter.mp remains).1).2 ?_
        exact mem_map_of_mem waits
      refine (spawn_in_phase_iff absent).trans ?_
      rw [fits, released_entry otherApp]
      exact ⟨fun fitting _ same => some.inj same ▸ fitting, fun all => all op rfl⟩

/-! ## Ticks and restarts -/

/-- What a tick has come to when it has fired some schedules. -/
structure Fired (daemon : Daemon Bundle) (fired : List QueuedOperation × Daemon Bundle) :
    Prop where
  runners : fired.2.runners = daemon.runners
  drawn : daemon.nextId ≤ fired.2.nextId
  accepted : fired.1 = [] ∨ fired.2.scheduler.active ≠ none ∧ ∃ op, fired.1 = [op] ∧
    daemon.nextId ≤ op.operationId ∧
      ∃ entry, fired.2.entry op.app = some entry ∧ entry.phase = .installed

theorem entry_fired (now : Nat) (app action cronexpr other : String) (accepted : Bool) :
    (daemon.serveApp host app (.fired now action cronexpr accepted)).2.entry other =
      daemon.entry other := by
  show (update daemon.apps app (serve host.toHost app _ (daemon.apps app)).2 other).entry = _
  by_cases same : other = app
  · subst same
    rw [update_self]
    dsimp only [serve, scheduleFired]
    split
    · split <;> rfl
    · rfl
  · rw [update_of_ne same]
    rfl

theorem Fired.fireSchedule {fired : List QueuedOperation × Daemon Bundle}
    (sofar : Fired daemon fired) (now : Nat) (due : DueSchedule) :
    Fired daemon (fireSchedule host now fired due) := by
  obtain ⟨operations, current⟩ := fired
  unfold Daemon.fireSchedule
  dsimp only
  split
  · exact sofar
  · rename_i entry found
    split
    · exact sofar
    · rename_i phase
      have installed : entry.phase = .installed := not_not.mp phase
      rcases current.scheduler.request_cases (current.requested due.app due.action []
          entry.currentGeneration entry.currentGeneration "schedule") with
        ⟨free, accepted⟩ | ⟨_, _, queued⟩ | ⟨_, reason, rejected⟩
      · rw [request_eq _ _ _ _ _ _ accepted]
        have none_before : operations = [] := sofar.accepted.resolve_right fun taken => taken.1 free
        subst none_before
        refine ⟨sofar.runners, sofar.drawn.trans (Nat.le_succ _), .inr ⟨nofun, _, rfl, ?_, ?_⟩⟩
        · exact sofar.drawn
        · exact ⟨entry, (entry_fired now due.app _ _ due.app true).trans found, installed⟩
      · rw [request_eq _ _ _ _ _ _ queued]
        refine ⟨sofar.runners, sofar.drawn.trans (Nat.le_succ _), ?_⟩
        refine sofar.accepted.imp_right ?_
        rintro ⟨taken, op, one, drawn, known, listed, phase⟩
        exact ⟨taken, op, one, drawn, known,
          (entry_fired now due.app _ _ op.app false).trans listed, phase⟩
      · rw [request_eq _ _ _ _ _ _ rejected]
        exact ⟨sofar.runners, sofar.drawn.trans (Nat.le_succ _), sofar.accepted⟩

theorem Numbered.scheduleTick_in_phase_iff (numbered : daemon.Numbered) (now : Nat)
    (due : List DueSchedule) :
    daemon.StartsInPhase host (.scheduleTick now due) ↔
      daemon.PhaseKept host (.scheduleTick now due) := by
  have fired : Fired daemon (due.foldl (fireSchedule host now) ([], daemon)) :=
    foldlRecOn due _ ⟨rfl, le_refl _, .inl rfl⟩ fun _ sofar row _ =>
      sofar.fireSchedule now row
  simp only [StartsInPhase, atStart, PhaseKept, step, scheduleTick]
  generalize due.foldl (fireSchedule host now) ([], daemon) = outcome at fired ⊢
  obtain ⟨operations, after⟩ := outcome
  rcases fired.accepted with none_accepted | ⟨_, op, one, drawn, entry, found, installed⟩
  · obtain rfl : operations = [] := none_accepted
    exact iff_of_true (in_phase_of_same_runners rfl) (by rintro _ ⟨⟩)
  · obtain rfl : operations = [op] := one
    have absent : op.runner ∉ after.runners := by
      rw [show after.runners = daemon.runners from fired.runners]
      exact numbered.absent_of_drawn drawn
    refine (spawn_in_phase_iff absent).trans ?_
    rw [fits_iff_of_installed found installed, forall_mem_singleton]

variable {interrupted : Interrupted}

theorem phase_of_replays (replays : daemon.replays interrupted) :
    (daemon.entry interrupted.app).any
      (fun entry => phaseAllows interrupted.action entry.phase) := by
  unfold Daemon.replays at replays
  cases found : daemon.entry interrupted.app with
  | none =>
    rw [found] at replays
    cases replays
  | some =>
    rw [found] at replays
    split at replays
    · exact replays
    · exact (Bool.and_eq_true_iff.mp replays).2
    · cases replays

theorem runner_of_resume (running : runner ∈ (daemon.resume host interrupted params).runners) :
    runner ∈ daemon.runners ∨
      runner = ⟨interrupted.operationId, interrupted.app, interrupted.action⟩ := by
  unfold resume at running
  dsimp only at running
  split at running
  · exact (mem_runners_spawn.mp running).imp_right And.left
  · exact .inl running

theorem restart_in_phase (interrupted : Option Interrupted) (hasInstances : String → Bool) :
    daemon.StartsInPhase host (.restart interrupted hasInstances) := by
  intro runner running new
  cases interrupted with
  | none => exact absurd running new
  | some op =>
    replace running :
        runner ∈ ((daemon.loadAll host).replayInterruptedOperation host op).runners := running
    rcases @replay_cases Bundle (daemon.loadAll host) host op with
      ⟨replays, params, resumed⟩ | ⟨_, same | reverted⟩
    · rw [resumed] at running
      rcases runner_of_resume running with earlier | rfl
      · exact absurd earlier new
      · exact phase_of_replays replays
    · rw [same] at running
      exact absurd running new
    · rw [reverted, revertInstallAndFault] at running
      split at running
      · exact absurd running new
      · exact absurd running new

/-! ## Every request -/

theorem changeAndSchedule_runners (app : String) (request : AppRequest Bundle) :
    (daemon.changeAndSchedule host app request).2.runners = daemon.runners := by
  rcases @changeAndSchedule_cases Bundle daemon host app request with
    ⟨_, same⟩ | ⟨_, name, generation, same⟩
  · rw [same]
    rfl
  · rw [same, scheduleOnChange_eq]
    rfl

theorem cancelAction_runners (app : String) :
    (daemon.cancelAction host app).2.runners = daemon.runners := by
  unfold cancelAction
  dsimp only
  split
  · rfl
  · rfl
  · split <;> rfl

theorem startsInPhase_iff (numbered : daemon.Numbered) (solo : daemon.Solo)
    (request : DaemonRequest Bundle) :
    daemon.StartsInPhase host request ↔ daemon.PhaseKept host request := by
  have quiet {request : DaemonRequest Bundle} (start : daemon.atStart host request = daemon)
      (same : (daemon.step host request).2.runners = daemon.runners) :
      daemon.StartsInPhase host request := by
    unfold StartsInPhase
    rw [start]
    exact in_phase_of_same_runners same
  cases request with
  | invokeAction app action params => exact numbered.invokeAction_in_phase_iff app action params
  | invokeInstall app params =>
    exact iff_of_true (numbered.invokeInstall_in_phase app params) trivial
  | cancelAction app => exact iff_of_true (quiet rfl (cancelAction_runners app)) trivial
  | setParam app | unsetParam app | update app =>
    exact iff_of_true (quiet rfl (changeAndSchedule_runners app _)) trivial
  | scheduleTick now due => exact numbered.scheduleTick_in_phase_iff now due
  | runnerEnds operationId reason => exact runnerEnds_in_phase_iff numbered solo operationId reason
  | tornDown =>
    refine iff_of_true (quiet rfl ?_) trivial
    rw [step]
    split <;> rfl
  | restart interrupted hasInstances =>
    exact iff_of_true (restart_in_phase interrupted hasInstances) trivial
  | register | uninstall | deregister | scale | stop | unstop | fault =>
    exact iff_of_true (quiet rfl rfl) trivial

end Daemon

/-- **Every runner is started in the phase its action is for**, exactly as long as the
slot is passed on only to operations whose app is in that phase and no action or
schedule by the name of the install action gets the slot at once. -/
theorem starts_in_phase_iff {Bundle : Type} (host : DaemonHost Bundle)
    (requests : List (DaemonRequest Bundle)) :
    (daemonMachine host).Along (fun daemon => daemon.StartsInPhase host) Daemon.init requests ↔
      (daemonMachine host).Along (fun daemon => daemon.PhaseKept host) Daemon.init requests :=
  (daemonMachine host).along_congr (I := fun daemon => daemon.Numbered ∧ daemon.Solo)
    (fun daemon request kept =>
      ⟨kept.1.moves (Daemon.step_moves daemon request),
        kept.2.moves (Daemon.step_moves daemon request)⟩)
    (fun _ request kept => Daemon.startsInPhase_iff kept.1 kept.2 request)
    Daemon.init requests ⟨Daemon.numbered_init, Daemon.solo_init⟩

/-- While `web` is backed up, a backup of `mail` has to wait; `mail` is uninstalled and torn
down in the meantime. -/
def uninstalledWhileWaiting : List (DaemonRequest Unit) :=
  [.register "web" (), .invokeInstall "web" [], .register "mail" (), .invokeInstall "mail" [],
    .invokeAction "web" "backup" [], .invokeAction "mail" "backup" [], .uninstall "mail",
    .tornDown "mail"]

/-- When the backup of `web` is done, that of `mail` is started, which is not installed. -/
theorem waiting_action_starts_uninstalled : (((daemonMachine backupHost).run Daemon.init
        (uninstalledWhileWaiting ++ [.runnerEnds 0 .completed])).runners =
          [⟨1, "mail", "backup"⟩]) ∧
      (((daemonMachine backupHost).run Daemon.init
        (uninstalledWhileWaiting ++ [.runnerEnds 0 .completed])).entry "mail").map AppEntry.phase =
          some .notInstalled := by
  decide

end Seedling.Operations
