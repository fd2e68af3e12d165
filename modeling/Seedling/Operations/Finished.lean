import Seedling.Operations.Numbering

/-!
# Finished operations

The daemon together with the row that names its current operation.  A runner that has
its database handle and its script saves the row and enters its pass loop; when it
leaves the loop the row is deleted.  A startup takes the operation that the row names
up again, or deletes the row.

`finished_never_replayed_iff` says when an operation whose runner has ended is never
taken up again: when every runner that ends while the row names its operation ends out
of its loop and the row is deleted.
-/

namespace Seedling.Operations

open Apps Foundation List
open Barrier (Params)

/-! ## The row -/

/-- The row of `current_operation`; its parameters are read on their own. -/
structure CurrentOperation where
  operationId : OperationId
  app : String
  actionName : String
  sourceGeneration : Nat
  targetGeneration : Nat
  cancelRequested : Bool
deriving DecidableEq

namespace CurrentOperation

/-- Saving over an earlier row leaves its cancel flag. -/
def save (stored : Option CurrentOperation) (operation : CurrentOperation) : CurrentOperation :=
  { operation with cancelRequested := stored.any CurrentOperation.cancelRequested }

def setCancelRequested (operationId : OperationId) (stored : CurrentOperation) : CurrentOperation :=
  if stored.operationId = operationId then { stored with cancelRequested := true } else stored

/-- What startup reads, `params` being what reading the parameters gives. -/
def interrupted (stored : CurrentOperation) (params : Except String (Option Params)) :
    Daemon.Interrupted where
  app := stored.app
  action := stored.actionName
  operationId := stored.operationId
  sourceGeneration := stored.sourceGeneration
  targetGeneration := stored.targetGeneration
  params := params
  cancelRequested := stored.cancelRequested

@[simp]
theorem setCancelRequested_operationId (operationId : OperationId) (stored : CurrentOperation) :
    (stored.setCancelRequested operationId).operationId = stored.operationId := by
  unfold setCancelRequested
  split <;> rfl

end CurrentOperation

/-! ## Runners and their loops -/

namespace Daemon.RunnerEnd

/-- Whether the runner had entered its pass loop; a panic can come at any time. -/
def inLoop : RunnerEnd → Option Bool
  | .completed | .failed | .cancelled => some true
  | .scriptDoesNotCompile | .databaseUnavailable => some false
  | .panicked => none

def deletesRow : RunnerEnd → Bool
  | .completed | .failed | .cancelled => true
  | .scriptDoesNotCompile | .databaseUnavailable | .panicked => false

end Daemon.RunnerEnd

structure Ledger (Bundle : Type) where
  daemon : Daemon Bundle
  row : Option CurrentOperation
  /-- The operations whose runners have entered their pass loop. -/
  looping : List OperationId
  ended : List OperationId

/-- What a startup finds: whether the row can be read, what reading its parameters
gives, whether deleting it goes through, and the apps that have instances. -/
structure Startup where
  reads : Bool
  params : Except String (Option Params)
  deletes : Bool
  hasInstances : String → Bool

inductive LedgerEvent (Bundle : Type) where
  /-- A request to the daemon; the ends of runners and restarts are events of their own. -/
  | serve (request : DaemonRequest Bundle)
  /-- A runner enters its pass loop; `saves` says whether saving the row goes through. -/
  | entersLoop (operation : CurrentOperation) (saves : Bool)
  /-- A runner ends; `deletes` says whether deleting the row, if it comes to that, goes
  through. -/
  | runnerEnds (operationId : OperationId) (reason : Daemon.RunnerEnd) (deletes : Bool)
  | restart (startup : Startup)

namespace Ledger

variable {Bundle : Type} (host : DaemonHost Bundle) (ledger : Ledger Bundle)

def init : Ledger Bundle := ⟨Daemon.init, none, [], []⟩

/-- A request to the daemon.  A cancellation is noted in the row of its operation. -/
def serve (request : DaemonRequest Bundle) : Ledger Bundle :=
  match request with
  | .runnerEnds _ _ | .restart _ _ => ledger
  | .cancelAction app =>
    { ledger with
      daemon := (ledger.daemon.step host request).2
      row :=
        match (ledger.daemon.scheduler.requestCancel app).1 with
        | .cancelled operationId | .alreadyCancelled operationId =>
          ledger.row.map (CurrentOperation.setCancelRequested operationId)
        | .noActiveOp => ledger.row }
  | _ => { ledger with daemon := (ledger.daemon.step host request).2 }

def entersLoop (operation : CurrentOperation) (saves : Bool) : Ledger Bundle :=
  if ⟨operation.operationId, operation.app, operation.actionName⟩ ∈ ledger.daemon.runners ∧
      operation.operationId ∉ ledger.looping then
    { ledger with
      row := if saves then some (CurrentOperation.save ledger.row operation) else ledger.row
      looping := ledger.looping ++ [operation.operationId] }
  else ledger

def mayEnd (operationId : OperationId) (reason : Daemon.RunnerEnd) : Bool :=
  ledger.daemon.runners.any (·.operationId = operationId) &&
    reason.inLoop.all (· = (operationId ∈ ledger.looping : Bool))

def runnerEnds (operationId : OperationId) (reason : Daemon.RunnerEnd) (deletes : Bool) :
    Ledger Bundle :=
  if ledger.mayEnd operationId reason then
    { daemon := ledger.daemon.runnerEnds host operationId reason
      row := if reason.deletesRow && deletes then none else ledger.row
      looping := ledger.looping.filter (· ≠ operationId)
      ended := ledger.ended ++ [operationId] }
  else ledger

def interrupted (startup : Startup) : Option Daemon.Interrupted :=
  if startup.reads then ledger.row.map (·.interrupted startup.params) else none

/-- The daemon restarts.  The row stays if its operation is taken up again. -/
def restart (startup : Startup) : Ledger Bundle where
  daemon := ledger.daemon.restart host (ledger.interrupted startup) startup.hasInstances
  row :=
    if (ledger.interrupted startup).any fun op =>
      !(ledger.daemon.loadAll host).replays op && startup.deletes then none
    else ledger.row
  looping := []
  ended := ledger.ended

def step : LedgerEvent Bundle → Ledger Bundle
  | .serve request => ledger.serve host request
  | .entersLoop operation saves => ledger.entersLoop operation saves
  | .runnerEnds operationId reason deletes => ledger.runnerEnds host operationId reason deletes
  | .restart startup => ledger.restart host startup

end Ledger

def ledgerMachine {Bundle : Type} (host : DaemonHost Bundle) :
    Machine (Ledger Bundle) (LedgerEvent Bundle) Unit where
  step ledger event := ((), ledger.step host event)

/-! ## What is kept -/

namespace Ledger

variable {Bundle : Type}

/-- An operation whose runner has ended is not named by the row, and has no runner. -/
structure Finished (ledger : Ledger Bundle) : Prop where
  unnamed : ∀ stored, ledger.row = some stored → stored.operationId ∉ ledger.ended
  undispatched : ∀ runner ∈ ledger.daemon.runners, runner.operationId ∉ ledger.ended

/-- A runner that ends while the row names its operation deletes the row. -/
def ClearsUp (ledger : Ledger Bundle) : LedgerEvent Bundle → Prop
  | .runnerEnds operationId reason deletes =>
    ledger.mayEnd operationId reason →
      ledger.row.map CurrentOperation.operationId = some operationId →
        reason.deletesRow ∧ deletes
  | _ => True

/-- Nothing is left of ended operations, in the daemon or in the row. -/
structure Kept (ledger : Ledger Bundle) : Prop where
  numbered : ledger.daemon.Numbered
  retired : ∀ id ∈ ledger.ended, ledger.daemon.Retired id
  unnamed : ∀ stored, ledger.row = some stored → stored.operationId ∉ ledger.ended

theorem kept_init : Kept (init : Ledger Bundle) := ⟨Daemon.numbered_init, nofun, nofun⟩

variable {host : DaemonHost Bundle} {ledger : Ledger Bundle} (kept : ledger.Kept)
include kept

theorem Kept.finished : ledger.Finished where
  unnamed := kept.unnamed
  undispatched runner running ended := (kept.retired _ ended).idle runner running rfl

theorem Kept.moves {replayed : OperationId → Prop} {after : Daemon Bundle}
    (moves : Daemon.Moves host replayed ledger.daemon after)
    (forgotten : ∀ id ∈ ledger.ended, ¬ replayed id) {row : Option CurrentOperation}
    (unnamed : ∀ stored, row = some stored → stored.operationId ∉ ledger.ended)
    (looping : List OperationId) : Kept ⟨after, row, looping, ledger.ended⟩ where
  numbered := kept.numbered.moves moves
  retired id ended := (kept.retired id ended).moves (forgotten id ended) moves
  unnamed := unnamed

theorem Kept.serve (request : DaemonRequest Bundle) : (ledger.serve host request).Kept := by
  have moves := @Daemon.step_moves Bundle host ledger.daemon request
  cases request with
  | runnerEnds | restart => exact kept
  | cancelAction =>
    refine kept.moves moves (fun id _ => ?_) ?_ ledger.looping
    · rintro ⟨_, _, same, _⟩
      cases same
    · intro stored saved
      split at saved
      · obtain ⟨earlier, found, rfl⟩ := Option.map_eq_some_iff.mp saved
        simpa using kept.unnamed earlier found
      · obtain ⟨earlier, found, rfl⟩ := Option.map_eq_some_iff.mp saved
        simpa using kept.unnamed earlier found
      · exact kept.unnamed stored saved
  | _ =>
    refine kept.moves moves (fun id _ => ?_) kept.unnamed ledger.looping
    rintro ⟨_, _, same, _⟩
    cases same

theorem Kept.entersLoop (operation : CurrentOperation) (saves : Bool) :
    (ledger.entersLoop operation saves).Kept := by
  unfold Ledger.entersLoop
  split
  · rename_i running
    refine ⟨kept.numbered, kept.retired, fun stored saved => ?_⟩
    cases saves with
    | false => exact kept.unnamed stored saved
    | true =>
      obtain rfl := Option.some.inj saved
      exact kept.finished.undispatched _ running.1
  · exact kept

omit kept in
theorem exists_runner_of_mayEnd {operationId : OperationId} {reason : Daemon.RunnerEnd}
    (may : ledger.mayEnd operationId reason) :
    ∃ runner, ledger.daemon.runners.find? (·.operationId = operationId) = some runner := by
  have running := (Bool.and_eq_true_iff.mp may).1
  rwa [any_eq_true, ← find?_isSome, Option.isSome_iff_exists] at running

theorem Kept.runnerEnds (operationId : OperationId) (reason : Daemon.RunnerEnd) (deletes : Bool)
    (clears : ledger.ClearsUp (.runnerEnds operationId reason deletes)) :
    (ledger.runnerEnds host operationId reason deletes).Kept := by
  unfold Ledger.runnerEnds
  split
  · rename_i may
    obtain ⟨runner, found⟩ := exists_runner_of_mayEnd may
    have moves : Daemon.Moves host (fun _ => False) ledger.daemon _ :=
      Daemon.Moves.runnerEnds .refl operationId reason
    refine ⟨kept.numbered.moves moves, fun id ended => ?_, fun stored saved => ?_⟩
    · rcases mem_append.mp ended with earlier | last
      · exact (kept.retired id earlier).moves not_false moves
      · cases mem_singleton.mp last
        exact kept.numbered.retired_of_runnerEnds found reason
    · split at saved
      · cases saved
      · rename_i stays
        rw [mem_append, mem_singleton, not_or]
        refine ⟨kept.unnamed stored saved, fun same => stays ?_⟩
        exact Bool.and_eq_true_iff.mpr (clears may (by rw [saved, ← same]; rfl))
  · exact kept

theorem Kept.restart (startup : Startup) : (ledger.restart host startup).Kept := by
  have moves : Daemon.Moves host
      (fun id => ledger.row.map CurrentOperation.operationId = some id) ledger.daemon
      (ledger.daemon.restart host (ledger.interrupted startup) startup.hasInstances) := by
    refine Daemon.Moves.restart .refl _ _ fun op found => ?_
    unfold Ledger.interrupted at found
    split at found
    · obtain ⟨stored, saved, rfl⟩ := Option.map_eq_some_iff.mp found
      rw [saved]
      rfl
    · cases found
  refine kept.moves moves (fun id ended named => ?_) (fun stored saved => ?_) []
  · obtain ⟨stored, saved, rfl⟩ := Option.map_eq_some_iff.mp named
    exact kept.unnamed stored saved ended
  · split at saved
    · cases saved
    · exact kept.unnamed stored saved

variable (event : LedgerEvent Bundle)

theorem Kept.step (clears : ledger.ClearsUp event) : (ledger.step host event).Kept := by
  cases event with
  | serve request => exact kept.serve request
  | entersLoop operation saves => exact kept.entersLoop operation saves
  | runnerEnds operationId reason deletes => exact kept.runnerEnds operationId reason deletes clears
  | restart startup => exact kept.restart startup

omit kept

/-- A runner that does not clear up leaves the row of an ended operation. -/
theorem step_not_finished (leaves : ¬ ledger.ClearsUp event) :
    ¬ (ledger.step host event).Finished := by
  cases event with
  | serve | entersLoop | restart => exact absurd trivial leaves
  | runnerEnds operationId reason deletes =>
    intro finished
    simp only [ClearsUp, Classical.not_imp] at leaves
    obtain ⟨may, named, stays⟩ := leaves
    obtain ⟨stored, saved, same⟩ := Option.map_eq_some_iff.mp named
    have after : ledger.step host (.runnerEnds operationId reason deletes) =
        ⟨ledger.daemon.runnerEnds host operationId reason, ledger.row,
          ledger.looping.filter (· ≠ operationId), ledger.ended ++ [operationId]⟩ := by
      simp [Ledger.step, Ledger.runnerEnds, may, stays]
    rw [after] at finished
    exact finished.unnamed stored saved (by simp [same])

end Ledger

/-- **An operation whose runner has ended is never taken up again**, exactly as long as
every runner that ends while the row names its operation deletes the row. -/
theorem finished_never_replayed_iff {Bundle : Type} (host : DaemonHost Bundle)
    (events : List (LedgerEvent Bundle)) :
    (ledgerMachine host).Along Ledger.ClearsUp Ledger.init events ↔
      ∀ earlier later, events = earlier ++ later →
        ((ledgerMachine host).run Ledger.init earlier).Finished :=
  (ledgerMachine host).along_iff_everywhere (I := Ledger.Kept)
    (fun _ event kept clears => kept.step event clears) (fun _ kept => kept.finished)
    (fun _ event _ leaves => Ledger.step_not_finished event leaves) Ledger.init events
    Ledger.kept_init

/-- A backup is under way when the daemon restarts, and on the replay its script no
longer compiles. -/
def interruptedBackup : List (LedgerEvent Unit) :=
  [.serve (.register "web" ()), .serve (.invokeInstall "web" []),
    .serve (.invokeAction "web" "backup" []), .entersLoop ⟨0, "web", "backup", 1, 1, false⟩ true,
    .restart ⟨true, .ok (some []), true, fun _ => false⟩,
    .runnerEnds 0 .scriptDoesNotCompile true]

/-- The row still names the backup whose runner has ended, and the next startup
dispatches it again. -/
theorem ended_backup_is_dispatched_again :
    ((ledgerMachine backupHost).run Ledger.init interruptedBackup).ended = [0] ∧
      ((ledgerMachine backupHost).run Ledger.init interruptedBackup).row =
        some ⟨0, "web", "backup", 1, 1, false⟩ ∧
      ((ledgerMachine backupHost).run Ledger.init (interruptedBackup ++
        [.restart ⟨true, .ok (some []), true, fun _ => false⟩])).daemon.runners =
          [⟨0, "web", "backup"⟩] := by
  decide

end Seedling.Operations
