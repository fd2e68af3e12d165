import Seedling.Barrier.Log

/-!
# The operation scheduler

One operation is active at a time, others wait in request order, and no app has
more than one operation active or queued.  The scheduler records policy only;
running what it accepts is up to its callers.

`request_cases`, `requestCancel_cases` and `completeCurrent` are all that later
proofs use of it.
-/

namespace Seedling.Operations

abbrev OperationId := Nat

structure ActiveOperation where
  app : String
  action : String
  operationId : OperationId
  sourceGeneration : Nat
  targetGeneration : Nat
  cancelRequested : Bool

structure QueuedOperation where
  app : String
  action : String
  operationId : OperationId
  params : Barrier.Params
  sourceGeneration : Nat
  targetGeneration : Nat
  trigger : String

def QueuedOperation.activate (op : QueuedOperation) : ActiveOperation where
  app := op.app
  action := op.action
  operationId := op.operationId
  sourceGeneration := op.sourceGeneration
  targetGeneration := op.targetGeneration
  cancelRequested := false

inductive RejectReason where
  | sameAppOperationInProgress
  | sameAppAlreadyQueued

inductive ScheduleResult where
  | accepted
  | queued
  | rejected (reason : RejectReason)

inductive CancelOutcome where
  | cancelled (operationId : OperationId)
  | alreadyCancelled (operationId : OperationId)
  | noActiveOp

structure Scheduler where
  active : Option ActiveOperation
  queue : List QueuedOperation

namespace Scheduler

def new : Scheduler := ⟨none, []⟩

variable (scheduler : Scheduler)

def hasOperationFor (app : String) : Bool :=
  scheduler.active.any (·.app = app) || scheduler.queue.any (·.app = app)

/-- Ask for an operation: it starts if the slot is free, waits if another app
holds it, and is rejected if its own app already has one. -/
def requestWithId (op : QueuedOperation) : ScheduleResult × Scheduler :=
  match scheduler.active with
  | none => (.accepted, { scheduler with active := some op.activate })
  | some active =>
    if active.app = op.app then (.rejected .sameAppOperationInProgress, scheduler)
    else if scheduler.queue.any (·.app = op.app) then
      (.rejected .sameAppAlreadyQueued, scheduler)
    else (.queued, { scheduler with queue := scheduler.queue ++ [op] })

/-- Free the slot and give it to the first operation in the queue. -/
def completeCurrent : Option QueuedOperation × Scheduler :=
  match scheduler.queue with
  | [] => (none, ⟨none, []⟩)
  | op :: rest => (some op, ⟨some op.activate, rest⟩)

def requestCancel (app : String) : CancelOutcome × Scheduler :=
  match scheduler.active with
  | none => (.noActiveOp, scheduler)
  | some active =>
    if active.app ≠ app then (.noActiveOp, scheduler)
    else if active.cancelRequested then (.alreadyCancelled active.operationId, scheduler)
    else
      (.cancelled active.operationId,
        { scheduler with active := some { active with cancelRequested := true } })

/-! ## What a request can do -/

theorem requestWithId_of_free (free : scheduler.active = none) (op : QueuedOperation) :
    scheduler.requestWithId op =
      (.accepted, { scheduler with active := some op.activate }) := by
  simp [requestWithId, free]

/-- The three things that can become of a request. -/
theorem request_cases (op : QueuedOperation) :
    (scheduler.active = none ∧ scheduler.requestWithId op =
        (.accepted, { scheduler with active := some op.activate })) ∨
      (scheduler.active.isSome ∧ scheduler.hasOperationFor op.app = false ∧
        scheduler.requestWithId op =
          (.queued, { scheduler with queue := scheduler.queue ++ [op] })) ∨
      (scheduler.hasOperationFor op.app ∧
        ∃ reason, scheduler.requestWithId op = (.rejected reason, scheduler)) := by
  cases holder : scheduler.active with
  | none => exact .inl ⟨rfl, scheduler.requestWithId_of_free holder op⟩
  | some active =>
    refine .inr ?_
    by_cases sameApp : active.app = op.app
    · exact .inr ⟨by simp [hasOperationFor, holder, sameApp],
        .sameAppOperationInProgress, by simp [requestWithId, holder, sameApp]⟩
    · cases waiting : scheduler.queue.any (·.app = op.app) with
      | true =>
        exact .inr ⟨by simp [hasOperationFor, waiting],
          .sameAppAlreadyQueued, by simp [requestWithId, holder, sameApp, waiting]⟩
      | false =>
        exact .inl ⟨rfl, by simp [hasOperationFor, holder, sameApp, waiting],
          by simp [requestWithId, holder, sameApp, waiting]⟩

theorem requestCancel_cases (app : String) :
    (scheduler.requestCancel app).2 = scheduler ∨ ∃ active, scheduler.active = some active ∧
      (scheduler.requestCancel app).2 =
        { scheduler with active := some { active with cancelRequested := true } } := by
  unfold requestCancel
  split
  · exact .inl rfl
  · rename_i active holds
    split
    · exact .inl rfl
    · split
      · exact .inl rfl
      · exact .inr ⟨active, holds, rfl⟩

end Scheduler

end Seedling.Operations
