import Seedling.Operations.Finished

/-!
# The persisted cancel flag

The row of the current operation has three writers: one saves an operation into it, one
sets the cancel flag of the operation it names, and one deletes it.  Saving over an
earlier row leaves the flag as it is, so a cancellation asked of one operation can be
read as one of the next.

`cancel_scoped_iff` says when it is not: no operation is saved over a row that is
flagged, unless it is the operation of the row or its own cancellation was asked for.
-/

namespace Seedling.Operations.CancelFlag

open Foundation

/-! ## The row and its writers -/

structure State where
  row : Option CurrentOperation
  requested : List OperationId

inductive Write where
  | saveCurrentOperation (operation : CurrentOperation)
  | setCancelRequested (operationId : OperationId)
  | clearCurrentOperation

/-- The cancel flag, as a restart reads it. -/
def loadCancelRequested (row : Option CurrentOperation) : Bool :=
  row.any CurrentOperation.cancelRequested

def write (state : State) : Write → State
  | .saveCurrentOperation operation =>
    { state with row := some (CurrentOperation.save state.row operation) }
  | .setCancelRequested operationId =>
    { row := state.row.map (CurrentOperation.setCancelRequested operationId)
      requested := operationId :: state.requested }
  | .clearCurrentOperation => { state with row := none }

def machine : Machine State Write Unit where
  step state label := ((), write state label)

def initial : State := ⟨none, []⟩

/-! ## Whose cancellation the flag is -/

/-- The flag is set only if the cancellation of the stored operation was asked for. -/
def Scoped (state : State) : Prop :=
  loadCancelRequested state.row →
    ∃ stored, state.row = some stored ∧ stored.operationId ∈ state.requested

/-- What is saved over a flagged row is the operation of the row, or one whose own
cancellation was asked for. -/
def Permitted (state : State) : Write → Prop
  | .saveCurrentOperation operation =>
    ∀ stored, state.row = some stored → stored.cancelRequested →
      operation.operationId = stored.operationId ∨ operation.operationId ∈ state.requested
  | .setCancelRequested _ | .clearCurrentOperation => True

variable {state : State} {label : Write}

theorem Scoped.write (own : Scoped state) (permitted : Permitted state label) :
    Scoped (write state label) := by
  cases label with
  | saveCurrentOperation operation =>
    intro flagged
    refine ⟨_, rfl, ?_⟩
    cases held : state.row with
    | none =>
      rw [CancelFlag.write, held] at flagged
      cases flagged
    | some stored =>
      have kept : stored.cancelRequested := by
        rw [CancelFlag.write, held] at flagged
        exact flagged
      rcases permitted stored held kept with same | asked
      · obtain ⟨row, found, asked⟩ := own (by rw [held]; exact kept)
        obtain rfl := Option.some.inj (held.symm.trans found)
        change operation.operationId ∈ state.requested
        rw [same]
        exact asked
      · exact asked
  | setCancelRequested operationId =>
    intro flagged
    cases held : state.row with
    | none =>
      rw [CancelFlag.write, held] at flagged
      cases flagged
    | some stored =>
      rw [CancelFlag.write, held] at flagged ⊢
      refine ⟨_, rfl, ?_⟩
      rw [CurrentOperation.setCancelRequested_operationId]
      by_cases named : stored.operationId = operationId
      · exact named ▸ List.mem_cons_self
      · -- the flag was set before, and so asked for
        have kept : stored.cancelRequested := by
          simpa [loadCancelRequested, CurrentOperation.setCancelRequested, named] using flagged
        obtain ⟨row, found, asked⟩ := own (by rw [held]; exact kept)
        obtain rfl := Option.some.inj (held.symm.trans found)
        exact List.mem_cons_of_mem _ asked
  | clearCurrentOperation => exact nofun

theorem not_scoped_write (refused : ¬ Permitted state label) : ¬ Scoped (write state label) := by
  cases label with
  | saveCurrentOperation operation =>
    simp only [Permitted, not_forall, not_or] at refused
    obtain ⟨stored, held, flagged, -, unasked⟩ := refused
    intro own
    have load : loadCancelRequested (write state (.saveCurrentOperation operation)).row := by
      rw [write, held]
      exact flagged
    obtain ⟨row, found, asked⟩ := own load
    obtain rfl := Option.some.inj found
    exact unasked asked
  | setCancelRequested | clearCurrentOperation => exact absurd trivial refused

/-- **A cancellation is never inherited** in the runs in which nothing is saved over a
flagged row, but the operation of the row or one whose own cancellation was asked for; and
in no others. -/
theorem cancel_scoped_iff (labels : List Write) : machine.Along Permitted initial labels ↔
      ∀ earlier later, labels = earlier ++ later → Scoped (machine.run initial earlier) :=
  machine.along_iff_everywhere (fun _ _ own permitted => own.write permitted)
    (fun _ own => own) (fun _ _ _ refused => not_scoped_write refused) initial labels
    nofun

def operation (operationId : OperationId) (app : String) : CurrentOperation :=
  ⟨operationId, app, "backup", 1, 1, false⟩

/-- An operation is cancelled, its row is not deleted, and the next one is saved. -/
def inheriting : List Write :=
  [.saveCurrentOperation (operation 1 "shop"), .setCancelRequested 1,
    .saveCurrentOperation (operation 2 "blog")]

theorem inheriting_not_scoped : ¬ Scoped (machine.run initial inheriting) := by
  intro own
  obtain ⟨stored, found, asked⟩ := own (by decide)
  obtain rfl := Option.some.inj found
  revert asked
  decide

end Seedling.Operations.CancelFlag
