import Seedling.Barrier.Positional

/-!
# The calls of an operation

`Invocation.asked` lists what the closure asks for in a pass, in order and each
time with the state it is asked in; `passLogs` pairs the passes of an operation
with the logs they run over.  Everything asked for in an operation is asked in a
sound state over the log of its pass (`asked_sound`).
-/

namespace Seedling.Barrier

open Foundation PassState

/-! ## The calls of a pass -/

abbrev Asked := Script.Ask Call SubActionCall × PassState

def Asked.kind : Asked → Option CallKind
  | (.call call, _) => call.kind
  | (.enter _, _) => some .subAction

/-- **What is asked for makes a move** of the pass. -/
theorem answered_move (op : Operation) (pass : Pass) (one : Asked) (sound : one.2.view.Sound) :
    ∃ stopping hooked failed after, Move (Asked.kind one) stopping hooked one.2.view failed after ∧
      (one.1.answered (passHandler op pass) one.2).view =
        { after with calls := after.calls ++ (Asked.kind one).toList } := by
  obtain ⟨ask, state⟩ := one
  cases ask with
  | call call =>
    exact ⟨_, _, _, _, dispatch_move op (pass.env state.ticks) sound.live sound.anchored call, rfl⟩
  | enter call =>
    exact ⟨none, True, _, _, enterAction_move (pass.env state.ticks) call state, rfl⟩

theorem answered_sound (op : Operation) (pass : Pass) (one : Asked) (sound : one.2.view.Sound) :
    (one.1.answered (passHandler op pass) one.2).view.Sound ∧
      (one.1.answered (passHandler op pass) one.2).view.committed = one.2.view.committed := by
  obtain ⟨stopping, hooked, failed, after, move, view⟩ := answered_move op pass one sound
  have soundAfter := move.sound sound
  rw [view]
  exact ⟨⟨soundAfter.live, soundAfter.log, soundAfter.filled, soundAfter.fits,
    soundAfter.handles⟩, move.committed⟩

theorem PassState.initial_sound (action : String) {log : List ActionLogEntry}
    (soundLog : SoundLog log) : (initial action log).view.Sound where
  live := rfl
  log := soundLog
  filled := by simp [view, initial, ReplayContext.new, fill]
  fits := by simp [view, initial, ReplayContext.new]
  handles := by simp [view, initial]

namespace Invocation

variable (invocation : Invocation)

def asked (pass : Pass) (log : List ActionLogEntry) : List Asked :=
  invocation.closure.trace (passHandler invocation.op pass)
    (PassState.initial invocation.action log)

/-- The passes of an operation from `log` on, each with the log it runs over. -/
def passLogs (log : List ActionLogEntry) : List Pass → List (Pass × List ActionLogEntry)
  | [] => []
  | pass :: passes => (pass, log) :: passLogs (invocation.logAfterPass pass log) passes

variable {log : List ActionLogEntry}

theorem passLogs_sound (soundLog : SoundLog log) (passes : List Pass) :
    ∀ one ∈ invocation.passLogs log passes, SoundLog one.2 := by
  induction passes generalizing log with
  | nil => simp [passLogs]
  | cons pass passes ih =>
    rw [passLogs, List.forall_mem_cons]
    exact ⟨soundLog, ih (invocation.logAfterPass_keeps pass soundLog).1⟩

theorem asked_sound (pass : Pass) (soundLog : SoundLog log) :
    ∀ one ∈ invocation.asked pass log, one.2.view.Sound ∧ one.2.view.committed = log := by
  have reached := Script.trace_invariant (passHandler invocation.op pass)
    (J := fun asked state => (state.view.Sound ∧ state.view.committed = log) ∧
      ∀ one ∈ asked, one.2.view.Sound ∧ one.2.view.committed = log)
    (fun asked ask state ⟨⟨sound, committed⟩, earlier⟩ => by
      obtain ⟨after, same⟩ := answered_sound invocation.op pass (ask, state) sound
      exact ⟨⟨after, same.trans committed⟩,
        List.forall_mem_append.mpr ⟨earlier, by simpa using ⟨sound, committed⟩⟩⟩)
    (fun asked state invariant => invariant)
    invocation.closure (initial invocation.action log) []
    ⟨⟨initial_sound invocation.action soundLog, rfl⟩, by simp⟩
  exact reached.2

end Invocation

end Seedling.Barrier
