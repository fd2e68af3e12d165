import Seedling.Barrier.Trace

/-!
# Which entry a call is matched with

The entry at position `n` answers the call made when `n` positions have been taken in the
pass.  A call that fails takes none, so a closure that catches the failure makes its later
calls one position early; on the next pass the call that had failed finds the entry of the
call after it.

Beside the log stand the origins of its entries: the place, among the calls of its pass, of
the call that recorded each.  Every call keeps to its own entry in a run where none takes a
position after one that failed without taking its own (`calls_keep_to_own_entries`); a run
where one is made shows the rest (`caught_failure_shifts_the_calls_after_it`).
-/

namespace Seedling.Barrier

open Foundation List Asked

/-- What a move does to the position: it stays, passes the entry committed there, or
takes it where none is. -/
theorem Move.position {kind : Option CallKind} {stopping : Option (List ResourceInstance)}
    {hooked : Prop} {before after : View} {failed : Bool}
    (move : Move kind stopping hooked before failed after) :
    after.callIndex = before.callIndex ∨
      (∃ entry, before.committed[before.callIndex]? = some entry ∧
        after.callIndex = before.callIndex + 1) ∨
      before.committed[before.callIndex]? = none ∧ kind.isSome ∧
        after.callIndex = before.callIndex + 1 := by
  cases move with
  | still | amended => exact .inl rfl
  | consumed entry replaying => exact .inr (.inl ⟨entry, replaying, rfl⟩)
  | appended entry fresh position claimed =>
    exact .inr (.inr ⟨fresh, by rw [claimed]; rfl, rfl⟩)
  | restopped old entry replaying =>
    exact .inr (.inl ⟨old, replaying, rfl⟩)

/-! ## Entries and the calls that recorded them -/

namespace Asked

variable (op : Operation) (pass : Pass)

def place (one : Asked) : Nat := one.2.calls.length

def takes (one : Asked) : Bool :=
  (one.1.answered (passHandler op pass) one.2).ctx.callIndex = one.2.ctx.callIndex + 1

def records (one : Asked) : Bool :=
  (kind one).isSome && one.2.ctx.committedEntry.isNone && takes op pass one

def raises : Asked → Option EvalError
  | (.call call, state) =>
    match (dispatch op (pass.env state.ticks) call state).1 with
    | .ok _ => none
    | .error error => some error
  | (.enter call, state) =>
    match (enterAction (pass.env state.ticks) call state).1 with
    | .ok _ => none
    | .error error => some error

/-- The call is matched with no entry but the one recorded from its place: the
entry it consumes, or is said to diverge from, has its place as origin, and where
it records an entry there is none from its place yet. -/
structure KeepsToOwnEntry (origins : List Nat) (one : Asked) : Prop where
  consumes : takes op pass one → one.2.ctx.committedEntry.isSome →
    origins[one.2.ctx.callIndex]? = some (place one)
  diverges : ∀ mismatch : ReplayMismatch, raises op pass one = some (.message mismatch.toText) →
    one.2.ctx.committedEntry.isSome → origins[one.2.ctx.callIndex]? = some (place one)
  records : records op pass one → place one ∉ origins

/-- Every call made in the pass before one that takes a position, or is said to diverge, has
taken one. -/
def NoneSkipped (one : Asked) : Prop :=
  (takes op pass one ∨ ∃ mismatch : ReplayMismatch,
    raises op pass one = some (.message mismatch.toText)) → place one = one.2.ctx.callIndex

end Asked

theorem keepsToOwnEntry_of_noneSkipped (op : Operation) (pass : Pass) {one : Asked}
    (noneSkipped : Asked.NoneSkipped op pass one) :
    Asked.KeepsToOwnEntry op pass (range one.2.ctx.committed.length) one := by
  have found (same : place one = one.2.ctx.callIndex) : one.2.ctx.committedEntry.isSome →
      (range one.2.ctx.committed.length)[one.2.ctx.callIndex]? = some (place one) := by
    intro committed
    obtain ⟨entry, replaying⟩ := Option.isSome_iff_exists.mp committed
    have inside := (List.getElem?_eq_some_iff.mp replaying).1
    rw [getElem?_range inside, same]
  refine ⟨fun taken => found (noneSkipped (.inl taken)),
    fun mismatch raised => found (noneSkipped (.inr ⟨mismatch, raised⟩)), fun recorded mem => ?_⟩
  simp only [records, Bool.and_eq_true, Option.isNone_iff_eq_none] at recorded
  have beyond : one.2.ctx.committed.length ≤ one.2.ctx.callIndex :=
    getElem?_eq_none_iff.mp recorded.1.2
  have below : place one < one.2.ctx.committed.length := mem_range.mp mem
  have same := noneSkipped (.inl recorded.2)
  omega

namespace Invocation

variable (invocation : Invocation)

def recordedPlaces (pass : Pass) (log : List ActionLogEntry) : List Nat :=
  ((invocation.asked pass log).filter (Asked.records invocation.op pass)).map Asked.place

/-- The passes of an operation from `log` on, each with the log it runs over and
the origins of that log's entries. -/
def passOrigins (log : List ActionLogEntry) (origins : List Nat) :
    List Pass → List (Pass × List ActionLogEntry × List Nat)
  | [] => []
  | pass :: passes =>
    (pass, log, origins) :: passOrigins (invocation.logAfterPass pass log)
      (origins ++ invocation.recordedPlaces pass log) passes

def claims (pass : Pass) (log : List ActionLogEntry) : List Asked :=
  (invocation.asked pass log).filter fun one => (Asked.kind one).isSome

/-- The places recorded so far, when `asked` has been asked and `state` reached. -/
def Accounts (pass : Pass) (log : List ActionLogEntry) (asked : List Asked) (state : PassState) :
    Prop :=
  (∀ one ∈ asked, (Asked.kind one).isSome → Asked.NoneSkipped invocation.op pass one) →
    (asked.filter (Asked.records invocation.op pass)).map Asked.place =
      List.range' log.length (max state.ctx.callIndex log.length - log.length)

variable {log : List ActionLogEntry}

theorem accounts_answered {pass : Pass} {asked : List Asked} (one : Asked)
    (sound : one.2.view.Sound) (committed : one.2.view.committed = log)
    (accounts : invocation.Accounts pass log asked one.2) :
    invocation.Accounts pass log (asked ++ [one])
      (one.1.answered (passHandler invocation.op pass) one.2) := by
  intro noneSkipped
  rw [forall_mem_append] at noneSkipped
  have soFar := accounts noneSkipped.1
  have here : (kind one).isSome → Asked.NoneSkipped invocation.op pass one := by
    simpa using noneSkipped.2
  obtain ⟨stopping, hooked, failed, after, move, view⟩ := answered_move invocation.op pass one sound
  have index : (one.1.answered (passHandler invocation.op pass) one.2).ctx.callIndex =
      after.callIndex := congrArg View.callIndex view
  have committedEntry : one.2.ctx.committedEntry = log[one.2.ctx.callIndex]? := by
    rw [← committed]
    rfl
  rw [filter_append, map_append, soFar, index]
  rcases move.position with stays | ⟨entry, replaying, moves⟩ | ⟨fresh, claiming, moves⟩
  · have unrecorded : records invocation.op pass one = false := by
      simp [records, takes, index, stays, PassState.view]
    rw [filter_cons_of_neg (by simp [unrecorded]), stays]
    exact append_nil _
  · rw [committed] at replaying
    have inside : one.2.ctx.callIndex < log.length := (List.getElem?_eq_some_iff.mp replaying).1
    have unrecorded : records invocation.op pass one = false := by
      simp [records, committedEntry, inside]
    have moved : after.callIndex = one.2.ctx.callIndex + 1 := moves
    rw [filter_cons_of_neg (by simp [unrecorded]), moved,
      max_eq_right (Nat.succ_le_of_lt inside), max_eq_right inside.le]
    exact append_nil _
  · rw [committed] at fresh
    have beyond : log.length ≤ one.2.ctx.callIndex := getElem?_eq_none_iff.mp fresh
    have moved : after.callIndex = one.2.ctx.callIndex + 1 := moves
    have recorded : records invocation.op pass one := by
      simp [records, takes, index, moved, claiming, committedEntry, beyond]
    have place := here claiming (.inl (Bool.and_eq_true_iff.mp recorded).2)
    rw [filter_cons_of_pos recorded, filter_nil, map_singleton, moved,
      max_eq_left beyond, max_eq_left (Nat.le_succ_of_le beyond),
      show one.2.ctx.callIndex + 1 - log.length = one.2.ctx.callIndex - log.length + 1 by omega,
      range'_concat]
    congr 2
    omega

/-- In a pass where no call is made after one that took no position, the entries
recorded come from the places of their positions. -/
theorem recordedPlaces_eq {pass : Pass} (soundLog : SoundLog log)
    (noneSkipped : ∀ one ∈ invocation.claims pass log, Asked.NoneSkipped invocation.op pass one) :
    range log.length ++ invocation.recordedPlaces pass log =
      range (invocation.logAfterPass pass log).length := by
  have reached := Script.trace_invariant (passHandler invocation.op pass)
    (J := fun asked state => (state.view.Sound ∧ state.view.committed = log) ∧
      invocation.Accounts pass log asked state)
    (fun asked ask state ⟨⟨sound, committed⟩, accounts⟩ => by
      obtain ⟨after, same⟩ := answered_sound invocation.op pass (ask, state) sound
      exact ⟨⟨after, same.trans committed⟩,
        invocation.accounts_answered (ask, state) sound committed accounts⟩)
    (fun asked state invariant => invariant)
    invocation.closure (PassState.initial invocation.action log) []
    ⟨⟨PassState.initial_sound invocation.action soundLog, rfl⟩, fun _ => by
      simp [PassState.initial, ReplayContext.new]⟩
  obtain ⟨⟨sound, committed⟩, accounts⟩ := reached
  have places : invocation.recordedPlaces pass log = _ := accounts fun one mem claiming =>
    noneSkipped one (mem_filter.mpr ⟨mem, claiming⟩)
  have filled := sound.filled
  rw [committed] at filled
  have length : (invocation.logAfterPass pass log).length =
      max (invocation.pass pass log).2.ctx.callIndex log.length :=
    length_commit soundLog.positional filled
  have joined := @List.range'_append_1 0 log.length
    (max (invocation.pass pass log).2.ctx.callIndex log.length - log.length)
  rw [Nat.zero_add, Nat.add_sub_cancel' (le_max_right _ _)] at joined
  rw [places, length, range_eq_range', range_eq_range']
  exact joined

theorem keeps_from (soundLog : SoundLog log) (passes : List Pass)
    (noneSkipped : ∀ one ∈ invocation.passLogs log passes,
      ∀ call ∈ invocation.claims one.1 one.2, Asked.NoneSkipped invocation.op one.1 call) :
    ∀ one ∈ invocation.passOrigins log (range log.length) passes,
      ∀ call ∈ invocation.claims one.1 one.2.1,
        Asked.KeepsToOwnEntry invocation.op one.1 one.2.2 call := by
  induction passes generalizing log with
  | nil => simp [passOrigins]
  | cons pass passes ih =>
    rw [passLogs, forall_mem_cons] at noneSkipped
    rw [passOrigins, forall_mem_cons]
    refine ⟨fun call mem => ?_, ?_⟩
    · have committed : call.2.ctx.committed = log :=
        (invocation.asked_sound pass soundLog call (mem_filter.mp mem).1).2
      have keeps := keepsToOwnEntry_of_noneSkipped invocation.op pass (noneSkipped.1 call mem)
      rw [committed] at keeps
      exact keeps
    · rw [invocation.recordedPlaces_eq soundLog noneSkipped.1]
      exact ih (invocation.logAfterPass_keeps pass soundLog).1 noneSkipped.2

/-- **Every call keeps to its own entry** in a run where no call that takes a position, or
is said to diverge, is made after one that failed without taking its own. -/
theorem calls_keep_to_own_entries (passes : List Pass)
    (noneSkipped : ∀ one ∈ invocation.passLogs [] passes,
      ∀ call ∈ invocation.claims one.1 one.2, Asked.NoneSkipped invocation.op one.1 call) :
    ∀ one ∈ invocation.passOrigins [] [] passes, ∀ call ∈ invocation.claims one.1 one.2.1,
      Asked.KeepsToOwnEntry invocation.op one.1 one.2.2 call :=
  invocation.keeps_from soundLog_nil passes noneSkipped

end Invocation

/-! ## A command that failed and was caught -/

/-- A world where one command cannot be run and the others end with code seven;
nothing stops. -/
def flakyEnv (broken : List String) : Env :=
  { scaledEnv 1 with
    executor := some fun _ argv _ => if argv = broken then .error "no such file" else .ok 7 }

def flakyPass (broken : List String) : Pass where
  env _ := flakyEnv broken
  staysCancelled _ _ _ cancelled := cancelled

def execApi (argv : List String) : Call := .exec (.resource (.deployment "api" 1 1 none)) argv []

/-- The action `migrate`: it runs `probe`, whether or not it can be run, then
`migrate`, and stops the deployment. -/
def migrateApi : Invocation where
  op := stopApi.op
  action := "migrate"
  closure := .call (execApi ["probe"]) fun _ => .call (execApi ["migrate"]) fun
    | .ok _ => stopApi.closure
    | .error error => .throw error

/-- As long as every command can be run, both passes keep to their entries. -/
theorem migrateApi_keeps_to_own_entries :
    (migrateApi.passOrigins [] [] [flakyPass [], flakyPass []]).length = 2 ∧
      ∀ one ∈ migrateApi.passOrigins [] [] [flakyPass [], flakyPass []],
        ∀ call ∈ migrateApi.claims one.1 one.2.1,
          Asked.KeepsToOwnEntry migrateApi.op one.1 one.2.2 call :=
  ⟨rfl, migrateApi.calls_keep_to_own_entries [flakyPass [], flakyPass []]
    fun one pass call claimed _ => (by decide : ∀ one ∈ migrateApi.passLogs [] [flakyPass [],
      flakyPass []], ∀ call ∈ migrateApi.claims one.1 one.2, place call = call.2.ctx.callIndex)
      one pass call claimed⟩

/-- **A caught failure shifts the calls after it.**  In the first pass `probe` cannot
be run and `migrate` is recorded in its place; in the second pass `probe` is answered
with the exit code of `migrate`. -/
theorem caught_failure_shifts_the_calls_after_it :
    ¬ ∀ (invocation : Invocation) (passes : List Pass),
      ∀ one ∈ invocation.passOrigins [] [] passes, ∀ call ∈ invocation.claims one.1 one.2.1,
        Asked.KeepsToOwnEntry invocation.op one.1 one.2.2 call := by
  intro keeps
  have consumes : ∀ one ∈ migrateApi.passOrigins [] [] [flakyPass ["probe"], flakyPass ["probe"]],
      ∀ call ∈ migrateApi.claims one.1 one.2.1, takes migrateApi.op one.1 call →
        call.2.ctx.committedEntry.isSome →
        one.2.2[call.2.ctx.callIndex]? = some (place call) :=
    fun one pass call claimed => (keeps migrateApi _ one pass call claimed).consumes
  exact absurd consumes (by decide)

end Seedling.Barrier
