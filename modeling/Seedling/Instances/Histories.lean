import Mathlib.Logic.Function.Basic
import Seedling.Instances.Lifecycle

/-!
# Reading histories

The histories of a group of instances are read in one statement, whose rows are then put
under their instances.  That gives what reading them one by one gives, as far as the
statement may bind all the ids (`batch_agrees_iff`).

Whether a job has succeeded is read off its history from the last time it was seen running
(`termination_of_latest_run`).  A run that nobody saw running is taken for the one before.
-/

namespace Seedling.Instances

open Foundation Function List

/-! ## The histories of a group -/

def fileRows (byInstance : InstanceId → Option (List WorldObservation))
    (rows : List WorldObservation) : InstanceId → Option (List WorldObservation) :=
  rows.foldl (fun byInstance row =>
    update byInstance row.resource (some ((byInstance row.resource).getD [] ++ [row]))) byInstance

/-- The histories of the instances.  The statement binds one variable for each of them, and
the database takes no more than `limit`. -/
def queryObservationsFor (limit : Nat) (observations : Observations) (ids : List InstanceId) :
    Except String (InstanceId → Option (List WorldObservation)) :=
  let byInstance := fun id => if id ∈ ids then some [] else none
  if ids = [] then .ok byInstance
  else if limit < ids.length then .error "too many SQL variables"
  else .ok (fileRows byInstance
    (sortBy WorldObservation.recordedAt (observations.filter (·.resource ∈ ids))))

theorem fileRows_apply {byInstance : InstanceId → Option (List WorldObservation)}
    {id : InstanceId} {held : List WorldObservation} (listed : byInstance id = some held)
    (rows : List WorldObservation) :
    fileRows byInstance rows id = some (held ++ rows.filter (·.resource = id)) := by
  induction rows generalizing byInstance held with
  | nil => rw [filter_nil, append_nil, ← listed]; rfl
  | cons row rows ih =>
    by_cases own : row.resource = id
    · rw [filter_cons_of_pos (by simpa using own), append_cons]
      refine ih ?_
      simp [own, listed]
    · rw [filter_cons_of_neg (by simpa using own)]
      exact ih ((update_of_ne (Ne.symm own) _ _).trans listed)

/-- **The group's histories are those of its members exactly if the database takes as many
variables.** -/
theorem batch_agrees_iff (limit : Nat) (observations : Observations) (ids : List InstanceId) :
    (∃ found, queryObservationsFor limit observations ids = .ok found ∧
        ∀ id ∈ ids, found id = some (observations.queryObservations id)) ↔
      ids.length ≤ limit := by
  unfold queryObservationsFor
  split
  · rename_i empty
    simp [empty]
  · split
    · rename_i many
      exact iff_of_false (by rintro ⟨found, ⟨⟩, -⟩) (Nat.not_le.mpr many)
    · rename_i few
      refine iff_of_true ⟨_, rfl, fun id listed => ?_⟩ (Nat.not_lt.mp few)
      rw [fileRows_apply (if_pos listed), nil_append, filter_sortBy, filter_filter]
      congr 2
      refine filter_congr fun row _ => ?_
      by_cases own : row.resource = id <;> simp [own, listed]

/-- **A group of 32767 is refused** by a database that takes 32766 variables. -/
theorem large_group_refused :
    queryObservationsFor 32766 [] (replicate 32767 1#128) = .error "too many SQL variables" := by
  have size : (replicate 32767 (1#128 : InstanceId)).length = 32767 := length_replicate
  rw [queryObservationsFor, if_neg (ne_nil_of_length_pos (by rw [size]; decide)),
    if_pos (by rw [size]; decide)]

/-! ## How a run ended -/

/-- A stored observation with the `exit_code` of its payload, if it has one. -/
structure Recorded extends WorldObservation where
  exitCode : Option Int

variable {table : List Recorded} {id : InstanceId}

def recordedOf (table : List Recorded) (id : InstanceId) : List Recorded :=
  sortBy (·.recordedAt) (table.filter (·.resource = id))

/-- These are the observations that are queried, in the same order. -/
theorem map_recordedOf : (recordedOf table id).map (·.toWorldObservation) =
    Observations.queryObservations (table.map (·.toWorldObservation)) id := by
  unfold recordedOf Observations.queryObservations Observations.about sortBy
  rw [filter_map]
  exact map_mergeSort fun _ _ _ _ => rfl

theorem recordedOf_eq (own : ∀ fact ∈ table, fact.resource = id)
    (inOrder : table.Pairwise (·.recordedAt ≤ ·.recordedAt)) : recordedOf table id = table := by
  rw [recordedOf, filter_eq_self.mpr (by simpa using own)]
  exact mergeSort_of_pairwise (inOrder.imp decide_eq_true)

/-- What is known of the end of a deployment or a job. -/
def terminationSuccess (table : List Recorded) (id : InstanceId) : Option Bool :=
  let facts := recordedOf table id
  let lastRunStart :=
    (facts.reverse.findIdx? (·.obsKind = .containerRunning)).elim 0 (facts.length - 1 - ·)
  let tail := facts.drop lastRunStart
  let code := (tail.reverse.find? (·.obsKind = .containerExited)).elim (-1) (·.exitCode.getD (-1))
  if 0 ≤ code then some (code = 0)
  else if tail.any (·.obsKind = .unitFailed) then some false
  else if tail.any fun fact => fact.obsKind = .containerExited ∨ fact.obsKind = .containerRemoved
    then some true
  else none

/-- The outcome of a run: by the code of its last exit, if that is known; else it failed if
its unit did, and succeeded if its container is gone. -/
def outcome (run : List Recorded) : Option Bool :=
  match (run.reverse.find? (·.obsKind = .containerExited)).bind (·.exitCode) with
  | some (.ofNat code) => some (code = 0)
  | _ =>
    if run.any (·.obsKind = .unitFailed) then some false
    else if run.any fun fact => fact.obsKind = .containerExited ∨ fact.obsKind = .containerRemoved
      then some true
    else none

/-- Facts that tell of the end of a run. -/
def Recorded.isEnd (fact : Recorded) : Bool :=
  fact.obsKind ∈ [.containerExited, .containerRemoved, .unitFailed]

theorem drop_lastRunStart {earlier after : List Recorded} {start : Recorded}
    (running : start.obsKind = .containerRunning)
    (last : ∀ fact ∈ after, fact.obsKind ≠ .containerRunning) :
    let facts := earlier ++ start :: after
    facts.drop ((facts.reverse.findIdx? (·.obsKind = .containerRunning)).elim 0
      (facts.length - 1 - ·)) = start :: after := by
  have passed : after.reverse.findIdx? (·.obsKind = .containerRunning) = none :=
    findIdx?_eq_none_iff.mpr (by simpa using last)
  intro facts
  rw [reverse_append, reverse_cons, findIdx?_append, findIdx?_append, passed]
  simp [facts, findIdx?_cons, running]

theorem outcome_append {before run : List Recorded}
    (goesOn : ∀ fact ∈ before, fact.isEnd = false) : outcome (before ++ run) = outcome run := by
  have skipped : ∀ P : Recorded → Bool, (∀ fact, P fact → fact.isEnd) →
      (before ++ run).any P = run.any P ∧
        (before ++ run).reverse.find? P = run.reverse.find? P := by
    intro P ends
    have first : ∀ fact ∈ before, ¬ P fact :=
      fun fact mem holds => by cases (goesOn fact mem).symm.trans (ends fact holds)
    have none : before.reverse.find? P = none :=
      find?_eq_none.mpr fun fact mem => first fact (mem_reverse.mp mem)
    rw [any_append, any_eq_false.mpr first, Bool.false_or, reverse_append, find?_append, none,
      Option.or_none]
    exact ⟨rfl, rfl⟩
  unfold outcome
  rw [(skipped _ (by simp +contextual [Recorded.isEnd])).2,
    (skipped (·.obsKind = .unitFailed) (by simp +contextual [Recorded.isEnd])).1,
    (skipped _ (by simp +contextual [Recorded.isEnd, or_imp])).1]

/-- **The answer is the outcome of the latest run**, where that was seen running before
anything told of its end.  What is known of earlier runs has no part in it. -/
theorem termination_of_latest_run (earlier before after : List Recorded) (start : Recorded)
    (history : recordedOf table id = earlier ++ (before ++ start :: after))
    (goesOn : ∀ fact ∈ before, fact.isEnd = false) (running : start.obsKind = .containerRunning)
    (last : ∀ fact ∈ after, fact.obsKind ≠ .containerRunning) :
    terminationSuccess table id = outcome (before ++ start :: after) := by
  rw [outcome_append goesOn, terminationSuccess, history, ← append_assoc]
  rw [drop_lastRunStart running last, outcome]
  generalize (start :: after).reverse.find? (fun fact => fact.obsKind = .containerExited) = exit
  obtain _ | ⟨_, _ | code | code⟩ := exit
  · rfl
  · rfl
  · simp
  · rfl

def recordedFact (kind : ObsKind) (exitCode : Option Int) : Recorded := ⟨⟨1, 7#128, kind⟩, exitCode⟩

/-- The first run failed, and the second was seen to end well. -/
theorem second_run_succeeds :
    let first := [recordedFact .containerRunning none, recordedFact .containerExited (some 1)]
    let second := [recordedFact .containerCreated none, recordedFact .containerRunning none,
      recordedFact .containerExited (some 0)]
    terminationSuccess (first ++ second) 7#128 = some true :=
  termination_of_latest_run _ [recordedFact .containerCreated none] _ _
    (recordedOf_eq (by decide) (by decide)) (by decide) rfl (by decide)

/-- **An exit without a code hides the code of the exit before it**, and a run that nobody
saw running counts as the failed one before it. -/
theorem unseen_exit_succeeds :
    terminationSuccess [recordedFact .containerRunning none, recordedFact .containerExited (some 1),
        recordedFact .containerExited (some (-1))] 7#128 = some true ∧
      terminationSuccess [recordedFact .containerRunning none,
        recordedFact .containerExited (some 1), recordedFact .containerCreated none,
        recordedFact .containerRemoved none] 7#128 = some false := by
  constructor
  · rw [terminationSuccess, recordedOf_eq (by decide) (by decide)]
    decide
  · rw [terminationSuccess, recordedOf_eq (by decide) (by decide)]
    decide

end Seedling.Instances
