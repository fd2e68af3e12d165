import Mathlib.Data.Int.LeastGreatest
import Mathlib.Order.Bounds.Basic
import Seedling.Operations.Turns

/-!
# Scheduled actions

A schedule row names an action of an app and a cron expression, and holds the time at
which the schedule last fired.  `checkDueSchedules` asks the scheduler for an operation
for every row whose next boundary, counted from that time, has passed.  A row that has
not fired counts from five minutes before the check.

A fire that is accepted is stamped on its row; one that is queued is not.
-/

namespace Seedling.Operations.Schedules

open Foundation

/-! ## Time -/

/-- Nanoseconds since the epoch. -/
abbrev Timestamp := Int

def minTimestamp : Timestamp := -377705023201000000000

def catchUpWindow : Int := 300 * 1000000000

def checkedSub (now : Timestamp) (duration : Int) : Option Timestamp :=
  if minTimestamp ≤ now - duration then some (now - duration) else none

/-- Cron expressions and the text of times.  `findNext` gives none for an expression that
does not parse; otherwise it finds the first boundary strictly after its argument, if
there is one. -/
structure Calendar (Text : Type) where
  findNext : String → Option (Timestamp → Option Timestamp)
  IsBoundary : String → Timestamp → Prop
  findNext_iff : ∀ {cronexpr next}, findNext cronexpr = some next → ∀ time boundary,
    next time = some boundary ↔ IsLeast {b | IsBoundary cronexpr b ∧ time < b} boundary
  parses : ∀ {cronexpr boundary}, IsBoundary cronexpr boundary → (findNext cronexpr).isSome
  parse : Text → Option Timestamp
  toText : Timestamp → Text
  parse_toText : ∀ time, parse (toText time) = some time

/-- A boundary after a time is not before the one that is found. -/
theorem Calendar.exists_findNext {Text : Type} (calendar : Calendar Text) {cronexpr : String}
    {next : Timestamp → Option Timestamp} (parses : calendar.findNext cronexpr = some next)
    {time boundary : Timestamp} (isBoundary : calendar.IsBoundary cronexpr boundary)
    (after : time < boundary) : ∃ found, next time = some found ∧ found ≤ boundary := by
  obtain ⟨found, isLeast, least⟩ := Int.exists_least_of_bdd
    (P := fun b => calendar.IsBoundary cronexpr b ∧ time < b)
    ⟨time, fun _ holds => Int.le_of_lt holds.2⟩ ⟨boundary, isBoundary, after⟩
  refine ⟨found, (calendar.findNext_iff parses time found).mpr ⟨isLeast, ?_⟩,
    least boundary ⟨isBoundary, after⟩⟩
  intro other holds
  exact least other holds

/-! ## Rows -/

structure Key where
  app : String
  action : String
  cronexpr : String
deriving DecidableEq

structure ScheduleRow (Text : Type) where
  key : Key
  lastFiredAt : Option Text
deriving DecidableEq

section Rows

variable {Text : Type} (rows : List (ScheduleRow Text))

/-- Write the stamp of a row, which is inserted if it is not there. -/
def upsertScheduleFired (key : Key) (firedAt : Text) : List (ScheduleRow Text) :=
  if rows.any (·.key = key) then
    rows.map fun row => if row.key = key then { row with lastFiredAt := some firedAt } else row
  else rows ++ [⟨key, some firedAt⟩]

def ensureSchedules (keys : List Key) : List (ScheduleRow Text) :=
  keys.foldl (fun rows key => if rows.any (·.key = key) then rows else rows ++ [⟨key, none⟩]) rows

/-! ## The check -/

structure FiredSchedule where
  key : Key
  accepted : Bool
  operationId : Option OperationId
  generation : Nat

/-- What a check finds: its time, the generations of the apps that are installed, the ids
of the operations it asks for, and which reads and writes of the table succeed. -/
structure Check where
  now : Timestamp
  appGenerations : String → Option Nat
  operationId : Key → OperationId
  lists : Bool
  stamps : Key → Bool

structure Progress (Text : Type) where
  rows : List (ScheduleRow Text)
  scheduler : Scheduler
  fired : List FiredSchedule

variable (calendar : Calendar Text) (check : Check) (row : ScheduleRow Text)

/-- The time from which the next boundary of a row is counted. -/
def baseTime : Timestamp :=
  match row.lastFiredAt.bind calendar.parse with
  | some time => time
  | none => (checkedSub check.now catchUpWindow).getD check.now

/-- The next boundary of the row is at or before now. -/
def isDue : Bool :=
  match calendar.findNext row.key.cronexpr with
  | none => false
  | some next => (next (baseTime calendar check row)).any (· ≤ check.now)

def rowOperation (generation : Nat) : QueuedOperation where
  app := row.key.app
  action := row.key.action
  operationId := check.operationId row.key
  params := []
  sourceGeneration := generation
  targetGeneration := generation
  trigger := "schedule"

def turn (progress : Progress Text) (row : ScheduleRow Text) : Progress Text :=
  if isDue calendar check row then
    match check.appGenerations row.key.app with
    | none => progress
    | some generation =>
      match progress.scheduler.requestWithId (rowOperation check row generation) with
      | (.accepted, scheduler) =>
        { rows :=
            if check.stamps row.key then
              upsertScheduleFired progress.rows row.key (calendar.toText check.now)
            else progress.rows
          scheduler := scheduler
          fired := progress.fired ++
            [⟨row.key, true, scheduler.active.map (·.operationId), generation⟩] }
      | (.queued, scheduler) =>
        { progress with
          scheduler := scheduler
          fired := progress.fired ++ [⟨row.key, false,
              (scheduler.queue.find? (·.app = row.key.app)).map (·.operationId),
              generation⟩] }
      | (.rejected _, scheduler) => { progress with scheduler := scheduler }
  else progress

def checkDueSchedules (rows : List (ScheduleRow Text)) (scheduler : Scheduler) : Progress Text :=
  if check.lists then rows.foldl (turn calendar check) ⟨rows, scheduler, []⟩
  else ⟨rows, scheduler, []⟩

/-! ## What a turn can do -/

variable {calendar check}

/-- A turn leaves all as it is, or fires: into the free slot, or into the queue. -/
theorem turn_cases (progress : Progress Text) (row : ScheduleRow Text) :
    ((isDue calendar check row = false ∨ check.appGenerations row.key.app = none ∨
        progress.scheduler.hasOperationFor row.key.app) ∧
      turn calendar check progress row = progress) ∨
    (isDue calendar check row ∧ progress.scheduler.active = none ∧
      ∃ generation, check.appGenerations row.key.app = some generation ∧
        turn calendar check progress row =
          { rows :=
              if check.stamps row.key then
                upsertScheduleFired progress.rows row.key (calendar.toText check.now)
              else progress.rows
            scheduler :=
              { progress.scheduler with
                active := some (rowOperation check row generation).activate }
            fired := progress.fired ++
              [⟨row.key, true, some (check.operationId row.key), generation⟩] }) ∨
    (isDue calendar check row ∧ progress.scheduler.active.isSome ∧
      progress.scheduler.hasOperationFor row.key.app = false ∧
      ∃ generation fired, check.appGenerations row.key.app = some generation ∧
        fired.key = row.key ∧ fired.accepted = false ∧
        turn calendar check progress row =
          { rows := progress.rows
            scheduler :=
              { progress.scheduler with
                queue := progress.scheduler.queue ++ [rowOperation check row generation] }
            fired := progress.fired ++ [fired] }) := by
  cases due : isDue calendar check row with
  | false =>
    refine .inl ⟨.inl rfl, ?_⟩
    rw [turn, due, if_neg Bool.false_ne_true]
  | true =>
    cases installed : check.appGenerations row.key.app with
    | none =>
      refine .inl ⟨.inr (.inl rfl), ?_⟩
      rw [turn, due, if_pos rfl, installed]
    | some generation =>
      rcases progress.scheduler.request_cases (rowOperation check row generation) with
        ⟨free, accepted⟩ | ⟨taken, fresh, queued⟩ | ⟨held, reason, rejected⟩
      · refine .inr (.inl ⟨rfl, free, generation, rfl, ?_⟩)
        rw [turn, due, installed]
        simp only [accepted]
        rfl
      · refine .inr (.inr ⟨rfl, taken, fresh, generation, ⟨row.key, false,
          ((progress.scheduler.queue ++ [rowOperation check row generation]).find?
            (·.app = row.key.app)).map (·.operationId), generation⟩, rfl, rfl, rfl, ?_⟩)
        rw [turn, due, if_pos rfl, installed]
        simp only [queued]
      · refine .inl ⟨.inr (.inr held), ?_⟩
        rw [turn, due, if_pos rfl, installed]
        simp only [rejected]

end Rows

end Seedling.Operations.Schedules
