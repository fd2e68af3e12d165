import Seedling.Operations.Schedules

/-!
# When schedules fire

The table of schedules and the scheduler as one machine: checks, operations that come and
go, rows that are added, and restarts, which lose what the scheduler held in memory.

* `fires_spaced`: while no fire is queued and every stamp is written, a boundary lies between
  any two fires of a row;
* `misses_caught_up`: if a row has fired, or a boundary is at most five minutes old, a boundary
  that passed since it was added or last fired makes the first check fire that finds the app
  installed and the slot free.
-/

namespace Seedling.Operations.Schedules

open Foundation List Progress

variable {Text : Type}

/-! ## The machine -/

/-- A row fired, whether its operation ran at once or was queued. -/
structure Fire where
  key : Key
  firedAt : Timestamp
deriving DecidableEq

/-- The table, the scheduler and the time of the last check; and, kept for the statements
below, the fires so far and since when each row has been waiting: since it was added, or
since it last ran. -/
structure State (Text : Type) where
  rows : List (ScheduleRow Text)
  scheduler : Scheduler
  clock : Timestamp
  fires : List Fire
  since : Key → Timestamp

inductive Label where
  | check (check : Check)
  | scheduler (event : Scheduler.Event)
  | ensure (now : Timestamp) (keys : List Key)
  | restart

def initial (clock : Timestamp) : State Text where
  rows := []
  scheduler := .new
  clock := clock
  fires := []
  since := fun _ => clock

section Machine

variable (calendar : Calendar Text)

def step (state : State Text) : Label → State Text
  | .check check =>
    let progress := checkDueSchedules calendar check state.rows state.scheduler
    { rows := progress.rows
      scheduler := progress.scheduler
      clock := check.now
      fires := state.fires ++ progress.fired.map fun fired => ⟨fired.key, check.now⟩
      since := fun key =>
        if progress.fired.any fun fired => fired.key = key && fired.accepted then check.now
        else state.since key }
  | .scheduler event => { state with scheduler := (state.scheduler.react event).2 }
  | .ensure now keys =>
    { state with
      rows := ensureSchedules state.rows keys
      since := fun key =>
        if key ∈ keys ∧ ¬ state.rows.any (·.key = key) then now else state.since key }
  | .restart => { state with scheduler := .new }

def machine : Machine (State Text) Label Unit where
  step state label := ((), step calendar state label)

def turns (check : Check) : Machine (Progress Text) (ScheduleRow Text) Unit where
  step progress row := ((), turn calendar check progress row)

theorem checkDueSchedules_eq_run {check : Check} (lists : check.lists)
    (rows : List (ScheduleRow Text)) (scheduler : Scheduler) :
    checkDueSchedules calendar check rows scheduler =
      (turns calendar check).run ⟨rows, scheduler, []⟩ rows := by
  rw [checkDueSchedules, if_pos lists]
  rfl

/-! ## Calm checks -/

/-- The turn of a row that is due, of an installed app: if the slot is free the stamp is
written, and if it is taken the app itself has an operation. -/
def CalmTurn (check : Check) (progress : Progress Text) (row : ScheduleRow Text) : Prop :=
  isDue calendar check row → (check.appGenerations row.key.app).isSome →
    (progress.scheduler.active = none → check.stamps row.key) ∧
      (progress.scheduler.active.isSome →
        progress.scheduler.hasOperationFor row.key.app)

/-- Time does not go back from check to check, and every turn is calm. -/
def Calm (state : State Text) : Label → Prop
  | .check check =>
    state.clock ≤ check.now ∧
      (check.lists → (turns calendar check).Along (CalmTurn calendar check)
        ⟨state.rows, state.scheduler, []⟩ state.rows)
  | _ => True

/-- Between any two fires of a row there is a boundary. -/
def Spaced (fires : List Fire) : Prop :=
  fires.Pairwise fun first later => first.key = later.key →
    ∃ boundary, calendar.IsBoundary later.key.cronexpr boundary ∧
      first.firedAt < boundary ∧ boundary ≤ later.firedAt

end Machine

/-! ## Stamps -/

variable {rows : List (ScheduleRow Text)} {row : ScheduleRow Text}

theorem keys_upsert (mem : row ∈ rows) (firedAt : Text) :
    (upsertScheduleFired rows row.key firedAt).map ScheduleRow.key = rows.map ScheduleRow.key := by
  have present : rows.any (·.key = row.key) := any_eq_true.mpr ⟨row, mem, decide_eq_true rfl⟩
  rw [upsertScheduleFired, if_pos present, map_map]
  apply map_congr_left
  intro other _
  simp only [Function.comp]
  split <;> rfl

variable {other : ScheduleRow Text}

theorem mem_upsert (mem : row ∈ rows) (firedAt : Text)
    (found : other ∈ upsertScheduleFired rows row.key firedAt) :
    (other.key = row.key ∧ other.lastFiredAt = some firedAt) ∨
      (other.key ≠ row.key ∧ other ∈ rows) := by
  have present : rows.any (·.key = row.key) := any_eq_true.mpr ⟨row, mem, decide_eq_true rfl⟩
  rw [upsertScheduleFired, if_pos present] at found
  obtain ⟨before, listed, rfl⟩ := mem_map.mp found
  by_cases same : before.key = row.key
  · rw [if_pos same]
    exact .inl ⟨same, rfl⟩
  · rw [if_neg same]
    exact .inr ⟨same, listed⟩

variable {key : Key}

theorem mem_upsert_of_ne (listed : other ∈ rows) (different : other.key ≠ key) (firedAt : Text) :
    other ∈ upsertScheduleFired rows key firedAt := by
  rw [upsertScheduleFired]
  split
  · exact mem_map.mpr ⟨other, listed, if_neg different⟩
  · exact mem_append_left _ listed

variable {calendar : Calendar Text}

/-- A due row with a stamp has a boundary behind its stamp. -/
theorem exists_boundary_of_isDue {check : Check} {time : Timestamp}
    (due : isDue calendar check row)
    (stamp : row.lastFiredAt.bind calendar.parse = some time) :
    ∃ boundary, calendar.IsBoundary row.key.cronexpr boundary ∧ time < boundary ∧
      boundary ≤ check.now := by
  rw [isDue] at due
  cases parses : calendar.findNext row.key.cronexpr with
  | none => simp [parses] at due
  | some =>
    simp only [parses, baseTime, stamp, Option.any_eq_true, decide_eq_true_eq] at due
    obtain ⟨boundary, found, passed⟩ := due
    obtain ⟨⟨isBoundary, after⟩, -⟩ := (calendar.findNext_iff parses time boundary).mp found
    exact ⟨boundary, isBoundary, after, passed⟩

/-- What calm checks keep: each row that fired is there, and its stamp is at or after its
fires. -/
structure Kept (calendar : Calendar Text) (rows : List (ScheduleRow Text)) (fires : List Fire)
    (clock : Timestamp) : Prop where
  unique : (rows.map ScheduleRow.key).Nodup
  present : ∀ fire ∈ fires, fire.key ∈ rows.map ScheduleRow.key
  stamped : ∀ fire ∈ fires, ∀ row ∈ rows, row.key = fire.key →
    ∃ time, row.lastFiredAt.bind calendar.parse = some time ∧ fire.firedAt ≤ time
  past : ∀ fire ∈ fires, fire.firedAt ≤ clock
  spaced : Spaced calendar fires

def Progress.fires (progress : Progress Text) (earlier : List Fire) (now : Timestamp) : List Fire :=
  earlier ++ progress.fired.map fun fired => ⟨fired.key, now⟩

variable {progress : Progress Text} {earlier : List Fire}

theorem Kept.accepted {check : Check}
    (kept : Kept calendar progress.rows (progress.fires earlier check.now) check.now)
    (mem : row ∈ progress.rows) (due : isDue calendar check row) (scheduler : Scheduler)
    (fired : FiredSchedule) (named : fired.key = row.key) :
    Kept calendar (upsertScheduleFired progress.rows row.key (calendar.toText check.now))
      (fires ⟨upsertScheduleFired progress.rows row.key (calendar.toText check.now),
        scheduler, progress.fired ++ [fired]⟩ earlier check.now) check.now := by
  have fires : fires ⟨upsertScheduleFired progress.rows row.key
      (calendar.toText check.now), scheduler, progress.fired ++ [fired]⟩ earlier check.now =
        progress.fires earlier check.now ++ [⟨row.key, check.now⟩] := by
    rw [fires, fires, map_append, append_assoc, map_singleton, named]
  rw [fires]
  refine ⟨by rw [keys_upsert mem]; exact kept.unique, ?_, ?_, ?_, ?_⟩
  · intro fire listed
    rw [keys_upsert mem]
    rcases mem_append.mp listed with before | added
    · exact kept.present fire before
    · rw [mem_singleton.mp added]
      exact mem_map_of_mem mem
  · intro fire listed other found same
    rcases mem_upsert mem _ found with ⟨-, stamp⟩ | ⟨different, before⟩
    · refine ⟨check.now, by rw [stamp]; exact calendar.parse_toText _, ?_⟩
      rcases mem_append.mp listed with before | added
      · exact kept.past fire before
      · rw [mem_singleton.mp added]
    · rcases mem_append.mp listed with earlier | added
      · exact kept.stamped fire earlier other before same
      · rw [mem_singleton.mp added] at same
        exact absurd same different
  · intro fire listed
    rcases mem_append.mp listed with before | added
    · exact kept.past fire before
    · rw [mem_singleton.mp added]
  · refine pairwise_append.mpr ⟨kept.spaced, pairwise_singleton _ _, ?_⟩
    intro first before later added same
    rw [mem_singleton.mp added] at same ⊢
    obtain ⟨time, stamp, atMost⟩ := kept.stamped first before row mem same.symm
    obtain ⟨boundary, isBoundary, after, passed⟩ := exists_boundary_of_isDue due stamp
    exact ⟨boundary, isBoundary, Int.lt_of_le_of_lt atMost after, passed⟩

theorem Kept.turn {check : Check}
    (kept : Kept calendar progress.rows (progress.fires earlier check.now) check.now)
    (mem : row ∈ progress.rows) (calm : CalmTurn calendar check progress row) :
    Kept calendar (turn calendar check progress row).rows
      ((turn calendar check progress row).fires earlier check.now) check.now := by
  rcases turn_cases progress row with
    ⟨-, same⟩ | ⟨due, free, generation, installed, fires⟩ |
    ⟨due, taken, fresh, generation, fired, installed, -, -, -⟩
  · rw [same]
    exact kept
  · have stamps := (calm due (by rw [installed]; rfl)).1 free
    rw [fires, if_pos stamps]
    exact kept.accepted mem due _ _ rfl
  · -- a calm turn is not queued
    rw [(calm due (by rw [installed]; rfl)).2 taken] at fresh
    cases fresh

theorem mem_turn_of_ne {check : Check} (listed : other ∈ progress.rows)
    (different : other.key ≠ row.key) :
    other ∈ (turn calendar check progress row).rows := by
  rcases turn_cases progress row with ⟨-, same⟩ | ⟨-, -, generation, -, fires⟩ |
    ⟨-, -, -, generation, fired, -, -, -, queued⟩
  · rw [same]
    exact listed
  · rw [fires]
    split
    · exact mem_upsert_of_ne listed different _
    · exact listed
  · rw [queued]
    exact listed

/-- What the turn of a row that is still as it was read keeps, a check keeps. -/
theorem turns_preserve {check : Check} {P : Progress Text → ScheduleRow Text → Prop}
    {I : Progress Text → Prop} (keeps : ∀ progress row, row ∈ progress.rows → P progress row →
      I progress → I (turn calendar check progress row)) (remaining : List (ScheduleRow Text))
    (unread : ∀ row ∈ remaining, row ∈ progress.rows)
    (unique : (remaining.map ScheduleRow.key).Nodup)
    (calm : (turns calendar check).Along P progress remaining)
    (start : I progress) : I ((turns calendar check).run progress remaining) := by
  induction remaining generalizing progress with
  | nil => exact start
  | cons row remaining ih =>
    rw [map_cons, nodup_cons] at unique
    refine ih ?_ unique.2 calm.2 (keeps progress row (unread row mem_cons_self) calm.1 start)
    intro other listed
    refine mem_turn_of_ne (unread other (mem_cons_of_mem _ listed)) ?_
    intro same
    exact unique.1 (same ▸ mem_map_of_mem listed)

/-! ## Runs -/

variable {now : Timestamp}

theorem Kept.later {fires : List Fire} {clock : Timestamp} (kept : Kept calendar rows fires clock)
    (after : clock ≤ now) :
    Kept calendar rows fires now :=
  { kept with past := fun fire listed => Int.le_trans (kept.past fire listed) after }

variable {state : State Text}

theorem Kept.check {check : Check} (kept : Kept calendar state.rows state.fires state.clock)
    (calm : Calm calendar state (.check check)) :
    Kept calendar (step calendar state (.check check)).rows
      (step calendar state (.check check)).fires check.now := by
  have now := kept.later calm.1
  have start : (⟨state.rows, state.scheduler, []⟩ : Progress Text).fires state.fires check.now =
      state.fires := append_nil _
  cases lists : check.lists with
  | false =>
    have nothing : checkDueSchedules calendar check state.rows state.scheduler =
        ⟨state.rows, state.scheduler, []⟩ := by
      rw [checkDueSchedules, lists, if_neg Bool.false_ne_true]
    rw [step, nothing]
    rw [map_nil, append_nil]
    exact now
  | true =>
    rw [step, checkDueSchedules_eq_run calendar lists]
    refine turns_preserve (I := fun progress => Kept calendar progress.rows
        (progress.fires state.fires check.now) check.now)
      (fun _ _ mem calm kept => kept.turn mem calm) state.rows (fun _ listed => listed)
      kept.unique (calm.2 lists) ?_
    rw [start]
    exact now

variable {keys : List Key}

theorem mem_ensureSchedules_of_mem (listed : row ∈ rows) : row ∈ ensureSchedules rows keys := by
  induction keys generalizing rows with
  | nil => exact listed
  | cons key keys ih =>
    apply ih
    dsimp only
    split
    · exact listed
    · exact mem_append_left _ listed

theorem mem_ensureSchedules (listed : row ∈ ensureSchedules rows keys) :
    row ∈ rows ∨ (row.key ∉ rows.map ScheduleRow.key ∧ row.key ∈ keys ∧
      row.lastFiredAt = none) := by
  induction keys generalizing rows with
  | nil => exact .inl listed
  | cons key keys ih =>
    rcases ih listed with earlier | ⟨missing, asked, unfired⟩
    · dsimp only at earlier
      split at earlier
      · exact .inl earlier
      · rename_i absent
        rcases mem_append.mp earlier with held | added
        · exact .inl held
        · rw [mem_singleton.mp added]
          refine .inr ⟨?_, mem_cons_self, rfl⟩
          intro present
          obtain ⟨other, held, same⟩ := mem_map.mp present
          exact absent (any_eq_true.mpr ⟨other, held, decide_eq_true same⟩)
    · refine .inr ⟨?_, mem_cons_of_mem _ asked, unfired⟩
      intro present
      apply missing
      dsimp only
      split
      · exact present
      · rw [map_append]
        exact mem_append_left _ present

theorem nodup_ensureSchedules (keys : List Key) (unique : (rows.map ScheduleRow.key).Nodup) :
    ((ensureSchedules rows keys).map ScheduleRow.key).Nodup := by
  induction keys generalizing rows with
  | nil => exact unique
  | cons key keys ih =>
    apply ih
    dsimp only
    split
    · exact unique
    · rename_i absent
      rw [map_append, nodup_append]
      refine ⟨unique, nodup_singleton _, ?_⟩
      intro held mem added listed same
      obtain ⟨other, inTable, rfl⟩ := mem_map.mp mem
      rw [map_singleton, mem_singleton] at listed
      exact absent (any_eq_true.mpr ⟨other, inTable, decide_eq_true (same.trans listed)⟩)

variable {label : Label}

theorem Kept.step (kept : Kept calendar state.rows state.fires state.clock)
    (calm : Calm calendar state label) :
    Kept calendar (step calendar state label).rows (step calendar state label).fires
      (step calendar state label).clock := by
  cases label with
  | check check => exact kept.check calm
  | scheduler | restart => exact kept
  | ensure now keys =>
    refine ⟨nodup_ensureSchedules keys kept.unique, ?_, ?_, kept.past, kept.spaced⟩
    · intro fire listed
      obtain ⟨row, held, same⟩ := mem_map.mp (kept.present fire listed)
      exact same ▸ mem_map_of_mem (mem_ensureSchedules_of_mem held)
    · intro fire listed row found same
      rcases mem_ensureSchedules found with held | ⟨missing, -, -⟩
      · exact kept.stamped fire listed row held same
      · exact absurd (same ▸ kept.present fire listed) missing

theorem Kept.initial (clock : Timestamp) :
    Kept calendar (initial clock : State Text).rows (initial clock : State Text).fires clock where
  unique := nodup_nil
  present := nofun
  stamped := nofun
  past := nofun
  spaced := List.Pairwise.nil

theorem kept_run {clock : Timestamp} {labels : List Label}
    (calm : (machine calendar).Along (Calm calendar) (initial clock) labels) :
    Kept calendar ((machine calendar).run (initial clock) labels).rows
      ((machine calendar).run (initial clock) labels).fires
      ((machine calendar).run (initial clock) labels).clock :=
  (machine calendar).run_preserves
    (I := fun state => Kept calendar state.rows state.fires state.clock)
    (fun _ _ kept calm => kept.step calm) _ labels calm (Kept.initial clock)

/-- **A schedule fires at most once per due time**, in every run whose checks are calm. -/
theorem fires_spaced (calendar : Calendar Text) (clock : Timestamp) (labels : List Label)
    (calm : (machine calendar).Along (Calm calendar) (initial clock) labels) :
    Spaced calendar ((machine calendar).run (initial clock) labels).fires :=
  (kept_run calm).spaced

/-! ## Catching up -/

section CatchUp

variable (calendar : Calendar Text)

/-- A boundary has passed since the row was added or last ran. -/
def Missed (state : State Text) (check : Check) (row : ScheduleRow Text) : Prop :=
  ∃ boundary, calendar.IsBoundary row.key.cronexpr boundary ∧
    state.since row.key < boundary ∧ boundary ≤ check.now

/-- A check that finds the slot free runs every row of an installed app that has missed a
boundary. -/
def CatchesUp (state : State Text) (check : Check) : Prop :=
  state.scheduler.active = none → ∀ row ∈ state.rows,
    (check.appGenerations row.key.app).isSome → Missed calendar state check row →
      ∃ fired ∈ (checkDueSchedules calendar check state.rows state.scheduler).fired,
        fired.key = row.key ∧ fired.accepted

/-- The row has fired, or a boundary is at most five minutes old. -/
def Reached (check : Check) (row : ScheduleRow Text) : Prop :=
  (row.lastFiredAt.bind calendar.parse).isSome ∨
    ∃ boundary, calendar.IsBoundary row.key.cronexpr boundary ∧
      (checkedSub check.now catchUpWindow).getD check.now < boundary ∧ boundary ≤ check.now

/-- Time does not go back, the table is read, and every row of an installed app that has
missed a boundary is reached, and finds the slot still free. -/
def Attentive (state : State Text) : Label → Prop
  | .check check =>
    state.clock ≤ check.now ∧ check.lists ∧
      (state.scheduler.active = none → (turns calendar check).Along
        (fun progress row => (check.appGenerations row.key.app).isSome →
          Missed calendar state check row →
            progress.scheduler.active = none ∧ Reached calendar check row)
        ⟨state.rows, state.scheduler, []⟩ state.rows)
  | _ => True

end CatchUp

def Progress.since (progress : Progress Text) (earlier : Key → Timestamp) (now : Timestamp)
    (key : Key) : Timestamp :=
  if progress.fired.any fun fired => fired.key = key && fired.accepted then now else earlier key

/-- No row waits from before its stamp, which is not ahead of the clock. -/
structure Fresh (calendar : Calendar Text) (rows : List (ScheduleRow Text))
    (since : Key → Timestamp) (clock : Timestamp) : Prop where
  unique : (rows.map ScheduleRow.key).Nodup
  waits : ∀ row ∈ rows, ∀ time, row.lastFiredAt.bind calendar.parse = some time →
    time ≤ since row.key ∧ time ≤ clock

variable {earlier : Key → Timestamp} {fired : FiredSchedule}

theorem Progress.since_append {scheduler : Scheduler}
    (other : fired.key = key → fired.accepted = false) :
    (since ⟨rows, scheduler, progress.fired ++ [fired]⟩ earlier now) key =
      progress.since earlier now key := by
  have unfired : (decide (fired.key = key) && fired.accepted) = false := by
    by_cases same : fired.key = key
    · rw [other same, Bool.and_false]
    · rw [decide_eq_false same, Bool.false_and]
  simp [since, unfired]

theorem Fresh.turn {check : Check}
    (fresh : Fresh calendar progress.rows (progress.since earlier check.now) check.now)
    (mem : row ∈ progress.rows) :
    Fresh calendar (turn calendar check progress row).rows
      ((turn calendar check progress row).since earlier check.now) check.now := by
  rcases turn_cases progress row with ⟨-, same⟩ | ⟨-, -, generation, -, fires⟩ |
    ⟨-, -, -, generation, fired, -, -, unaccepted, queued⟩
  · rw [same]
    exact fresh
  · rw [fires]
    refine ⟨?_, fun other found time stamp => ?_⟩
    · split
      · rw [keys_upsert mem]
        exact fresh.unique
      · exact fresh.unique
    · have held : time ≤ check.now ∧ (other.key ≠ row.key → other ∈ progress.rows) := by
        split at found
        · rcases mem_upsert mem _ found with ⟨named, stamped⟩ | ⟨-, before⟩
          · rw [stamped] at stamp
            exact ⟨Int.le_of_eq (Option.some.inj (stamp.symm.trans (calendar.parse_toText _))),
              absurd named⟩
          · exact ⟨(fresh.waits other before time stamp).2, fun _ => before⟩
        · exact ⟨(fresh.waits other found time stamp).2, fun _ => found⟩
      refine ⟨?_, held.1⟩
      by_cases named : other.key = row.key
      · simpa [since, named] using held.1
      · rw [since_append (fun same => absurd same.symm named)]
        exact (fresh.waits other (held.2 named) time stamp).1
  · rw [queued]
    refine ⟨fresh.unique, fun other found time stamp => ?_⟩
    rw [since_append (fun _ => unaccepted)]
    exact fresh.waits other found time stamp

variable (fresh : Fresh calendar state.rows state.since state.clock)
include fresh

theorem Fresh.step (attentive : Attentive calendar state label) :
    Fresh calendar (step calendar state label).rows (step calendar state label).since
      (step calendar state label).clock := by
  cases label with
  | check check =>
    obtain ⟨after, lists, -⟩ := attentive
    rw [Schedules.step, checkDueSchedules_eq_run calendar lists]
    refine turns_preserve (P := fun _ _ => True) (I := fun progress => Fresh calendar progress.rows
        (progress.since state.since check.now) check.now)
      (fun _ _ mem _ fresh => fresh.turn mem) state.rows (fun _ listed => listed) fresh.unique
      ((turns calendar check).along_of_forall (fun _ _ => trivial) _ _) ⟨fresh.unique, ?_⟩
    exact fun row mem time stamp => (fresh.waits row mem time stamp).imp_right (Int.le_trans · after)
  | scheduler | restart => exact fresh
  | ensure now keys =>
    refine ⟨nodup_ensureSchedules keys fresh.unique, fun row found time stamp => ?_⟩
    rcases mem_ensureSchedules found with held | ⟨-, -, unfired⟩
    · have present : state.rows.any (·.key = row.key) :=
        any_eq_true.mpr ⟨row, held, decide_eq_true rfl⟩
      have since : (Schedules.step calendar state (.ensure now keys)).since row.key =
          state.since row.key := if_neg fun added => added.2 present
      rw [since]
      exact fresh.waits row held time stamp
    · rw [unfired] at stamp
      cases stamp

theorem isDue_of_missed {check : Check} (mem : row ∈ state.rows)
    (missed : Missed calendar state check row) (reached : Reached calendar check row) :
    isDue calendar check row := by
  obtain ⟨boundary, isBoundary, since, passed⟩ := missed
  obtain ⟨next, parses⟩ := Option.isSome_iff_exists.mp (calendar.parses isBoundary)
  -- a boundary after the base time makes the row due
  have due {time boundary : Timestamp} (base : baseTime calendar check row = time)
      (isBoundary : calendar.IsBoundary row.key.cronexpr boundary) (after : time < boundary)
      (passed : boundary ≤ check.now) : isDue calendar check row := by
    obtain ⟨found, next, least⟩ := calendar.exists_findNext parses isBoundary after
    simp only [isDue, parses, base, next, Option.any_some, decide_eq_true_eq]
    exact Int.le_trans least passed
  cases stamp : row.lastFiredAt.bind calendar.parse with
  | some time =>
    refine due ?_ isBoundary (Int.lt_of_le_of_lt (fresh.waits row mem time stamp).1 since) passed
    rw [baseTime, stamp]
  | none =>
    rcases reached with fired | ⟨recent, isRecent, after, passed⟩
    · rw [stamp] at fired
      cases fired
    · refine due ?_ isRecent after passed
      rw [baseTime, stamp]

omit fresh

theorem mem_fired_turn {check : Check} (row : ScheduleRow Text) (listed : fired ∈ progress.fired) :
    fired ∈ (turn calendar check progress row).fired := by
  rcases turn_cases progress row with ⟨-, same⟩ | ⟨-, -, generation, -, fires⟩ |
    ⟨-, -, -, generation, added, -, -, -, queued⟩
  · rw [same]
    exact listed
  · rw [fires]
    exact mem_append_left _ listed
  · rw [queued]
    exact mem_append_left _ listed

theorem mem_fired_turns {check : Check} (remaining : List (ScheduleRow Text))
    (listed : fired ∈ progress.fired) :
    fired ∈ ((turns calendar check).run progress remaining).fired :=
  (turns calendar check).run_invariant (I := fun progress => fired ∈ progress.fired)
    (fun _ row listed => mem_fired_turn row listed) progress remaining listed

theorem exists_fired_turn {check : Check} (due : isDue calendar check row)
    (installed : (check.appGenerations row.key.app).isSome)
    (free : progress.scheduler.active = none) :
    ∃ fired ∈ (turn calendar check progress row).fired,
      fired.key = row.key ∧ fired.accepted := by
  obtain ⟨generation, found⟩ := Option.isSome_iff_exists.mp installed
  have accepted : (progress.scheduler.requestWithId (rowOperation check row generation)) =
      (.accepted, { progress.scheduler with
        active := some (rowOperation check row generation).activate }) := by
    rw [Scheduler.requestWithId, free]
  refine ⟨⟨row.key, true, some (check.operationId row.key), generation⟩, ?_, rfl, rfl⟩
  rw [turn, due, found]
  simp only [accepted]
  exact mem_append_right _ mem_cons_self

theorem Attentive.catchesUp {check : Check}
    (fresh : Fresh calendar state.rows state.since state.clock)
    (attentive : Attentive calendar state (.check check)) : CatchesUp calendar state check := by
  intro free row mem installed missed
  obtain ⟨-, lists, finds⟩ := attentive
  obtain ⟨before, after, split⟩ := append_of_mem mem
  have attends := finds free
  rw [checkDueSchedules_eq_run calendar lists, split]
  rw [split, Machine.along_append] at attends
  obtain ⟨slot, reached⟩ := attends.2.1 installed missed
  obtain ⟨fired, listed, named⟩ := exists_fired_turn
    (isDue_of_missed fresh mem missed reached) installed slot
  refine ⟨fired, ?_, named⟩
  rw [Machine.run_append]
  exact mem_fired_turns after (split ▸ listed)

/-- **No due schedule is lost**, in every run whose checks are attentive: each of them
catches up; and if they are calm as well, a boundary lies between any two fires of a row. -/
theorem misses_caught_up (calendar : Calendar Text) (clock : Timestamp) (labels : List Label)
    (attentive : (machine calendar).Along (Attentive calendar) (initial clock) labels) :
    (∀ earlier check later, labels = earlier ++ .check check :: later →
      CatchesUp calendar ((machine calendar).run (initial clock) earlier) check) ∧
    ((machine calendar).Along (Calm calendar) (initial clock) labels →
      Spaced calendar ((machine calendar).run (initial clock) labels).fires) := by
  refine ⟨?_, fun calm => (kept_run calm).spaced⟩
  rintro earlier check later rfl
  obtain ⟨before, attends, -⟩ := (machine calendar).along_append.mp attentive
  refine Attentive.catchesUp ?_ attends
  exact (machine calendar).run_preserves
    (I := fun state => Fresh calendar state.rows state.since state.clock)
    (fun _ _ fresh attends => fresh.step attends) _ earlier before ⟨nodup_nil, nofun⟩

/-! ## Runs on the hour -/

def seconds (n : Int) : Timestamp := n * 1000000000

theorem nextHour_isLeast (time : Int) : IsLeast {b : Int | b % 3600000000000 = 0 ∧ time < b}
      ((time / 3600000000000 + 1) * 3600000000000) := by
  refine ⟨⟨by omega, by omega⟩, ?_⟩
  rintro other ⟨isBoundary, after⟩
  omega

def hourly : Calendar Timestamp where
  findNext _ := some fun time => some ((time / 3600000000000 + 1) * 3600000000000)
  IsBoundary _ boundary := boundary % 3600000000000 = 0
  findNext_iff := by
    rintro cronexpr next parses time boundary
    obtain rfl := Option.some.inj parses
    constructor
    · intro found
      obtain rfl := Option.some.inj found
      exact nextHour_isLeast time
    · intro least
      exact congrArg some ((nextHour_isLeast time).unique least)
  parses := fun _ => rfl
  parse := some
  toText := id
  parse_toText := fun _ => rfl

def backup : Key := ⟨"shop", "backup", "0 * * * *"⟩

def checkAt (n : Int) : Check := ⟨seconds n, fun _ => some 1, fun _ => 1, true, fun _ => true⟩

/-- The schedule fires on two hours, with checks in between. -/
def calmRun : List Label :=
  [.ensure (seconds 500) [backup], .check (checkAt 3630), .check (checkAt 3690),
    .scheduler .complete, .check (checkAt 7230)]

theorem calmRun_spaced : Spaced hourly ((machine hourly).run (initial 0) calmRun).fires :=
  fires_spaced hourly 0 calmRun
    ⟨trivial, ⟨by decide, fun _ => ⟨fun _ _ => ⟨fun _ => rfl, nofun⟩, trivial⟩⟩,
      ⟨by decide, fun _ => ⟨fun due => absurd due (by decide), trivial⟩⟩, trivial,
      ⟨by decide, fun _ => ⟨fun _ _ => ⟨fun _ => rfl, nofun⟩, trivial⟩⟩, trivial⟩

/-- Another app holds the slot when the second hour comes, and lets it go. -/
def queuedRun : List Label :=
  [.ensure (seconds 500) [backup], .check (checkAt 3630), .scheduler .complete,
    .scheduler (.request ⟨"blog", "publish", 2, [], 1, 1, "operator"⟩), .check (checkAt 7230),
    .scheduler .complete, .scheduler .complete, .check (checkAt 7290)]

theorem queuedRun_not_spaced :
    ¬ Spaced hourly ((machine hourly).run (initial 0) queuedRun).fires := by
  have fires : ((machine hourly).run (initial 0) queuedRun).fires =
      [⟨backup, seconds 3630⟩, ⟨backup, seconds 7230⟩, ⟨backup, seconds 7290⟩] := by decide
  intro spaced
  rw [fires, Spaced, pairwise_cons, pairwise_cons] at spaced
  obtain ⟨boundary, isBoundary, after, passed⟩ := spaced.2.1 _ mem_cons_self rfl
  have between (b : Int) (isBoundary : b % 3600000000000 = 0) (after : 7230000000000 < b) :
      ¬ b ≤ 7290000000000 := by omega
  exact between boundary isBoundary after passed

/-- The daemon is down for most of a day after the schedule has fired once. -/
def attentiveRun : List Label :=
  [.ensure (seconds 500) [backup], .check (checkAt 3630), .restart, .check (checkAt 81000)]

theorem attentiveRun_caught_up : CatchesUp hourly ((machine hourly).run (initial 0)
      [.ensure (seconds 500) [backup], .check (checkAt 3630), .restart]) (checkAt 81000) := by
  refine (misses_caught_up hourly 0 attentiveRun ⟨trivial, ⟨by decide, rfl, fun _ =>
    ⟨fun _ _ => ⟨rfl, .inr ?_⟩, trivial⟩⟩, trivial, ⟨by decide, rfl, fun _ =>
    ⟨fun _ _ => ⟨rfl, .inl rfl⟩, trivial⟩⟩, trivial⟩).1 _ (checkAt 81000) [] rfl
  exact ⟨seconds 3600, rfl, by decide, by decide⟩

/-- The daemon is down for half an hour after the first hour of a schedule that has not
fired yet. -/
theorem unfired_not_caught_up : ¬ CatchesUp hourly ((machine hourly).run (initial 0)
      [.ensure (seconds 500) [backup], .restart]) (checkAt 5400) := by
  intro catches
  obtain ⟨fired, listed, -⟩ := catches rfl ⟨backup, none⟩ (by decide) rfl
    ⟨seconds 3600, rfl, by decide, by decide⟩
  have nothing : (checkDueSchedules hourly (checkAt 5400) [⟨backup, none⟩] .new).fired = [] := by
    decide
  exact absurd (nothing ▸ listed) not_mem_nil

end Seedling.Operations.Schedules
