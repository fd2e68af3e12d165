import Seedling.Foundation.Table
import Seedling.Barrier.Positional

/-!
# The two stores of the action log

The database upserts one row per entry, with the resources and the barriers as JSON texts,
and reads the rows of an operation in the order of their positions; the columns of the time
when a call had one barrier at most are still written, and read where the barriers' own
column is empty.  The store in memory is a list that a commit merges into.

`database_log_refines_memory` is the refinement, by `DbActionLog.Represents`, which is kept
by each commit whose entries amend positions or claim the next one.
-/

namespace Seedling.Barrier

open Foundation List ActionLogEntry

/-! ## Rows -/

structure ConversionFailure where
  column : Nat
  message : String
deriving DecidableEq

/-- The JSON texts of the columns that hold lists.  Reading a text that was
written gives back what was written. -/
structure SerdeJson (Text : Type) where
  resourcesToString : List ResourceInstance → Text
  resourcesFromStr : Text → Except String (List ResourceInstance)
  barriersToString : List BarrierRecord → Text
  barriersFromStr : Text → Except String (List BarrierRecord)
  resources_roundTrip : ∀ resources, resourcesFromStr (resourcesToString resources) = .ok resources
  barriers_roundTrip : ∀ barriers, barriersFromStr (barriersToString barriers) = .ok barriers

structure ActionLogRow (Text : Type) where
  recordedAt : Nat
  operationId : String
  app : String
  actionName : String
  callIndex : Nat
  callKind : String
  resources : Text
  barrierState : Option String
  barrierDeadline : Option Int64
  barrierSatisfied : Option Int
  barrierStartedAt : Option Int64
  extra : Option Extra
  barriers : Option Text

def parseCallKind : String → Except ConversionFailure CallKind
  | "Start" => .ok .start
  | "Stop" => .ok .stop
  | "Query" => .ok .query
  | "WarmCerts" => .ok .warmCerts
  | "WarmImages" => .ok .warmImages
  | "Signal" => .ok .signal
  | "Write" => .ok .write
  | "Exec" => .ok .exec
  | "SubAction" => .ok .subAction
  | other => .error ⟨1, s!"unknown call kind: {other}"⟩

theorem parseCallKind_debug (kind : CallKind) : parseCallKind kind.debug = .ok kind := by
  cases kind <;> rfl

def parseLifecycleState : String → Except ConversionFailure LifecycleState
  | "Pending" => .ok .pending
  | "Scheduled" => .ok .scheduled
  | "Running" => .ok .running
  | "Ready" => .ok .ready
  | "Terminating" => .ok .terminating
  | "Terminated" => .ok .terminated
  | "Unscheduled" => .ok .unscheduled
  | other => .error ⟨0, s!"unknown lifecycle state: {other}"⟩

theorem parseLifecycleState_debug (state : LifecycleState) :
    parseLifecycleState state.debug = .ok state := by
  cases state <;> rfl

/-- A number of seconds as an integer column holds it, and back. -/
def secondsColumn (seconds : Nat) : Int64 := (UInt64.ofNat seconds).toInt64

def columnSeconds (column : Int64) : Nat := column.toUInt64.toNat

theorem columnSeconds_secondsColumn (seconds : UInt64) :
    columnSeconds (secondsColumn seconds.toNat) = seconds.toNat := by
  simp [columnSeconds, secondsColumn]

section Rows

variable {Text : Type} (json : SerdeJson Text) (row : ActionLogRow Text)

/-- The barriers a row records: those of the barriers' column or, where that is
empty, the one barrier of the older columns. -/
def ActionLogRow.readBarriers : Except ConversionFailure (List BarrierRecord) :=
  match row.barriers with
  | some text => (json.barriersFromStr text).mapError fun message => ⟨8, message⟩
  | none =>
    match row.barrierState, row.barrierSatisfied with
    | some state, some satisfied => do
        let requiredState ← parseLifecycleState state
        return [{
          seq := 0
          requiredState := requiredState
          deadlineSecs := row.barrierDeadline.map columnSeconds
          satisfied := satisfied ≠ 0
          startedAtSecs := row.barrierStartedAt.map columnSeconds }]
    | _, _ => .ok []

def ActionLogRow.read : Except ConversionFailure ActionLogEntry := do
  let callKind ← parseCallKind row.callKind
  let resources ← (json.resourcesFromStr row.resources).mapError fun message => ⟨2, message⟩
  let barriers ← row.readBarriers json
  return ⟨row.callIndex, callKind, resources, barriers, row.extra⟩

/-- A row reads as the entry, and is filed under its position. -/
def ActionLogRow.Records (entry : ActionLogEntry) : Prop :=
  row.read json = .ok entry ∧ row.callIndex = entry.callIndex

variable {json} {rows : List (ActionLogRow Text)} {log : List ActionLogEntry}
  (records : List.Forall₂ (ActionLogRow.Records json) rows log)
include records

theorem mapM_read : rows.mapM (ActionLogRow.read json) = .ok log := by
  induction records with
  | nil => rfl
  | cons head tail ih =>
    rw [mapM_cons, head.1, ih]
    rfl

theorem map_callIndex : rows.map ActionLogRow.callIndex = log.map callIndex := by
  induction records with
  | nil => rfl
  | cons head tail ih =>
    rw [map_cons, map_cons, head.2, ih]

end Rows

/-! ## The store of the database -/

/-- One row for each position of each operation's log. -/
def sameCall {Text : Type} (row other : ActionLogRow Text) : Bool :=
  row.operationId = other.operationId && row.callIndex = other.callIndex

abbrev ActionLogTable (Text : Type) := Table (@sameCall Text)

/-- The store of one operation's log in the database. -/
structure DbActionLog where
  operationId : String
  app : String
  actionName : String

namespace DbActionLog

variable {Text : Type} (json : SerdeJson Text) (store : DbActionLog)

/-- The row of an entry.  The older columns hold its first barrier. -/
def row (now : Nat) (entry : ActionLogEntry) : ActionLogRow Text :=
  let first := entry.barriers.head?
  { recordedAt := now
    operationId := store.operationId
    app := store.app
    actionName := store.actionName
    callIndex := entry.callIndex
    callKind := entry.callKind.debug
    resources := json.resourcesToString entry.resources
    barrierState := first.map fun record => record.requiredState.debug
    barrierDeadline := first.bind fun record => record.deadlineSecs.map secondsColumn
    barrierSatisfied := first.map fun record => if record.satisfied then 1 else 0
    barrierStartedAt := first.bind fun record => record.startedAtSecs.map secondsColumn
    extra := entry.extra
    barriers :=
      if entry.barriers.isEmpty then none else some (json.barriersToString entry.barriers) }

def insertActionLogEntry (now : Nat) (table : ActionLogTable Text) (entry : ActionLogEntry) :
    ActionLogTable Text :=
  table.insertOrReplace (store.row json now entry)

variable (table : ActionLogTable Text)

/-- The operation's rows, in the order of their positions. -/
def rows : List (ActionLogRow Text) :=
  sortByKey ActionLogRow.callIndex
    (table.rows.filter fun row => row.operationId = store.operationId)

def load : Except ConversionFailure (List ActionLogEntry) :=
  (store.rows table).mapM (ActionLogRow.read json)

def commit (now : Nat) (table : ActionLogTable Text) (entries : List ActionLogEntry) :
    ActionLogTable Text :=
  entries.foldl (store.insertActionLogEntry json now) table

/-- Delete what ended operations recorded before the cutoff. -/
def gcActionLog (current : List String) (cutoff : Nat) (table : ActionLogTable Text) :
    ActionLogTable Text :=
  table.keepOnly fun row => current.contains row.operationId || cutoff ≤ row.recordedAt

/-! ## What the table holds -/

theorem row_records (now : Nat) (entry : ActionLogEntry) :
    (store.row json now entry).Records json entry := by
  obtain ⟨callIndex, callKind, resources, barriers, extra⟩ := entry
  refine ⟨?_, rfl⟩
  cases barriers with
  | nil => simp [row, ActionLogRow.read, ActionLogRow.readBarriers, parseCallKind_debug,
      json.resources_roundTrip, Except.mapError, bind, Except.bind, pure, Except.pure]
  | cons => simp [row, ActionLogRow.read, ActionLogRow.readBarriers,
      parseCallKind_debug, json.resources_roundTrip, json.barriers_roundTrip, Except.mapError, bind,
      Except.bind, pure, Except.pure]

/-- The table holds the operation's log: row by row, in the order it is read. -/
def Represents (log : List ActionLogEntry) : Prop :=
  List.Forall₂ (ActionLogRow.Records json) (store.rows table) log

variable {json store} {table : ActionLogTable Text} {log : List ActionLogEntry}

theorem Represents.load (represents : store.Represents json table log) :
    store.load json table = .ok log :=
  mapM_read represents

theorem Represents.positional (represents : store.Represents json table log)
    (positional : Positional callIndex log) :
    Positional ActionLogRow.callIndex (store.rows table) := by
  have sameLength : (store.rows table).length = log.length := List.Forall₂.length_eq represents
  rw [Positional, map_callIndex represents, positional, sameLength]

variable {row : ActionLogRow Text}

theorem rows_insertOrReplace (own : row.operationId = store.operationId)
    (positional : Positional ActionLogRow.callIndex (store.rows table))
    (claims : row.callIndex ≤ (store.rows table).length) :
    store.rows (table.insertOrReplace row) =
      upsert ActionLogRow.callIndex row (store.rows table) := by
  refine Eq.trans ?_ (positional.sortByKey_replace claims)
  have filtered : (table.insertOrReplace row).rows.filter
        (fun old => old.operationId = store.operationId) =
      (table.rows.filter (fun old => old.operationId = store.operationId)).filter
        (fun old => old.callIndex ≠ row.callIndex) ++ [row] := by
    rw [Table.insertOrReplace, filter_append, filter_filter, filter_filter]
    congr 1
    · refine filter_congr fun old _ => ?_
      by_cases ours : old.operationId = store.operationId
      · simp [sameCall, own, ours]
      · simp [ours]
    · simp [own]
  rw [rows, filtered]

theorem rows_insertOrReplace_other (other : row.operationId ≠ store.operationId) :
    store.rows (table.insertOrReplace row) = store.rows table := by
  have filtered : (table.insertOrReplace row).rows.filter
        (fun old => old.operationId = store.operationId) =
      table.rows.filter (fun old => old.operationId = store.operationId) := by
    rw [Table.insertOrReplace, filter_append, filter_filter,
      filter_cons_of_neg (by simpa using other), filter_nil, append_nil]
    refine filter_congr fun old _ => ?_
    by_cases ours : old.operationId = store.operationId
    · simp [sameCall, ours, other.symm]
    · simp [ours]
  rw [rows, rows, filtered]

/-- **Inserting a row keeps the table and the log in step.** -/
theorem represents_insert {entry : ActionLogEntry} (represents : store.Represents json table log)
    (positional : Positional callIndex log)
    (own : row.operationId = store.operationId) (records : row.Records json entry)
    (claims : entry.callIndex ≤ log.length) :
    store.Represents json (table.insertOrReplace row)
      (upsert callIndex entry log) := by
  have sameLength : (store.rows table).length = log.length := List.Forall₂.length_eq represents
  have inside : row.callIndex ≤ (store.rows table).length := by
    rw [records.2, sameLength]
    exact claims
  rw [Represents, rows_insertOrReplace own (represents.positional positional) inside]
  exact forall₂_upsert (fun _ _ recorded => recorded.2) represents records

/-- A commit whose entries amend positions or claim the next one keeps the table
and the log in step. -/
theorem represents_commit (now : Nat) {entries : List ActionLogEntry} {length : Nat}
    (represents : store.Represents json table log)
    (positional : Positional callIndex log)
    (filled : fill log.length (entries.map callIndex) = some length) :
    store.Represents json (store.commit json now table entries) (commitLog log entries) := by
  induction entries generalizing table log with
  | nil => exact represents
  | cons entry entries ih =>
    obtain ⟨claims, rest⟩ := positional.fill_cons filled
    exact ih (represents_insert represents positional rfl
      (store.row_records json now entry) claims) (positional.upsert claims) rest

theorem rows_commit_other {other : DbActionLog} (different : other.operationId ≠ store.operationId)
    (now : Nat) (entries : List ActionLogEntry) (table : ActionLogTable Text) :
    store.rows (other.commit json now table entries) = store.rows table := by
  induction entries generalizing table with
  | nil => rfl
  | cons entry entries ih =>
    exact (ih _).trans (rows_insertOrReplace_other different)

theorem rows_gcActionLog {current : List String} (inProgress : store.operationId ∈ current)
    (cutoff : Nat) (table : ActionLogTable Text) :
    store.rows (gcActionLog current cutoff table) = store.rows table := by
  have filtered : (gcActionLog current cutoff table).rows.filter
        (fun old => old.operationId = store.operationId) =
      table.rows.filter (fun old => old.operationId = store.operationId) := by
    rw [gcActionLog, Table.keepOnly, filter_filter]
    refine filter_congr fun old _ => ?_
    by_cases ours : old.operationId = store.operationId
    · simp [ours, inProgress]
    · simp [ours]
  rw [rows, rows, filtered]

end DbActionLog

/-! ## The store in memory -/

structure InMemoryActionLog where
  entries : List ActionLogEntry

namespace InMemoryActionLog

def load (store : InMemoryActionLog) : List ActionLogEntry := store.entries

/-- An entry replaces the one at its position, or comes last. -/
def commit (store : InMemoryActionLog) (entries : List ActionLogEntry) : InMemoryActionLog where
  entries := commitLog store.entries entries

end InMemoryActionLog

/-! ## Runs against a store -/

/-- What happens while an operation is in progress: a pass of it, or what the rest
of the system does to the table meanwhile. -/
inductive LogStep (operationId : String) where
  | pass (pass : Pass) (now : Nat)
  | commit (other : DbActionLog) (different : other.operationId ≠ operationId)
      (entries : List ActionLogEntry) (now : Nat)
  | gc (others : List String) (cutoff : Nat)

section Stores

variable {Text : Type} (json : SerdeJson Text) (store : DbActionLog) (invocation : Invocation)

/-- A step against the database.  A pass that cannot load its log does not run. -/
def dbLogStep (table : ActionLogTable Text) : LogStep store.operationId → ActionLogTable Text
  | .pass pass now =>
    match store.load json table with
    | .error _ => table
    | .ok log => store.commit json now table (invocation.pass pass log).2.ctx.pending
  | .commit other _ entries now => other.commit json now table entries
  | .gc others cutoff => DbActionLog.gcActionLog (store.operationId :: others) cutoff table

/-- A step against the store in memory, which the operation has to itself. -/
def memoryLogStep {operationId : String} (memory : InMemoryActionLog) :
    LogStep operationId → InMemoryActionLog
  | .pass pass _ => memory.commit (invocation.pass pass memory.load).2.ctx.pending
  | .commit _ _ _ _ => memory
  | .gc _ _ => memory

variable {json store invocation}

/-- The entries of a pass amend positions of the log or claim the next one. -/
theorem Invocation.pending_filled (pass : Pass) {log : List ActionLogEntry}
    (soundLog : SoundLog log) :
    ∃ length, fill log.length
      ((invocation.pass pass log).2.ctx.pending.map callIndex) = some length := by
  obtain ⟨sound, committed, -⟩ := invocation.pass_sound (P := fun _ _ => True) soundLog
    Invocation.keeps_carried
    (fun call state _ sound => Invocation.keeps_restops invocation.op pass call state sound)
    (Script.holds_trivial _ _)
  have filled := sound.filled
  rw [committed] at filled
  exact ⟨_, filled⟩

variable {table : ActionLogTable Text} {memory : InMemoryActionLog}

/-- **One step keeps the stores in step**, and the log one that passes have written. -/
theorem represents_step (step : LogStep store.operationId) (soundLog : SoundLog memory.entries)
    (represents : store.Represents json table memory.entries) :
    SoundLog (memoryLogStep invocation memory step).entries ∧
      store.Represents json (dbLogStep json store invocation table step)
        (memoryLogStep invocation memory step).entries := by
  cases step with
  | pass pass now =>
    refine ⟨(invocation.logAfterPass_keeps pass soundLog).1, ?_⟩
    obtain ⟨length, filled⟩ := invocation.pending_filled pass soundLog
    simp only [dbLogStep, represents.load]
    exact DbActionLog.represents_commit now represents soundLog.positional filled
  | commit other different =>
    refine ⟨soundLog, ?_⟩
    rw [DbActionLog.Represents, dbLogStep, DbActionLog.rows_commit_other different]
    exact represents
  | gc =>
    refine ⟨soundLog, ?_⟩
    rw [DbActionLog.Represents, dbLogStep, DbActionLog.rows_gcActionLog mem_cons_self]
    exact represents

theorem represents_run (steps : List (LogStep store.operationId))
    (soundLog : SoundLog memory.entries) (represents : store.Represents json table memory.entries) :
    store.Represents json (steps.foldl (dbLogStep json store invocation) table)
      (steps.foldl (memoryLogStep invocation) memory).entries := by
  induction steps generalizing table memory with
  | nil => exact represents
  | cons step steps ih =>
    obtain ⟨soundAfter, representsAfter⟩ := represents_step step soundLog represents
    exact ih soundAfter representsAfter

end Stores

/-! ## Rows of the older form -/

/-- The one barrier a row of the older form can hold. -/
structure OlderBarrier where
  requiredState : LifecycleState
  deadlineSecs : Option UInt64
  satisfied : Bool
  startedAtSecs : Option UInt64

def OlderBarrier.record (barrier : OlderBarrier) : BarrierRecord where
  seq := 0
  requiredState := barrier.requiredState
  deadlineSecs := barrier.deadlineSecs.map UInt64.toNat
  satisfied := barrier.satisfied
  startedAtSecs := barrier.startedAtSecs.map UInt64.toNat

/-- A call as it was recorded when it had one barrier at most. -/
structure OlderCall where
  callKind : CallKind
  resources : List ResourceInstance
  barrier : Option OlderBarrier
  extra : Option Extra

def OlderCall.entry (call : OlderCall) (index : Nat) : ActionLogEntry where
  callIndex := index
  callKind := call.callKind
  resources := call.resources
  barriers := (call.barrier.map OlderBarrier.record).toList
  extra := call.extra

namespace DbActionLog

variable {Text : Type} (json : SerdeJson Text) (store : DbActionLog)

/-- The row that was written for the call: the barriers' column is empty. -/
def olderRow (now : Nat) (call : OlderCall) (index : Nat) : ActionLogRow Text :=
  { store.row json now (call.entry index) with barriers := none }

def olderTable (now : Nat) (calls : List OlderCall) : ActionLogTable Text :=
  calls.zipIdx.foldl
    (fun table call => table.insertOrReplace (store.olderRow json now call.1 call.2)) Table.empty

def olderLog (calls : List OlderCall) : List ActionLogEntry :=
  calls.zipIdx.map fun call => call.1.entry call.2

theorem olderRow_records (now : Nat) (call : OlderCall) (index : Nat) :
    (store.olderRow json now call index).Records json (call.entry index) := by
  refine ⟨?_, rfl⟩
  have kindRead : parseCallKind (store.olderRow json now call index).callKind = .ok call.callKind :=
    parseCallKind_debug call.callKind
  have resourcesRead : json.resourcesFromStr (store.olderRow json now call index).resources =
      .ok call.resources := json.resources_roundTrip call.resources
  have barriersRead : (store.olderRow json now call index).readBarriers json =
      .ok (call.entry index).barriers := by
    obtain ⟨callKind, resources, barrier, extra⟩ := call
    cases barrier with
    | none => rfl
    | some barrier =>
      have parsed := parseLifecycleState_debug barrier.requiredState
      cases satisfied : barrier.satisfied <;>
        simp [olderRow, row, OlderCall.entry, OlderBarrier.record, ActionLogRow.readBarriers,
          parsed, columnSeconds_secondsColumn, Function.comp_def, bind, Except.bind, pure,
          Except.pure]
  rw [ActionLogRow.read, kindRead, resourcesRead, barriersRead]
  rfl

variable (calls : List OlderCall)

theorem olderLog_append (call : OlderCall) :
    olderLog (calls ++ [call]) = olderLog calls ++ [call.entry calls.length] := by
  simp [olderLog, zipIdx_append]

theorem length_olderLog : (olderLog calls).length = calls.length := by
  simp [olderLog]

theorem olderLog_positional : Positional callIndex (olderLog calls) := by
  have column : (olderLog calls).map callIndex = calls.zipIdx.map Prod.snd := by
    rw [olderLog, map_map]
    rfl
  rw [Positional, column, length_olderLog, range_eq_range']
  simp

theorem represents_olderTable (now : Nat) (calls : List OlderCall) :
    store.Represents json (store.olderTable json now calls) (olderLog calls) := by
  induction calls using reverseRecOn with
  | nil => exact .nil
  | append_singleton calls call ih =>
    have atEnd : (call.entry calls.length).callIndex = (olderLog calls).length :=
      (length_olderLog calls).symm
    have step := represents_insert ih (olderLog_positional calls) rfl
      (store.olderRow_records json now call calls.length) atEnd.le
    rw [(olderLog_positional calls).upsert_end atEnd, ← olderLog_append] at step
    simpa [olderTable, zipIdx_append] using step

end DbActionLog

/-- **The database's action log refines the one in memory.**  Whatever passes an
operation makes, and whatever is committed and collected around them, loading from
the database gives what the store in memory holds; and a log left in the older form
loads with each call's one barrier as its first. -/
theorem database_log_refines_memory {Text : Type} (json : SerdeJson Text) (store : DbActionLog)
    (invocation : Invocation) (steps : List (LogStep store.operationId)) :
    store.load json (steps.foldl (dbLogStep json store invocation) Table.empty) =
        .ok (steps.foldl (memoryLogStep invocation) ⟨[]⟩).load ∧
      ∀ now calls, store.load json (store.olderTable json now calls) =
        .ok (DbActionLog.olderLog calls) := by
  have start : store.Represents json Table.empty [] := .nil
  have refined : store.Represents json _ (steps.foldl (memoryLogStep invocation) ⟨[]⟩).entries :=
    represents_run steps soundLog_nil start
  exact ⟨refined.load, fun now calls => (store.represents_olderTable json now calls).load⟩

def typedJson : SerdeJson (List ResourceInstance ⊕ List BarrierRecord) where
  resourcesToString := .inl
  resourcesFromStr
    | .inl resources => .ok resources
    | .inr _ => .error "expected resources"
  barriersToString := .inr
  barriersFromStr
    | .inl _ => .error "expected barriers"
    | .inr barriers => .ok barriers
  resources_roundTrip _ := rfl
  barriers_roundTrip _ := rfl

/-- A stop made again on fewer replicas has its row replaced, while another
operation commits to the same table. -/
theorem repeated_stop_is_loaded :
    let store : DbActionLog := ⟨"op", "web", "stop-api"⟩
    let steps : List (LogStep store.operationId) := [.pass (scaledPass 2) 1,
      .commit ⟨"other", "web", "reload"⟩ (by decide) [⟨0, .stop, [], [], none⟩] 2,
      .pass (scaledPass 1) 3, .gc [] 9]
    (store.load typedJson (steps.foldl (dbLogStep typedJson store stopApi) Table.empty)).map
        (List.map ActionLogEntry.resources) = .ok [[apiReplica 1#128]] := by
  intro store steps
  decide

end Seedling.Barrier
