import Seedling.Foundation.PositionalLog
import Seedling.Identity

/-!
# The action log and the replay context

An operation runs its action closure in passes.  Every call of the closure that
the runtime records claims the next position of the operation's action log; a
later pass replays the closure from the start and consumes the committed entry
at each position instead of making the call again.  During a pass the new
entries, and amended copies of committed ones, collect in `pending`; at the end
of the pass the store folds them in by position (`commitLog`).
-/

namespace Seedling.Barrier

open Foundation

/-! ## Log entries -/

inductive CallKind where
  | start
  | stop
  | query
  | warmCerts
  | warmImages
  | signal
  | write
  | exec
  | subAction
deriving DecidableEq

def CallKind.debug : CallKind → String
  | .start => "Start"
  | .stop => "Stop"
  | .query => "Query"
  | .warmCerts => "WarmCerts"
  | .warmImages => "WarmImages"
  | .signal => "Signal"
  | .write => "Write"
  | .exec => "Exec"
  | .subAction => "SubAction"

/-- A value of a parameter map. -/
inductive Json where
  | null
  | bool (value : Bool)
  | number (value : Int)
  | string (value : String)
  | array (items : List Json)
  | object (fields : List (String × Json))

abbrev Params := List (String × Json)

/-- What an entry records besides its resources, read rather than as the text
it is stored as: a signal name or a written path, an exit code, or the action
and parameters of a sub-action call. -/
inductive Extra where
  | text (value : String)
  | exitCode (code : Int)
  | subAction (action : String) (params : Params)

/-- The stored text, for the extras that are compared and shown as text. -/
def Extra.text? : Extra → Option String
  | .text value => some value
  | .exitCode code => some (toString code)
  | .subAction _ _ => none

/-- One barrier made on a call: which barrier of the call it is, what it waits
for, and whether the wait is over. -/
structure BarrierRecord where
  seq : Nat
  requiredState : LifecycleState
  deadlineSecs : Option Nat
  satisfied : Bool
  startedAtSecs : Option Nat

def BarrierRecord.debug (record : BarrierRecord) : String :=
  let secs : Option Nat → String
    | none => "None"
    | some secs => s!"Some({secs})"
  s!"BarrierRecord \x7b seq: {record.seq}, required_state: {record.requiredState.debug}, " ++
    s!"deadline_secs: {secs record.deadlineSecs}, satisfied: {record.satisfied}, " ++
    s!"started_at_secs: {secs record.startedAtSecs} \x7d"

structure ActionLogEntry where
  callIndex : Nat
  callKind : CallKind
  resources : List ResourceInstance
  barriers : List BarrierRecord
  extra : Option Extra

namespace ActionLogEntry

def barrier (entry : ActionLogEntry) (seq : Nat) : Option BarrierRecord :=
  entry.barriers.find? fun record => record.seq == seq

def setBarrier (entry : ActionLogEntry) (record : BarrierRecord) : ActionLogEntry :=
  { entry with barriers := upsert BarrierRecord.seq record entry.barriers }

/-- The two entries record the same call: they differ in their barriers at most. -/
structure SameCall (entry other : ActionLogEntry) : Prop where
  callIndex : other.callIndex = entry.callIndex
  callKind : other.callKind = entry.callKind
  resources : other.resources = entry.resources
  extra : other.extra = entry.extra

theorem SameCall.refl (entry : ActionLogEntry) : SameCall entry entry := ⟨rfl, rfl, rfl, rfl⟩

theorem SameCall.trans {first second third : ActionLogEntry} (left : SameCall first second)
    (right : SameCall second third) : SameCall first third :=
  ⟨right.callIndex.trans left.callIndex, right.callKind.trans left.callKind,
    right.resources.trans left.resources, right.extra.trans left.extra⟩

end ActionLogEntry

/-- Fold a pass's entries into the stored log: the entry at a position already
held is replaced, any other is appended. -/
def commitLog (log pending : List ActionLogEntry) : List ActionLogEntry :=
  commit ActionLogEntry.callIndex log pending

/-! ## Errors -/

structure BarrierCondition where
  resources : List ResourceInstance
  requiredState : LifecycleState
  deadlineSecs : Option Nat

/-- The call being made is not the one the log records at its position. -/
inductive ReplayMismatch where
  | kind (callIndex : Nat) (expected found : CallKind)
  | extra (callIndex : Nat) (callKind : CallKind) (expected : String) (found : Option String)

def ReplayMismatch.toText : ReplayMismatch → String
  | .kind callIndex expected found =>
    s!"replay diverged at call {callIndex}: the log records a {found.debug} but the " ++
      s!"script is making a {expected.debug}"
  | .extra callIndex callKind expected (some found) =>
    s!"replay diverged at call {callIndex}: the log records a {callKind.debug} of `{found}` " ++
      s!"but the script is making one of `{expected}`"
  | .extra callIndex callKind expected none =>
    s!"replay diverged at call {callIndex}: the log records a {callKind.debug} with no " ++
      s!"recorded argument but the script is making one of `{expected}`"

/-- What a call raises in the script: the suspension of the pass, its
cancellation, or an ordinary error. -/
inductive EvalError where
  | barrierHit (condition : BarrierCondition)
  | cancelHit
  | message (text : String)

/-! ## The replay context -/

structure ReplayContext where
  callIndex : Nat
  committed : List ActionLogEntry
  pending : List ActionLogEntry
  barrierSeq : Nat → Nat
  pendingBarrier : Option BarrierCondition
  anonCounter : Nat
  probeImages : Option (List String)

namespace ReplayContext

def new (committed : List ActionLogEntry) : ReplayContext where
  callIndex := 0
  committed := committed
  pending := []
  barrierSeq := fun _ => 0
  pendingBarrier := none
  anonCounter := 0
  probeImages := none

variable (ctx : ReplayContext)

def probeMode : Bool := ctx.probeImages.isSome

def committedEntry : Option ActionLogEntry := ctx.committed[ctx.callIndex]?

def nextBarrierSeq (callIndex : Nat) : Nat × ReplayContext :=
  (ctx.barrierSeq callIndex,
    { ctx with
      barrierSeq := fun i =>
        if i = callIndex then ctx.barrierSeq callIndex + 1 else ctx.barrierSeq i })

def advance : ReplayContext := { ctx with callIndex := ctx.callIndex + 1 }

def append (kind : CallKind) (resources : List ResourceInstance) (barriers : List BarrierRecord)
    (extra : Option Extra) : ReplayContext :=
  { ctx with
    callIndex := ctx.callIndex + 1
    pending := ctx.pending ++ [⟨ctx.callIndex, kind, resources, barriers, extra⟩] }

/-- Consume the committed entry at the current position, if there is one: it has
to be of the expected kind and, where the call's argument is a literal of the
script, record that argument. -/
def replayStep (expect : CallKind) (expectExtra : Option String) :
    Except ReplayMismatch (Option ActionLogEntry × ReplayContext) :=
  match ctx.committedEntry with
  | none => .ok (none, ctx)
  | some entry =>
    if entry.callKind ≠ expect then
      .error (.kind ctx.callIndex expect entry.callKind)
    else
      match expectExtra with
      | none => .ok (some entry, ctx.advance)
      | some expected =>
        if entry.extra.bind Extra.text? = some expected then .ok (some entry, ctx.advance)
        else .error (.extra ctx.callIndex expect expected (entry.extra.bind Extra.text?))

/-- Take the current position for a call of this kind, from the committed log on
a replay and by recording a new entry otherwise. -/
def claimLogPosition (kind : CallKind) (resources : List ResourceInstance) :
    Except EvalError Nat × ReplayContext :=
  match ctx.replayStep kind none with
  | .error mismatch => (.error (.message mismatch.toText), ctx)
  | .ok (some _, after) => (.ok ctx.callIndex, after)
  | .ok (none, after) => (.ok ctx.callIndex, after.append kind resources [] none)

/-- The start to record for a barrier: the one already held for the same state,
or the one being written. -/
def startedAt (held : Option BarrierRecord) (record : BarrierRecord) : Option Nat :=
  ((held.filter fun b => b.requiredState = record.requiredState).bind
    BarrierRecord.startedAtSecs).or record.startedAtSecs

/-- The entry with `record` written under its own barrier. -/
def withRecord (entry : ActionLogEntry) (record : BarrierRecord) : ActionLogEntry :=
  entry.setBarrier { record with startedAtSecs := startedAt (entry.barrier record.seq) record }

theorem sameCall_withRecord (entry : ActionLogEntry) (record : BarrierRecord) :
    entry.SameCall (withRecord entry record) :=
  ⟨rfl, rfl, rfl, rfl⟩

/-- The pending entries with `record` written under the entry of the call at
`callIndex`: this pass's own entry in place, a committed one as an amended copy. -/
def amend (committed pending : List ActionLogEntry) (callIndex : Nat) (record : BarrierRecord) :
    Option (List ActionLogEntry) :=
  match pending.find? fun entry => entry.callIndex == callIndex with
  | some entry => some (upsert ActionLogEntry.callIndex (withRecord entry record) pending)
  | none =>
    (committed.find? fun entry => entry.callIndex == callIndex).map fun entry =>
      pending ++ [withRecord entry record]

/-- Record a barrier under the entry of its call.  The flag says whether the
entry was found. -/
def recordAtAnchor (callIndex : Nat) (record : BarrierRecord) : Bool × ReplayContext :=
  match amend ctx.committed ctx.pending callIndex record with
  | some pending => (true, { ctx with pending := pending })
  | none => (false, ctx)

end ReplayContext

end Seedling.Barrier
