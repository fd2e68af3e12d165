import Seedling.Barrier.Surfaces

/-!
# What one call can do

Every call of a pass makes one of five moves on the log: it leaves it alone, consumes the
committed entry at its position, appends a new entry there, emits again a stop that is still
waiting, or amends the barriers of an entry of an earlier call (`Move`).  Only the call that
appends an entry runs a hook to success, and what it ran is what the entry records
(`ActionLogEntry.runs`).

The invariants of passes are derived from the moves alone.
-/

namespace Seedling.Barrier

open Foundation List ReplayContext

theorem ActionLogEntry.Fits.extra_of_stop {entry : ActionLogEntry} (fits : entry.Fits)
    (isStop : entry.callKind = .stop) : entry.extra = none := by
  unfold ActionLogEntry.Fits at fits
  rw [isStop] at fits
  cases recorded : entry.extra with
  | none => rfl
  | some => rw [recorded] at fits; exact fits.elim

/-! ## Moves -/

/-- The part of a pass's state the log invariants speak of. -/
structure View where
  probing : Bool
  callIndex : Nat
  committed : List ActionLogEntry
  pending : List ActionLogEntry
  handles : List Started
  calls : List CallKind
  effects : List Event

def PassState.view (state : PassState) : View where
  probing := state.ctx.probeMode
  callIndex := state.ctx.callIndex
  committed := state.ctx.committed
  pending := state.ctx.pending
  handles := state.handles
  calls := state.calls
  effects := state.effects

def View.perform (view : View) (effects : List Effect) : View :=
  { view with
    effects := view.effects ++ effects.map fun effect => ⟨view.calls.length, effect⟩ }

theorem View.perform_nil (view : View) : view.perform [] = view := by
  simp [View.perform]

/-- What a call of `kind` can do to the view, and whether it can fail doing it.
`stopping` are the instances a stop resolved to, `hooked` says that the hooks
are installed. -/
inductive Move (kind : Option CallKind) (stopping : Option (List ResourceInstance))
    (hooked : Prop) (before : View) : Bool → View → Prop where
  | still {failed : Bool} {effects : List Effect} (idle : kind = none ∨ failed)
      (quiet : Quiet effects) : Move kind stopping hooked before failed (before.perform effects)
  | consumed {failed : Bool} {effects : List Effect} {started : List Started}
      (entry : ActionLogEntry) (replaying : before.committed[before.callIndex]? = some entry)
      (matched : failed ∨ kind = some entry.callKind) (quiet : Quiet effects)
      (anchored : ∀ s ∈ started, s.originIndex = some before.callIndex) :
      Move kind stopping hooked before failed
        ({ before with
            callIndex := before.callIndex + 1
            handles := before.handles ++ started }.perform effects)
  | appended {failed : Bool} {effects : List Effect} {started : List Started}
      (entry : ActionLogEntry) (fresh : before.committed[before.callIndex]? = none)
      (position : entry.callIndex = before.callIndex) (claimed : kind = some entry.callKind)
      (fits : entry.Fits)
      (ran : effects.filterMap Effect.run = entry.runs ∨ ¬ hooked ∧ Quiet effects)
      (anchored : ∀ s ∈ started, s.originIndex = some before.callIndex) :
      Move kind stopping hooked before failed
        ({ before with
            callIndex := before.callIndex + 1
            pending := before.pending ++ [entry]
            handles := before.handles ++ started }.perform effects)
  | restopped {failed : Bool} (old entry : ActionLogEntry)
      (replaying : before.committed[before.callIndex]? = some old)
      (oldKind : old.callKind = .stop) (waiting : old.stopSatisfied = false)
      (position : entry.callIndex = before.callIndex) (entryKind : entry.callKind = .stop)
      (bare : entry.extra = none) (resolved : stopping = some entry.resources)
      (claimed : kind = some .stop) :
      Move kind stopping hooked before failed
        { before with
          callIndex := before.callIndex + 1
          pending := before.pending ++ [entry] }
  | amended {failed : Bool} (index : Nat) (record : BarrierRecord)
      (pending : List ActionLogEntry)
      (found : ReplayContext.amend before.committed before.pending index record = some pending)
      (idle : kind = none) :
      Move kind stopping hooked before failed { before with pending := pending }

abbrev Makes {α : Type} (kind : Option CallKind) (stopping : Option (List ResourceInstance))
    (hooked : Prop) (state : PassState) (outcome : Except EvalError α × PassState) : Prop :=
  Move kind stopping hooked state.view (failed outcome.1) outcome.2.view

section Moves

variable {kind : Option CallKind} {stopping : Option (List ResourceInstance)} {hooked : Prop}
  {before : View}

theorem Move.nothing {failed : Bool} (idle : kind = none ∨ failed) :
    Move kind stopping hooked before failed before := by
  have move : Move kind stopping hooked before failed (before.perform []) := .still idle rfl
  rwa [View.perform_nil] at move

theorem Move.refused : Move kind stopping hooked before true before := .nothing (.inr rfl)

variable {started : List Started} (entry : ActionLogEntry)

theorem Move.consumedOnly {failed : Bool}
    (replaying : before.committed[before.callIndex]? = some entry)
    (matched : failed ∨ kind = some entry.callKind)
    (anchored : ∀ s ∈ started, s.originIndex = some before.callIndex) :
    Move kind stopping hooked before failed
      { before with
        callIndex := before.callIndex + 1
        handles := before.handles ++ started } := by
  have move : Move kind stopping hooked before failed _ :=
    .consumed entry replaying matched (rfl : Quiet []) anchored
  rwa [View.perform_nil] at move

theorem Move.appendedOnly {failed : Bool} {effects : List Effect}
    (fresh : before.committed[before.callIndex]? = none)
    (position : entry.callIndex = before.callIndex) (claimed : kind = some entry.callKind)
    (fits : entry.Fits) (ran : effects.filterMap Effect.run = entry.runs ∨ ¬ hooked ∧ Quiet effects) :
    Move kind stopping hooked before failed
      ({ before with
          callIndex := before.callIndex + 1
          pending := before.pending ++ [entry] }.perform effects) := by
  have move : Move kind stopping hooked before failed ({ before with
          callIndex := before.callIndex + 1
          pending := before.pending ++ [entry]
          handles := before.handles ++ [] }.perform effects) :=
    .appended entry fresh position claimed fits ran (by simp)
  simpa only [append_nil] using move

theorem Move.noted {failed : Bool} (fresh : before.committed[before.callIndex]? = none)
    (position : entry.callIndex = before.callIndex) (claimed : kind = some entry.callKind)
    (fits : entry.Fits) (ran : entry.runs = [] ∨ ¬ hooked)
    (anchored : ∀ s ∈ started, s.originIndex = some before.callIndex) :
    Move kind stopping hooked before failed
      { before with
        callIndex := before.callIndex + 1
        pending := before.pending ++ [entry]
        handles := before.handles ++ started } := by
  have move : Move kind stopping hooked before failed _ :=
    .appended entry fresh position claimed fits
      (ran.imp Eq.symm fun unhooked => ⟨unhooked, (rfl : Quiet [])⟩) anchored
  rwa [View.perform_nil] at move

variable {rows : List Effect}

theorem quiet_of_rows (row : ∀ effect ∈ rows, effect.isHook = false) : Quiet rows := by
  rw [Quiet, filterMap_eq_nil_iff]
  intro effect mem
  have isRow := row effect mem
  cases effect <;> first | rfl | cases isRow

theorem Move.after_rows {failed : Bool} {after : View}
    (move : Move kind stopping hooked (before.perform rows) failed after) (quiet : Quiet rows)
    (rowless : kind = none ∨ kind = some .stop → rows = []) :
    Move kind stopping hooked before failed after := by
  have merged : ∀ (view : View) effects,
      (view.perform rows).perform effects = view.perform (rows ++ effects) := by
    simp [View.perform]
  have quietly : ∀ {effects}, Quiet effects → Quiet (rows ++ effects) := by
    intro effects silent
    rw [Quiet, filterMap_append, quiet, silent, append_nil]
  cases move with
  | still idle silent =>
    rw [merged]
    exact .still idle (quietly silent)
  | consumed entry replaying matched silent anchored =>
    have move : Move kind stopping hooked before failed _ :=
      .consumed entry replaying matched (quietly silent) anchored
    rw [← merged] at move
    exact move
  | appended entry fresh position claimed fits ran anchored =>
    rename_i effects _
    have ran' : (rows ++ effects).filterMap Effect.run = entry.runs ∨
        ¬ hooked ∧ Quiet (rows ++ effects) := by
      rw [Quiet, filterMap_append, quiet]
      exact ran
    have move : Move kind stopping hooked before failed _ :=
      .appended entry fresh position claimed fits ran' anchored
    rw [← merged] at move
    exact move
  | restopped old entry replaying oldKind waiting position entryKind bare resolved claimed =>
    rw [rowless (.inr claimed), View.perform_nil] at *
    exact .restopped old entry replaying oldKind waiting position entryKind bare resolved claimed
  | amended index record pending found idle =>
    rw [rowless (.inl idle), View.perform_nil] at *
    exact .amended index record pending found idle

variable {state : PassState} {index : Nat}

/-- The call at `index` has an entry, of this pass or committed. -/
def View.Recorded (view : View) (index : Nat) : Prop :=
  (∃ entry ∈ view.pending, entry.callIndex = index) ∨
    ∃ entry ∈ view.committed, entry.callIndex = index

theorem View.Recorded.amend {view : View} (recorded : view.Recorded index) (record : BarrierRecord)
    :
    ∃ pending, amend view.committed view.pending index record = some pending := by
  unfold ReplayContext.amend
  split
  · exact ⟨_, rfl⟩
  · rename_i absent
    rcases recorded with ⟨entry, mem, same⟩ | ⟨entry, mem, same⟩
    · rw [find?_eq_none] at absent
      exact absurd (by simp [same]) (absent entry mem)
    · cases found : view.committed.find? fun entry => entry.callIndex == index with
      | none =>
        rw [find?_eq_none] at found
        exact absurd (by simp [same]) (found entry mem)
      | some => exact ⟨_, rfl⟩

/-- Every `Started` of the pass belongs to a recorded call. -/
def View.Anchored (view : View) : Prop :=
  ∀ started ∈ view.handles, ∃ index, started.originIndex = some index ∧ view.Recorded index

theorem recordAtAnchor_move (ctx : ReplayContext)
    (recorded : (state.withCtx ctx).view.Recorded index) (record : BarrierRecord)
    (result : Bool) :
    (ctx.recordAtAnchor index record).1 ∧
      Move none stopping hooked (state.withCtx ctx).view result
        (state.withCtx (ctx.recordAtAnchor index record).2).view := by
  obtain ⟨pending, found⟩ := recorded.amend record
  have found' : amend ctx.committed ctx.pending index record = some pending := found
  unfold recordAtAnchor
  rw [found']
  exact ⟨rfl, .amended index record pending found rfl⟩

theorem view_drawSeq (anchor : Option Nat) :
    (state.withCtx (state.ctx.drawSeq anchor).2).view = state.view := by
  cases anchor <;> rfl

theorem ReplayContext.MayStop.move (may : state.ctx.MayStop) (resources : List ResourceInstance)
    (record : BarrierRecord) (result : Bool) :
    Move (some .stop) (some resources) hooked state.view result
      (state.withCtx (state.ctx.append .stop resources [record] none)).view := by
  rcases may with fresh | ⟨old, replaying, oldKind, waiting⟩
  · have move : Move (some .stop) (some resources) hooked state.view result _ :=
      .appendedOnly ⟨state.ctx.callIndex, .stop, resources, [record], none⟩ fresh rfl rfl trivial
        (.inl (rfl : Quiet []))
    rwa [View.perform_nil] at move
  · exact .restopped old _ replaying oldKind waiting rfl rfl rfl rfl rfl

theorem Handed.anchored {targets : Option (List ResourceInstance)}
    {resources : List ResourceInstance} {handles : List Started}
    (handed : Handed kind targets resources state handles) :
    ∃ started : List Started, handles = state.handles ++ started ∧
      ∀ s ∈ started, s.originIndex = some state.ctx.callIndex := by
  rcases handed with rfl | ⟨started, rfl, origin, -⟩
  · exact ⟨[], by simp, nofun⟩
  · exact ⟨[started], rfl, by simpa using origin⟩

theorem recordWaiting_eq {ctx : ReplayContext} {started : Started} {record : BarrierRecord}
    (origin : started.originIndex = some index)
    (found : (ctx.recordAtAnchor index record).1) :
    ctx.recordWaiting started record = (ctx.recordAtAnchor index record).2 := by
  simp only [recordWaiting, origin, recordAt]
  split <;> rename_i written <;> rw [written] at found ⊢
  cases found

variable {env : Env} {targets : Option (List ResourceInstance)} {result : Except EvalError Unit}
  {after : PassState}

/-- **What a call does at the log is a move.** -/
theorem Act.move (act : Act env hooked kind targets state result after)
    (anchored : kind = none → state.view.Anchored)
    (stops : kind = some .stop → stopping = targets) :
    Move kind stopping hooked state.view (failed result) after.view := by
  cases act with
  | refused => exact .refused
  | consumed found same handed =>
    obtain ⟨started, rfl, anchors⟩ := handed.anchored
    exact .consumedOnly _ found (.inr same) anchors
  | overrun found =>
    have move : Move kind stopping hooked state.view true _ :=
      .consumedOnly _ found (.inl rfl) (nofun : ∀ s ∈ [], Started.originIndex s = _)
    rwa [append_nil] at move
  | inVain effect free vain =>
    exact .still (.inr rfl) (by simp [vain])
  | noted callKind resources extra free claimed fits quiet handed =>
    obtain ⟨started, rfl, anchors⟩ := handed.anchored
    exact .noted _ free rfl claimed fits quiet anchors
  | ran callKind resources extra free claimed fits runs =>
    exact .appendedOnly _ free rfl claimed fits runs
  | stopped may claimed resolved | stopping may claimed resolved =>
    rw [stops claimed, resolved, claimed]
    exact may.move _ _ _
  | drawn idle =>
    rw [view_drawSeq]
    exact .nothing (.inl idle)
  | passed idle known origin record =>
    obtain ⟨index, here, recorded⟩ := anchored idle _ known
    rw [origin, here, idle]
    exact (recordAtAnchor_move (state.ctx.drawSeq (some index)).2 recorded record false).2
  | waiting idle known origin record =>
    obtain ⟨index, here, recorded⟩ := anchored idle _ known
    obtain ⟨found, move⟩ := recordAtAnchor_move (state.ctx.drawSeq (some index)).2 recorded record
      true
    rw [origin, here, idle, recordWaiting_eq (origin.trans here) found]
    exact move

/-- **However a call is answered, it makes a move.** -/
theorem Way.move {honours : Bool} (way : Way env kind targets honours state result after)
    (live : state.ctx.probeMode = false) (anchored : state.view.Anchored)
    (stops : kind = some .stop → stopping = targets) :
    Move kind stopping env.Hooked state.view (failed result) after.view := by
  cases way with
  | early | rethrown | cancelled => exact .refused
  | probed probing => exact absurd (live.symm.trans probing) nofun
  | restarted idle live row =>
    exact .still (.inl idle) (quiet_of_rows (by simpa using row))
  | acted live notHit uncancelled acts => exact acts.move (fun _ => anchored) stops

theorem failed_map {α β : Type} (result : Except EvalError α) (f : α → β) :
    failed (result.map f) = failed result := by
  cases result <;> rfl

def stopTargets (op : Operation) (env : Env) (call : Call) (state : PassState) :
    Option (List ResourceInstance) :=
  match call with
  | .stop target _ =>
    match (extractInstances op env .any state.handles state.ctx.anonCounter target).1 with
    | .ok found => some (found.map Prod.fst)
    | .error _ => none
  | _ => none

/-- **Every call makes a move.** -/
theorem dispatch_move (op : Operation) (env : Env) (live : state.ctx.probeMode = false)
    (anchored : state.view.Anchored) (call : Call) :
    Makes call.kind (stopTargets op env call state) env.Hooked state
      (dispatch op env call state) := by
  have stops : call.kind = some .stop →
      stopTargets op env call state = call.resolved op env state := by
    cases call <;> rintro ⟨⟩
    rfl
  obtain ⟨_, ⟨counter, row, rowless⟩, answers⟩ := dispatch_comes op env call state
  rw [Makes, ← failed_map _ fun _ => ()]
  have move : Move call.kind (stopTargets op env call state) env.Hooked _ _ _ :=
    answers.move live anchored stops
  exact move.after_rows (quiet_of_rows row) fun idle => rowless (idle.imp_right .inl)

theorem enterAction_move (env : Env) (call : SubActionCall) (state : PassState) :
    Makes (some .subAction) stopping hooked state (enterAction env call state) := by
  have acts : Acts env hooked (some .subAction) none state _ := enterAction_acts env call state
  rw [Makes, ← failed_map _ fun _ => ()]
  exact acts.move nofun nofun

end Moves

end Seedling.Barrier
