import Seedling.Barrier.Trace

/-!
# What a `Started` stands for

A call that returns a `Started` resolves its argument anew in every pass, and hands out
what it resolved to, also where the log already has an entry for the call.  The entry
keeps what the call resolved to when it was first made.

A `Started` of `rt.start` stays within its entry (`Move.covered`), if the calls that are
replayed resolve to instances their entries record, and so do the barriers of the pass
(`awaited_recorded`).
-/

namespace Seedling.Barrier

open Foundation List Invocation PassState

def startTargets (op : Operation) (env : Env) (call : Call) (state : PassState) :
    Option (List ResourceInstance) :=
  match call with
  | .start target =>
    match (extractInstances op env .live state.handles state.ctx.anonCounter target).1 with
    | .ok found => some (found.map Prod.fst)
    | .error _ => none
  | _ => none

/-! ## Handing out -/

/-- The entry of the call that hands out `started`: one that was there, or a new one for
the same instances. -/
def View.ClaimedFor (before after : View) (kind : CallKind) (started : Started) : Prop :=
  (∃ entry, before.committed[before.callIndex]? = some entry ∧ entry.callKind = kind ∧
      after.pending = before.pending) ∨
    (before.committed[before.callIndex]? = none ∧ ∃ entry : ActionLogEntry,
      entry.callIndex = before.callIndex ∧ entry.resources = started.resources ∧
        after.pending = before.pending ++ [entry])

/-- A call hands out nothing, or one `Started` at its own position; a start hands out the
instances its argument resolved to. -/
def View.Hands (before after : View) (targets : Option (List ResourceInstance)) : Prop :=
  after.handles = before.handles ∨ ∃ started kind, after.handles = before.handles ++ [started] ∧
      started.originIndex = some before.callIndex ∧
      (kind = .start → targets = some started.resources) ∧
      before.ClaimedFor after kind started

section Handed

variable {op : Operation} {env : Env} {hooked : Prop} {kind : Option CallKind}
  {targets resolved : Option (List ResourceInstance)} {state after : PassState}
  {result : Except EvalError Unit}

theorem Act.hands (act : Act env hooked kind resolved state result after)
    (starts : kind = some .start → targets = resolved) : state.view.Hands after.view targets := by
  cases act with
  | consumed found same handed =>
    rcases handed with rfl | ⟨started, rfl, origin, rfl, resolves⟩
    · exact .inl rfl
    · refine .inr ⟨started, _, rfl, origin, fun start => ?_, .inl ⟨_, found, rfl, rfl⟩⟩
      rw [starts (start ▸ same), resolves (start ▸ same)]
  | noted callKind resources extra free claimed fits quiet handed =>
    rcases handed with rfl | ⟨started, rfl, origin, rfl, resolves⟩
    · exact .inl rfl
    · refine .inr ⟨started, callKind, rfl, origin, fun start => ?_, .inr ⟨free, _, rfl, rfl, rfl⟩⟩
      rw [starts (start ▸ claimed), resolves (start ▸ claimed)]
  | _ => exact .inl rfl

theorem Way.hands {honours : Bool} (way : Way env kind resolved honours state result after)
    (live : state.ctx.probeMode = false) (starts : kind = some .start → targets = resolved) :
    state.view.Hands after.view targets := by
  cases way with
  | probed probing => exact absurd (live.symm.trans probing) nofun
  | acted live notHit uncancelled acts => exact acts.hands starts
  | _ => exact .inl rfl

/-- **What a call hands out.** -/
theorem dispatch_hands (live : state.ctx.probeMode = false) (call : Call) :
    state.view.Hands (dispatch op env call state).2.view (startTargets op env call state) := by
  have starts : call.kind = some .start →
      startTargets op env call state = call.resolved op env state := by
    cases call <;> rintro ⟨⟩
    rfl
  obtain ⟨_, ⟨counter, row, -⟩, answers⟩ := dispatch_comes op env call state
  exact answers.hands live starts

theorem handles_enterAction (call : SubActionCall) :
    (enterAction env call state).2.handles = state.handles := by
  unfold enterAction
  split_ifs
  · rfl
  · rfl
  · split
    · rfl
    · split <;> rfl
    · split <;> rfl

end Handed

/-! ## Within the entry -/

/-- Every `Started` of a start stands for instances that its entry records. -/
def View.Covered (view : View) : Prop :=
  ∀ entry ∈ view.pending ++ view.committed, entry.callKind = .start →
    ∀ started ∈ view.handles, started.originIndex = some entry.callIndex →
      started.resources ⊆ entry.resources

/-- A start made where the log has one resolves to instances recorded there. -/
def ResolvesWithin (targets : Option (List ResourceInstance)) (view : View) : Prop :=
  ∀ entry resources, view.committed[view.callIndex]? = some entry → entry.callKind = .start →
    targets = some resources → resources ⊆ entry.resources

section Covered

variable {kind : Option CallKind} {stopping : Option (List ResourceInstance)} {hooked : Prop}
  {before after : View} {failed : Bool}

theorem Move.covered_old (move : Move kind stopping hooked before failed after)
    (sound : before.Sound) (covered : before.Covered) :
    ∀ entry ∈ after.pending ++ after.committed, entry.callKind = .start →
      ∀ started ∈ before.handles, started.originIndex = some entry.callIndex →
        started.resources ⊆ entry.resources := by
  have beyond : ∀ started ∈ before.handles, started.originIndex ≠ some before.callIndex := by
    intro started mem here
    obtain ⟨index, origin, made⟩ := sound.handles started mem
    rw [origin, Option.some.injEq] at here
    omega
  have withEntry : ∀ new : ActionLogEntry, new.callIndex = before.callIndex →
      ∀ entry ∈ (before.pending ++ [new]) ++ before.committed, entry.callKind = .start →
        ∀ started ∈ before.handles, started.originIndex = some entry.callIndex →
          started.resources ⊆ entry.resources := by
    intro new position entry listed isStart started mem origin
    rw [append_assoc, mem_append, mem_append, mem_singleton] at listed
    rcases listed with pending | rfl | committed
    · exact covered entry (mem_append_left _ pending) isStart started mem origin
    · rw [position] at origin
      exact absurd origin (beyond started mem)
    · exact covered entry (mem_append_right _ committed) isStart started mem origin
  cases move with
  | still | consumed => exact covered
  | appended entry _ position | restopped _ entry _ _ _ position => exact withEntry entry position
  | amended index record pending found =>
    have inCommitted := (forall_mem_append.mp covered).2
    exact forall_mem_append.mpr ⟨amend_forall found (forall_mem_append.mp covered).1 inCommitted
        fun entry within => within, inCommitted⟩

variable {targets : Option (List ResourceInstance)}

theorem View.ClaimedFor.covers {callKind : CallKind} {started : Started} (sound : before.Sound)
    (replaces : before.Replaces Invocation.Keeps) (committed : after.committed = before.committed)
    (claimed : before.ClaimedFor after callKind started)
    (resolved : callKind = .start → targets = some started.resources)
    (within : ResolvesWithin targets before) :
    ∀ entry ∈ after.pending ++ after.committed, entry.callKind = .start →
      entry.callIndex = before.callIndex → started.resources ⊆ entry.resources := by
  intro entry listed isStart position
  rw [committed] at listed
  rcases claimed with ⟨old, replaying, sameKind, pending⟩ | ⟨fresh, new, newPosition, same, pending⟩
  · have replaced : Invocation.Keeps old entry := by
      rcases mem_append.mp listed with inPending | inCommitted
      · rw [pending] at inPending
        exact replaces entry inPending old (position ▸ replaying)
      · obtain ⟨i, at_i⟩ := getElem?_of_mem inCommitted
        have index := sound.log.positional.key_eq at_i
        rw [← index, position, replaying, Option.some.injEq] at at_i
        exact at_i ▸ keeps_carried.refl old
    have oldStart : old.callKind = .start := replaced.callKind.symm.trans isStart
    rw [replaced.resources (by rw [oldStart]; intro stop; cases stop)]
    exact within old started.resources replaying oldStart (resolved (sameKind ▸ oldStart))
  · have free := getElem?_eq_none_iff.mp fresh
    rw [pending, append_assoc, mem_append, mem_append, mem_singleton] at listed
    rcases listed with inPending | rfl | inCommitted
    · have lower := fill_mem_lt sound.filled (mem_map_of_mem inPending)
      omega
    · rw [same]
      exact List.Subset.refl _
    · obtain ⟨i, at_i⟩ := getElem?_of_mem inCommitted
      have index := sound.log.positional.key_eq at_i
      have inside := (List.getElem?_eq_some_iff.mp at_i).1
      omega

/-- **A `Started` stays within its entry.** -/
theorem Move.covered (move : Move kind stopping hooked before failed after) (sound : before.Sound)
    (replaces : before.Replaces Invocation.Keeps) (hands : before.Hands after targets)
    (within : ResolvesWithin targets before) (covered : before.Covered) : after.Covered := by
  have old := move.covered_old sound covered
  intro entry listed isStart started mem origin
  rcases hands with same | ⟨handed, callKind, handles, anchor, resolved, claimed⟩
  · rw [same] at mem
    exact old entry listed isStart started mem origin
  · rw [handles, mem_append, mem_singleton] at mem
    rcases mem with earlier | rfl
    · exact old entry listed isStart started earlier origin
    · rw [anchor, Option.some.injEq] at origin
      exact claimed.covers sound replaces move.committed resolved within entry listed isStart
        origin.symm

end Covered

/-! ## The barriers of a pass -/

/-- The instances that what is asked for starts, as its argument resolves. -/
def Asked.targets (op : Operation) (pass : Pass) : Asked → Option (List ResourceInstance)
  | (.call call, state) => startTargets op (pass.env state.ticks) call state
  | (.enter _, _) => none

/-- A start that is replayed resolves to instances its entry records. -/
def StartResolvesWithin (op : Operation) (pass : Pass) (one : Asked) : Prop :=
  ResolvesWithin (one.targets op pass) one.2.view

structure View.Over (view : View) (log : List ActionLogEntry) : Prop where
  sound : view.Sound
  committed : view.committed = log
  replaces : view.Replaces Invocation.Keeps

/-- **What is asked for keeps the pass in order**, and the `Started` within their entries
if it resolves within its own. -/
theorem answered_over (op : Operation) (pass : Pass) (one : Asked) {log : List ActionLogEntry}
    (follows : one.2.view.Over log) :
    (one.1.answered (passHandler op pass) one.2).view.Over log ∧
      one.2.handles ⊆ (one.1.answered (passHandler op pass) one.2).handles ∧
      (StartResolvesWithin op pass one → one.2.view.Covered →
        (one.1.answered (passHandler op pass) one.2).view.Covered) := by
  obtain ⟨sound, committed, replaces⟩ := follows
  obtain ⟨soundAfter, same⟩ := answered_sound op pass one sound
  obtain ⟨ask, state⟩ := one
  cases ask with
  | call call =>
    have move := dispatch_move op (pass.env state.ticks) sound.live sound.anchored call
    have hands : state.view.Hands (dispatch op (pass.env state.ticks) call state).2.view
        (startTargets op (pass.env state.ticks) call state) := dispatch_hands sound.live call
    refine ⟨⟨soundAfter, same.trans committed, ?_⟩, ?_, ?_⟩
    · exact move.replaces sound keeps_carried.refl keeps_carried.recorded
        (keeps_restops op pass call state sound.log) replaces
    · have grown : (dispatch op (pass.env state.ticks) call state).2.handles = state.handles ∨
          ∃ started, (dispatch op (pass.env state.ticks) call state).2.handles =
            state.handles ++ [started] :=
        hands.imp id fun ⟨started, _, handles, _⟩ => ⟨started, handles⟩
      change state.handles ⊆ (dispatch op (pass.env state.ticks) call state).2.handles
      rcases grown with unchanged | ⟨started, handles⟩
      · rw [unchanged]
        exact List.Subset.refl _
      · rw [handles]
        exact subset_append_left _ _
    · intro within covered
      exact move.covered sound replaces hands within covered
  | enter call =>
    have move : Move (some .subAction) none True state.view _ _ :=
      enterAction_move (pass.env state.ticks) call state
    have handles : (enterAction (pass.env state.ticks) call state).2.handles = state.handles :=
      handles_enterAction call
    refine ⟨⟨soundAfter, same.trans committed, ?_⟩, ?_, ?_⟩
    · refine move.replaces sound keeps_carried.refl keeps_carried.recorded ?_ replaces
      intro old entry _ _ _ _ _ _ resolved
      cases resolved
    · change state.handles ⊆ (enterAction (pass.env state.ticks) call state).2.handles
      rw [handles]
      exact List.Subset.refl _
    · intro within covered
      exact move.covered sound replaces (.inl handles) within covered

namespace Invocation

variable (invocation : Invocation) {pass : Pass} {log : List ActionLogEntry}

/-- What a pass whose replayed starts resolve within their entries ends with. -/
theorem pass_covered (soundLog : SoundLog log)
    (within : ∀ one ∈ invocation.asked pass log, StartResolvesWithin invocation.op pass one) :
    (invocation.pass pass log).2.view.Over log ∧ (invocation.pass pass log).2.view.Covered ∧
      ∀ one ∈ invocation.asked pass log,
        one.2.handles ⊆ (invocation.pass pass log).2.handles := by
  have reached := Script.trace_invariant (passHandler invocation.op pass)
    (J := fun asked state => state.view.Over log ∧
      ((∀ one ∈ asked, StartResolvesWithin invocation.op pass one) → state.view.Covered) ∧
      ∀ one ∈ asked, one.2.handles ⊆ state.handles)
    (fun asked ask state ⟨follows, covered, earlier⟩ => by
      obtain ⟨overAfter, grown, coveredAfter⟩ :=
        answered_over invocation.op pass (ask, state) follows
      refine ⟨overAfter, ?_, ?_⟩
      · intro all
        obtain ⟨before, last⟩ := forall_mem_append.mp all
        exact coveredAfter (last _ (mem_singleton_self _)) (covered before)
      · refine forall_mem_append.mpr ⟨?_, by simpa using grown⟩
        intro one mem
        exact List.Subset.trans (earlier one mem) grown)
    (fun asked state invariant => invariant)
    invocation.closure (initial invocation.action log) []
    ⟨⟨initial_sound invocation.action soundLog, rfl,
      by simp [View.Replaces, view, initial, ReplayContext.new]⟩,
      by simp [View.Covered, view, initial], by simp⟩
  exact ⟨reached.1, reached.2.1 within, reached.2.2⟩

/-- **A barrier of the pass awaits what the log records.**  The `Started` it is made on
has an entry in the log the pass leaves, and if that is of a start it records every
instance the `Started` stands for. -/
theorem awaited_recorded (soundLog : SoundLog log)
    (within : ∀ one ∈ invocation.asked pass log, StartResolvesWithin invocation.op pass one)
    {one : Asked} (asked : one ∈ invocation.asked pass log) {ref : StartedRef}
    {started : Started} (found : ref.lookup one.2.handles = some started) {index : Nat}
    (origin : started.originIndex = some index) :
    ∃ entry, (invocation.logAfterPass pass log)[index]? = some entry ∧
      (entry.callKind = .start → started.resources ⊆ entry.resources) := by
  obtain ⟨⟨sound, committed, -⟩, covered, kept⟩ := invocation.pass_covered soundLog within
  obtain ⟨whole, atHandle, rfl⟩ : ∃ whole, one.2.handles[ref.handle]? = some whole ∧
      whole.narrowedTo ref.keep = started := by
    simpa [StartedRef.lookup] using found
  have mem := kept one asked (mem_of_getElem? atHandle)
  have filled := sound.filled
  rw [committed] at filled
  have recorded := commit_forall (P := fun i entry => entry.callKind = .start →
      ∀ started ∈ (invocation.pass pass log).2.handles, started.originIndex = some i →
        started.resources ⊆ entry.resources) soundLog.positional filled
    (fun i entry atIndex isStart started mem origin => by
      refine covered entry (mem_append_right _ ?_) isStart started mem ?_
      · rw [committed]
        exact mem_of_getElem? atIndex
      · rw [soundLog.positional.key_eq atIndex]
        exact origin)
    (fun entry pending => covered entry (mem_append_left _ pending))
  obtain ⟨made, anchor, early⟩ := sound.handles whole mem
  have here : made = index := Option.some.inj (anchor.symm.trans origin)
  have inside : index < (invocation.logAfterPass pass log).length := by
    calc index < (invocation.pass pass log).2.view.callIndex := here ▸ early
      _ ≤ max (invocation.pass pass log).2.view.callIndex log.length := le_max_left _ _
      _ = (invocation.logAfterPass pass log).length :=
          (length_commit soundLog.positional filled).symm
  have atIndex := getElem?_eq_getElem inside
  refine ⟨_, atIndex, ?_⟩
  intro isStart
  exact List.Subset.trans (filter_subset_self _) (recorded index _ atIndex isStart whole mem origin)

end Invocation

end Seedling.Barrier
