import Seedling.Barrier.Moves

/-!
# The action log is positional, and what it records stays

At every point of a pass its pending entries amend committed positions or claim the positions
after them in order, and every `Started` belongs to a recorded call (`View.Sound`).  Hence
the log after each pass is gap-free and positional, whatever the closure does
(`Invocation.logAfter_sound`).

A stop that is still waiting is emitted again whole, with the instances its argument resolves
to on the later pass.  So the log keeps what it records in every run whose repeated stops
resolve as recorded (`log_extends_of_stops_as_recorded`).
-/

namespace Seedling.Barrier

open Foundation List ReplayContext PassState

/-! ## The invariant of a pass -/

structure SoundLog (log : List ActionLogEntry) : Prop where
  positional : Positional ActionLogEntry.callIndex log
  fits : ∀ entry ∈ log, entry.Fits

theorem soundLog_nil : SoundLog [] := ⟨positional_nil _, by simp⟩

/-- What holds at every point of a pass. -/
structure View.Sound (view : View) : Prop where
  live : view.probing = false
  log : SoundLog view.committed
  filled : fill view.committed.length (view.pending.map ActionLogEntry.callIndex) =
    some (max view.callIndex view.committed.length)
  fits : ∀ entry ∈ view.pending, entry.Fits
  handles : ∀ started ∈ view.handles, ∃ index, started.originIndex = some index ∧
    index < view.callIndex

namespace View.Sound

variable {view : View}

theorem recorded (sound : view.Sound) {index : Nat} (made : index < view.callIndex) :
    view.Recorded index := by
  by_cases old : index < view.committed.length
  · have atIndex := getElem?_eq_getElem old
    exact .inr ⟨view.committed[index], getElem_mem old, sound.log.positional.key_eq atIndex⟩
  · have mem := fill_claims sound.filled (k := index) (by omega) (by omega)
    obtain ⟨entry, mem, same⟩ := mem_map.mp mem
    exact .inl ⟨entry, mem, same⟩

theorem anchored (sound : view.Sound) : view.Anchored := by
  intro started mem
  obtain ⟨index, origin, made⟩ := sound.handles started mem
  exact ⟨index, origin, sound.recorded made⟩

end View.Sound

variable {pending after : List ActionLogEntry} {index : Nat} {record : BarrierRecord}

/-- An amendment changes barriers of an entry that is pending, or adds such a
copy of a committed one. -/
theorem amend_cases {committed : List ActionLogEntry}
    (found : amend committed pending index record = some after) :
    (∃ entry ∈ pending, after = upsert ActionLogEntry.callIndex (withRecord entry record) pending) ∨
      ∃ entry, committed.find? (fun entry => entry.callIndex == index) = some entry ∧
        after = pending ++ [withRecord entry record] := by
  unfold amend at found
  split at found
  · rename_i entry present
    exact .inl ⟨entry, mem_of_find?_eq_some present, by simpa using found.symm⟩
  · obtain ⟨entry, present, same⟩ := Option.map_eq_some_iff.mp found
    exact .inr ⟨entry, present, same.symm⟩

theorem amend_filled {committed : List ActionLogEntry} {m : Nat}
    (found : amend committed pending index record = some after)
    (positional : Positional ActionLogEntry.callIndex committed)
    (filled : fill committed.length (pending.map ActionLogEntry.callIndex) = some m) :
    fill committed.length (after.map ActionLogEntry.callIndex) = some m := by
  rcases amend_cases found with ⟨entry, mem, rfl⟩ | ⟨entry, present, rfl⟩
  · have present : ∃ other ∈ pending,
        other.callIndex = (withRecord entry record).callIndex :=
      ⟨entry, mem, rfl⟩
    rw [map_upsert_of_mem present]
    exact filled
  · obtain ⟨i, at_i⟩ := getElem?_of_mem (mem_of_find?_eq_some present)
    have inside := (List.getElem?_eq_some_iff.mp at_i).1
    have position : entry.callIndex = i := positional.key_eq at_i
    rw [map_append]
    refine fill_append_amend filled ?_
    calc entry.callIndex = i := position
      _ < committed.length := inside
      _ ≤ m := fill_le filled

/-- What holds of the pending and the committed entries, and does not depend on
barriers, holds after an amendment. -/
theorem amend_forall {committed : List ActionLogEntry} {P : ActionLogEntry → Prop}
    (found : amend committed pending index record = some after)
    (inPending : ∀ entry ∈ pending, P entry) (inCommitted : ∀ entry ∈ committed, P entry)
    (recorded : ∀ entry, P entry → P (withRecord entry record)) :
    ∀ entry ∈ after, P entry := by
  rcases amend_cases found with ⟨entry, mem, rfl⟩ | ⟨entry, present, rfl⟩
  · exact forall_mem_upsert inPending (recorded entry (inPending entry mem))
  · refine forall_mem_append.mpr ⟨inPending, ?_⟩
    intro copy mem
    rw [mem_singleton.mp mem]
    exact recorded entry (inCommitted entry (mem_of_find?_eq_some present))

section Preservation

variable {kind : Option CallKind} {stopping : Option (List ResourceInstance)} {hooked : Prop}
  {before after : View} {failed : Bool} (move : Move kind stopping hooked before failed after)
include move

/-- **Every move keeps the pass sound.** -/
theorem Move.sound (sound : before.Sound) : after.Sound := by
  obtain ⟨live, log, filled, fits, handles⟩ := sound
  have weaken : ∀ s ∈ before.handles, ∃ index, s.originIndex = some index ∧
      index < before.callIndex + 1 := by
    intro s mem
    obtain ⟨index, origin, made⟩ := handles s mem
    exact ⟨index, origin, by omega⟩
  cases move with
  | still => exact ⟨live, log, filled, fits, handles⟩
  | consumed entry replaying matched quiet anchored =>
    have inside := (List.getElem?_eq_some_iff.mp replaying).1
    refine ⟨live, log, ?_, fits, ?_⟩
    · show fill before.committed.length (before.pending.map _) =
        some (max (before.callIndex + 1) before.committed.length)
      rw [max_eq_right inside, filled, max_eq_right inside.le]
    · intro s mem
      rcases mem_append.mp mem with old | new
      · exact weaken s old
      · exact ⟨before.callIndex, anchored s new, Nat.lt_succ_self _⟩
  | appended entry fresh position claimed entryFits ran anchored =>
    have beyond := getElem?_eq_none_iff.mp fresh
    refine ⟨live, log, ?_, ?_, ?_⟩
    · show fill before.committed.length ((before.pending ++ [entry]).map _) =
        some (max (before.callIndex + 1) before.committed.length)
      rw [max_eq_left beyond] at filled
      rw [map_append, map_singleton, position, fill_append_claim filled, max_eq_left (by omega)]
    · exact forall_mem_append.mpr ⟨fits, by simpa using entryFits⟩
    · intro s mem
      rcases mem_append.mp mem with old | new
      · exact weaken s old
      · exact ⟨before.callIndex, anchored s new, Nat.lt_succ_self _⟩
  | restopped old entry replaying oldKind waiting position entryKind bare =>
    have inside := (List.getElem?_eq_some_iff.mp replaying).1
    refine ⟨live, log, ?_, ?_, weaken⟩
    · show fill before.committed.length ((before.pending ++ [entry]).map _) =
        some (max (before.callIndex + 1) before.committed.length)
      rw [max_eq_right inside.le] at filled
      rw [map_append, max_eq_right inside]
      exact fill_append_amend filled (by omega)
    · exact forall_mem_append.mpr ⟨fits, by
        simp [ActionLogEntry.Fits, entryKind, bare]⟩
  | amended index record pending found =>
    exact ⟨live, log, amend_filled found log.positional filled,
      amend_forall found fits log.fits fun _ entryFits => entryFits,
      handles⟩

/-- Pending entries at committed positions stand in the relation `R` to the
entries they replace. -/
def View.Replaces (view : View) (R : ActionLogEntry → ActionLogEntry → Prop) : Prop :=
  ∀ entry ∈ view.pending, ∀ old, view.committed[entry.callIndex]? = some old → R old entry

/-- A move keeps such a relation, if writing a barrier record does and a stop
that is emitted again stands in it to the entry it replaces. -/
theorem Move.replaces {R : ActionLogEntry → ActionLogEntry → Prop} (sound : before.Sound)
    (refl : ∀ entry, R entry entry)
    (recorded : ∀ old entry record, R old entry → R old (withRecord entry record))
    (restopped : ∀ old entry, before.committed[before.callIndex]? = some old →
      old.callKind = .stop → old.stopSatisfied = false → entry.callIndex = before.callIndex →
      entry.callKind = .stop → entry.extra = none → stopping = some entry.resources → R old entry)
    (replaces : before.Replaces R) : after.Replaces R := by
  have withEntry : ∀ entry, (∀ old, before.committed[entry.callIndex]? = some old → R old entry) →
      ∀ e ∈ before.pending ++ [entry], ∀ old, before.committed[e.callIndex]? = some old →
        R old e := by
    intro entry related
    exact forall_mem_append.mpr ⟨replaces, by simpa using related⟩
  cases move with
  | still | consumed => exact replaces
  | appended entry fresh position =>
    refine withEntry entry fun old atOld => ?_
    rw [position, fresh] at atOld
    cases atOld
  | restopped old entry replaying oldKind waiting position entryKind bare resolved =>
    refine withEntry entry fun old' atOld => ?_
    rw [position, replaying, Option.some.injEq] at atOld
    exact atOld ▸ restopped old entry replaying oldKind waiting position entryKind bare resolved
  | amended index record pending found =>
    refine amend_forall found replaces ?_ ?_
    · intro entry mem old atOld
      obtain ⟨i, at_i⟩ := getElem?_of_mem mem
      rw [sound.log.positional.key_eq at_i, at_i, Option.some.injEq] at atOld
      exact atOld ▸ refl entry
    · intro entry related old atOld
      exact recorded old entry record (related old atOld)

theorem Move.committed : after.committed = before.committed := by
  cases move <;> rfl

end Preservation

/-! ## A pass -/

/-- The repeated stop of a call, if it is one, resolves to instances that stand
in `R` to the entry it replaces. -/
def RestopsWithin (op : Operation) (pass : Pass) (R : ActionLogEntry → ActionLogEntry → Prop)
    (call : Call) (state : PassState) : Prop :=
  ∀ old entry, state.ctx.committedEntry = some old → old.callKind = .stop →
    old.stopSatisfied = false → entry.callIndex = state.ctx.callIndex →
    entry.callKind = .stop → entry.extra = none →
    stopTargets op (pass.env state.ticks) call state = some entry.resources → R old entry

/-- A relation between the entry committed at a position and one that replaces
it, that barrier records do not affect. -/
structure Carried (R : ActionLogEntry → ActionLogEntry → Prop) : Prop where
  refl : ∀ entry, R entry entry
  recorded : ∀ old entry record, R old entry → R old (ReplayContext.withRecord entry record)

namespace Invocation

variable (invocation : Invocation) {pass : Pass} {log : List ActionLogEntry}
  {R : ActionLogEntry → ActionLogEntry → Prop}

/-- Throughout a pass over `log` the calls of the closure meet a condition. -/
def PassHolds (pass : Pass) (log : List ActionLogEntry) (P : Call → PassState → Prop) : Prop :=
  invocation.closure.Holds (passHandler invocation.op pass) P (fun _ _ => True) (fun _ _ => True)
    (PassState.initial invocation.action log)

variable {P : Call → PassState → Prop}

/-- **What a pass over a sound log ends with.** -/
theorem pass_sound (soundLog : SoundLog log) (carried : Carried R)
    (restops : ∀ call state, P call state → SoundLog state.ctx.committed → RestopsWithin
      invocation.op pass R call state) (holds : invocation.PassHolds pass log P) :
    (invocation.pass pass log).2.view.Sound ∧ (invocation.pass pass log).2.view.committed = log ∧
      (invocation.pass pass log).2.view.Replaces R := by
  refine Script.run_preserves_of_holds
    (I := fun state => state.view.Sound ∧ state.view.committed = log ∧ state.view.Replaces R)
    ?_ ?_ (fun _ invariant => invariant) invocation.closure _ holds ?_
  · rintro call state ⟨sound, committed, replaces⟩ met
    have move := dispatch_move invocation.op (pass.env state.ticks) sound.live sound.anchored call
    have soundAfter := move.sound sound
    exact ⟨⟨soundAfter.live, soundAfter.log, soundAfter.filled, soundAfter.fits,
      soundAfter.handles⟩, move.committed.trans committed,
      move.replaces sound carried.refl carried.recorded (restops call state met sound.log) replaces⟩
  · rintro call state ⟨sound, committed, replaces⟩ -
    have move : Move (some .subAction) none True state.view _ _ :=
      enterAction_move (pass.env state.ticks) call state
    have soundAfter := move.sound sound
    refine ⟨⟨soundAfter.live, soundAfter.log, soundAfter.filled, soundAfter.fits,
      soundAfter.handles⟩, move.committed.trans committed,
      move.replaces sound carried.refl carried.recorded ?_ replaces⟩
    intro old entry _ _ _ _ _ _ resolved
    cases resolved
  · refine ⟨⟨rfl, soundLog, ?_, by simp [view, initial, new],
      by simp [view, initial]⟩, rfl,
      by simp [View.Replaces, view, initial, new]⟩
    simp [view, initial, new, fill]

/-- **What a pass leaves of a sound log.** -/
theorem logAfterPass_sound (soundLog : SoundLog log) (carried : Carried R)
    (restops : ∀ call state, P call state → SoundLog state.ctx.committed → RestopsWithin
      invocation.op pass R call state) (holds : invocation.PassHolds pass log P) :
    SoundLog (invocation.logAfterPass pass log) ∧ ∀ (i : Nat) old, log[i]? = some old →
        ∃ new, (invocation.logAfterPass pass log)[i]? = some new ∧ R old new := by
  obtain ⟨sound, committed, replaces⟩ := invocation.pass_sound soundLog carried restops holds
  have filled := sound.filled
  rw [committed] at filled
  have keep := commit_forall (P := fun i entry =>
      entry.Fits ∧ ∀ old, log[i]? = some old → R old entry) soundLog.positional filled
    (fun i entry atIndex => ⟨soundLog.fits entry (mem_of_getElem? atIndex),
      fun old atOld => by
        rw [atIndex, Option.some.injEq] at atOld
        exact atOld ▸ carried.refl entry⟩)
    (fun entry mem => ⟨sound.fits entry mem, fun old atOld =>
      replaces entry mem old (by rw [committed]; exact atOld)⟩)
  refine ⟨⟨positional_commit soundLog.positional filled, ?_⟩, ?_⟩
  · intro entry mem
    obtain ⟨i, atIndex⟩ := getElem?_of_mem mem
    exact (keep i entry atIndex).1
  · intro i old atOld
    have inside : i < (invocation.logAfterPass pass log).length := by
      have longer : log.length ≤ (invocation.logAfterPass pass log).length := by
        calc log.length ≤ max (invocation.pass pass log).2.view.callIndex log.length :=
              le_max_right _ _
          _ = (invocation.logAfterPass pass log).length :=
              (length_commit soundLog.positional filled).symm
      exact Nat.lt_of_lt_of_le (List.getElem?_eq_some_iff.mp atOld).1 longer
    have atIndex := getElem?_eq_getElem inside
    exact ⟨_, atIndex, (keep i _ atIndex).2 old atOld⟩

/-! ## All passes -/

/-- The kind, the extra and, except for a stop, the resources are kept. -/
structure Keeps (old new : ActionLogEntry) : Prop where
  callKind : new.callKind = old.callKind
  extra : new.extra = old.extra
  resources : old.callKind ≠ .stop → new.resources = old.resources

theorem keeps_carried : Carried Keeps where
  refl _ := ⟨rfl, rfl, fun _ => rfl⟩
  recorded _ _ _ keeps := ⟨keeps.callKind, keeps.extra, keeps.resources⟩

theorem keeps_restops (op : Operation) (pass : Pass) (call : Call) (state : PassState)
    (soundLog : SoundLog state.ctx.committed) : RestopsWithin op pass Keeps call state := by
  intro old entry replaying oldKind _ _ entryKind bare _
  have oldBare := (soundLog.fits old (mem_of_getElem? replaying)).extra_of_stop oldKind
  exact ⟨entryKind.trans oldKind.symm, bare.trans oldBare.symm,
    fun notStop => absurd oldKind notStop⟩

theorem logAfterPass_keeps (pass : Pass) (soundLog : SoundLog log) :
    SoundLog (invocation.logAfterPass pass log) ∧ ∀ (i : Nat) old, log[i]? = some old →
        ∃ new, (invocation.logAfterPass pass log)[i]? = some new ∧ Keeps old new :=
  invocation.logAfterPass_sound (P := fun _ _ => True) soundLog keeps_carried
    (fun call state _ sound => keeps_restops invocation.op pass call state sound)
    (Script.holds_trivial _ _)

/-- **The log is positional after every pass, whatever the closure does.** -/
theorem logAfter_sound (passes : List Pass) : SoundLog (invocation.logAfter passes) := by
  induction passes using reverseRecOn with
  | nil => exact soundLog_nil
  | append_singleton earlier pass ih =>
    rw [logAfter_append_singleton]
    exact (invocation.logAfterPass_keeps pass ih).1

/-- A stop made where the log has one still waiting resolves to the instances
recorded there. -/
def StopResolvesAsRecorded (op : Operation) (pass : Pass) (call : Call) (state : PassState) :
    Prop :=
  ∀ old resources, state.ctx.committedEntry = some old → old.callKind = .stop →
    old.stopSatisfied = false →
    stopTargets op (pass.env state.ticks) call state = some resources → resources = old.resources

def StopsResolveAsRecorded (passes : List Pass) : Prop :=
  ∀ earlier pass later, passes = earlier ++ pass :: later →
    invocation.PassHolds pass (invocation.logAfter earlier)
      (StopResolvesAsRecorded invocation.op pass)

theorem sameCall_carried : Carried ActionLogEntry.SameCall where
  refl := ActionLogEntry.SameCall.refl
  recorded _ entry record same := same.trans (sameCall_withRecord entry record)

theorem sameCall_restops (op : Operation) (pass : Pass) (call : Call) (state : PassState)
    (asRecorded : StopResolvesAsRecorded op pass call state)
    (soundLog : SoundLog state.ctx.committed) :
    RestopsWithin op pass ActionLogEntry.SameCall call state := by
  intro old entry replaying oldKind waiting position entryKind bare resolved
  have oldBare := (soundLog.fits old (mem_of_getElem? replaying)).extra_of_stop oldKind
  have oldPosition : old.callIndex = state.ctx.callIndex := soundLog.positional.key_eq replaying
  exact ⟨position.trans oldPosition.symm, entryKind.trans oldKind.symm,
    asRecorded old entry.resources replaying oldKind waiting resolved, bare.trans oldBare.symm⟩

theorem logAfterPass_sameCall (soundLog : SoundLog log)
    (asRecorded : invocation.PassHolds pass log (StopResolvesAsRecorded invocation.op pass)) :
    ∀ (i : Nat) old, log[i]? = some old →
      ∃ new, (invocation.logAfterPass pass log)[i]? = some new ∧ old.SameCall new :=
  (invocation.logAfterPass_sound soundLog sameCall_carried
    (sameCall_restops invocation.op pass) asRecorded).2

/-- **The action log is positional and only ever extended, and what its entries
record stays**, in every run whose repeated stops resolve as recorded. -/
theorem log_extends_of_stops_as_recorded (earlier later : List Pass)
    (asRecorded : invocation.StopsResolveAsRecorded (earlier ++ later)) :
    (invocation.logAfter earlier).map ActionLogEntry.callIndex =
        List.range (invocation.logAfter earlier).length ∧
      (invocation.logAfter earlier).length ≤ (invocation.logAfter (earlier ++ later)).length ∧
      ∀ (i : Nat) old, (invocation.logAfter earlier)[i]? = some old →
        ∃ new, (invocation.logAfter (earlier ++ later))[i]? = some new ∧ old.SameCall new := by
  have kept : ∀ (i : Nat) old, (invocation.logAfter earlier)[i]? = some old →
      ∃ new, (invocation.logAfter (earlier ++ later))[i]? = some new ∧ old.SameCall new := by
    intro i old atOld
    induction later using reverseRecOn with
    | nil => exact ⟨old, by simpa using atOld, .refl old⟩
    | append_singleton middle pass ih =>
      have soFar : invocation.StopsResolveAsRecorded (earlier ++ middle) := by
        intro before pass' after split
        exact asRecorded before pass' (after ++ [pass]) (by rw [← append_assoc, split]; simp)
      obtain ⟨mid, atMid, same⟩ := ih soFar
      have last := asRecorded (earlier ++ middle) pass [] (by simp)
      rw [← append_assoc, logAfter_append_singleton]
      obtain ⟨new, atNew, sameNew⟩ := invocation.logAfterPass_sameCall
        (invocation.logAfter_sound _) last i mid atMid
      exact ⟨new, atNew, same.trans sameNew⟩
  exact ⟨(invocation.logAfter_sound earlier).positional, length_le_of_counterparts kept, kept⟩

/-- **No pass loses or moves a recorded call**, whatever the closure catches: entries are
numbered by their positions, and each keeps its kind, its extra and, unless it is a stop, its
resources. -/
theorem recorded_calls_stay (earlier later : List Pass) :
    (invocation.logAfter earlier).map ActionLogEntry.callIndex =
        List.range (invocation.logAfter earlier).length ∧
      ∀ (i : Nat) old, (invocation.logAfter earlier)[i]? = some old →
        ∃ new, (invocation.logAfter (earlier ++ later))[i]? = some new ∧ Keeps old new := by
  refine ⟨(invocation.logAfter_sound earlier).positional, fun i old atOld => ?_⟩
  induction later using reverseRecOn with
  | nil => exact ⟨old, by simpa using atOld, keeps_carried.refl old⟩
  | append_singleton middle pass ih =>
    obtain ⟨mid, atMid, kept⟩ := ih
    rw [← append_assoc, logAfter_append_singleton]
    obtain ⟨new, atNew, same⟩ :=
      (invocation.logAfterPass_keeps pass (invocation.logAfter_sound _)).2 i mid atMid
    refine ⟨new, atNew, same.callKind.trans kept.callKind, same.extra.trans kept.extra, ?_⟩
    intro notStop
    exact (same.resources (kept.callKind ▸ notStop)).trans (kept.resources notStop)

end Invocation

/-! ## A deployment scaled down under a waiting stop -/

section ScaledDown

/-- A replica of the deployment `api` of the app `web`. -/
def apiReplica (id : InstanceId) : ResourceInstance := .newScaled id "web" .deployment "api"

/-- A world where `api` runs at `scale` out of two replicas and nothing stops. -/
def scaledEnv (scale : Nat) : Env where
  effectiveScale _ _ _ := .ok scale
  ensureScaledGroup _ count _ := .ok ([apiReplica 1#128, apiReplica 2#128].take count)
  getOrCreateSingleton kind name := .ok (.newSingleton 3#128 "web" kind name)
  findAllInstances _ _ _ := .ok []
  definedImage _ _ := none
  drawId := 4#128
  lifecycleState _ := .running
  certValidFor _ := true
  imagePresent _ := true
  terminationSuccess _ := none
  nowSecs := 0
  cancelled := false
  signaler := some fun _ _ => .ok true
  writer := some fun _ _ _ _ => .ok ()
  executor := some fun _ _ _ => .ok 0
  bumpRestartGen _ := .ok ()
  hasAction _ := true
  validateCallParams _ params := .ok params
  debugExtra _ := ""
  jsonError _ := none

def scaledPass (scale : Nat) : Pass where
  env _ := scaledEnv scale
  staysCancelled _ _ _ cancelled := cancelled

/-- The action `stop-api`, which makes one call: `rt.stop(app.deployment("api"))`. -/
def stopApi : Invocation where
  op := ⟨"web", "op", fun _ _ => 5#128, fun _ => 6#128⟩
  action := "stop-api"
  closure := .call (.stop (.resource (.deployment "api" 1 2 none)) none) fun
    | .ok _ => .done
    | .error error => .throw error

theorem stopApi_resolves_as_recorded :
    stopApi.StopsResolveAsRecorded ([scaledPass 2] ++ [scaledPass 2]) := by
  intro earlier pass later split
  match earlier, split with
  | [], split =>
    obtain ⟨rfl, -⟩ := cons.inj split
    exact ⟨fun old resources replaying => (by cases replaying), trivial⟩
  | [_], split =>
    obtain ⟨rfl, rest⟩ := cons.inj split
    obtain ⟨rfl, -⟩ := cons.inj rest
    refine ⟨fun old resources replaying _ _ resolved => ?_, trivial⟩
    cases replaying
    cases resolved
    rfl
  | _ :: _ :: rest, split => simp at split

/-- While the scale stays, the second pass finds the entry as the first left it. -/
theorem log_extends_at_constant_scale :
    ((stopApi.logAfter [scaledPass 2]).map ActionLogEntry.callIndex = [0]) ∧
      ∀ (i : Nat) old, (stopApi.logAfter [scaledPass 2])[i]? = some old →
        ∃ new, (stopApi.logAfter ([scaledPass 2] ++ [scaledPass 2]))[i]? = some new ∧
          old.SameCall new :=
  have extended := stopApi.log_extends_of_stops_as_recorded [scaledPass 2] [scaledPass 2]
    stopApi_resolves_as_recorded
  ⟨extended.1, extended.2.2⟩

/-- **A repeated stop rewrites its entry.**  The closure catches nothing and makes
one call; the deployment is scaled from two to one between the passes. -/
theorem stop_rewrites_its_entry :
    ¬ ∀ (invocation : Invocation) (earlier later : List Pass), invocation.closure.Propagates →
      ∀ (i : Nat) old, (invocation.logAfter earlier)[i]? = some old →
        ∃ new, (invocation.logAfter (earlier ++ later))[i]? = some new ∧ old.SameCall new := by
  intro claimed
  have propagates : stopApi.closure.Propagates := by
    refine ⟨fun _ => rfl, ?_⟩
    rintro (_ | _) <;> trivial
  obtain ⟨new, atNew, same⟩ := claimed stopApi [scaledPass 2] [scaledPass 1] propagates 0 _ rfl
  cases atNew
  exact absurd same.resources (by decide)

end ScaledDown

end Seedling.Barrier
