import Seedling.Barrier.Positional

/-!
# Hooks run once

What keeps a replayed pass from running its signals, writes and commands again is the log
alone: a call whose position is committed consumes the entry there, and a call whose position
is free runs its hook and appends one.  So the runs at a position are those its entry records,
over all passes together (`runsAt_history`), and for a closure that does not catch its
errors a completed operation has an entry for every call it made (`hooks_run_once`).

A delivery that fails is logged and never made again (`signal_failure_is_not_retried`).
-/

namespace Seedling.Barrier

open Foundation List ActionLogEntry PassState

/-! ## Runs at a position -/

def runsAt (position : Nat) (events : List Event) : List Run :=
  (events.filter fun event => event.position == position).filterMap fun event => event.effect.run

@[simp] theorem runsAt_append (position : Nat) (events more : List Event) :
    runsAt position (events ++ more) = runsAt position events ++ runsAt position more := by
  simp [runsAt]

theorem runsAt_same (position : Nat) (effects : List Effect) :
    runsAt position (effects.map fun effect => ⟨position, effect⟩) =
      effects.filterMap Effect.run := by
  simp [runsAt, filter_map, Function.comp_def]

variable {position other : Nat}

theorem runsAt_other (different : other ≠ position) (effects : List Effect) :
    runsAt position (effects.map fun effect => ⟨other, effect⟩) = [] := by
  have skipped : (effects.map fun effect => Event.mk other effect).filter
      (fun event => event.position == position) = [] := by
    simp [different]
  rw [runsAt, skipped]
  rfl

theorem runsAt_quiet {effects : List Effect} (quiet : Quiet effects) :
    runsAt position (effects.map fun effect => ⟨other, effect⟩) = [] := by
  by_cases same : other = position
  · rw [same, runsAt_same, quiet]
  · exact runsAt_other same effects

theorem Invocation.Keeps.runs_eq {old new : ActionLogEntry} (keeps : Invocation.Keeps old new) :
    new.runs = old.runs := by
  unfold runs
  rw [keeps.callKind, keeps.extra]
  by_cases isStop : old.callKind = .stop
  · simp [isStop]
  · rw [keeps.resources isStop]

/-! ## Within a pass -/

/-- The runs are those the entry stands for, or none where a hook is missing. -/
def RunsAs (hooked : Prop) (entry : ActionLogEntry) (runs : List Run) : Prop :=
  runs = entry.runs ∨ ¬ hooked ∧ runs = []

/-- The runs of a pass so far: none at a committed position, those the pending
entry records at a position claimed since, none beyond. -/
structure View.Accounted (view : View) (hooked : Prop) : Prop where
  replayed : ∀ p, p < view.committed.length → runsAt p view.effects = []
  claimed : ∀ entry ∈ view.pending, view.committed.length ≤ entry.callIndex →
    RunsAs hooked entry (runsAt entry.callIndex view.effects)
  beyond : ∀ p, max view.callIndex view.committed.length ≤ p → runsAt p view.effects = []

/-- The calls made so far are the ones the entries record. -/
structure View.Matches (view : View) : Prop where
  counted : view.calls.length = view.callIndex
  committed : ∀ (p : Nat) entry callKind, view.committed[p]? = some entry →
    view.calls[p]? = some callKind → entry.callKind = callKind
  claimed : ∀ entry ∈ view.pending, view.committed.length ≤ entry.callIndex → ∀ callKind,
    view.calls[entry.callIndex]? = some callKind → entry.callKind = callKind

def View.counted (view : View) (kind : Option CallKind) : View :=
  { view with calls := view.calls ++ kind.toList }

theorem View.counted_none (view : View) : view.counted none = view := by
  simp [View.counted]

variable {entry : ActionLogEntry}

theorem View.Sound.not_fresh {view : View} (sound : view.Sound) (mem : entry ∈ view.committed) :
    ¬ view.committed.length ≤ entry.callIndex := by
  obtain ⟨i, at_i⟩ := List.getElem?_of_mem mem
  have inside := (List.getElem?_eq_some_iff.mp at_i).1
  have position : entry.callIndex = i := sound.log.positional.key_eq at_i
  omega

section Preservation

variable {kind : Option CallKind} {stopping : Option (List ResourceInstance)}
  {hooked always : Prop} {before after : View} {failed : Bool}

/-- **A move keeps the account**, as long as calls have been counted by the log. -/
theorem Move.accounted (move : Move kind stopping hooked before failed after)
    (sound : before.Sound) (counted : before.calls.length = before.callIndex)
    (weaker : always → hooked) (accounted : before.Accounted always) :
    after.Accounted always := by
  obtain ⟨replayed, claimed, beyond⟩ := accounted
  have quietly : ∀ {effects : List Effect}, Quiet effects → ∀ p,
      runsAt p (before.effects ++ effects.map fun effect => ⟨before.calls.length, effect⟩) =
        runsAt p before.effects := by
    intro effects quiet p
    rw [runsAt_append, runsAt_quiet quiet, append_nil]
  cases move with
  | still idle quiet =>
    exact ⟨fun p inside => (quietly quiet p).trans (replayed p inside),
      fun entry mem fresh => (quietly quiet _).symm ▸ claimed entry mem fresh,
      fun p outside => (quietly quiet p).trans (beyond p outside)⟩
  | consumed entry replaying matched quiet =>
    refine ⟨fun p inside => (quietly quiet p).trans (replayed p inside),
      fun entry mem fresh => (quietly quiet _).symm ▸ claimed entry mem fresh,
      fun p outside => (quietly quiet p).trans (beyond p ?_)⟩
    have outside' : max (before.callIndex + 1) before.committed.length ≤ p := outside
    omega
  | appended entry fresh position claimedKind fits ran =>
    have beyondLog := getElem?_eq_none_iff.mp fresh
    have elsewhere : ∀ p, p ≠ before.callIndex → ∀ effects : List Effect,
        runsAt p (before.effects ++ effects.map fun effect => ⟨before.calls.length, effect⟩) =
          runsAt p before.effects := by
      intro p different effects
      rw [runsAt_append, runsAt_other (by omega), append_nil]
    refine ⟨fun p inside => ?_, ?_, fun p outside => ?_⟩
    · have inside' : p < before.committed.length := inside
      exact (elsewhere p (by omega) _).trans (replayed p inside')
    · refine forall_mem_append.mpr ⟨fun other mem old => ?_, ?_⟩
      · have earlier : other.callIndex < max before.callIndex before.committed.length :=
          fill_mem_lt sound.filled (mem_map_of_mem mem)
        show RunsAs always other (runsAt other.callIndex (before.effects ++ map _ _))
        rw [elsewhere other.callIndex (by omega)]
        exact claimed other mem old
      · intro other mem old
        obtain rfl := mem_singleton.mp mem
        have here : runsAt other.callIndex before.effects = [] := beyond _ (by omega)
        have positions : before.calls.length = other.callIndex := counted.trans position.symm
        show RunsAs always other (runsAt other.callIndex (before.effects ++ _))
        rw [runsAt_append, here, ← positions, runsAt_same]
        rcases ran with ran | ⟨missing, quiet⟩
        · exact .inl ran
        · exact .inr ⟨fun all => missing (weaker all), quiet⟩
    · have outside' : max (before.callIndex + 1) before.committed.length ≤ p := outside
      exact (elsewhere p (by omega) _).trans (beyond p (by omega))
  | restopped old entry replaying =>
    have inside := (List.getElem?_eq_some_iff.mp replaying).1
    refine ⟨replayed, forall_mem_append.mpr ⟨claimed, ?_⟩, fun p outside => beyond p ?_⟩
    · intro other mem fresh
      obtain rfl := mem_singleton.mp mem
      have fresh' : before.committed.length ≤ other.callIndex := fresh
      omega
    · have outside' : max (before.callIndex + 1) before.committed.length ≤ p := outside
      omega
  | amended index record pending found =>
    refine ⟨replayed, amend_forall found claimed ?_ ?_, beyond⟩
    · intro entry mem fresh
      exact absurd fresh (sound.not_fresh mem)
    · intro entry runsAs fresh
      exact runsAs fresh

theorem View.Matches.call {callKind : CallKind} (matching : before.Matches)
    (index : after.callIndex = before.callIndex + 1) (log : after.committed = before.committed)
    (calls : after.calls = before.calls ++ [callKind])
    (here : ∀ entry, before.committed[before.callIndex]? = some entry → entry.callKind = callKind)
    (pending : ∀ entry ∈ after.pending, before.committed.length ≤ entry.callIndex →
      entry ∈ before.pending ∧ entry.callIndex ≠ before.callIndex ∨
        entry.callIndex = before.callIndex ∧ entry.callKind = callKind) : after.Matches := by
  obtain ⟨counted, committed, claimed⟩ := matching
  have lookup : ∀ (p : Nat) found, after.calls[p]? = some found →
      before.calls[p]? = some found ∨ p = before.callIndex ∧ found = callKind := by
    intro p found at_p
    rw [calls] at at_p
    rcases Nat.lt_or_ge p before.calls.length with old | new
    · exact .inl (by rwa [getElem?_append_left old] at at_p)
    · rw [getElem?_append_right new] at at_p
      obtain ⟨here, same⟩ := List.getElem?_eq_some_iff.mp at_p
      simp only [length_singleton] at here
      refine .inr ⟨by omega, ?_⟩
      simpa using same.symm
  refine ⟨by simp [calls, index, counted], ?_, ?_⟩ <;> rw [log]
  · intro p entry found at_p at_calls
    rcases lookup p found at_calls with old | ⟨rfl, rfl⟩
    · exact committed p entry found at_p old
    · exact here entry at_p
  · intro entry mem fresh found at_calls
    rcases pending entry mem fresh with ⟨listed, different⟩ | ⟨same, isKind⟩
    · exact claimed entry listed fresh found ((lookup _ _ at_calls).resolve_right (different ·.1))
    · rcases lookup _ found at_calls with old | ⟨_, rfl⟩
      · have inside := (List.getElem?_eq_some_iff.mp old).1
        omega
      · exact isKind

/-- **An answered call is the call its position records.** -/
theorem Move.matches (move : Move kind stopping hooked before false after) (sound : before.Sound)
    (matching : before.Matches) : (after.counted kind).Matches := by
  cases move with
  | still idle =>
    obtain rfl : kind = none := by simpa using idle
    rw [View.counted_none]
    exact ⟨matching.counted, matching.committed, matching.claimed⟩
  | consumed entry replaying matched =>
    obtain rfl : kind = some entry.callKind := by simpa using matched
    have inside := (List.getElem?_eq_some_iff.mp replaying).1
    refine matching.call rfl rfl rfl ?_ fun other mem fresh => .inl ⟨mem, by omega⟩
    intro other at_p
    rw [Option.some.inj (replaying.symm.trans at_p)]
  | appended entry freshHere position claimedKind =>
    subst claimedKind
    refine matching.call rfl rfl rfl ?_ (forall_mem_append.mpr ⟨?_, ?_⟩)
    · intro other at_p
      exact absurd (freshHere.symm.trans at_p) (by simp)
    · intro other mem fresh
      have earlier : other.callIndex < max before.callIndex before.committed.length :=
        fill_mem_lt sound.filled (mem_map_of_mem mem)
      exact .inl ⟨mem, by omega⟩
    · intro other mem _
      obtain rfl := mem_singleton.mp mem
      exact .inr ⟨position, rfl⟩
  | restopped old entry replaying oldKind waiting position entryKind bare resolved claimedKind =>
    subst claimedKind
    have inside := (List.getElem?_eq_some_iff.mp replaying).1
    refine matching.call rfl rfl rfl ?_ (forall_mem_append.mpr ⟨?_, ?_⟩)
    · intro other at_p
      rw [← Option.some.inj (replaying.symm.trans at_p), oldKind]
    · intro other mem fresh
      exact .inl ⟨mem, by omega⟩
    · intro other mem fresh
      obtain rfl := mem_singleton.mp mem
      omega
  | amended index record pending found idle =>
    subst idle
    rw [View.counted_none]
    refine ⟨matching.counted, matching.committed,
      amend_forall found matching.claimed ?_ fun entry same => same⟩
    intro entry mem fresh
    exact absurd fresh (sound.not_fresh mem)

end Preservation

namespace Invocation

variable (invocation : Invocation)

/-- What a pass over `log` knows of its runs at every point. -/
structure Account (log : List ActionLogEntry) (hooked : Prop) (view : View) : Prop where
  sound : view.Sound
  committed : view.committed = log
  replaces : view.Replaces Keeps
  accounted : view.Accounted hooked

variable {log : List ActionLogEntry}

theorem Account.move {always hooked : Prop} {before after : View} {kind : Option CallKind}
    {stopping : Option (List ResourceInstance)} {failed : Bool}
    (move : Move kind stopping hooked before failed after) (weaker : always → hooked)
    (account : Account log always before) (matching : before.Matches) :
    Account log always after where
  sound := move.sound account.sound
  committed := move.committed.trans account.committed
  replaces :=
    move.replaces account.sound keeps_carried.refl keeps_carried.recorded
      (fun old _ replaying oldKind _ _ entryKind bare _ =>
        have oldFits := account.sound.log.fits old (mem_of_getElem? replaying)
        ⟨entryKind.trans oldKind.symm, bare.trans (oldFits.extra_of_stop oldKind).symm,
          fun notStop => absurd oldKind notStop⟩)
      account.replaces
  accounted := move.accounted account.sound matching.counted weaker account.accounted

theorem Account.counted {hooked : Prop} {view : View} (account : Account log hooked view)
    (kind : Option CallKind) :
    Account log hooked (view.counted kind) :=
  have ⟨⟨live, soundLog, filled, fits, handles⟩, committed, replaces,
    ⟨replayed, claimed, beyond⟩⟩ := account
  ⟨⟨live, soundLog, filled, fits, handles⟩, committed, replaces, ⟨replayed, claimed, beyond⟩⟩

/-- **The account of a pass** of a closure that does not catch its errors: its
runs are accounted for however it ends, and if it completes, every call it made
is the call its position records. -/
theorem pass_account (propagates : invocation.closure.Propagates) (pass : Pass)
    (soundLog : SoundLog log) :
    Script.EndsIn
      (fun after => Account log (∀ n, (pass.env n).Hooked) after.view ∧ after.view.Matches)
      (fun after => Account log (∀ n, (pass.env n).Hooked) after.view)
      (invocation.pass pass log) := by
  refine Script.run_propagates ?_ ?_ ?_ ?_ ?_ invocation.closure propagates _ ?_
  · rintro call state ⟨account, matching⟩
    have move := dispatch_move invocation.op (pass.env state.ticks) account.sound.live
      account.sound.anchored call
    have moved := (account.move move (fun always => always state.ticks) matching).counted call.kind
    dsimp only [passHandler]
    revert move moved
    obtain ⟨outcome, after⟩ := dispatch invocation.op (pass.env state.ticks) call state
    intro move moved
    cases outcome with
    | ok => exact ⟨moved, move.matches account.sound matching⟩
    | error => exact moved
  · rintro call state ⟨account, matching⟩
    have move : Move (some .subAction) none True state.view _ _ :=
      enterAction_move (pass.env state.ticks) call state
    have moved := (account.move move (fun _ => trivial) matching).counted (some .subAction)
    dsimp only [passHandler]
    revert move moved
    obtain ⟨outcome, after⟩ := enterAction (pass.env state.ticks) call state
    intro move moved
    cases outcome with
    | ok => exact ⟨moved, move.matches account.sound matching⟩
    | error => exact moved
  · intro state invariant
    exact invariant
  · intro state stopped
    exact stopped
  · intro state invariant
    exact invariant.1
  · have none_pending : (initial invocation.action log).view.pending = [] := rfl
    refine ⟨⟨⟨rfl, soundLog, ?_, by simp [none_pending],
      by simp [view, initial]⟩, rfl, by simp [View.Replaces, none_pending],
      ⟨fun _ _ => rfl, by simp [none_pending], fun _ _ => rfl⟩⟩,
      ⟨rfl, by simp [view, initial], by simp [none_pending]⟩⟩
    simp [view, initial, ReplayContext.new, fill]

section PassRuns

variable {invocation} {pass : Pass} {log : List ActionLogEntry} {hooked : Prop}
  (account : Account log hooked (invocation.pass pass log).2.view)
include account

theorem Account.filled : fill log.length ((invocation.pass pass log).2.ctx.pending.map callIndex) =
      some (max (invocation.pass pass log).2.ctx.callIndex log.length) := by
  have filled := account.sound.filled
  rw [account.committed] at filled
  exact filled

theorem Account.positional : Positional callIndex log :=
  account.committed ▸ account.sound.log.positional

variable {p : Nat}

theorem Account.runsAt_committed (inside : p < log.length) :
    runsAt p (invocation.pass pass log).2.effects = [] :=
  account.accounted.replayed p (by rw [account.committed]; exact inside)

theorem Account.runsAt_claimed {entry : ActionLogEntry} (fresh : log.length ≤ p)
    (found : (invocation.logAfterPass pass log)[p]? = some entry) :
    RunsAs hooked entry (runsAt p (invocation.pass pass log).2.effects) := by
  refine commit_forall (P := fun p entry => log.length ≤ p →
      RunsAs hooked entry (runsAt p (invocation.pass pass log).2.effects))
    account.positional account.filled ?_ ?_ p entry found fresh
  · intro p entry atIndex fresh
    have inside := (List.getElem?_eq_some_iff.mp atIndex).1
    omega
  · intro entry mem fresh
    exact account.accounted.claimed entry mem (by rw [account.committed]; exact fresh)

theorem Account.runsAt_beyond (outside : (invocation.logAfterPass pass log).length ≤ p) :
    runsAt p (invocation.pass pass log).2.effects = [] := by
  have length : (invocation.logAfterPass pass log).length = _ :=
    length_commit account.positional account.filled
  rw [length] at outside
  exact account.accounted.beyond p (by rw [account.committed]; exact outside)

end PassRuns

/-! ## All passes -/

def history (passes : List Pass) : List ActionLogEntry × List Event :=
  passes.foldl
    (fun soFar pass =>
      (invocation.logAfterPass pass soFar.1, soFar.2 ++ (invocation.pass pass soFar.1).2.effects))
    ([], [])

variable (passes : List Pass)

theorem history_append_singleton (pass : Pass) : invocation.history (passes ++ [pass]) =
      (invocation.logAfterPass pass (invocation.history passes).1, (invocation.history passes).2 ++
          (invocation.pass pass (invocation.history passes).1).2.effects) := by
  simp [history]

theorem history_log : (invocation.history passes).1 = invocation.logAfter passes := by
  induction passes using reverseRecOn with
  | nil => rfl
  | append_singleton earlier pass ih =>
    rw [history_append_singleton, logAfter_append_singleton, ih]

def Hooked (passes : List Pass) : Prop := ∀ pass ∈ passes, ∀ n, (pass.env n).Hooked

variable (propagates : invocation.closure.Propagates)
include propagates

theorem pass_account_of_any (pass : Pass) (soundLog : SoundLog log) :
    Account log (∀ n, (pass.env n).Hooked) (invocation.pass pass log).2.view := by
  have account := invocation.pass_account propagates pass soundLog
  revert account
  obtain ⟨outcome, after⟩ := invocation.pass pass log
  cases outcome with
  | ok => exact And.left
  | error => exact id

/-- **The runs at a position are those its entry records**, over all passes
together, and there are none where there is no entry. -/
theorem runsAt_history (passes : List Pass) :
    (∀ (p : Nat) entry, (invocation.logAfter passes)[p]? = some entry →
      RunsAs (Hooked passes) entry (runsAt p (invocation.history passes).2)) ∧
    ∀ p, (invocation.logAfter passes).length ≤ p → runsAt p (invocation.history passes).2 = [] := by
  induction passes using reverseRecOn with
  | nil => exact ⟨fun p entry found => by simp [logAfter] at found, fun _ _ => rfl⟩
  | append_singleton earlier pass ih =>
    obtain ⟨recorded, none_beyond⟩ := ih
    have soundLog := invocation.logAfter_sound earlier
    have account := invocation.pass_account_of_any propagates pass soundLog
    obtain ⟨soundAfter, keeps⟩ := invocation.logAfterPass_keeps pass soundLog
    rw [history_append_singleton, history_log, logAfter_append_singleton]
    refine ⟨fun p entry found => ?_, fun p outside => ?_⟩
    · rw [runsAt_append]
      rcases Nat.lt_or_ge p (invocation.logAfter earlier).length with inside | fresh
      · -- the entry was there before the pass, which keeps what it stands for
        obtain ⟨new, atNew, keepsOld⟩ := keeps p _ (getElem?_eq_getElem inside)
        obtain rfl : new = entry := Option.some.inj (atNew.symm.trans found)
        rw [account.runsAt_committed inside, append_nil, RunsAs, keepsOld.runs_eq]
        rcases recorded p _ (getElem?_eq_getElem inside) with ran | ⟨missing, ranNone⟩
        · exact .inl ran
        · exact .inr ⟨fun all => missing fun pass' mem =>
            all pass' (mem_append_left _ mem), ranNone⟩
      · rw [none_beyond p fresh]
        rcases account.runsAt_claimed fresh found with ran | ⟨missing, ranNone⟩
        · exact .inl ran
        · exact .inr ⟨fun all => missing (all pass (by simp)), ranNone⟩
    · have longer := length_le_of_counterparts keeps
      rw [runsAt_append, none_beyond p (longer.trans outside), account.runsAt_beyond outside]
      rfl

theorem logAfterPass_records_calls (pass : Pass) (soundLog : SoundLog log)
    (completed : (invocation.pass pass log).1 = .ok ()) {p : Nat} {callKind : CallKind}
    (made : (invocation.pass pass log).2.calls[p]? = some callKind) :
    ∃ entry, (invocation.logAfterPass pass log)[p]? = some entry ∧ entry.callKind = callKind := by
  have ended : Account log (∀ n, (pass.env n).Hooked) (invocation.pass pass log).2.view ∧
      (invocation.pass pass log).2.view.Matches := by
    have account := invocation.pass_account propagates pass soundLog
    revert account completed
    obtain ⟨outcome, after⟩ := invocation.pass pass log
    rintro rfl account
    exact account
  obtain ⟨account, matching⟩ := ended
  have kinds := commit_forall account.positional account.filled
    (fun p entry atIndex callKind made =>
      matching.committed p entry callKind (by rw [account.committed]; exact atIndex) made)
    (fun entry mem callKind made => by
      rcases Nat.lt_or_ge entry.callIndex log.length with inside | fresh
      · obtain ⟨old, atOld⟩ : ∃ old,
            (invocation.pass pass log).2.view.committed[entry.callIndex]? = some old := by
          rw [account.committed]
          exact ⟨_, getElem?_eq_getElem inside⟩
        rw [(account.replaces entry mem _ atOld).callKind]
        exact matching.committed _ _ callKind atOld made
      · exact matching.claimed entry mem (by rw [account.committed]; exact fresh) callKind made)
  have length : (invocation.logAfterPass pass log).length = _ :=
    length_commit account.positional account.filled
  have counted : (invocation.pass pass log).2.calls.length =
    (invocation.pass pass log).2.ctx.callIndex := matching.counted
  have inside : p < (invocation.logAfterPass pass log).length := by
    have before := (List.getElem?_eq_some_iff.mp made).1
    omega
  have found := getElem?_eq_getElem inside
  exact ⟨_, found, kinds p _ found callKind made⟩

end Invocation

/-! ## Once over the whole operation -/

/-- A write or a command, rather than a delivery. -/
def Run.isSignal : Run → Bool
  | .signal _ _ => true
  | _ => false

theorem ActionLogEntry.Fits.runs_eq (fits : entry.Fits) :
    (entry.callKind = .write → ∃ path, entry.extra = some (.text path) ∧
      entry.runs = [.write path]) ∧
    (entry.callKind = .exec → ∃ code, entry.extra = some (.exitCode code) ∧
      entry.runs = [.exec code]) ∧
    (entry.callKind = .signal → ∃ name, entry.extra = some (.text name) ∧
      entry.runs = entry.resources.map fun inst => .signal inst.displayName name) := by
  obtain ⟨callIndex, callKind, resources, barriers, extra⟩ := entry
  unfold ActionLogEntry.Fits at fits
  refine ⟨?_, ?_, ?_⟩ <;> rintro rfl <;> split at fits <;> simp_all [runs]

theorem ActionLogEntry.runs_filter_length (entry : ActionLogEntry) :
    (entry.runs.filter fun run => !run.isSignal).length ≤ 1 := by
  unfold runs
  split <;> simp [Run.isSignal, filter_map, Function.comp_def]

/-- **Hooks run once.**  Over all passes of a closure that does not catch its
errors, the runs at a position are none or those of the entry there, so a write
or a command succeeds at most once; and when the operation has completed, each
write and each command the closure made has succeeded exactly once, and each
signal has been delivered, once, to every instance its entry records. -/
theorem hooks_run_once (invocation : Invocation) (propagates : invocation.closure.Propagates)
    (passes : List Pass) :
    (∀ p, runsAt p (invocation.history passes).2 = [] ∨
      ∃ entry, (invocation.logAfter passes)[p]? = some entry ∧
        runsAt p (invocation.history passes).2 = entry.runs) ∧
    (∀ p, ((runsAt p (invocation.history passes).2).filter fun run => !run.isSignal).length ≤ 1) ∧
    ∀ earlier pass, passes = earlier ++ [pass] → Invocation.Hooked passes →
      (invocation.pass pass (invocation.logAfter earlier)).1 = .ok () →
      ∀ (p : Nat) callKind,
        (invocation.pass pass (invocation.logAfter earlier)).2.calls[p]? = some callKind →
        ∃ entry, (invocation.logAfter passes)[p]? = some entry ∧ entry.callKind = callKind ∧
          (callKind = .write → ∃ path, runsAt p (invocation.history passes).2 = [.write path]) ∧
          (callKind = .exec → ∃ code, runsAt p (invocation.history passes).2 = [.exec code]) ∧
          (callKind = .signal → ∃ name, runsAt p (invocation.history passes).2 =
            entry.resources.map fun inst => .signal inst.displayName name) := by
  obtain ⟨recorded, beyond⟩ := invocation.runsAt_history propagates passes
  have atMost : ∀ p, runsAt p (invocation.history passes).2 = [] ∨
      ∃ entry, (invocation.logAfter passes)[p]? = some entry ∧
        runsAt p (invocation.history passes).2 = entry.runs := by
    intro p
    cases found : (invocation.logAfter passes)[p]? with
    | none => exact .inl (beyond p (getElem?_eq_none_iff.mp found))
    | some entry =>
      rcases recorded p entry found with ran | ⟨_, ranNone⟩
      · exact .inr ⟨entry, rfl, ran⟩
      · exact .inl ranNone
  refine ⟨atMost, fun p => ?_, ?_⟩
  · rcases atMost p with ranNone | ⟨entry, _, ran⟩
    · simp [ranNone]
    · rw [ran]
      exact entry.runs_filter_length
  · rintro earlier pass rfl hooked completed p callKind made
    have soundLog := invocation.logAfter_sound earlier
    obtain ⟨entry, found, rfl⟩ :=
      invocation.logAfterPass_records_calls propagates pass soundLog completed made
    rw [← invocation.logAfter_append_singleton] at found
    have ran : runsAt p (invocation.history (earlier ++ [pass])).2 = entry.runs :=
      (recorded p entry found).resolve_right fun missing => missing.1 hooked
    have fits := (invocation.logAfter_sound (earlier ++ [pass])).fits entry (mem_of_getElem? found)
    obtain ⟨ofWrite, ofExec, ofSignal⟩ := fits.runs_eq
    refine ⟨entry, found, rfl, fun isWrite => ?_, fun isExec => ?_, fun isSignal => ?_⟩
    · obtain ⟨path, _, runs⟩ := ofWrite isWrite
      exact ⟨path, ran.trans runs⟩
    · obtain ⟨code, _, runs⟩ := ofExec isExec
      exact ⟨code, ran.trans runs⟩
    · obtain ⟨name, _, runs⟩ := ofSignal isSignal
      exact ⟨name, ran.trans runs⟩

/-- The action `reload-api`, which makes one call:
`rt.signal(app.deployment("api"), "HUP")`. -/
def reloadApi : Invocation where
  op := ⟨"web", "op", fun _ _ => 5#128, fun _ => 6#128⟩
  action := "reload-api"
  closure := .call (.signal (.resource (.deployment "api" 1 2 none)) "HUP") fun
    | .ok _ => .done
    | .error error => .throw error

theorem reloadApi_propagates : reloadApi.closure.Propagates := by
  refine ⟨fun _ => rfl, ?_⟩
  rintro (_ | _) <;> trivial

/-- Two passes over the same signal deliver it once to each replica. -/
theorem reloadApi_signals_once :
    ∃ entry, (reloadApi.logAfter [scaledPass 2, scaledPass 2])[0]? = some entry ∧
      ∃ name, runsAt 0 (reloadApi.history [scaledPass 2, scaledPass 2]).2 =
        entry.resources.map fun inst => .signal inst.displayName name := by
  have hooked : Invocation.Hooked [scaledPass 2, scaledPass 2] := by
    intro pass mem n
    obtain rfl : pass = scaledPass 2 := by simpa using mem
    exact ⟨rfl, rfl, rfl⟩
  obtain ⟨entry, found, _, _, _, ofSignal⟩ :=
    (hooks_run_once reloadApi reloadApi_propagates [scaledPass 2, scaledPass 2]).2.2
      [scaledPass 2] (scaledPass 2) rfl hooked rfl 0 .signal rfl
  exact ⟨entry, found, ofSignal rfl⟩

def Effect.succeeded : Effect → Bool
  | .signal _ _ (.ok _) => true
  | .write _ _ _ (.ok _) => true
  | .exec _ _ _ (.ok _) => true
  | _ => false

def unreachablePass : Pass where
  env _ := { scaledEnv 2 with signaler := some fun _ _ => .error "no such container" }
  staysCancelled _ _ _ cancelled := cancelled

/-- **A failed delivery is not retried**: the operation completes with its signal
recorded and never delivered. -/
theorem signal_failure_is_not_retried :
    ¬ ∀ (invocation : Invocation) (pass : Pass), invocation.closure.Propagates →
      Invocation.Hooked [pass] → (invocation.pass pass []).1 = .ok () →
      ∀ p, (invocation.pass pass []).2.calls[p]? = some .signal →
        ∃ event ∈ (invocation.pass pass []).2.effects,
          event.position = p ∧ event.effect.succeeded := by
  intro claimed
  have hooked : Invocation.Hooked [unreachablePass] := by
    intro pass mem n
    obtain rfl : pass = unreachablePass := by simpa using mem
    exact ⟨rfl, rfl, rfl⟩
  obtain ⟨event, mem, _, succeeded⟩ :=
    claimed reloadApi unreachablePass reloadApi_propagates hooked rfl 0 rfl
  have failed : ∀ event ∈ (reloadApi.pass unreachablePass []).2.effects,
      event.effect.succeeded = false := by decide
  exact absurd succeeded (by simp [failed event mem])

end Seedling.Barrier
