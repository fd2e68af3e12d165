import Seedling.Barrier.Pass

/-!
# What a call comes to

Each call surface of the runtime is taken apart once, here.  Whatever the call, it may
number anonymous resources and write rows first (`Prepared`).  Then it fails early, returns
because it is probing, rethrows a barrier the pass has hit, gives way to a cancellation, or
gets to the log (`Answers`), where it can do little: consume the entry at its position,
append one, emit a stop again, or write the record of a barrier (`Acts`).

What the calls of a pass keep is derived from `dispatch_comes` and `enterAction_acts`.
-/

namespace Seedling.Barrier

/-! ## Hook runs -/

/-- A signal, a write or a command, whatever came of it. -/
def Effect.isHook : Effect → Bool
  | .signal _ _ _ => true
  | .write _ _ _ _ => true
  | .exec _ _ _ _ => true
  | _ => false

/-- A signal delivery, a successful write or a successful command. -/
inductive Run where
  | signal (container signal : String)
  | write (path : String)
  | exec (code : Int)

/-- The run an effect amounts to.  A delivery counts whether or not it succeeded,
since it is never made again; a write or a command counts if it succeeded. -/
def Effect.run : Effect → Option Run
  | .signal container name _ => some (.signal container name)
  | .write _ path _ (.ok ()) => some (.write path)
  | .exec _ _ _ (.ok code) => some (.exec code)
  | _ => none

def ActionLogEntry.runs (entry : ActionLogEntry) : List Run :=
  match entry.callKind, entry.extra with
  | .signal, some (.text name) => entry.resources.map fun inst => .signal inst.displayName name
  | .write, some (.text path) => [.write path]
  | .exec, some (.exitCode code) => [.exec code]
  | _, _ => []

/-- The extra is one a call of the entry's kind records. -/
def ActionLogEntry.Fits (entry : ActionLogEntry) : Prop :=
  match entry.callKind, entry.extra with
  | .signal, some (.text _) => True
  | .write, some (.text _) => True
  | .exec, some (.exitCode _) => True
  | .subAction, some (.subAction _ _) => True
  | .start, none | .stop, none | .query, none | .warmCerts, none | .warmImages, none => True
  | _, _ => False

abbrev Quiet (effects : List Effect) : Prop := effects.filterMap Effect.run = []

structure Env.Hooked (env : Env) : Prop where
  signaler : env.signaler.isSome
  writer : env.writer.isSome
  executor : env.executor.isSome

/-! ## Ways to answer -/

def PassState.Hit (state : PassState) : Prop :=
  state.barrierHit ∧ state.ctx.pendingBarrier.isSome

/-- The errors that end a pass without failing it. -/
def EvalError.isHit : EvalError → Bool
  | .barrierHit _ => true
  | .cancelHit => true
  | .message _ => false

/-- The call looks at the cancel flag before it does anything, or leaves neither
an entry nor a hook. -/
def Call.honoursCancel : Call → Bool
  | .stop _ _ | .write _ _ _ | .exec _ _ _ | .barrier _ _ | .restart _ => true
  | .start _ | .query _ | .warmCerts _ | .warmImages _ | .signal _ _ => false

def failed {ε α : Type} : Except ε α → Bool
  | .ok _ => false
  | .error _ => true

/-- The `Started` of the pass after a call: those before it, and for a call that claims its
position perhaps one more, with the instances of the argument if it starts them. -/
def Handed (kind : Option CallKind) (targets : Option (List ResourceInstance))
    (resources : List ResourceInstance) (state : PassState) (handles : List Started) : Prop :=
  handles = state.handles ∨ ∃ started : Started, handles = state.handles ++ [started] ∧
    started.originIndex = some state.ctx.callIndex ∧ started.resources = resources ∧
      (kind = some .start → targets = some resources)

/-- A stop may be emitted at the current position: nothing is committed there, or a stop
that is still waiting. -/
def ReplayContext.MayStop (ctx : ReplayContext) : Prop :=
  ctx.committedEntry = none ∨ ∃ old, ctx.committedEntry = some old ∧ old.callKind = .stop ∧
    old.stopSatisfied = false

section Ways

variable (env : Env) (hooked : Prop) (kind : Option CallKind)
  (targets : Option (List ResourceInstance))

/-- What a call that gets to the log does there.  `kind` is the kind of entry it claims,
`targets` are the instances its argument resolved to, and `hooked` says that the hooks are
installed. -/
inductive Act (state : PassState) : Except EvalError Unit → PassState → Prop where
  | refused (text : String) : Act state (.error (.message text)) state
  | consumed {entry : ActionLogEntry} (found : state.ctx.committedEntry = some entry)
      (same : kind = some entry.callKind) {resources : List ResourceInstance}
      {handles : List Started} (handed : Handed kind targets resources state handles)
      (stack : List String) :
      Act state (.ok ())
        { state.withCtx state.ctx.advance with handles := handles, stack := stack }
  | overrun {entry : ActionLogEntry} (found : state.ctx.committedEntry = some entry)
      (unmatched : kind = some .exec ∨ kind = some .subAction ∧ entry.callKind = .subAction)
      (text : String) : Act state (.error (.message text)) (state.withCtx state.ctx.advance)
  | inVain (effect : Effect) (free : state.ctx.committedEntry = none)
      (vain : effect.run = none) (text : String) :
      Act state (.error (.message text)) (state.perform [effect])
  | noted (callKind : CallKind) (resources : List ResourceInstance) (extra : Option Extra)
      (free : state.ctx.committedEntry = none) (claimed : kind = some callKind)
      (fits : ActionLogEntry.Fits ⟨state.ctx.callIndex, callKind, resources, [], extra⟩)
      (quiet : ActionLogEntry.runs ⟨state.ctx.callIndex, callKind, resources, [], extra⟩ = [] ∨
        ¬ hooked)
      {handles : List Started} (handed : Handed kind targets resources state handles)
      (stack : List String) :
      Act state (.ok ())
        { state.withCtx (state.ctx.append callKind resources [] extra) with
          handles := handles, stack := stack }
  | ran (callKind : CallKind) (resources : List ResourceInstance) (extra : Option Extra)
      (free : state.ctx.committedEntry = none) (claimed : kind = some callKind)
      (fits : ActionLogEntry.Fits ⟨state.ctx.callIndex, callKind, resources, [], extra⟩)
      {effects : List Effect}
      (runs : effects.filterMap Effect.run =
          ActionLogEntry.runs ⟨state.ctx.callIndex, callKind, resources, [], extra⟩ ∨
        ¬ hooked ∧ Quiet effects) :
      Act state (.ok ())
        ((state.perform effects).withCtx (state.ctx.append callKind resources [] extra))
  | stopped (may : state.ctx.MayStop) (claimed : kind = some .stop)
      {resources : List ResourceInstance} (resolved : targets = some resources)
      (deadline : Option Nat) :
      Act state (.ok ()) (state.withCtx
        (state.ctx.append .stop resources [stopRecord env state.ctx resources deadline] none))
  | stopping (may : state.ctx.MayStop) (claimed : kind = some .stop)
      {resources : List ResourceInstance} (resolved : targets = some resources)
      (deadline : Option Nat) (condition : BarrierCondition) :
      Act state (.error (.barrierHit condition)) ((state.withCtx (state.ctx.append .stop
        resources [stopRecord env state.ctx resources deadline] none)).suspend condition).2
  | drawn (idle : kind = none) (anchor : Option Nat) {result : Except EvalError Unit}
      (plain : ∀ error, result = .error error → error.isHit = false) :
      Act state result (state.withCtx (state.ctx.drawSeq anchor).2)
  | passed (idle : kind = none) {whole started : Started} (known : whole ∈ state.handles)
      (origin : started.originIndex = whole.originIndex) (record : BarrierRecord) :
      Act state (.ok ()) (state.withCtx
        ((state.ctx.drawSeq started.originIndex).2.recordAt started.originIndex record).2)
  | waiting (idle : kind = none) {whole started : Started} (known : whole ∈ state.handles)
      (origin : started.originIndex = whole.originIndex) (record : BarrierRecord)
      (condition : BarrierCondition) :
      Act state (.error (.barrierHit condition)) ((state.withCtx
        ((state.ctx.drawSeq started.originIndex).2.recordWaiting started record)).suspend
          condition).2

variable (honours : Bool)

/-- How a call is answered once it is prepared.  `honours` says that it looks at the cancel
flag. -/
inductive Way (state : PassState) : Except EvalError Unit → PassState → Prop where
  | early (text : String) : Way state (.error (.message text)) state
  | probed (probing : state.ctx.probeMode) {images : Option (List String)}
      (probes : images.isSome) (handles : List Started) :
      Way state (.ok ())
        { state.withCtx { state.ctx with probeImages := images } with handles := handles }
  | restarted (idle : kind = none) (live : state.ctx.probeMode = false) {effect : Effect}
      (row : effect.isHook = false) {result : Except EvalError Unit}
      (plain : ∀ error, result = .error error → error.isHit = false) :
      Way state result (state.perform [effect])
  | rethrown {condition : BarrierCondition} (hit : state.barrierHit)
      (pending : state.ctx.pendingBarrier = some condition) :
      Way state (.error (.barrierHit condition)) state
  | cancelled (honoured : honours) (cancelled : env.cancelled) :
      Way state (.error .cancelHit) state
  | acted (live : ¬ state.ctx.probeMode) (notHit : ¬ state.Hit)
      (uncancelled : honours → env.cancelled = false)
      {result : Except EvalError Unit} {after : PassState}
      (acts : Act env env.Hooked kind targets state result after) : Way state result after

/-- What a call has done before it is answered.  A stop or a barrier writes no rows, and
neither does a probe. -/
inductive Prepared (state : PassState) : PassState → Prop where
  | intro (counter : Nat) {rows : List Effect} (row : ∀ effect ∈ rows, effect.isHook = false)
      (rowless : kind = none ∨ kind = some .stop ∨ state.ctx.probeMode → rows = []) :
      Prepared state ((state.withCtx { state.ctx with anonCounter := counter }).perform rows)

/-- The call gets to the log; what is given back for it makes no difference. -/
abbrev Acts {α : Type} (state : PassState) (outcome : Except EvalError α × PassState) : Prop :=
  Act env hooked kind targets state (outcome.1.map fun _ => ()) outcome.2

abbrev Answers {α : Type} (state : PassState) (outcome : Except EvalError α × PassState) : Prop :=
  Way env kind targets honours state (outcome.1.map fun _ => ()) outcome.2

def Comes {α : Type} (state : PassState) (outcome : Except EvalError α × PassState) : Prop :=
  ∃ prepared, Prepared kind state prepared ∧ Answers env kind targets honours prepared outcome

end Ways

/-! ## Calls that return a `Started` -/

theorem PassState.perform_nil (state : PassState) : state.perform [] = state := by
  simp [PassState.perform]

section Surfaces

variable {op : Operation} {env : Env} {hooked : Prop} {kind : Option CallKind}
  {targets : Option (List ResourceInstance)} {honours : Bool} {state : PassState}

theorem Prepared.recounted (counter : Nat) :
    Prepared kind state (state.withCtx { state.ctx with anonCounter := counter }) := by
  have prepared := @Prepared.intro kind state counter [] nofun fun _ => rfl
  rwa [PassState.perform_nil] at prepared

variable {outcome : Outcome}

theorem Comes.of_answers (answers : Answers env kind targets honours state outcome) :
    Comes env kind targets honours state outcome :=
  ⟨state, .recounted state.ctx.anonCounter, answers⟩

theorem Comes.failed (text : String) : Comes env kind targets honours state (state.fail text) :=
  .of_answers (.early text)

theorem Comes.idle (probing : state.ctx.probeMode) (answer : Answer) :
    Comes env kind targets honours state (.ok answer, state) :=
  .of_answers (.probed probing probing state.handles)

theorem answers_guarded {next : PassState → Outcome}
    (answers : ¬ state.Hit → Answers env kind targets honours state (next state)) :
    Answers env kind targets honours state (state.guarded next) := by
  unfold PassState.guarded
  split
  · rename_i hit pending
    exact .rethrown hit pending
  · rename_i unhit
    refine answers ?_
    rintro ⟨hit, pending⟩
    obtain ⟨condition, pending⟩ := Option.isSome_iff_exists.mp pending
    exact unhit condition hit pending

theorem answers_uncancelled (live : ¬ state.ctx.probeMode) (notHit : ¬ state.Hit)
    (acts : Acts env env.Hooked kind targets state outcome) :
    Answers env kind targets true state
      (if env.cancelled then (.error .cancelHit, state) else outcome) := by
  split
  · rename_i cancelled
    exact .cancelled rfl cancelled
  · rename_i uncancelled
    exact .acted live notHit (fun _ => by simpa using uncancelled) acts

/-- Nothing is committed at this position, or the entry there is consumed, or
it is another call's. -/
theorem replayStep_cases (ctx : ReplayContext) (expect : CallKind) (expectExtra : Option String) :
    (∃ mismatch, ctx.replayStep expect expectExtra = .error mismatch) ∨
      (ctx.replayStep expect expectExtra = .ok (none, ctx) ∧ ctx.committedEntry = none) ∨
      ∃ entry, ctx.replayStep expect expectExtra = .ok (some entry, ctx.advance) ∧
        ctx.committedEntry = some entry ∧ entry.callKind = expect := by
  unfold ReplayContext.replayStep
  cases committed : ctx.committedEntry with
  | none => exact .inr (.inl ⟨rfl, rfl⟩)
  | some entry =>
    by_cases sameKind : entry.callKind = expect
    · cases expectExtra with
      | none => exact .inr (.inr ⟨entry, by simp [sameKind], rfl, sameKind⟩)
      | some expected =>
        by_cases sameExtra : entry.extra.bind Extra.text? = some expected
        · exact .inr (.inr ⟨entry, by simp [sameKind, sameExtra], rfl, sameKind⟩)
        · exact .inl ⟨.extra ctx.callIndex expect expected (entry.extra.bind Extra.text?),
            by simp [sameKind, sameExtra]⟩
    · exact .inl ⟨.kind ctx.callIndex expect entry.callKind, by simp [sameKind]⟩

variable {callKind : CallKind}

theorem Act.replayed {entry : ActionLogEntry} (found : state.ctx.committedEntry = some entry)
    (same : entry.callKind = callKind) :
    Act env hooked (some callKind) targets state (.ok ()) (state.withCtx state.ctx.advance) :=
  .consumed found (by rw [same]) (.inl rfl : Handed _ _ [] _ _) _

def CallKind.starts : CallKind → Bool
  | .start | .query | .warmCerts | .warmImages => true
  | _ => false

variable {resources : List ResourceInstance}

theorem claimStarted_acts (state : PassState) (starts : callKind.starts) (warm : WarmMode)
    (resolved : callKind = .start → targets = some resources) :
    Acts env hooked (some callKind) targets state
      (claimStarted callKind resources warm state) := by
  have handed : Handed (some callKind) targets resources state
      (state.handles ++ [⟨resources, warm, some state.ctx.callIndex⟩]) :=
    .inr ⟨_, rfl, rfl, rfl, fun start => resolved (Option.some.inj start)⟩
  unfold claimStarted ReplayContext.claimLogPosition
  rcases replayStep_cases state.ctx callKind none with
    ⟨mismatch, stepped⟩ | ⟨stepped, free⟩ | ⟨entry, stepped, found, same⟩ <;> rw [stepped]
  · exact .refused _
  · refine .noted callKind resources none free rfl ?_ (.inl ?_) handed _
    · cases callKind <;> trivial
    · cases callKind <;> rfl
  · exact .consumed found (by rw [same]) handed _

theorem Comes.claimed (live : ¬ state.ctx.probeMode) {rows : List Effect}
    (row : ∀ effect ∈ rows, effect.isHook = false) (starts : callKind.starts)
    (warm : WarmMode) (resolved : callKind = .start → targets = some resources) :
    Comes env (some callKind) targets false state
      ((state.perform rows).guarded (claimStarted callKind resources warm)) := by
  refine ⟨_, .intro state.ctx.anonCounter row ?_, answers_guarded fun notHit => ?_⟩
  · rintro (none | stop | probing)
    · cases none
    · cases stop
      cases starts
    · exact absurd probing live
  · refine .acted ?_ notHit (by rintro ⟨⟩) (claimStarted_acts _ starts warm resolved)
    exact live

theorem doStartOrQuery_comes (targets : Option (List ResourceInstance)) {extracted : List Extracted}
    (starts : callKind.starts)
    (resolved : callKind = .start → targets = some (extracted.map Prod.fst)) :
    Comes env (some callKind) targets false state
      (doStartOrQuery env extracted callKind state) := by
  unfold doStartOrQuery
  split
  · rename_i probing
    exact .of_answers (.probed probing (by simpa [ReplayContext.probeMode] using probing) _)
  · rename_i live
    refine .claimed live ?_ starts .none resolved
    intro effect mem
    obtain ⟨pair, _, rfl⟩ := List.mem_map.mp mem
    rfl

theorem doWarmCerts_comes (env : Env) (extracted : List Extracted) :
    Comes env (some .warmCerts) none false state (doWarmCerts extracted state) := by
  unfold doWarmCerts
  split
  · rename_i probing
    exact .of_answers (.probed probing probing _)
  · rename_i live
    refine .of_answers (answers_guarded fun notHit => .acted live notHit (by rintro ⟨⟩) ?_)
    exact claimStarted_acts state rfl .certs (by rintro ⟨⟩)

theorem doWarmImages_comes (extracted : List Extracted) :
    Comes env (some .warmImages) none false state (doWarmImages env extracted state) := by
  unfold doWarmImages
  split
  · rename_i probing
    exact .of_answers (.probed probing (by simpa [ReplayContext.probeMode] using probing) _)
  · rename_i live
    refine .claimed live ?_ rfl (.images _) (by rintro ⟨⟩)
    intro effect mem
    obtain ⟨reference, _, rfl⟩ := List.mem_map.mp mem
    rfl

/-! ## Signals, commands and writes -/

theorem deliver_runs (instances : List ResourceInstance) (name : String) :
    (deliver env instances name).filterMap Effect.run =
        instances.map (fun inst => Run.signal inst.displayName name) ∨
      ¬ env.Hooked ∧ Quiet (deliver env instances name) := by
  unfold deliver
  cases installed : env.signaler with
  | none => exact .inr ⟨fun hooked => by simpa [installed] using hooked.signaler, rfl⟩
  | some => exact .inl (by simp [Function.comp_def, Effect.run])

variable (resources : List ResourceInstance)

theorem doSignal_comes (name : String) : Comes env (some .signal) none false state
      (doSignal env resources name state) := by
  unfold doSignal
  split
  · exact .failed _
  · rename_i canonical _
    split
    · exact .failed _
    · split
      · rename_i probing
        exact .idle probing _
      · rename_i live
        refine .of_answers (answers_guarded fun notHit => .acted live notHit (by rintro ⟨⟩) ?_)
        rcases replayStep_cases state.ctx .signal (some canonical) with
          ⟨mismatch, stepped⟩ | ⟨stepped, free⟩ | ⟨entry, stepped, found, same⟩ <;> rw [stepped]
        · exact .refused _
        · exact .ran .signal (expandSignalTargets env resources) (some (.text canonical)) free rfl
            trivial (deliver_runs _ _)
        · exact .replayed found same

theorem doExec_comes (target : ResourceInstance) (argv : List String)
    (extraEnv : List (String × String)) :
    Comes env (some .exec) none true state
      (doExec env target argv extraEnv state) := by
  unfold doExec
  split
  · exact .failed _
  · split
    · rename_i probing
      exact .idle probing _
    · rename_i live
      refine .of_answers (answers_guarded fun notHit => answers_uncancelled live notHit ?_)
      cases found : state.ctx.committedEntry with
      | some entry =>
        simp only [replayExec]
        split
        · exact .overrun found (.inl rfl) _
        · rename_i same
          split
          · exact .replayed found (not_not.mp same)
          · exact .overrun found (.inl rfl) _
      | none =>
        simp only [freshExec]
        split
        · rename_i missing
          exact .noted .exec [target] (some (.exitCode 0)) found rfl trivial
            (.inr fun hooked => by simpa [missing] using hooked.executor) (.inl rfl) _
        · split
          · rename_i outcome
            rw [outcome]
            exact .inVain _ found rfl _
          · rename_i code outcome
            rw [outcome]
            exact .ran .exec [target] (some (.exitCode code)) found rfl trivial (.inl rfl)

theorem doWrite_comes (target : VolumeWriteTarget) (inst : ResourceInstance) (path : String)
    (contents : List UInt8) :
    Comes env (some .write) none true state
      (doWrite op env target inst path contents state) := by
  unfold doWrite
  split
  · exact .failed _
  · split
    · rename_i probing
      exact .idle probing _
    · rename_i live
      refine .of_answers (answers_guarded fun notHit => answers_uncancelled live notHit ?_)
      rcases replayStep_cases state.ctx .write none with
        ⟨mismatch, stepped⟩ | ⟨stepped, free⟩ | ⟨entry, stepped, found, same⟩ <;> rw [stepped]
      · exact .refused _
      · simp only [freshWrite]
        split
        · rename_i missing
          exact .noted .write [inst] (some (.text path)) free rfl trivial
            (.inr fun hooked => by simpa [missing] using hooked.writer) (.inl rfl) _
        · split
          · rename_i outcome
            rw [outcome]
            exact .inVain _ free rfl _
          · rename_i outcome
            rw [outcome]
            exact .ran .write [inst] (some (.text path)) free rfl trivial (.inl rfl)
      · exact .replayed found same

/-! ## Stops and barriers -/

theorem stopHere_acts (may : state.ctx.MayStop) (resources : List ResourceInstance)
    (deadline : Option Nat) :
    Acts env hooked (some .stop) (some resources) state
      (stopHere env resources deadline state) := by
  unfold stopHere
  dsimp only
  split
  · exact .refused _
  · split
    · exact .stopped may rfl rfl deadline
    · exact .stopping may rfl rfl deadline _

theorem doStop_comes (deadline : Option Nat) : Comes env (some .stop) (some resources) true state
      (doStop env resources deadline state) := by
  unfold doStop
  split
  · rename_i probing
    exact .idle probing _
  · rename_i live
    refine .of_answers (answers_guarded fun notHit => answers_uncancelled live notHit ?_)
    cases found : state.ctx.committedEntry with
    | none => exact stopHere_acts (.inl found) resources deadline
    | some old =>
      dsimp only
      split
      · exact .refused _
      · rename_i same
        have isStop : old.callKind = .stop := not_not.mp same
        split
        · exact .replayed found isStop
        · rename_i waiting
          exact stopHere_acts (.inr ⟨old, found, isStop, Bool.of_not_eq_true waiting⟩) resources
            deadline

theorem checkBarrier_answers {whole started : Started} (known : whole ∈ state.handles)
    (origin : started.originIndex = whole.originIndex) (required : LifecycleState)
    (deadline : Option Nat) :
    Answers env none none true state (checkBarrier env started required deadline state) := by
  refine answers_guarded fun notHit => ?_
  split
  · rename_i probing
    exact .probed probing probing state.handles
  · rename_i live
    refine answers_uncancelled live notHit ?_
    dsimp only
    split
    · exact .drawn rfl _ nofun
    · split
      · exact .passed rfl known origin _
      · split
        · exact .drawn rfl _ (by rintro _ ⟨⟩; rfl)
        · exact .waiting rfl known origin _ _

theorem doBarrier_comes (ref : StartedRef) (method : BarrierMethod) :
    Comes env none none true state (doBarrier env ref method state) := by
  unfold doBarrier
  split
  · exact .failed _
  · rename_i started found
    split
    · exact .failed _
    · rename_i deadline _
      obtain ⟨whole, atHandle, rfl⟩ : ∃ whole, state.handles[ref.handle]? = some whole ∧
          whole.narrowedTo ref.keep = started := by
        simpa [StartedRef.lookup] using found
      have checked : Answers env none none true state
          (checkBarrier env (whole.narrowedTo ref.keep) method.required deadline state) :=
        checkBarrier_answers (List.mem_of_getElem? atHandle)
          (show (whole.narrowedTo ref.keep).originIndex = _ from rfl) _ deadline
      split <;> rename_i outcome <;> rw [outcome] at checked
      · exact .of_answers checked
      · exact .of_answers checked

theorem doRestart_comes (resource : Resource) :
    Comes env none none true state (doRestart env resource state) := by
  unfold doRestart
  split
  · split
    · exact .failed _
    · split
      · rename_i probing
        exact .idle probing _
      · rename_i live
        dsimp only
        split
        · exact .of_answers (.restarted rfl (by simpa using live) rfl (by rintro _ ⟨⟩; rfl))
        · exact .of_answers (.restarted rfl (by simpa using live) rfl nofun)
  · exact .failed _

/-! ## All calls -/

/-- The instances the argument of a start or a stop resolves to. -/
def Call.resolved (op : Operation) (env : Env) (call : Call) (state : PassState) :
    Option (List ResourceInstance) :=
  let resolve (reuse : InstanceReuse) (target : Target) : Option (List ResourceInstance) :=
    match (extractInstances op env reuse state.handles state.ctx.anonCounter target).1 with
    | .ok found => some (found.map Prod.fst)
    | .error _ => none
  match call with
  | .start target => resolve .live target
  | .stop target _ => resolve .any target
  | _ => none

theorem withTarget_comes {reuse : InstanceReuse} {target : Target}
    {next : List Extracted → PassState → Outcome}
    (comes : ∀ found after,
      (extractInstances op env reuse state.handles state.ctx.anonCounter target).1 = .ok found →
      Comes env kind targets honours after (next found after)) :
    Comes env kind targets honours state (withTarget op env reuse target next state) := by
  unfold withTarget
  split
  · exact ⟨_, .recounted _, .early _⟩
  · rename_i found counter extracted
    obtain ⟨_, ⟨counter, row, rowless⟩, answers⟩ := comes found
      (state.withCtx { state.ctx with anonCounter := counter }) (by rw [extracted])
    exact ⟨_, .intro counter row rowless, answers⟩

/-- **What a call comes to.** -/
theorem dispatch_comes (op : Operation) (env : Env) (call : Call) (state : PassState) :
    Comes env call.kind (call.resolved op env state) call.honoursCancel state
      (dispatch op env call state) := by
  cases call with
  | start =>
    refine withTarget_comes fun found after extracted =>
      doStartOrQuery_comes _ rfl fun _ => ?_
    simp only [Call.resolved, extracted]
  | query =>
    exact withTarget_comes fun found after _ =>
      doStartOrQuery_comes _ rfl (by rintro ⟨⟩)
  | warmCerts => exact withTarget_comes fun found after _ => doWarmCerts_comes env found
  | warmImages => exact withTarget_comes fun found after _ => doWarmImages_comes found
  | stop target deadline =>
    refine withTarget_comes fun found after extracted => ?_
    have resolved : Call.resolved op env (.stop target deadline) state =
        some (found.map Prod.fst) := by
      simp only [Call.resolved, extracted]
    rw [resolved]
    split
    · exact .failed _
    · exact doStop_comes _ _
  | signal target name => exact withTarget_comes fun found after _ => doSignal_comes _ name
  | write target path contents =>
    unfold dispatch
    dsimp only
    split
    · exact .failed _
    · exact doWrite_comes _ _ path contents
  | exec target argv extraEnv =>
    unfold dispatch
    dsimp only
    split
    · exact .failed _
    · split
      · exact .failed _
      · exact doExec_comes _ argv extraEnv
  | barrier ref method => exact doBarrier_comes ref method
  | restart resource => exact doRestart_comes resource

/-- **What entering a sub-action comes to.**  It is neither guarded nor cancelled. -/
theorem enterAction_acts (env : Env) (call : SubActionCall) (state : PassState) :
    Acts env hooked (some .subAction) targets state (enterAction env call state) := by
  unfold enterAction
  split
  · exact .refused _
  · split
    · exact .refused _
    · rcases replayStep_cases state.ctx .subAction none with
        ⟨mismatch, stepped⟩ | ⟨stepped, free⟩ | ⟨entry, stepped, found, same⟩ <;> rw [stepped]
      · exact .refused _
      · dsimp only
        split
        · exact .refused _
        · rename_i params _
          exact .noted .subAction [] (some (.subAction call.action params)) free rfl trivial
            (.inl rfl) (.inl rfl) _
      · dsimp only
        split
        · exact .overrun found (.inr ⟨rfl, same⟩) _
        · exact .consumed found (by rw [same]) (.inl rfl : Handed _ _ [] _ _) _

end Surfaces

end Seedling.Barrier
