import Seedling.Apps.Handlers

/-!
# What a request can do to an app

`AppEffect` lists everything a request can do to the state of an app, and
`serve_effect` says that there is nothing else.  Later proofs about apps go by
cases on the effect and never unfold a handler.
-/

namespace Seedling.Apps

open Function AppState Outcome

section Effects

variable {Bundle : Type} (engine : Engine Bundle) (cipher : Cipher) (allowed : List String)
  (app : String) (state : AppState Bundle)

/-! ## Registering -/

def registeredEntry (bundle : Bundle) (generation : Nat) : AppEntry Bundle where
  bundle := bundle
  appDef := engine.build app bundle fun _ => none
  evaluatedBundle := bundle
  evaluatedValues := fun _ => none
  phase := .notInstalled
  scriptError := engine.error app bundle fun _ => none
  currentGeneration := generation

theorem registerResolved_eq (bundle : Bundle) :
    ∃ faults schedules, registerResolved engine cipher allowed app bundle state =
        (⟨.ok ⟨some (state.maxGeneration + 1), none⟩, [.registered (state.maxGeneration + 1)],
            [fun _ => none]⟩,
          { state with
            entry := some (registeredEntry engine app bundle (state.maxGeneration + 1))
            row := some (.ofPhase .notInstalled (state.maxGeneration + 1))
            generations := state.generations ++ [⟨state.maxGeneration + 1, .register, bundle, none⟩]
            faults
            schedules }) := by
  let filled : AppState Bundle :=
    { state with
      entry := some (registeredEntry engine app bundle (state.maxGeneration + 1))
      row := some (.ofPhase .notInstalled (state.maxGeneration + 1))
      generations := state.generations ++ [⟨state.maxGeneration + 1, .register, bundle, none⟩] }
  obtain ⟨faults, synced⟩ := syncFaultState_frame filled allowed
  obtain ⟨schedules, scheduled⟩ := syncActionSchedules_frame { filled with faults }
  refine ⟨faults, schedules, Prod.ext rfl ?_⟩
  show (filled.syncFaultState allowed).syncActionSchedules = _
  rw [synced, scheduled]

theorem checkRegistrable_ok {app : String} {state : AppState Bundle}
    (accepted : checkRegistrable app state = .ok ()) :
    isWellFormedName app ∧ state.entry = none := by
  unfold checkRegistrable validateName at accepted
  split at accepted
  · cases accepted
  · split at accepted
    · rename_i wellFormed
      refine ⟨wellFormed, ?_⟩
      cases reserved : checkAppName app with
      | error => simp [reserved] at accepted; cases accepted
      | ok =>
        cases found : state.entry with
        | none => rfl
        | some => simp [reserved, found] at accepted; cases accepted
    · cases accepted

theorem registerApp_cases (bundle : Bundle) :
    (∃ error, registerApp engine cipher allowed app bundle state = (.refused error, state)) ∨
      state.entry = none ∧ isWellFormedName app ∧
        registerApp engine cipher allowed app bundle state =
          registerResolved engine cipher allowed app bundle state := by
  unfold registerApp
  cases checked : checkRegistrable app state with
  | error error => exact .inl ⟨error, rfl⟩
  | ok _ =>
    cases installable : engine.checkInstallable bundle with
    | error error => exact .inl ⟨error, by simp⟩
    | ok =>
      obtain ⟨wellFormed, free⟩ := checkRegistrable_ok checked
      exact .inr ⟨free, wellFormed, by simp⟩

/-! ## Parameters -/

variable (entry : AppEntry Bundle)

theorem reloadAndPersist_eq (generation : Nat) :
    reloadAndPersist engine cipher allowed app entry generation state =
      { state with
        entry := some
          { reload engine app entry (state.loadAllParams cipher) with
            currentGeneration := generation }
        row := some (.ofPhase (reload engine app entry (state.loadAllParams cipher)).phase
          generation)
        faults :=
          (reloadAndPersist engine cipher allowed app entry generation state).faults } := by
  let reloaded : AppState Bundle :=
    { state with entry := some (reload engine app entry (state.loadAllParams cipher)) }
  obtain ⟨faults, synced⟩ := syncFaultState_frame reloaded allowed
  have persisted : reloadAndPersist engine cipher allowed app entry generation state =
      ({ reloaded with faults, entry := _ } : AppState Bundle).persistAppFields _ _ :=
    congrArg (fun synced : AppState Bundle => persistAppFields { synced with entry := _ } _ _) synced
  rw [persisted]
  rfl

/-! ## Updates -/

def updatedEntry (entry : AppEntry Bundle) (bundle : Bundle) (appDef : AppDef) (values : Values)
    (generation : Nat) : AppEntry Bundle :=
  { entry with
    bundle
    appDef
    evaluatedBundle := bundle
    evaluatedValues := values
    scriptError := none
    currentGeneration := generation }

theorem publishUpdate_eq (bundle : Bundle) (appDef : AppDef) (values : Values) (generation : Nat) :
    let published := publishUpdate engine allowed entry bundle appDef values generation state
    published =
      { state with
        entry := some (updatedEntry entry bundle appDef values generation)
        faults := published.faults
        scaling := published.scaling
        schedules := published.schedules } := by
  let filled : AppState Bundle :=
    { state with entry := some (updatedEntry entry bundle appDef values generation) }
  obtain ⟨faults, synced⟩ := syncFaultState_frame filled allowed
  obtain ⟨faults', unsupported⟩ := syncFault_frame { filled with faults } "definition_unsupported"
    (engine.unsupported bundle)
  obtain ⟨faults'', moved⟩ := syncFault_frame { filled with faults := faults' }
    "definition_source_moved" none
  let clamped := clampScalingDecisions { filled with faults := faults'' } appDef.deployments
  obtain ⟨schedules, scheduled⟩ := syncActionSchedules_frame clamped
  have published : publishUpdate engine allowed entry bundle appDef values generation state =
      { clamped with schedules } := by
    show (clampScalingDecisions (((filled.syncFaultState allowed).syncFault _ _).syncFault _ _)
      _).syncActionSchedules = _
    rw [synced, unsupported, moved]
    exact scheduled
  simp only [published]
  rfl

end Effects

/-! ## The effects -/

/-- The parameter change an event tells of, with the values it shows. -/
def AppEvent.shows : AppEvent → Option (String × Option String × Option String)
  | .paramSet name _ _ (some (previous, value)) => some (name, previous, some value)
  | .paramUnset name _ _ previous => some (name, previous, none)
  | .updated _ _ param => param
  | _ => none

/-- The request puts a definition in force. -/
def AppRequest.installs {Bundle : Type} : AppRequest Bundle → Bool
  | .register _ | .update .. | .load => true
  | _ => false

/-- The request sets the parameter, or unsets it, and announces that. -/
inductive ParamRequest {Bundle : Type} (name : String) :
    AppRequest Bundle → Option String → Announcement → Prop
  | set (busy : Bool) (value : String) :
      ParamRequest name (.setParam busy name value) (some value) (announceSet name value)
  | unset (busy : Bool) :
      ParamRequest name (.unsetParam busy name) none (announceUnset name)

/-- The outcome carries no parameter value and schedules no change handler. -/
structure Outcome.Plain (outcome : Outcome) : Prop where
  silent : ∀ event ∈ outcome.events, event.shows = none
  unscheduled : ∀ reply, outcome.answer = .ok reply → reply.onChange = none

theorem Outcome.plain_quiet : quiet.Plain := ⟨by simp [quiet], by rintro _ ⟨⟩; rfl⟩

section AppEffect

variable {Bundle : Type} (host : Host Bundle) (app : String) (state : AppState Bundle)

inductive AppEffect : AppRequest Bundle → Outcome × AppState Bundle → Prop
  | unchanged (request : AppRequest Bundle) (outcome : Outcome) (plain : outcome.Plain)
      (settled : request.installs → outcome.answer.isOk = false) :
      AppEffect request (outcome, state)
  /-- The name was free, and is now that of an app. -/
  | registered (bundle : Bundle) (faults : List Fault)
      (schedules : String × String → Option (Option Nat)) (outcome : Outcome)
      (free : state.entry = none) (plain : outcome.Plain) :
      AppEffect (.register bundle) (outcome,
          { state with
            entry := some (registeredEntry host.engine app bundle (state.maxGeneration + 1))
            row := some (.ofPhase .notInstalled (state.maxGeneration + 1))
            generations := state.generations ++ [⟨state.maxGeneration + 1, .register, bundle, none⟩]
            faults
            schedules })
  /-- A value was stored, and no generation could be recorded for it. -/
  | unrecorded (request : AppRequest Bundle) (entry : AppEntry Bundle) (name : String)
      (value : Option String) (announce : Announcement) (error : OiError)
      (evaluated : List Values) (found : state.entry = some entry)
      (asked : ParamRequest name request value announce) :
      AppEffect request (⟨.error error, [], evaluated⟩,
          state.storeParamValue host.cipher name value (entry.appDef.isSecret name))
  /-- A value was stored and recorded, and the definition re-evaluated. -/
  | paramChanged (request : AppRequest Bundle) (entry : AppEntry Bundle) (name : String)
      (value : Option String) (announce : Announcement) (bundle : Bundle) (reply : Reply)
      (evaluated : List Values) (generation : Nat) (bumped : AppState Bundle)
      (found : state.entry = some entry)
      (asked : ParamRequest name request value announce)
      (recorded : (generation, bumped) =
        (state.storeParamValue host.cipher name value (entry.appDef.isSecret name)).bump
          host.cipher (if value.isSome then .paramSet else .paramUnset) bundle
          (some ⟨name, state.loadAllParams host.cipher name, value, entry.appDef.isSecret name,
            state.isStoredSecret name⟩)) :
      AppEffect request (⟨.ok reply,
            [announce generation entry.currentGeneration (entry.appDef.isSecret name)
              (state.isStoredSecret name) (state.loadAllParams host.cipher name)],
            evaluated⟩,
          reloadAndPersist host.engine host.cipher host.allowed app entry generation bumped)
  /-- The definition was replaced, perhaps together with one value. -/
  | updated (busy : Bool) (entry : AppEntry Bundle) (bundle : Bundle) (appDef : AppDef)
      (param : Option (String × Option String))
      (change : Option (String × Option String × Option String)) (previousIsSecret : Bool)
      (values : Values) (reply : Reply) (evaluated : List Values)
      (previousGeneration : Option Nat) (generation : Nat) (committed : AppState Bundle)
      (found : state.entry = some entry)
      (carried : change = updateChange host.cipher state param)
      (held : previousIsSecret = param.any fun changed => state.isStoredSecret changed.1)
      (recorded : (generation, committed) =
        commitUpdate host.cipher bundle appDef previousIsSecret change state) :
      AppEffect (.update busy bundle param) (⟨.ok reply, [.updated generation previousGeneration
              (change.map fun changed =>
                (changed.1, if previousIsSecret then none else changed.2.1,
                  if appDef.isSecret changed.1 then none else changed.2.2))],
            evaluated⟩,
          publishUpdate host.engine host.allowed entry bundle appDef values generation committed)
  | deregistered (entry : AppEntry Bundle) (outcome : Outcome)
      (found : state.entry = some entry)
      (plain : outcome.Plain) :
      AppEffect (.deregister false)
        (outcome, { AppState.blank with secretParams := state.secretParams })
  /-- Operator decisions, schedules and faults of an app changed. -/
  | adjusted (request : AppRequest Bundle) (scaling : String → Option Nat)
      (stopped : ResourceKind × String → Bool)
      (schedules : String × String → Option (Option Nat)) (faults : List Fault)
      (outcome : Outcome) (known : state.entry.isSome)
      (plain : outcome.Plain) (other : request.installs = false) :
      AppEffect request (outcome, { state with scaling, stopped, schedules, faults })
  | rephased (phase : AppPhase) : AppEffect (.enterPhase phase)
      (.quiet, state.setPhaseAndPersist phase)
  /-- An uninstall or the reconciler moved the app to a phase. -/
  | transitioned (request : AppRequest Bundle) (phase : AppPhase)
      (scaling : String → Option Nat) (stopped : ResourceKind × String → Bool)
      (outcome : Outcome) (kept : state.entry = none → scaling = state.scaling ∧
        stopped = state.stopped)
      (plain : outcome.Plain) (other : request.installs = false) :
      AppEffect request (outcome, { state.transitionPhase phase with scaling, stopped })
  /-- The app could not be loaded. -/
  | skipped (missing : ∀ row, state.row = some row → row.currentGeneration = 0 ∨
      state.definitionAt row.currentGeneration = none) :
      AppEffect .load (.quiet, { state with entry := none })
  | loaded (row : RegisteredRow) (entry : AppEntry Bundle) (evaluated : List Values)
      (found : state.row = some row) (current : entry.currentGeneration = row.currentGeneration)
      (phase : entry.phase = row.decodePhase) :
      AppEffect .load (⟨.ok ⟨none, none⟩, [], evaluated⟩,
          { state.migrateNewlySecretParams host.cipher entry.appDef with entry := some entry })

variable {host app state} (request : AppRequest Bundle)

theorem AppEffect.failed (error : OiError) (evaluated : List Values) :
    AppEffect host app state request (⟨.error error, [], evaluated⟩, state) :=
  .unchanged request _ ⟨by simp, nofun⟩ fun _ => rfl

theorem AppEffect.refused (error : OiError) :
    AppEffect host app state request (.refused error, state) :=
  .failed request error []

theorem Outcome.plain_event {event : AppEvent} {generation : Option Nat}
    {evaluated : List Values} (silent : event.shows = none) :
    Outcome.Plain ⟨.ok ⟨generation, none⟩, [event], evaluated⟩ :=
  ⟨by simpa using silent, by rintro _ ⟨⟩; rfl⟩

variable (busy : Bool)

theorem changeParam_effect {request : AppRequest Bundle} {name : String} {value : Option String}
    {announce : Announcement} (asked : ParamRequest name request value announce) :
    AppEffect host app state request
      (changeParam host.engine host.cipher host.allowed app busy name value announce state) := by
  unfold changeParam
  split
  · exact .refused _ _
  · rename_i entry found
    split
    · exact .refused _ _
    · split
      · exact .refused _ _
      · dsimp only
        split
        · exact .unchanged _ _ ⟨by simp, by rintro _ ⟨⟩; rfl⟩ (by cases asked <;> nofun)
        · split
          · exact .failed _ _ _
          · split
            · exact .unrecorded request entry name value announce _ _ found asked
            · rename_i bundle _
              exact .paramChanged request entry name value announce bundle _ _ _ _ found asked rfl

theorem updateApp_effect (bundle : Bundle) (param : Option (String × Option String)) :
    AppEffect host app state (.update busy bundle param)
      (updateApp host.engine host.cipher host.allowed app busy bundle param state) := by
  unfold updateApp
  split
  · exact .refused _ _
  · rename_i entry found
    split
    · exact .refused _ _
    · split
      · exact .refused _ _
      · dsimp only
        split
        · exact .failed _ _ _
        · split
          · exact .failed _ _ _
          · exact .updated busy entry bundle _ param _ _ _ _ _ _ _ _ found rfl rfl rfl

theorem deregisterApp_effect :
    AppEffect host app state (.deregister busy) (deregisterApp app busy state) := by
  unfold deregisterApp
  split
  · exact .refused _ _
  · rename_i entry found
    split
    · exact .refused _ _
    · rename_i idle
      obtain rfl : busy = false := by simpa using idle
      split
      · exact .refused _ _
      · exact .refused _ _
      · exact .refused _ _
      · exact .deregistered entry _ found (plain_event rfl)

theorem loadApp_effect :
    AppEffect host app state .load (loadApp host.engine host.cipher app state) := by
  unfold loadApp
  split
  · rename_i absent
    exact .skipped fun row found => by rw [absent] at found; cases found
  · rename_i row found
    have only : ∀ other, state.row = some other → other = row := fun other same => by
      rw [found] at same
      exact (Option.some.inj same).symm
    split
    · rename_i unset
      exact .skipped fun other same => .inl (only other same ▸ unset)
    · split
      · rename_i undefined
        exact .skipped fun other same => .inr (only other same ▸ undefined)
      · exact .loaded row _ _ found rfl rfl

/-- **Everything a request can do.** -/
theorem serve_effect : AppEffect host app state request (serve host app request state) := by
  cases request with
  | register bundle =>
    rcases registerApp_cases host.engine host.cipher host.allowed app state bundle with
      ⟨error, refused⟩ | ⟨free, _, accepted⟩
    · rw [serve, refused]
      exact .refused _ _
    · obtain ⟨faults, schedules, resolved⟩ :=
        registerResolved_eq host.engine host.cipher host.allowed app state bundle
      rw [serve, accepted, resolved]
      exact .registered bundle faults schedules _ free (plain_event rfl)
  | setParam busy name value => exact changeParam_effect busy (.set busy value)
  | unsetParam busy => exact changeParam_effect busy (.unset busy)
  | update busy bundle param => exact updateApp_effect busy bundle param
  | uninstall =>
    rw [serve, uninstallApp]
    split
    · exact .refused _ _
    · rename_i entry found
      split
      · exact .transitioned _ .uninstalling _ _ _
          (fun absent => by rw [found] at absent; cases absent) (plain_event rfl) rfl
      · exact .refused _ _
      · exact .refused _ _
      · exact .refused _ _
  | deregister busy => exact deregisterApp_effect busy
  | scale deployment scale =>
    rw [serve, scaleApp]
    split
    · exact .refused _ _
    · rename_i entry found
      split
      · exact .refused _ _
      · exact .adjusted _ _ _ _ _ _ (by simp [found]) (plain_event rfl) rfl
  | stop busy kind name =>
    rw [serve, stopResource]
    split
    · exact .refused _ _
    · split
      · exact .refused _ _
      · split
        · exact .refused _ _
        · rename_i entry found
          split
          · exact .adjusted _ _ _ _ _ _ (by simp [found]) (plain_event rfl) rfl
          · exact .refused _ _
  | unstop busy kind name =>
    rw [serve, unstopResource]
    split
    · exact .refused _ _
    · rename_i registered
      split
      · exact .refused _ _
      · exact .adjusted _ _ _ _ _ _ (by simpa [Option.isSome_iff_ne_none] using registered)
          (plain_event rfl) rfl
  | enterPhase phase => exact .rephased phase
  | transition phase =>
    exact .transitioned _ phase state.scaling state.stopped .quiet (fun _ => ⟨rfl, rfl⟩)
      plain_quiet rfl
  | fired now action cronexpr accepted =>
    rw [serve]
    split
    · rename_i known
      unfold scheduleFired
      split
      · exact .adjusted _ _ _ _ _ .quiet known plain_quiet rfl
      · exact .unchanged _ _ plain_quiet nofun
    · exact .unchanged _ _ plain_quiet nofun
  | fault fault =>
    rw [serve]
    split
    · rename_i known
      exact .adjusted _ _ _ _ _ .quiet known plain_quiet rfl
    · exact .unchanged _ _ plain_quiet nofun
  | load => exact loadApp_effect

end AppEffect

end Seedling.Apps
