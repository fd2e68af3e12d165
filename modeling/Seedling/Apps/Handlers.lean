import Seedling.Apps.Store
import Seedling.Foundation.Machine

/-!
# Requests about one app

The handlers that change what the daemon holds about an app.  Each is a function of the
app's own state; whether an operation is active or queued for the app is handed in as
`busy`.

An `Outcome` carries what the caller is told, the events that are announced, and
every value map the app's script was run with.  `AppRequest` is the sum of all
of them, with the changes operations and the reconciler make to an app, and
`storeMachine` serves requests about any apps one after another.
-/

namespace Seedling.Apps

open Function

/-! ## Outcomes -/

/-- Events announced about an app.  A redacted value is absent. -/
inductive AppEvent where
  | registered (generation : Nat)
  | deregistered
  | phaseChanged (phase : AppPhase)
  | paramSet (name : String) (generation previousGeneration : Nat)
      (values : Option (Option String × String))
  | paramUnset (name : String) (generation previousGeneration : Nat) (previous : Option String)
  | updated (generation : Nat) (previousGeneration : Option Nat)
      (param : Option (String × Option String × Option String))
  | scaled (deployment : String) (scale previous : Nat)
  | resourceStopped (kind : ResourceKind) (name : String)
  | resourceUnstopped (kind : ResourceKind) (name : String)

/-- What a request answers: the generation it leads to and the parameter whose
change handler is to be scheduled. -/
structure Reply where
  generation : Option Nat
  onChange : Option String

structure Outcome where
  answer : Except OiError Reply
  events : List AppEvent
  /-- The value maps the app's script was run with. -/
  evaluated : List Values

namespace Outcome

def refused (error : OiError) : Outcome := ⟨.error error, [], []⟩

def quiet : Outcome := ⟨.ok ⟨none, none⟩, [], []⟩

end Outcome

section Handlers

variable {Bundle : Type} (engine : Engine Bundle) (cipher : Cipher) (allowed : List String)
  (app : String)

/-! ## Registering -/

def validateName (name : String) : Except OiError Unit :=
  if name.toList.head? = some '_' then
    .error ⟨.requirementsInvalid, "name must not start with an underscore"⟩
  else if isWellFormedName name then .ok ()
  else
    .error ⟨.requirementsInvalid,
      s!"invalid name '{name}': must match ^[a-zA-Z][a-zA-Z0-9-]\x7b1,60\x7d[a-zA-Z0-9]$"⟩

variable (state : AppState Bundle)

def checkRegistrable : Except OiError Unit := do
  validateName app
  match checkAppName app with
  | .error reserved => throw ⟨.requirementsInvalid, reserved.toText⟩
  | .ok () =>
    if state.entry.isSome then
      throw ⟨.requirementsInvalid, s!"app already registered: {app}"⟩

/-- Register a definition: its script is run with no values at all. -/
def registerResolved (bundle : Bundle) (state : AppState Bundle) : Outcome × AppState Bundle :=
  let noValues : Values := fun _ => none
  let (appDef, scriptError) := engine.evaluate app bundle noValues
  let (generation, state) :=
    (state.persistAppFields .notInstalled 0).bump cipher .register bundle none
  let state := state.persistAppFields .notInstalled generation
  let state :=
    { state with
      entry := some
        { bundle
          appDef
          evaluatedBundle := bundle
          evaluatedValues := noValues
          phase := .notInstalled
          scriptError
          currentGeneration := generation } }
  (⟨.ok ⟨some generation, none⟩, [.registered generation], [noValues]⟩,
    (state.syncFaultState allowed).syncActionSchedules)

def registerApp (bundle : Bundle) (state : AppState Bundle) : Outcome × AppState Bundle :=
  match checkRegistrable app state with
  | .error error => (.refused error, state)
  | .ok () =>
    match engine.checkInstallable bundle with
    | .error error => (.refused error, state)
    | .ok () => registerResolved engine cipher allowed app bundle state

/-! ## Parameters -/

variable (entry : AppEntry Bundle)

/-- What the validators say of the proposed values: those of the current
definition if it evaluates with them, else those of the last good evaluation.
Paired with the value maps the script was run with. -/
def validateProposed (proposed : Values) : List Values × Except OiError Unit :=
  let (evaluated, rejections) :=
    match (engine.evaluateValidated app entry.bundle proposed proposed).2 with
    | .ok rejections => ([proposed], rejections)
    | .error _ =>
      ([proposed, entry.evaluatedValues],
        match (engine.evaluateValidated app entry.evaluatedBundle entry.evaluatedValues
          proposed).2 with
        | .ok rejections => rejections
        | .error _ => [])
  (evaluated, if rejections = [] then .ok () else .error (validationError rejections))

/-- Re-evaluate the app's own definition with the stored values.  A failed
evaluation keeps the previous one. -/
def reload (values : Values) : AppEntry Bundle :=
  match engine.evaluate app entry.bundle values with
  | (appDef, none) =>
    { entry with
      appDef
      evaluatedBundle := entry.bundle
      evaluatedValues := values
      scriptError := none }
  | (_, some error) => { entry with scriptError := some error }

def reloadAndPersist (generation : Nat) (state : AppState Bundle) : AppState Bundle :=
  let reloaded := reload engine app entry (state.loadAllParams cipher)
  let state := { state with entry := some reloaded }.syncFaultState allowed
  { state with entry := some { reloaded with currentGeneration := generation } }.persistAppFields
    reloaded.phase generation

/-- The parameter's change handler, if the definition has one that may run. -/
def onChangeHandler (name : String) : Option String :=
  if name ∈ entry.appDef.paramChanges && (entry.phase = .installed || entry.phase = .uninstalling)
  then some name
  else none

/-- What a parameter request announces, from the generations, whether the new
and the previous value are secret, and the previous value. -/
abbrev Announcement := Nat → Nat → Bool → Bool → Option String → AppEvent

/-- Set a parameter to `value`, or unset it. -/
def changeParam (busy : Bool) (name : String) (value : Option String) (announce : Announcement)
    (state : AppState Bundle) : Outcome × AppState Bundle :=
  match state.entry with
  | none => (.refused (appNotFound app), state)
  | some entry =>
    if busy then (.refused (operationInProgress app), state)
    else if entry.phase = .installing then
      (.refused ⟨.operationInProgress, s!"install is in progress for app: {app}"⟩, state)
    else
      let previous := state.loadAllParams cipher name
      if previous = value then
        (⟨.ok ⟨some entry.currentGeneration, none⟩, [], []⟩, state)
      else
        let proposed := update (state.loadAllParams cipher) name value
        match validateProposed engine app entry proposed with
        | (evaluated, .error error) => (⟨.error error, [], evaluated⟩, state)
        | (evaluated, .ok ()) =>
          -- The definition in force before the change decides where the value goes.
          let isSecret := entry.appDef.isSecret name
          let previousIsSecret := state.isStoredSecret name
          let state := state.storeParamValue cipher name value isSecret
          match state.currentBundle with
          | none =>
            (⟨.error ⟨.notFound, "db error: Query returned no rows"⟩, [], evaluated⟩, state)
          | some bundle =>
            let change : AppState.ParamChange :=
              { name, previous, newValue := value, isSecret, previousIsSecret }
            let (generation, state) := state.bump cipher change.kind bundle (some change)
            let values := state.loadAllParams cipher
            let state := reloadAndPersist engine cipher allowed app entry generation state
            (⟨.ok ⟨some generation, state.entry.bind (onChangeHandler · name)⟩,
                [announce generation entry.currentGeneration isSecret previousIsSecret previous],
                evaluated ++ [values]⟩,
              state)

/-- The event carries one redaction flag for both values. -/
def announceSet (name value : String) : Announcement :=
  fun generation previousGeneration isSecret previousIsSecret previous =>
    .paramSet name generation previousGeneration
      (if isSecret || previousIsSecret then none else some (previous, value))

def announceUnset (name : String) : Announcement :=
  fun generation previousGeneration _ previousIsSecret previous =>
    .paramUnset name generation previousGeneration (if previousIsSecret then none else previous)

def setParam (busy : Bool) (name value : String) (state : AppState Bundle) :
    Outcome × AppState Bundle :=
  changeParam engine cipher allowed app busy name (some value) (announceSet name value) state

def unsetParam (busy : Bool) (name : String) (state : AppState Bundle) :
    Outcome × AppState Bundle :=
  changeParam engine cipher allowed app busy name none (announceUnset name) state

/-! ## Replacing the definition -/

/-- The parameter change an update carries, unless it changes nothing. -/
def updateChange (param : Option (String × Option String)) :
    Option (String × Option String × Option String) :=
  param.bind fun (name, value) =>
    let previous := state.loadAllParams cipher name
    if previous = value then none else some (name, previous, value)

def updateProposed (change : Option (String × Option String × Option String)) : Values :=
  match change with
  | some (name, _, value) => update (state.loadAllParams cipher) name value
  | none => state.loadAllParams cipher

/-- The transaction of an update: the parameter, the generation, and the
migration to secret storage. -/
def commitUpdate (bundle : Bundle) (appDef : AppDef) (previousIsSecret : Bool)
    (change : Option (String × Option String × Option String)) (state : AppState Bundle) :
    Nat × AppState Bundle :=
  let recorded : Option AppState.ParamChange := change.map fun (name, previous, value) =>
    { name, previous, newValue := value, isSecret := appDef.isSecret name, previousIsSecret }
  let state :=
    match change with
    | some (name, _, value) => state.storeParamValue cipher name value (appDef.isSecret name)
    | none => state
  let (generation, state) := state.bump cipher .scriptUpdate bundle recorded
  (generation, state.migrateNewlySecretParams cipher appDef)

/-- What follows the transaction: the entry, the faults, the scaling bounds and
the schedules are brought in line with the new definition. -/
def publishUpdate (bundle : Bundle) (appDef : AppDef) (values : Values) (generation : Nat)
    (state : AppState Bundle) : AppState Bundle :=
  let state :=
    { state with
      entry := some
        { entry with
          bundle
          appDef
          evaluatedBundle := bundle
          evaluatedValues := values
          scriptError := none
          currentGeneration := generation } }
  let state := state.syncFaultState allowed
  let state := (state.syncFault "definition_unsupported" (engine.unsupported bundle)).syncFault
    "definition_source_moved" none
  (state.clampScalingDecisions appDef.deployments).syncActionSchedules

def updateApp (busy : Bool) (bundle : Bundle) (param : Option (String × Option String))
    (state : AppState Bundle) : Outcome × AppState Bundle :=
  match state.entry with
  | none => (.refused (appNotFound app), state)
  | some entry =>
    if busy then (.refused (operationInProgress app), state)
    else
      match engine.checkInstallable bundle with
      | .error error => (.refused error, state)
      | .ok () =>
        let previousIsSecret := param.any fun (name, _) => state.isStoredSecret name
        let change := updateChange cipher state param
        let proposed := updateProposed cipher state change
        match engine.evaluateValidated app bundle proposed proposed with
        | (_, .error error) => (⟨.error (.scriptError error), [], [proposed]⟩, state)
        | (appDef, .ok rejections) =>
          if rejections ≠ [] then
            (⟨.error (validationError rejections), [], [proposed]⟩, state)
          else
            let (generation, state) :=
              commitUpdate cipher bundle appDef previousIsSecret change state
            let state :=
              publishUpdate engine allowed entry bundle appDef proposed generation state
            let announced := change.map fun (name, previous, value) =>
              (name, if previousIsSecret then none else previous,
                if appDef.isSecret name then none else value)
            let previousGeneration :=
              if entry.currentGeneration = 0 then none else some entry.currentGeneration
            (⟨.ok ⟨some generation, change.bind fun (name, _) =>
                  state.entry.bind (onChangeHandler · name)⟩,
                [.updated generation previousGeneration announced], [proposed]⟩,
              state)

/-! ## Uninstalling and deregistering -/

/-- Begin to uninstall: operator decisions about the running app are forgotten. -/
def uninstallApp : Outcome × AppState Bundle :=
  match state.entry with
  | none => (.refused (appNotFound app), state)
  | some entry =>
    match entry.phase with
    | .installed =>
      (⟨.ok ⟨none, none⟩, [.phaseChanged .uninstalling], []⟩,
        { state.transitionPhase .uninstalling with
          scaling := fun _ => none
          stopped := fun _ => false })
    | .installing =>
      (.refused ⟨.operationInProgress,
        s!"install is in progress; cannot uninstall yet: {app}"⟩, state)
    | .notInstalled | .uninstalling =>
      (.refused ⟨.notInstalled, s!"app is not installed: {app}"⟩, state)

/-- Forget the app.  Its row, plain parameters, generations, faults, scaling
decisions, stopped resources and schedules go; its secret parameters stay. -/
def deregisterApp (busy : Bool) (state : AppState Bundle) : Outcome × AppState Bundle :=
  match state.entry with
  | none => (.refused (appNotFound app), state)
  | some entry =>
    if busy then (.refused (operationInProgress app), state)
    else
      match entry.phase with
      | .installing =>
        (.refused ⟨.operationInProgress,
          s!"an install is in progress; wait for it to finish: {app}"⟩, state)
      | .uninstalling =>
        (.refused ⟨.requirementsInvalid, s!"app is still uninstalling: {app}"⟩, state)
      | .installed =>
        (.refused ⟨.requirementsInvalid, s!"app is installed; call uninstall first: {app}"⟩, state)
      | .notInstalled =>
        (⟨.ok ⟨none, none⟩, [.deregistered], []⟩,
          { state with
            entry := none
            row := none
            params := fun _ => none
            generations := []
            faults := []
            scaling := fun _ => none
            stopped := fun _ => false
            schedules := fun _ => none })

/-! ## Scaling, stopping and schedules -/

/-- The scale in force: the stored decision within bounds, or the lower bound. -/
def effectiveScale (deployment : String) (low high : Nat) : Nat :=
  match state.scaling deployment with
  | some scale => max low (min scale high)
  | none => low

def scaleApp (deployment : String) (scale : Nat) (state : AppState Bundle) :
    Outcome × AppState Bundle :=
  match state.entry with
  | none => (.refused (appNotFound app), state)
  | some entry =>
    match entry.appDef.deployments.lookup deployment with
    | none => (.refused (.notFound s!"deployment not found: {deployment}"), state)
    | some (low, high) =>
      let clamped := max low (min scale high)
      (⟨.ok ⟨none, none⟩,
          [.scaled deployment clamped (effectiveScale state deployment low high)], []⟩,
        { state with scaling := update state.scaling deployment (some clamped) })

def kindStr : ResourceKind → String
  | .deployment => "deployment"
  | .job => "job"
  | .ingress => "ingress"
  | .service => "service"
  | .volume => "volume"
  | .externalVolume => "externalvolume"
  | .externalService => "externalservice"
  | .parameter => "parameter"
  | .action => "action"

def stopInProgress : OiError :=
  ⟨.operationInProgress,
    s!"operation in progress for app: {app}; cancel it first via /apps/action/cancel"⟩

def stopResource (busy : Bool) (kind : ResourceKind) (name : String) (state : AppState Bundle) :
    Outcome × AppState Bundle :=
  if kind ∉ [ResourceKind.deployment, .job, .ingress] then
    let word := kindStr kind
    (.refused ⟨.requirementsInvalid,
      s!"kind \"{word}\" cannot be stopped; only deployment, job, or ingress are stoppable"⟩, state)
  else if busy then (.refused (stopInProgress app), state)
  else
    match state.entry with
    | none => (.refused (appNotFound app), state)
    | some entry =>
      if (kind, name) ∈ entry.appDef.resources then
        (⟨.ok ⟨none, none⟩, [.resourceStopped kind name], []⟩,
          { state with stopped := update state.stopped (kind, name) true })
      else
        let word := kindStr kind
        (.refused (.notFound s!"resource {word}/{name} not found in app {app}"), state)

def unstopResource (busy : Bool) (kind : ResourceKind) (name : String) (state : AppState Bundle) :
    Outcome × AppState Bundle :=
  if state.entry.isNone then (.refused (appNotFound app), state)
  else if busy then (.refused (stopInProgress app), state)
  else
    (⟨.ok ⟨none, none⟩, [.resourceUnstopped kind name], []⟩,
      { state with stopped := update state.stopped (kind, name) false })

/-- A due schedule has fired; the time is kept if its operation was accepted at
once. -/
def scheduleFired (now : Nat) (action cronexpr : String) (accepted : Bool)
    (state : AppState Bundle) : AppState Bundle :=
  if accepted then
    { state with schedules := update state.schedules (action, cronexpr) (some (some now)) }
  else state

/-! ## Startup -/

/-- Load an app from its rows.  A script that throws leaves the definition it
had built by then. -/
def loadApp : Outcome × AppState Bundle :=
  let skipped : Outcome × AppState Bundle := (.quiet, { state with entry := none })
  match state.row with
  | none => skipped
  | some row =>
    if row.currentGeneration = 0 then skipped
    else
      match state.definitionAt row.currentGeneration with
      | none => skipped
      | some bundle =>
        let values := state.loadAllParams cipher
        let (appDef, scriptError) := engine.evaluate app bundle values
        let state := state.migrateNewlySecretParams cipher appDef
        (⟨.ok ⟨none, none⟩, [], [values]⟩,
          { state with
            entry := some
              { bundle
                appDef
                evaluatedBundle := bundle
                evaluatedValues := values
                phase := row.decodePhase
                scriptError
                currentGeneration := row.currentGeneration } })

/-! ## Reading -/

structure ShownParam where
  name : String
  value : Option String
  isSet : Bool

/-- What `describe` tells of the parameters: the declared ones, and the stored
ones the definition does not declare. -/
structure Description where
  params : List ShownParam
  unknownParams : Values

def describeApp : Except OiError Description :=
  match state.entry with
  | none => .error (appNotFound app)
  | some entry =>
    let stored := state.loadAllParams cipher
    .ok
      { params := entry.appDef.params.map fun (name, schema) =>
          { name
            value := if schema.secret then none else stored name
            isSet := (stored name).isSome }
        unknownParams := fun name => if entry.appDef.declares name then none else stored name }

/-- A generation as history shows it; a redacted change has no values. -/
structure ShownGeneration where
  generation : Nat
  kind : GenerationKind
  change : Option (String × Option (Option String × Option String))

/-- A recorded change, withheld if the live definition declares the parameter
secret or either value is held encrypted. -/
def showChange (appDef : AppDef) (change : RecordedChange) :
    String × Option (Option String × Option String) :=
  (change.name,
    if appDef.isSecret change.name || change.previousCiphertext.isSome ||
        change.newCiphertext.isSome then none
    else some (change.previousValue, change.newValue))

def listGenerations (before limit : Option Nat) (state : AppState Bundle) :
    Except OiError (List ShownGeneration) :=
  match state.entry with
  | none => .error (appNotFound app)
  | some entry =>
    let page := max 1 (min (limit.getD 50) 200)
    let rows := (state.generations.filter fun row => before.all (row.generation < ·)).mergeSort
      fun first second => second.generation ≤ first.generation
    .ok ((rows.take page).map fun row =>
      { generation := row.generation
        kind := row.kind
        change := row.change.map (showChange entry.appDef) })

end Handlers

/-! ## All of them together -/

/-- What can be asked of, or done to, one app. -/
inductive AppRequest (Bundle : Type) where
  | register (bundle : Bundle)
  | setParam (busy : Bool) (name value : String)
  | unsetParam (busy : Bool) (name : String)
  | update (busy : Bool) (bundle : Bundle) (param : Option (String × Option String))
  | uninstall
  | deregister (busy : Bool)
  | scale (deployment : String) (scale : Nat)
  | stop (busy : Bool) (kind : ResourceKind) (name : String)
  | unstop (busy : Bool) (kind : ResourceKind) (name : String)
  | enterPhase (phase : AppPhase)
  | transition (phase : AppPhase)
  | fired (now : Nat) (action cronexpr : String) (accepted : Bool)
  /-- A fault is filed against a registered app. -/
  | fault (fault : Fault)
  | load

/-- Who the daemon serves: the engine, the cipher and the allowed registries. -/
structure Host (Bundle : Type) where
  engine : Engine Bundle
  cipher : Cipher
  allowed : List String

section Serve

variable {Bundle : Type} (host : Host Bundle)

def serve (app : String) (request : AppRequest Bundle) (state : AppState Bundle) :
    Outcome × AppState Bundle :=
  match request with
  | .register bundle => registerApp host.engine host.cipher host.allowed app bundle state
  | .setParam busy name value =>
    setParam host.engine host.cipher host.allowed app busy name value state
  | .unsetParam busy name => unsetParam host.engine host.cipher host.allowed app busy name state
  | .update busy bundle param =>
    updateApp host.engine host.cipher host.allowed app busy bundle param state
  | .uninstall => uninstallApp app state
  | .deregister busy => deregisterApp app busy state
  | .scale deployment scale => scaleApp app deployment scale state
  | .stop busy kind name => stopResource app busy kind name state
  | .unstop busy kind name => unstopResource app busy kind name state
  | .enterPhase phase => (.quiet, state.setPhaseAndPersist phase)
  | .transition phase => (.quiet, state.transitionPhase phase)
  | .fired now action cronexpr accepted =>
    (.quiet,
      if state.entry.isSome then scheduleFired now action cronexpr accepted state else state)
  | .fault fault =>
    (.quiet,
      if state.entry.isSome then { state with faults := state.faults ++ [fault] } else state)
  | .load => loadApp host.engine host.cipher app state

abbrev Store (Bundle : Type) := String → AppState Bundle

/-- A request about one app, or a restart of the daemon. -/
inductive StoreRequest (Bundle : Type) where
  | about (app : String) (request : AppRequest Bundle)
  | restart

/-- Serve one request; the output tells, for each app, what came of it. -/
def storeStep (store : Store Bundle) :
    StoreRequest Bundle → (String → Option Outcome) × Store Bundle
  | .about app request =>
    let served := serve host app request (store app)
    (update (fun _ => none) app (some served.1), update store app served.2)
  | .restart =>
    (fun app => some (serve host app .load (store app)).1,
      fun app => (serve host app .load (store app)).2)

def storeMachine : Foundation.Machine (Store Bundle) (StoreRequest Bundle)
    (String → Option Outcome) where
  step := storeStep host

end Serve

end Seedling.Apps
