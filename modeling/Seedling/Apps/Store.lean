import Seedling.Apps.Definition

/-!
# The state of an app

Everything the daemon holds about one app name: its entry in the in-memory
registry and its rows in the tables keyed by the app.  A table is a partial
function of the rest of its primary key, so that an upsert or a delete by key is
`Function.update`.

`storeParamValue` and `migrateNewlySecretParams` are the two ways a parameter
value moves between the plain and the secret table.
-/

namespace Seedling.Apps

open Function List

/-! ## Cipher -/

/-- The cipher of the secret table; what it encrypts it can decrypt. -/
structure Cipher where
  encrypt : String → List UInt8
  decrypt : List UInt8 → Option String
  decrypt_encrypt : ∀ value, decrypt (encrypt value) = some value

def charBytes (c : Char) : List UInt8 :=
  [.ofNat c.toNat, .ofNat (c.toNat / 256), .ofNat (c.toNat / 65536)]

def bytesChars : List UInt8 → Option (List Char)
  | [] => some []
  | low :: middle :: high :: rest =>
    (bytesChars rest).map (Char.ofNat (low.toNat + 256 * middle.toNat + 65536 * high.toNat) :: ·)
  | _ => none

theorem bytesChars_flatMap (chars : List Char) :
    bytesChars (chars.flatMap charBytes) = some chars := by
  induction chars with
  | nil => rfl
  | cons c chars ih =>
    have small : c.toNat < 1114112 := by
      rcases c.valid with below | above
      · exact Nat.lt_of_lt_of_le below (by decide)
      · exact above.2
    have joined : c.toNat % 256 + 256 * (c.toNat / 256 % 256) +
        65536 * (c.toNat / 65536 % 256) = c.toNat := by omega
    simp [charBytes, bytesChars, ih, joined]

def Cipher.transparent : Cipher where
  encrypt value := value.toList.flatMap charBytes
  decrypt bytes := (bytesChars bytes).map String.ofList
  decrypt_encrypt value := by simp [bytesChars_flatMap]

/-! ## Rows -/

inductive AppPhase where
  | notInstalled
  | installing
  | installed
  | uninstalling
deriving DecidableEq

structure RegisteredRow where
  installed : Bool
  uninstalling : Bool
  installing : Bool
  currentGeneration : Nat

/-- The three flags a phase is persisted as. -/
def RegisteredRow.ofPhase (phase : AppPhase) (generation : Nat) : RegisteredRow where
  installed := phase = .installed || phase = .uninstalling
  uninstalling := phase = .uninstalling
  installing := phase = .installing
  currentGeneration := generation

def RegisteredRow.decodePhase (row : RegisteredRow) : AppPhase :=
  if row.uninstalling then .uninstalling
  else if row.installing then .installing
  else if row.installed then .installed
  else .notInstalled

inductive GenerationKind where
  | register
  | scriptUpdate
  | paramSet
  | paramUnset
deriving DecidableEq

/-- A parameter change recorded in the generation history.  Each of its two
values is in the plain column or in the ciphertext column. -/
structure RecordedChange where
  name : String
  previousValue : Option String
  previousCiphertext : Option (List UInt8)
  newValue : Option String
  newCiphertext : Option (List UInt8)

structure GenerationRow (Bundle : Type) where
  generation : Nat
  kind : GenerationKind
  bundle : Bundle
  change : Option RecordedChange

def GenerationRow.installs {Bundle : Type} (row : GenerationRow Bundle) : Bool :=
  row.kind = .register || row.kind = .scriptUpdate

def latestRow {Bundle : Type} (rows : List (GenerationRow Bundle)) :
    Option (GenerationRow Bundle) :=
  rows.foldl
    (fun best row => if best.all (·.generation ≤ row.generation) then some row else best) none

structure Fault where
  kind : String
  subject : String
  description : String

structure AppEntry (Bundle : Type) where
  /-- The definition installed at the current generation. -/
  bundle : Bundle
  /-- The most recent evaluation published for the app, with the bundle and the
  values it came from. -/
  appDef : AppDef
  evaluatedBundle : Bundle
  evaluatedValues : Values
  phase : AppPhase
  scriptError : Option String
  currentGeneration : Nat

structure AppState (Bundle : Type) where
  entry : Option (AppEntry Bundle)
  row : Option RegisteredRow
  params : String → Option String
  secretParams : String → Option (List UInt8)
  generations : List (GenerationRow Bundle)
  scaling : String → Option Nat
  stopped : ResourceKind × String → Bool
  schedules : String × String → Option (Option Nat)
  faults : List Fault

namespace AppState

variable {Bundle : Type}

def blank : AppState Bundle where
  entry := none
  row := none
  params := fun _ => none
  secretParams := fun _ => none
  generations := []
  scaling := fun _ => none
  stopped := fun _ => false
  schedules := fun _ => none
  faults := []

variable (cipher : Cipher) (state : AppState Bundle)

/-! ## Parameters -/

/-- The decrypted secret values; a row that does not decrypt is skipped. -/
def loadSecretParams : Values := fun name => (state.secretParams name).bind cipher.decrypt

/-- Plain and secret values in one map, the secret ones winning. -/
def loadAllParams : Values := fun name =>
  (state.loadSecretParams cipher name).or (state.params name)

def isStoredSecret (name : String) : Bool := (state.secretParams name).isSome

def upsertParam (name value : String) : AppState Bundle :=
  { state with params := update state.params name (some value) }

def deleteOneParam (name : String) : AppState Bundle :=
  { state with params := update state.params name none }

def upsertSecretParam (name value : String) : AppState Bundle :=
  { state with secretParams := update state.secretParams name (some (cipher.encrypt value)) }

def deleteOneSecretParam (name : String) : AppState Bundle :=
  { state with secretParams := update state.secretParams name none }

/-- Store or clear one value, in the table its secrecy puts it, leaving no copy
in the other. -/
def storeParamValue (name : String) (value : Option String) (isSecret : Bool) : AppState Bundle :=
  match value with
  | some value =>
    if isSecret then (state.upsertSecretParam cipher name value).deleteOneParam name
    else (state.upsertParam name value).deleteOneSecretParam name
  | none => (state.deleteOneParam name).deleteOneSecretParam name

def migrateToSecret (name : String) : AppState Bundle :=
  match state.params name with
  | some value => (state.upsertSecretParam cipher name value).deleteOneParam name
  | none => state

/-- Move the plain values of every parameter the definition declares secret. -/
def migrateNewlySecretParams (appDef : AppDef) : AppState Bundle :=
  appDef.params.foldl
    (fun state param => if param.2.secret then state.migrateToSecret cipher param.1 else state)
    state

/-! ## Generations -/

def maxGeneration : Nat := (state.generations.map GenerationRow.generation).foldl max 0

def currentBundle : Option Bundle := (latestRow state.generations).map GenerationRow.bundle

/-- The bundle most recently installed at or before a generation. -/
def definitionAt (generation : Nat) : Option Bundle :=
  (latestRow (state.generations.filter fun row =>
    row.generation ≤ generation && row.installs)).map GenerationRow.bundle

structure ParamChange where
  name : String
  previous : Option String
  newValue : Option String
  isSecret : Bool
  previousIsSecret : Bool

/-- Each of the two values goes to the column its own storage calls for. -/
def ParamChange.record (change : ParamChange) : RecordedChange where
  name := change.name
  previousValue := if change.previousIsSecret then none else change.previous
  previousCiphertext := if change.previousIsSecret then change.previous.map cipher.encrypt else none
  newValue := if change.isSecret then none else change.newValue
  newCiphertext := if change.isSecret then change.newValue.map cipher.encrypt else none

def ParamChange.kind (change : ParamChange) : GenerationKind :=
  if change.newValue.isSome then .paramSet else .paramUnset

def bump (kind : GenerationKind) (bundle : Bundle) (change : Option ParamChange) :
    Nat × AppState Bundle :=
  let generation := state.maxGeneration + 1
  (generation,
    { state with
      generations := state.generations ++
        [{ generation, kind, bundle, change := change.map (·.record cipher) }]
      row := state.row.map fun row => { row with currentGeneration := generation } })

/-! ## Registry entry and its row -/

def persistAppFields (phase : AppPhase) (generation : Nat) : AppState Bundle :=
  { state with row := some (.ofPhase phase generation) }

def setPhaseAndPersist (phase : AppPhase) : AppState Bundle :=
  match state.entry with
  | none => state
  | some entry =>
    { state with
      entry := some { entry with phase }
      row := some (.ofPhase phase entry.currentGeneration) }

def transitionPhase (phase : AppPhase) : AppState Bundle :=
  { state with
    entry := state.entry.map fun entry => { entry with phase }
    row := state.row.map fun row => .ofPhase phase row.currentGeneration }

/-! ## Faults -/

/-- Converge the app-wide fault of a kind to a description, or to none. -/
def syncFault (kind : String) (description : Option String) : AppState Bundle :=
  let others := state.faults.filter (·.kind ≠ kind)
  match description with
  | none => { state with faults := others }
  | some text =>
    if state.faults.any (fun fault => fault.kind = kind && fault.description = text) then state
    else { state with faults := others ++ [⟨kind, "", text⟩] }

/-- Converge the script-error and disallowed-registry faults to the entry. -/
def syncFaultState (allowed : List String) : AppState Bundle :=
  match state.entry with
  | none => state
  | some entry =>
    let disallowed := entry.appDef.registries.filter (· ∉ allowed)
    let listed := String.intercalate ", " disallowed
    (state.syncFault "script_error" entry.scriptError).syncFault "disallowed_registry"
      (if disallowed = [] then none
        else some s!"image references use disallowed registries: {listed}")

/-! ## Schedules and scaling -/

/-- Drop the schedules the definition no longer declares and add the missing
ones, keeping when the others last fired. -/
def syncActionSchedules : AppState Bundle :=
  match state.entry with
  | none => state
  | some entry =>
    let valid := entry.appDef.schedulePairs
    { state with
      schedules := fun pair =>
        if pair ∈ valid then some ((state.schedules pair).getD none) else none }

/-- Clamp the stored decisions to the definition's bounds, dropping those of
deployments that are gone. -/
def clampScalingDecisions (deployments : List (String × Nat × Nat)) : AppState Bundle :=
  { state with
    scaling := fun deployment =>
      match state.scaling deployment, deployments.lookup deployment with
      | some scale, some (low, high) => some (max low (min scale high))
      | _, _ => none }

/-! ## What the table operations leave alone -/

section Frame

variable (name : String) (value : Option String)

variable (isSecret : Bool)
include isSecret

@[simp]
theorem storeParamValue_entry :
    (state.storeParamValue cipher name value isSecret).entry = state.entry := by
  unfold storeParamValue
  split
  · split <;> rfl
  · rfl

@[simp]
theorem storeParamValue_row :
    (state.storeParamValue cipher name value isSecret).row = state.row := by
  unfold storeParamValue
  split
  · split <;> rfl
  · rfl

@[simp]
theorem storeParamValue_generations :
    (state.storeParamValue cipher name value isSecret).generations = state.generations := by
  unfold storeParamValue
  split
  · split <;> rfl
  · rfl

theorem storeParamValue_params : (state.storeParamValue cipher name value isSecret).params =
      update state.params name (if isSecret then none else value) := by
  cases value <;> cases isSecret <;> rfl

theorem storeParamValue_secretParams :
    (state.storeParamValue cipher name value isSecret).secretParams =
      update state.secretParams name (if isSecret then value.map cipher.encrypt else none) := by
  cases value <;> cases isSecret <;> rfl

omit isSecret

theorem migrateNewlySecretParams_keeps {cipher : Cipher} {state : AppState Bundle}
    {I : AppState Bundle → Prop} (appDef : AppDef)
    (keeps : ∀ state name, appDef.isSecret name → I state →
      I (state.migrateToSecret cipher name))
    (holds : I state) : I (state.migrateNewlySecretParams cipher appDef) := by
  unfold migrateNewlySecretParams
  have declared : ∀ param ∈ appDef.params, appDef.isSecret param.1 = param.2.secret :=
    fun _ mem => AppDef.isSecret_of_mem_params mem
  generalize appDef.params = params at declared
  induction params generalizing state with
  | nil => exact holds
  | cons param rest ih =>
    have rest_declared := fun other listed => declared other (mem_cons_of_mem _ listed)
    rw [foldl_cons]
    split
    · rename_i marked
      refine ih (keeps _ _ ?_ holds) rest_declared
      rw [declared param mem_cons_self, marked]
    · exact ih holds rest_declared

theorem migrateToSecret_frame : ∃ params secretParams,
      state.migrateToSecret cipher name = { state with params, secretParams } := by
  unfold migrateToSecret
  split
  · exact ⟨_, _, rfl⟩
  · exact ⟨_, _, rfl⟩

theorem migrateNewlySecretParams_frame (appDef : AppDef) : ∃ params secretParams,
      state.migrateNewlySecretParams cipher appDef = { state with params, secretParams } := by
  refine migrateNewlySecretParams_keeps
    (I := fun after => ∃ params secretParams, after = { state with params, secretParams })
    appDef ?_ ⟨_, _, rfl⟩
  rintro _ name _ ⟨params, secretParams, rfl⟩
  obtain ⟨params', secretParams', moved⟩ :=
    migrateToSecret_frame cipher { state with params, secretParams } name
  exact ⟨params', secretParams', moved⟩

theorem migrateToSecret_params :
    (state.migrateToSecret cipher name).params = update state.params name none := by
  unfold migrateToSecret
  split
  · rfl
  · rename_i absent
    rw [← absent, update_eq_self]

variable {name : String}

theorem migrateToSecret_secretParams_of_ne {other : String} (distinct : other ≠ name) :
    (state.migrateToSecret cipher name).secretParams other = state.secretParams other := by
  unfold migrateToSecret
  split
  · exact update_of_ne distinct ..
  · rfl

variable {appDef : AppDef}

theorem migrateNewlySecretParams_params (secret : appDef.isSecret name) :
    (state.migrateNewlySecretParams cipher appDef).params name = none := by
  obtain ⟨schema, mem, marked⟩ := AppDef.mem_params_of_isSecret secret
  unfold migrateNewlySecretParams
  have pending : state.params name = none ∨
      ∃ schema, (name, schema) ∈ appDef.params ∧ schema.secret :=
    .inr ⟨schema, mem, marked⟩
  generalize appDef.params = params at pending
  -- The value is gone already, or its own step is still to come.
  induction params generalizing state with
  | nil =>
    rcases pending with gone | ⟨_, listed, _⟩
    · exact gone
    · cases listed
  | cons param rest ih =>
    rw [foldl_cons]
    apply ih
    rcases pending with gone | ⟨schema, listed, marked⟩
    · refine .inl ?_
      split
      · rw [migrateToSecret_params, update_apply]
        split
        · rfl
        · exact gone
      · exact gone
    · rcases mem_cons.mp listed with rfl | later
      · refine .inl ?_
        rw [if_pos marked, migrateToSecret_params, update_self]
      · exact .inr ⟨schema, later, marked⟩

theorem migrateNewlySecretParams_secretParams (plain : appDef.isSecret name = false) :
    (state.migrateNewlySecretParams cipher appDef).secretParams name = state.secretParams name := by
  refine migrateNewlySecretParams_keeps
    (I := fun after => after.secretParams name = state.secretParams name) appDef ?_ rfl
  intro after other secret same
  have distinct : name ≠ other := by
    rintro rfl
    rw [plain] at secret
    cases secret
  rw [migrateToSecret_secretParams_of_ne cipher after distinct, same]

theorem syncFault_frame (kind : String) (description : Option String) :
    ∃ faults, state.syncFault kind description = { state with faults } := by
  unfold syncFault
  split
  · exact ⟨_, rfl⟩
  · split
    · exact ⟨_, rfl⟩
    · exact ⟨_, rfl⟩

theorem syncFaultState_frame (allowed : List String) :
    ∃ faults, state.syncFaultState allowed = { state with faults } := by
  unfold syncFaultState
  split
  · exact ⟨_, rfl⟩
  · rename_i entry _
    obtain ⟨faults, first⟩ := syncFault_frame state "script_error" entry.scriptError
    rw [first]
    exact syncFault_frame { state with faults } _ _

theorem syncActionSchedules_frame :
    ∃ schedules, state.syncActionSchedules = { state with schedules } := by
  unfold syncActionSchedules
  split
  · exact ⟨_, rfl⟩
  · exact ⟨_, rfl⟩

end Frame

end AppState

end Seedling.Apps
