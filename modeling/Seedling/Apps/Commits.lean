import Seedling.Apps.Registration
import Seedling.Foundation.Commits

/-!
# The commits of a request

Setting and unsetting a parameter and replacing a definition, as the sequences of
commits they make: a statement outside a transaction is a commit of its own, a
transaction is one commit.  Making all of them is serving the request
(`perform_commits`); a stop makes only the first few, and the next start loads
what they left (`recordsFound`).
-/

namespace Seedling.Apps

open Function Foundation AppState

/-! ## Statements -/

section Statements

variable {Bundle : Type} (cipher : Cipher)

def storeParamCommits (name : String) (value : Option String) (isSecret : Bool) :
    List (AppState Bundle → AppState Bundle) :=
  match value with
  | some value =>
    if isSecret then [(·.upsertSecretParam cipher name value), (·.deleteOneParam name)]
    else [(·.upsertParam name value), (·.deleteOneSecretParam name)]
  | none => [(·.deleteOneParam name), (·.deleteOneSecretParam name)]

/-- Insert a generation, which does not tell of a parameter yet. -/
def insertGeneration (generation : Nat) (kind : GenerationKind) (bundle : Bundle)
    (state : AppState Bundle) : AppState Bundle :=
  { state with generations := state.generations ++ [⟨generation, kind, bundle, none⟩] }

def writeParamChange (generation : Nat) (change : ParamChange) (state : AppState Bundle) :
    AppState Bundle :=
  { state with
    generations := state.generations.map fun row =>
      if row.generation = generation then { row with change := some (change.record cipher) }
      else row }

def setCurrentGeneration (generation : Nat) (state : AppState Bundle) : AppState Bundle :=
  { state with row := state.row.map fun row => { row with currentGeneration := generation } }

def bumpParamChangeCommits (generation : Nat) (bundle : Bundle) (change : ParamChange) :
    List (AppState Bundle → AppState Bundle) :=
  [insertGeneration generation change.kind bundle, writeParamChange cipher generation change,
    setCurrentGeneration generation]

theorem perform_storeParamCommits (name : String) (value : Option String) (isSecret : Bool)
    (state : AppState Bundle) :
    perform (storeParamCommits cipher name value isSecret) state =
      state.storeParamValue cipher name value isSecret := by
  cases value <;> cases isSecret <;> rfl

theorem perform_bumpParamChangeCommits (bundle : Bundle) (change : ParamChange)
    (state : AppState Bundle) :
    perform (bumpParamChangeCommits cipher (state.maxGeneration + 1) bundle change) state =
      (state.bump cipher change.kind bundle (some change)).2 := by
  -- No older row has the number of the new one.
  have older : state.generations.map (fun row =>
      if row.generation = state.maxGeneration + 1 then
        { row with change := some (change.record cipher) }
      else row) = state.generations := by
    refine (List.map_congr_left fun row mem => ?_).trans (List.map_id _)
    have below := le_maxGeneration mem
    rw [if_neg (by omega), id]
  simp only [bumpParamChangeCommits, perform_cons, insertGeneration,
    writeParamChange, setCurrentGeneration, List.map_append, older, bump]
  simp

end Statements

/-! ## Requests -/

inductive Change (Bundle : Type) where
  | setParam (busy : Bool) (name value : String)
  | unsetParam (busy : Bool) (name : String)
  | update (busy : Bool) (bundle : Bundle) (param : Option (String × Option String))

def Change.request {Bundle : Type} : Change Bundle → AppRequest Bundle
  | .setParam busy name value => .setParam busy name value
  | .unsetParam busy name => .unsetParam busy name
  | .update busy bundle param => .update busy bundle param

section Requests

variable {Bundle : Type} (host : Host Bundle) (app : String)

/-- The entry a parameter request goes on with.  There is none if the request is
refused, or the value is the stored one already. -/
def admitted (busy : Bool) (name : String) (value : Option String) (state : AppState Bundle) :
    Option (AppEntry Bundle) :=
  match state.entry with
  | none => none
  | some entry =>
    if busy then none
    else if entry.phase = .installing then none
    else if state.loadAllParams host.cipher name = value then none
    else
      match validateProposed host.engine app entry
        (update (state.loadAllParams host.cipher) name value) with
      | (_, .error _) => none
      | (_, .ok ()) => some entry

/-- The change a parameter request records. -/
def recordedBy (entry : AppEntry Bundle) (name : String) (value : Option String)
    (state : AppState Bundle) : ParamChange where
  name
  previous := state.loadAllParams host.cipher name
  newValue := value
  isSecret := entry.appDef.isSecret name
  previousIsSecret := state.isStoredSecret name

/-- The commits of a parameter request, the last of which converges the faults and
writes the row once more. -/
def changeParamCommits (busy : Bool) (name : String) (value : Option String)
    (state : AppState Bundle) : List (AppState Bundle → AppState Bundle) :=
  match admitted host app busy name value state with
  | none => []
  | some entry =>
    storeParamCommits host.cipher name value (entry.appDef.isSecret name) ++
      match state.currentBundle with
      | none => []
      | some bundle =>
        let generation := state.maxGeneration + 1
        bumpParamChangeCommits host.cipher generation bundle
            (recordedBy host entry name value state) ++
          [reloadAndPersist host.engine host.cipher host.allowed app entry generation]

/-- The commits of an update: the transaction, then what brings the faults, the
scaling decisions and the schedules in line. -/
def updateCommits (busy : Bool) (bundle : Bundle) (param : Option (String × Option String))
    (state : AppState Bundle) : List (AppState Bundle → AppState Bundle) :=
  match state.entry with
  | none => []
  | some entry =>
    if busy then []
    else
      match host.engine.checkInstallable bundle with
      | .error _ => []
      | .ok () =>
        let previousIsSecret := param.any fun (name, _) => state.isStoredSecret name
        let change := updateChange host.cipher state param
        let proposed := updateProposed host.cipher state change
        match host.engine.evaluateValidated app bundle proposed proposed with
        | (_, .error _) => []
        | (appDef, .ok rejections) =>
          if rejections ≠ [] then []
          else
            [fun state =>
                (commitUpdate host.cipher bundle appDef previousIsSecret change state).2,
              publishUpdate host.engine host.allowed entry bundle appDef proposed
                (commitUpdate host.cipher bundle appDef previousIsSecret change state).1]

def Change.commits (change : Change Bundle) (state : AppState Bundle) :
    List (AppState Bundle → AppState Bundle) :=
  match change with
  | .setParam busy name value => changeParamCommits host app busy name (some value) state
  | .unsetParam busy name => changeParamCommits host app busy name none state
  | .update busy bundle param => updateCommits host app busy bundle param state

variable {host app}

theorem storeParamValue_currentBundle (cipher : Cipher) (state : AppState Bundle) (name : String)
    (value : Option String) (isSecret : Bool) :
    (state.storeParamValue cipher name value isSecret).currentBundle = state.currentBundle := by
  simp [currentBundle]

theorem storeParamValue_maxGeneration (cipher : Cipher) (state : AppState Bundle) (name : String)
    (value : Option String) (isSecret : Bool) :
    (state.storeParamValue cipher name value isSecret).maxGeneration = state.maxGeneration := by
  simp [maxGeneration]

/-- A parameter request leaves the state alone, or stores the value and goes on to
record it. -/
theorem changeParam_cases (busy : Bool) (name : String) (value : Option String)
    (announce : Announcement) (state : AppState Bundle) :
    let served :=
      changeParam host.engine host.cipher host.allowed app busy name value announce state
    (admitted host app busy name value state = none ∧ served.2 = state) ∨
      ∃ entry, admitted host app busy name value state = some entry ∧
        state.loadAllParams host.cipher name ≠ value ∧
        served.1.answer.isOk = state.currentBundle.isSome ∧
        served.2 = perform (changeParamCommits host app busy name value state) state := by
  cases found : state.entry with
  | none => exact .inl ⟨by simp only [admitted, found], by simp only [changeParam, found]⟩
  | some entry =>
    by_cases occupied : busy
    · exact .inl ⟨by simp only [admitted, found, if_pos occupied],
        by simp only [changeParam, found, if_pos occupied]⟩
    by_cases installing : entry.phase = .installing
    · exact .inl ⟨by simp only [admitted, found, if_neg occupied, if_pos installing],
        by simp only [changeParam, found, if_neg occupied, if_pos installing]⟩
    by_cases same : state.loadAllParams host.cipher name = value
    · exact .inl
        ⟨by simp only [admitted, found, if_neg occupied, if_neg installing, if_pos same],
          by simp only [changeParam, found, if_neg occupied, if_neg installing, if_pos same]⟩
    rcases validated : validateProposed host.engine app entry
      (update (state.loadAllParams host.cipher) name value) with ⟨evaluated, _ | _⟩
    · exact .inl
        ⟨by simp only [admitted, found, if_neg occupied, if_neg installing, if_neg same, validated],
          by simp only [changeParam, found, if_neg occupied, if_neg installing, if_neg same,
            validated]⟩
    · have goes : admitted host app busy name value state = some entry := by
        simp [admitted, found, if_neg occupied, if_neg installing, if_neg same, validated]
      refine .inr ⟨entry, goes, same, ?_⟩
      simp only [changeParam, found, if_neg occupied, if_neg installing, if_neg same, validated,
        changeParamCommits, goes, perform_append, perform_storeParamCommits,
        storeParamValue_currentBundle]
      cases state.currentBundle with
      | none => exact ⟨rfl, rfl⟩
      | some =>
        refine ⟨rfl, ?_⟩
        rw [← storeParamValue_maxGeneration host.cipher state name value
          (entry.appDef.isSecret name), perform_append, perform_bumpParamChangeCommits]
        rfl

/-- An update leaves the state alone, or makes its transaction and publishes it. -/
theorem updateApp_cases (busy : Bool) (bundle : Bundle) (param : Option (String × Option String))
    (state : AppState Bundle) :
    let served := updateApp host.engine host.cipher host.allowed app busy bundle param state
    (updateCommits host app busy bundle param state = [] ∧ served.2 = state) ∨
      ∃ entry appDef previousIsSecret values,
        let change := updateChange host.cipher state param
        let committed := commitUpdate host.cipher bundle appDef previousIsSecret change
        updateCommits host app busy bundle param state = [fun state => (committed state).2,
              publishUpdate host.engine host.allowed entry bundle appDef values
                (committed state).1] ∧
          served.1.answer.isOk ∧
          served.2 = perform (updateCommits host app busy bundle param state) state := by
  cases found : state.entry with
  | none => exact .inl ⟨by simp only [updateCommits, found], by simp only [updateApp, found]⟩
  | some entry =>
    by_cases occupied : busy
    · exact .inl ⟨by simp only [updateCommits, found, if_pos occupied],
        by simp only [updateApp, found, if_pos occupied]⟩
    rcases checked : host.engine.checkInstallable bundle with _ | _
    · exact .inl ⟨by simp only [updateCommits, found, if_neg occupied, checked],
        by simp only [updateApp, found, if_neg occupied, checked]⟩
    rcases evaluated : host.engine.evaluateValidated app bundle
      (updateProposed host.cipher state (updateChange host.cipher state param))
      (updateProposed host.cipher state (updateChange host.cipher state param))
      with ⟨appDef, _ | rejections⟩
    · exact .inl ⟨by simp only [updateCommits, found, if_neg occupied, checked, evaluated],
        by simp only [updateApp, found, if_neg occupied, checked, evaluated]⟩
    by_cases rejected : rejections ≠ []
    · exact .inl
        ⟨by simp only [updateCommits, found, if_neg occupied, checked, evaluated, if_pos rejected],
          by simp only [updateApp, found, if_neg occupied, checked, evaluated, if_pos rejected]⟩
    · refine .inr ⟨entry, appDef, param.any fun (name, _) => state.isStoredSecret name,
        updateProposed host.cipher state (updateChange host.cipher state param), ?_⟩
      simp only [updateCommits, updateApp, found, if_neg occupied, checked, evaluated,
        if_neg rejected]
      exact ⟨trivial, rfl, rfl⟩

/-- **Making all its commits is serving a request.** -/
theorem perform_commits (change : Change Bundle) (state : AppState Bundle) :
    perform (change.commits host app state) state = (serve host app change.request state).2 := by
  have param : ∀ busy name value announce,
      perform (changeParamCommits host app busy name value state) state =
        (changeParam host.engine host.cipher host.allowed app busy name value announce
          state).2 := by
    intro busy name value announce
    rcases changeParam_cases busy name value announce state with
      ⟨refused, same⟩ | ⟨_, _, _, _, served⟩
    · rw [same, changeParamCommits, refused, perform_nil]
    · exact served.symm
  cases change with
  | setParam busy name value => exact param busy name (some value) _
  | unsetParam busy name => exact param busy name none _
  | update busy bundle param =>
    rcases updateApp_cases busy bundle param state with
      ⟨none_made, same⟩ | ⟨_, _, _, _, _, _, served⟩
    · exact (congrArg (perform · state) none_made).trans same.symm
    · exact served.symm

end Requests

/-! ## What the next start finds -/

structure Records (Bundle : Type) where
  row : Option RegisteredRow
  params : String → Option String
  secretParams : String → Option (List UInt8)
  generations : List (GenerationRow Bundle)

def AppState.records {Bundle : Type} (state : AppState Bundle) : Records Bundle where
  row := state.row
  params := state.params
  secretParams := state.secretParams
  generations := state.generations

section Starts

variable {Bundle : Type} (host : Host Bundle) (app : String) (state : AppState Bundle)

def nextStart : AppState Bundle := (serve host app .load state).2

def recordsFound : Records Bundle := (nextStart host app state).records

def AppState.startDefinition : Option Bundle :=
  state.row.bind fun row =>
    if row.currentGeneration = 0 then none else state.definitionAt row.currentGeneration

variable (state : AppState Bundle)

/-- A start changes the rows by moving plain values to the secret table, at most. -/
theorem recordsFound_eq : recordsFound host app state =
      match state.startDefinition with
      | none => state.records
      | some bundle =>
        (state.migrateNewlySecretParams host.cipher
          (host.engine.evaluate app bundle (state.loadAllParams host.cipher)).1).records := by
  simp only [recordsFound, nextStart, serve, loadApp, startDefinition]
  cases holds : state.row with
  | none => simp only [records, holds, Option.bind_none]
  | some row =>
    simp only [Option.bind_some]
    by_cases unset : row.currentGeneration = 0
    · simp only [if_pos unset, records, holds]
    · simp only [if_neg unset]
      cases state.definitionAt row.currentGeneration with
      | none => simp only [records, holds]
      | some => rfl

variable {first second : AppState Bundle}

theorem migrate_records_congr (cipher : Cipher) (appDef : AppDef)
    (same : first.records = second.records) :
    (first.migrateNewlySecretParams cipher appDef).records =
      (second.migrateNewlySecretParams cipher appDef).records := by
  unfold migrateNewlySecretParams
  generalize appDef.params = params
  induction params generalizing first second with
  | nil => exact same
  | cons param params ih =>
    rw [List.foldl_cons, List.foldl_cons]
    apply ih
    split
    · obtain ⟨row, plain, secret, generations⟩ := Records.mk.inj same
      simp only [migrateToSecret, plain]
      split <;> simp [records, upsertSecretParam, deleteOneParam, *]
    · exact same

theorem recordsFound_congr (same : first.records = second.records) :
    recordsFound host app first = recordsFound host app second := by
  have migrated := fun appDef => migrate_records_congr host.cipher appDef same
  have values : first.loadAllParams host.cipher = second.loadAllParams host.cipher := by
    obtain ⟨_, plain, secret, _⟩ := Records.mk.inj same
    funext name
    simp [loadAllParams, loadSecretParams, plain, secret]
  have definition : first.startDefinition = second.startDefinition := by
    obtain ⟨row, _, _, generations⟩ := Records.mk.inj same
    simp [startDefinition, definitionAt, row, generations]
  rw [recordsFound_eq, recordsFound_eq, definition, values]
  cases second.startDefinition with
  | none => exact same
  | some => exact migrated _

theorem recordsFound_generations :
    (recordsFound host app state).generations = state.generations := by
  rw [recordsFound_eq]
  split
  · rfl
  · obtain ⟨_, _, moved⟩ := migrateNewlySecretParams_frame host.cipher state
      (host.engine.evaluate app _ (state.loadAllParams host.cipher)).1
    rw [moved]
    rfl

end Starts

end Seedling.Apps
