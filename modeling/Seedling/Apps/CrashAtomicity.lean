import Seedling.Apps.Secrecy
import Seedling.Apps.Commits

/-!
# Stops during a request

Storing a value and recording it keeps the parameters of an app `Faithful` to its
history, and so does a start.

An update changes the parameters and the history in one transaction, so the next
start finds all of it or nothing.  A parameter request makes five commits, and a
stop between them leaves a value no generation tells of, or a generation that
does not say what it changed.  `crash_atomic_iff` says which requests are safe.
-/

namespace Seedling.Apps

open Function Foundation AppState List Option

/-! ## Parameters and their history -/

section Faithful

variable {Bundle : Type} (cipher : Cipher)

def RecordedChange.value (change : RecordedChange) : Option String :=
  (change.newCiphertext.bind cipher.decrypt).or change.newValue

/-- The values after a generation, from those before it. -/
def replayChange (values : Values) (row : GenerationRow Bundle) : Values :=
  match row.change with
  | none => values
  | some change => update values change.name (change.value cipher)

/-- The parameters the history gives for a generation. -/
def AppState.valuesAt (state : AppState Bundle) (generation : Nat) : Values :=
  (state.generations.filter (·.generation ≤ generation)).foldl (replayChange cipher) fun _ => none

def GenerationRow.ofParam (row : GenerationRow Bundle) : Bool :=
  row.kind = .paramSet || row.kind = .paramUnset

/-- The stored parameters are those the history gives for the current generation,
which is the latest; every generation recorded as a parameter change says which;
and no value is in both tables. -/
structure Faithful (state : AppState Bundle) : Prop where
  current : state.row.map RegisteredRow.currentGeneration = some state.maxGeneration
  values : state.loadAllParams cipher = state.valuesAt cipher state.maxGeneration
  carried : ∀ row ∈ state.generations, row.ofParam → row.change.isSome
  single : ∀ name, state.params name = none ∨ state.secretParams name = none

def AppState.storeChange (state : AppState Bundle) (change : Option ParamChange) :
    AppState Bundle :=
  match change with
  | none => state
  | some change => state.storeParamValue cipher change.name change.newValue change.isSecret

variable {cipher} (state : AppState Bundle)

theorem loadAllParams_storeParamValue (name : String) (value : Option String) (isSecret : Bool) :
    (state.storeParamValue cipher name value isSecret).loadAllParams cipher =
      update (state.loadAllParams cipher) name value := by
  funext other
  simp only [loadAllParams, loadSecretParams, storeParamValue_params, storeParamValue_secretParams]
  by_cases same : other = name
  · subst same
    cases value <;> cases isSecret <;> simp [cipher.decrypt_encrypt]
  · simp only [update_of_ne same, loadAllParams, loadSecretParams]

theorem value_record (change : ParamChange) :
    (change.record cipher).value cipher = change.newValue := by
  cases secret : change.isSecret <;> cases value : change.newValue <;>
    simp [RecordedChange.value, ParamChange.record, secret, value, cipher.decrypt_encrypt]

theorem loadAllParams_storeChange (change : Option ParamChange) (generation : Nat)
    (kind : GenerationKind) (bundle : Bundle) :
    (state.storeChange cipher change).loadAllParams cipher =
      replayChange cipher (state.loadAllParams cipher)
        ⟨generation, kind, bundle, change.map (·.record cipher)⟩ := by
  cases change with
  | none => rfl
  | some =>
    simp only [storeChange, loadAllParams_storeParamValue, replayChange, map_some, value_record]
    rfl

theorem valuesAt_maxGeneration : state.valuesAt cipher state.maxGeneration =
      state.generations.foldl (replayChange cipher) fun _ => none := by
  rw [valuesAt, filter_eq_self.mpr]
  intro row mem
  exact decide_eq_true (le_maxGeneration mem)

theorem Faithful.of_records {first second : AppState Bundle} (faithful : Faithful cipher first)
    (same : first.records = second.records) : Faithful cipher second := by
  obtain ⟨row, plain, secret, generations⟩ := Records.mk.inj same
  obtain ⟨current, values, carried, single⟩ := faithful
  simp only [maxGeneration, row, generations] at current
  simp only [maxGeneration, valuesAt, generations] at values
  refine ⟨current, Eq.trans ?_ values, generations ▸ carried, plain ▸ secret ▸ single⟩
  funext name
  simp [loadAllParams, loadSecretParams, plain, secret]

variable {state : AppState Bundle}

theorem storeChange_single
    (single : ∀ name, state.params name = none ∨ state.secretParams name = none)
    (change : Option ParamChange) (name : String) :
    (state.storeChange cipher change).params name = none ∨
      (state.storeChange cipher change).secretParams name = none := by
  cases change with
  | none => exact single name
  | some change =>
    simp only [storeChange, storeParamValue_params, storeParamValue_secretParams]
    by_cases same : name = change.name
    · subst same
      cases change.isSecret <;> simp
    · simpa only [update_of_ne same] using single name

theorem storeChange_frame (cipher : Cipher) (state : AppState Bundle)
    (change : Option ParamChange) :
    (state.storeChange cipher change).row = state.row ∧
      (state.storeChange cipher change).generations = state.generations := by
  cases change with
  | none => exact ⟨rfl, rfl⟩
  | some => exact ⟨storeParamValue_row .., storeParamValue_generations ..⟩

variable (faithful : Faithful cipher state)
include faithful

/-- **Storing a value and recording it in a new generation keeps the parameters those
of the history.** -/
theorem Faithful.recorded (kind : GenerationKind) (bundle : Bundle) (change : Option ParamChange)
    (tells : kind = .paramSet ∨ kind = .paramUnset → change.isSome) :
    Faithful cipher ((state.storeChange cipher change).bump cipher kind bundle change).2 := by
  obtain ⟨row, generations⟩ := storeChange_frame cipher state change
  have numbered : (state.storeChange cipher change).maxGeneration = state.maxGeneration := by
    simp [maxGeneration, generations]
  constructor
  case current =>
    obtain ⟨held, holds, _⟩ := map_eq_some_iff.mp faithful.current
    simp [bump, maxGeneration, row, holds]
  case values =>
    calc ((state.storeChange cipher change).bump cipher kind bundle change).2.loadAllParams cipher
      _ = (state.storeChange cipher change).loadAllParams cipher := rfl
      _ = replayChange cipher (state.generations.foldl (replayChange cipher) fun _ => none)
            ⟨state.maxGeneration + 1, kind, bundle, change.map (·.record cipher)⟩ := by
          rw [loadAllParams_storeChange state change (state.maxGeneration + 1) kind bundle,
            faithful.values, valuesAt_maxGeneration]
      _ = _ := by
          rw [valuesAt_maxGeneration]
          simp [bump, generations, numbered]
  case carried =>
    intro added mem param
    simp only [bump, generations, mem_append, mem_singleton] at mem
    rcases mem with older | rfl
    · exact faithful.carried added older param
    · simpa using tells (by simpa [GenerationRow.ofParam] using param)
  case single => exact storeChange_single faithful.single change

theorem Faithful.migrateToSecret (name : String) :
    Faithful cipher (state.migrateToSecret cipher name) := by
  unfold AppState.migrateToSecret
  split
  · rename_i value plain
    have unchanged : (state.storeParamValue cipher name (some value) true).loadAllParams cipher =
        state.loadAllParams cipher := by
      rw [loadAllParams_storeParamValue]
      have held : state.loadAllParams cipher name = some value := by
        have absent := (faithful.single name).resolve_left (by simp [plain])
        simp [loadAllParams, loadSecretParams, absent, plain]
      rw [← held, update_eq_self]
    refine ⟨faithful.current, unchanged.trans faithful.values, faithful.carried, ?_⟩
    exact storeChange_single faithful.single (some ⟨name, none, some value, true, false⟩)
  · exact faithful

theorem Faithful.migrate (appDef : AppDef) :
    Faithful cipher (state.migrateNewlySecretParams cipher appDef) :=
  migrateNewlySecretParams_keeps appDef (fun _ name _ holds => holds.migrateToSecret name) faithful

omit faithful

theorem Faithful.nextStart {host : Host Bundle} (faithful : Faithful host.cipher state)
    (app : String) :
    Faithful host.cipher (nextStart host app state) := by
  have rows := recordsFound_eq host app state
  cases defined : state.startDefinition with
  | none =>
    rw [defined] at rows
    exact faithful.of_records rows.symm
  | some =>
    rw [defined] at rows
    exact (faithful.migrate _).of_records rows.symm

end Faithful

/-! ## Crash atomicity -/

section Atomic

variable {Bundle : Type} (host : Host Bundle) (app : String)

/-- Wherever the daemon stops during the request, the next start finds the app as it
was before or as it is after the request, as it was before if the request fails;
and if the parameters were those of the history, the next start finds them so. -/
structure CrashAtomic (change : Change Bundle) (state : AppState Bundle) : Prop where
  settled : AllOrNothing (recordsFound host app) (change.commits host app state) state
  failed : (serve host app change.request state).1.answer.isOk = false →
    recordsFound host app (serve host app change.request state).2 = recordsFound host app state
  faithful : Faithful host.cipher state → ∀ count, Faithful host.cipher
      (nextStart host app (stopAfter (change.commits host app state) count state))

/-- The request is one that writes its changes one statement at a time. -/
def Change.piecemeal (change : Change Bundle) (state : AppState Bundle) : Bool :=
  match change with
  | .setParam busy name value => (admitted host app busy name (some value) state).isSome
  | .unsetParam busy name => (admitted host app busy name none state).isSome
  | .update .. => false

variable {host app} {state : AppState Bundle} {change : Change Bundle}

theorem CrashAtomic.of_nil (none_made : change.commits host app state = []) :
    CrashAtomic host app change state where
  settled := by
    rw [none_made]
    exact allOrNothing_nil _ _
  failed _ := by rw [← perform_commits, none_made, perform_nil]
  faithful holds count := by
    rw [none_made, stopAfter, take_nil]
    exact holds.nextStart app

theorem commitUpdate_faithful {cipher : Cipher} (holds : Faithful cipher state) (bundle : Bundle)
    (appDef : AppDef) (previousIsSecret : Bool)
    (change : Option (String × Option String × Option String)) :
    Faithful cipher (commitUpdate cipher bundle appDef previousIsSecret change state).2 := by
  have recorded := fun change => holds.recorded .scriptUpdate bundle change (by simp)
  cases change with
  | none => exact (recorded none).migrate appDef
  | some changed =>
    exact (recorded (some ⟨changed.1, changed.2.1, changed.2.2, _, _⟩)).migrate appDef

theorem publishUpdate_records (entry : AppEntry Bundle) (bundle : Bundle) (appDef : AppDef)
    (values : Values) (generation : Nat) (state : AppState Bundle) :
    (publishUpdate host.engine host.allowed entry bundle appDef values generation state).records =
      state.records := by
  rw [publishUpdate_eq]
  rfl

theorem update_crash_atomic (busy : Bool) (bundle : Bundle)
    (param : Option (String × Option String)) (state : AppState Bundle) :
    CrashAtomic host app (.update busy bundle param) state := by
  rcases updateApp_cases busy bundle param state with
    ⟨none_made, _⟩ | ⟨entry, appDef, previousIsSecret, values, made, succeeds, _⟩
  · exact .of_nil none_made
  · have commits : (Change.update busy bundle param).commits host app state = _ := made
    constructor
    case settled =>
      rw [commits]
      refine allOrNothing_cons _ (fun commit listed before => ?_) state
      rw [mem_singleton.mp listed]
      exact recordsFound_congr host app (publishUpdate_records ..)
    case failed =>
      intro fails
      exact absurd (succeeds.symm.trans fails) (by decide)
    case faithful =>
      intro holds count
      have committed := commitUpdate_faithful holds bundle appDef previousIsSecret
        (updateChange host.cipher state param)
      rw [commits]
      match count with
      | 0 => exact holds.nextStart app
      | 1 => exact committed.nextStart app
      | count + 2 =>
        simp only [stopAfter, take_succ_cons, take_nil]
        exact (committed.of_records (publishUpdate_records ..).symm).nextStart app

theorem recordsFound_of_unrecorded (unrecorded : state.currentBundle = none) :
    recordsFound host app state = state.records := by
  have empty : state.generations = [] := by
    by_contra nonempty
    have some_row := latestRow_isSome nonempty
    rw [map_eq_none_iff.mp unrecorded] at some_row
    cases some_row
  have undefined : state.startDefinition = none := by
    simp [startDefinition, definitionAt, empty, latestRow]
  rw [recordsFound_eq, undefined]

variable {busy : Bool} {name : String} {value : Option String} {entry : AppEntry Bundle}
  {bundle : Bundle}

variable (goes : admitted host app busy name value state = some entry)
include goes

theorem perform_changeParamCommits_generations (recorded : state.currentBundle = some bundle) :
    (perform (changeParamCommits host app busy name value state) state).generations =
      state.generations ++
        [⟨state.maxGeneration + 1, (recordedBy host entry name value state).kind, bundle,
          some ((recordedBy host entry name value state).record host.cipher)⟩] := by
  simp only [changeParamCommits, goes, recorded, perform_append, perform_storeParamCommits]
  rw [← storeParamValue_maxGeneration host.cipher state name value (entry.appDef.isSecret name),
    perform_bumpParamChangeCommits, perform_cons]
  rw [reloadAndPersist_eq]
  simp [bump]

theorem stopAfter_changeParamCommits_generations (recorded : state.currentBundle = some bundle) :
    (stopAfter (changeParamCommits host app busy name value state) 3 state).generations =
      state.generations ++
        [⟨state.maxGeneration + 1, (recordedBy host entry name value state).kind, bundle,
          none⟩] := by
  simp only [changeParamCommits, goes, recorded]
  -- the value is stored in two commits
  rw [show 3 = (storeParamCommits host.cipher name value (entry.appDef.isSecret name) :
      List (AppState Bundle → AppState Bundle)).length + 1 by
    cases value <;> cases entry.appDef.isSecret name <;> rfl,
    stopAfter_append, perform_storeParamCommits]
  simp only [stopAfter, bumpParamChangeCommits, cons_append, take_succ_cons,
    take_zero, perform_cons, perform_nil, insertGeneration, storeParamValue_generations]

omit goes

theorem CrashAtomic.not_admitted {announce : Announcement}
    (commits : change.commits host app state = changeParamCommits host app busy name value state)
    (served : serve host app change.request state = changeParam host.engine host.cipher
      host.allowed app busy name value announce state) (atomic : CrashAtomic host app change state) :
    admitted host app busy name value state = none := by
  obtain ⟨settled, failed, _⟩ := atomic
  rw [commits] at settled
  rw [served] at failed
  rcases changeParam_cases busy name value announce state with
    ⟨refused, _⟩ | ⟨entry, goes, differs, answered, after⟩
  · exact refused
  exfalso
  cases recorded : state.currentBundle with
  | none =>
    -- The request fails, and its value stays.
    rw [recorded] at answered
    have left := failed answered
    have stored := storeParamValue_currentBundle host.cipher state name value
      (entry.appDef.isSecret name)
    rw [after, changeParamCommits, goes] at left
    simp only [recorded, append_nil, perform_storeParamCommits] at left
    rw [recordsFound_of_unrecorded (stored.trans recorded), recordsFound_of_unrecorded recorded]
      at left
    obtain ⟨_, plain, secret, _⟩ := Records.mk.inj left
    have values : (state.storeParamValue host.cipher name value
        (entry.appDef.isSecret name)).loadAllParams host.cipher = _ :=
      loadAllParams_storeParamValue state name value _
    have here := congrFun values name
    simp only [loadAllParams, loadSecretParams, plain, secret, update_self] at here
    exact differs here
  | some =>
    -- The generation has been inserted and does not say yet what it changed.
    have torn := stopAfter_changeParamCommits_generations goes recorded
    rcases settled 3 with before | complete
    · have rows := congrArg Records.generations before
      rw [recordsFound_generations, recordsFound_generations, torn] at rows
      simp at rows
    · have rows := congrArg Records.generations complete
      rw [recordsFound_generations, recordsFound_generations, torn,
        perform_changeParamCommits_generations goes recorded] at rows
      simp at rows

/-- **A change is crash-atomic exactly if it is an update of the definition, or a
parameter request that is refused or has nothing to change.** -/
theorem crash_atomic_iff (host : Host Bundle) (app : String) (change : Change Bundle)
    (state : AppState Bundle) :
    CrashAtomic host app change state ↔ change.piecemeal host app state = false := by
  have nothing : ∀ {busy name value}, admitted host app busy name value state = none →
      changeParamCommits host app busy name value state = [] := by
    intro busy name value refused
    rw [changeParamCommits, refused]
  cases change with
  | update busy bundle param => exact iff_of_true (update_crash_atomic busy bundle param state) rfl
  | setParam | unsetParam =>
    simp only [Change.piecemeal, isSome_eq_false_iff, isNone_iff_eq_none]
    exact ⟨fun atomic => atomic.not_admitted rfl rfl, fun refused => .of_nil (nothing refused)⟩

end Atomic

/-- The daemon stops while `mode` is set from `open` to `shut`.  After the second
commit the next start finds `shut` where the history says `open`; after the third
it finds a generation recorded as a parameter change that names no parameter. -/
theorem stopped_set_leaves_history_behind :
    let before := (storeMachine lockHost).run Store.blank
      [.about "web" (.register true), .about "web" (.setParam false "mode" "open")] "web"
    let change : Change Bool := .setParam false "mode" "shut"
    let stop := fun count =>
      nextStart lockHost "web" (stopAfter (change.commits lockHost "web" before) count before)
    ((stop 2).row.map RegisteredRow.currentGeneration = some 2 ∧
        (stop 2).loadAllParams lockHost.cipher "mode" = some "shut" ∧
        (stop 2).valuesAt lockHost.cipher 2 "mode" = some "open") ∧
      (stop 3).generations.map (fun row => (row.kind, row.change.map (·.name))) =
        [(.register, none), (.paramSet, some "mode"), (.paramSet, none)] ∧
      ¬ CrashAtomic lockHost "web" change before := by
  have refused : ∀ state, CrashAtomic lockHost "web" (.setParam false "mode" "shut") state →
      (admitted lockHost "web" false "mode" (some "shut") state).isSome = false := by
    intro state atomic
    rw [atomic.not_admitted rfl rfl]
    rfl
  refine ⟨by decide, by decide, fun atomic => ?_⟩
  exact absurd (refused _ atomic) (by decide)

end Seedling.Apps
