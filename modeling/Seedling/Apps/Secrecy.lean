import Seedling.Apps.Registration

/-!
# Secret values

Of the two values of a change, history and events withhold the old one if it was read from
secret storage and the new one if it is written there (`Withheld`).  The live definition
decides what `describe` tells, and whether history shows a change at all.

`secrets_withheld` collects what holds of every history of requests.  A value is seen
nevertheless in two ways (`dropped_secret_is_described`): a set that makes another parameter
secret leaves that one's plain copy until the next update or restart, and `describe` returns
the secret value of a parameter that is no longer declared.
-/

namespace Seedling.Apps

open Function Foundation AppState List

/-! ## What is withheld -/

section Withheld

variable {Bundle : Type}

/-- Of the two values of a change, none is shown that was read from secret
storage before it or is held there after it. -/
structure Withheld (before after : AppState Bundle) (name : String)
    (previous new : Option String) : Prop where
  previous : before.isStoredSecret name → previous = none
  new : after.isStoredSecret name → new = none

/-- The flags of a change tell where its values lie. -/
structure Judged (before after : AppState Bundle) (change : ParamChange) : Prop where
  previous : change.previousIsSecret = before.isStoredSecret change.name
  new : after.isStoredSecret change.name → change.isSecret

variable {before after : AppState Bundle} {change : ParamChange}

variable (judged : Judged before after change)
include judged

/-- What the plain columns of history hold, and the event of an update shows. -/
theorem Judged.withheld :
    Withheld before after change.name (if change.previousIsSecret then none else change.previous)
      (if change.isSecret then none else change.newValue) where
  previous held := by rw [judged.previous, if_pos held]
  new held := by rw [if_pos (judged.new held)]

/-- What the event of a parameter request shows: it has one flag for both values. -/
theorem Judged.announced {request : AppRequest Bundle} {announce : Announcement}
    (asked : ParamRequest change.name request change.newValue announce)
    {generation previousGeneration : Nat} {name : String} {previous new : Option String}
    (shows : (announce generation previousGeneration change.isSecret change.previousIsSecret
      change.previous).shows = some (name, previous, new)) :
    Withheld before after name previous new := by
  obtain ⟨changed, old, value, isSecret, previousIsSecret⟩ := change
  have withheld := judged.withheld
  cases asked with
  | set =>
    cases isSecret <;> cases previousIsSecret <;> cases shows
    exact withheld
  | unset =>
    obtain ⟨rfl, rfl, rfl⟩ : changed = name ∧
        (if previousIsSecret then none else old) = previous ∧ none = new := by
      simpa [announceUnset, AppEvent.shows] using shows
    exact ⟨withheld.previous, fun _ => rfl⟩

end Withheld

/-! ## What a request stores, records and announces -/

section Effect

variable {Bundle : Type} {host : Host Bundle} {app : String} {state : AppState Bundle}
  {request : AppRequest Bundle} {result : Outcome × AppState Bundle}

theorem judged_store (cipher : Cipher) (state : AppState Bundle) (name : String)
    (value : Option String) (isSecret : Bool) {after : AppState Bundle}
    (kept : isSecret = false → after.secretParams name =
      (state.storeParamValue cipher name value isSecret).secretParams name) :
    Judged state after
      ⟨name, state.loadAllParams cipher name, value, isSecret, state.isStoredSecret name⟩ where
  previous := rfl
  new held := by
    cases isSecret with
    | true => rfl
    | false =>
      simp [isStoredSecret, kept, storeParamValue_secretParams] at held

variable {name : String} {value : Option String} {param : Option (String × Option String)}
  {previous : Option String}

theorem updateChange_eq_some {cipher : Cipher}
    (carried : updateChange cipher state param = some (name, previous, value)) :
    param = some (name, value) ∧ previous = state.loadAllParams cipher name := by
  cases param with
  | none => cases carried
  | some changed =>
    by_cases same : state.loadAllParams cipher changed.1 = changed.2
    · simp [updateChange, same] at carried
    · obtain ⟨rfl, rfl, rfl⟩ : changed.1 = name ∧
          state.loadAllParams cipher changed.1 = previous ∧ changed.2 = value := by
        simpa [updateChange, same] using carried
      exact ⟨rfl, rfl⟩

variable {entry : AppEntry Bundle} {bundle : Bundle} {generation : Nat}

theorem judged_paramChanged {kind : GenerationKind} {change : Option ParamChange}
    {bumped : AppState Bundle}
    (recorded : (generation, bumped) = (state.storeParamValue host.cipher name value
      (entry.appDef.isSecret name)).bump host.cipher kind bundle change) :
    Judged state (reloadAndPersist host.engine host.cipher host.allowed app entry generation bumped)
      ⟨name, state.loadAllParams host.cipher name, value, entry.appDef.isSecret name,
        state.isStoredSecret name⟩ := by
  refine judged_store host.cipher state name value _ fun _ => ?_
  rw [reloadAndPersist_eq, (Prod.mk.inj recorded).2]

theorem judged_updated {appDef : AppDef} {previousIsSecret : Bool} {values : Values}
    {committed : AppState Bundle}
    (carried : some (name, previous, value) = updateChange host.cipher state param)
    (held : previousIsSecret = param.any fun changed => state.isStoredSecret changed.1)
    (recorded : (generation, committed) = commitUpdate host.cipher bundle appDef previousIsSecret
      (some (name, previous, value)) state) :
    Judged state
      (publishUpdate host.engine host.allowed entry bundle appDef values generation committed)
      ⟨name, previous, value, appDef.isSecret name, previousIsSecret⟩ := by
  obtain ⟨rfl, rfl⟩ := updateChange_eq_some carried.symm
  rw [held]
  refine judged_store host.cipher state name value _ fun plain => ?_
  rw [publishUpdate_eq, (Prod.mk.inj recorded).2,
    migrateNewlySecretParams_secretParams host.cipher _ plain]

theorem commitUpdate_generations (cipher : Cipher) (bundle : Bundle) (appDef : AppDef)
    (previousIsSecret : Bool) (change : Option (String × Option String × Option String)) :
    (commitUpdate cipher bundle appDef previousIsSecret change state).2.generations =
      state.generations ++
        [⟨(commitUpdate cipher bundle appDef previousIsSecret change state).1, .scriptUpdate,
          bundle,
          change.map fun changed => ParamChange.record cipher
            ⟨changed.1, changed.2.1, changed.2.2, appDef.isSecret changed.1,
              previousIsSecret⟩⟩] := by
  have migrated : ∀ before : AppState Bundle,
      (before.migrateNewlySecretParams cipher appDef).generations = before.generations := by
    intro before
    obtain ⟨params, secretParams, moved⟩ := migrateNewlySecretParams_frame cipher before appDef
    rw [moved]
  cases change with
  | none | some => simp [commitUpdate, migrated, bump]

variable (effect : AppEffect host app state request result)
include effect

/-- **No event shows what it should withhold.** -/
theorem AppEffect.announces :
    ∀ event ∈ result.1.events, ∀ name previous new, event.shows = some (name, previous, new) →
      Withheld state result.2 name previous new := by
  have silent : ∀ {outcome : Outcome}, outcome.Plain → ∀ event ∈ outcome.events,
      ∀ name previous new, event.shows = some (name, previous, new) →
        Withheld state result.2 name previous new := by
    intro outcome plain event mem name previous new shows
    rw [plain.silent event mem] at shows
    cases shows
  cases effect with
  | unchanged _ _ plain | registered _ _ _ _ _ plain | deregistered _ _ _ plain
  | adjusted _ _ _ _ _ _ _ plain | transitioned _ _ _ _ _ _ plain => exact silent plain
  | unrecorded => simp
  | paramChanged _ _ _ _ _ _ _ _ _ _ _ asked recorded =>
    intro event mem shown previous new shows
    obtain rfl := mem_singleton.mp mem
    exact (judged_paramChanged recorded).announced asked shows
  | updated _ _ _ _ _ _ _ _ _ _ _ _ _ _ carried held recorded =>
    intro event mem shown previous new shows
    obtain rfl := mem_singleton.mp mem
    obtain ⟨⟨name, old, value⟩, rfl, same⟩ := Option.map_eq_some_iff.mp shows
    cases same
    exact (judged_updated carried held recorded).withheld
  | rephased | skipped => exact silent Outcome.plain_quiet
  | loaded => simp

/-- **No generation is recorded with a plain value that it should withhold.** -/
theorem AppEffect.records {row : GenerationRow Bundle} (mem : row ∈ result.2.generations) :
    row ∈ state.generations ∨ ∀ change, row.change = some change →
      Withheld state result.2 change.name change.previousValue change.newValue := by
  cases effect with
  | unchanged | adjusted | transitioned | skipped => exact .inl mem
  | registered =>
    refine (mem_append.mp mem).imp_right fun appended => ?_
    obtain rfl := mem_singleton.mp appended
    nofun
  | unrecorded => exact .inl (by simpa using mem)
  | paramChanged _ entry name value _ bundle _ _ generation bumped _ _ recorded =>
    have appended : row ∈ bumped.generations := by rwa [reloadAndPersist_eq] at mem
    rw [(Prod.mk.inj recorded).2, storeParamValue_generations] at appended
    refine (mem_append.mp appended).imp_right fun last => ?_
    obtain rfl := mem_singleton.mp last
    rintro _ ⟨⟩
    exact (judged_paramChanged recorded).withheld
  | updated _ entry bundle appDef _ change previousIsSecret values _ _ _ generation committed
      _ carried held recorded =>
    have appended : row ∈ committed.generations := by rwa [publishUpdate_eq] at mem
    rw [show committed = (_ : Nat × AppState Bundle).2 from congrArg Prod.snd recorded,
      commitUpdate_generations] at appended
    refine (mem_append.mp appended).imp_right fun last => ?_
    obtain rfl := mem_singleton.mp last
    intro shown found
    obtain ⟨⟨name, previous, value⟩, rfl, rfl⟩ := Option.map_eq_some_iff.mp found
    exact (judged_updated carried held recorded).withheld
  | deregistered => cases mem
  | rephased =>
    refine .inl ?_
    unfold setPhaseAndPersist at mem
    split at mem <;> exact mem
  | loaded row entry =>
    obtain ⟨params, secretParams, moved⟩ :=
      migrateNewlySecretParams_frame host.cipher state entry.appDef
    exact .inl (by rwa [moved] at mem)

/-- Nothing that the live definition declares secret has a plain copy. -/
def Encrypted (state : AppState Bundle) : Prop :=
  ∀ entry, state.entry = some entry → ∀ name, entry.appDef.isSecret name →
    state.params name = none

/-- **A request that puts a definition in force leaves no plain secrets.** -/
theorem AppEffect.encrypted (kempt : Kempt state) (installs : request.installs)
    (completed : result.1.answer.isOk) : Encrypted result.2 := by
  cases effect with
  | unchanged _ _ _ settled =>
    rw [settled installs] at completed
    cases completed
  | registered _ _ _ _ free =>
    intro _ _ name _
    exact congrFun (congrArg AppState.params (kempt.unknown free)) name
  | unrecorded => cases completed
  | paramChanged _ _ _ _ _ _ _ _ _ _ _ asked => cases asked <;> cases installs
  | updated _ entry bundle appDef _ _ _ values _ _ _ generation committed _ _ _ recorded =>
    rw [publishUpdate_eq]
    rintro _ ⟨⟩ name secret
    rw [(Prod.mk.inj recorded).2]
    exact migrateNewlySecretParams_params host.cipher _ secret
  | deregistered | rephased => cases installs
  | adjusted _ _ _ _ _ _ _ _ other | transitioned _ _ _ _ _ _ _ other => simp [other] at installs
  | skipped => exact nofun
  | loaded _ =>
    rintro _ ⟨⟩ name secret
    exact migrateNewlySecretParams_params host.cipher state secret

/-- **No other request makes a plain copy of what the definition in force
declares secret.** -/
theorem AppEffect.keeps_encrypted (other : request.installs = false)
    (found : state.entry = some entry) (secret : entry.appDef.isSecret name)
    (gone : state.params name = none) :
    result.2.params name = none := by
  have stored : ∀ (changed : String) (value : Option String),
      (state.storeParamValue host.cipher changed value (entry.appDef.isSecret changed)).params
        name = none := by
    intro changed value
    rw [storeParamValue_params]
    by_cases same : name = changed
    · subst same
      rw [update_self, if_pos secret]
    · rw [update_of_ne same, gone]
  cases effect with
  | unchanged => exact gone
  | registered => cases other
  | unrecorded _ held changed value _ _ _ holds =>
    obtain rfl : entry = held := Option.some.inj (found.symm.trans holds)
    exact stored changed value
  | paramChanged _ held changed value _ _ _ _ generation bumped holds _ recorded =>
    obtain rfl : entry = held := Option.some.inj (found.symm.trans holds)
    rw [reloadAndPersist_eq, (Prod.mk.inj recorded).2]
    exact stored changed value
  | updated => cases other
  | deregistered => rfl
  | adjusted => exact gone
  | rephased =>
    rw [setPhaseAndPersist, found]
    exact gone
  | transitioned => exact gone
  | skipped | loaded => cases other

end Effect

/-! ## Reading values back -/

section Reads

variable {Bundle : Type} {cipher : Cipher} {app : String} {state : AppState Bundle}

def Description.Shows (description : Description) (name value : String) : Prop :=
  (∃ shown ∈ description.params, shown.name = name ∧ shown.value = some value) ∨
    description.unknownParams name = some value

/-- A description shows no value of a parameter that the live definition declares
secret. -/
theorem describeApp_shows {description : Description} {name value : String}
    (described : describeApp cipher app state = .ok description)
    (shows : description.Shows name value) :
    ∃ entry, state.entry = some entry ∧ entry.appDef.isSecret name = false := by
  unfold describeApp at described
  split at described
  · cases described
  · rename_i entry found
    refine ⟨entry, found, ?_⟩
    cases described
    rcases shows with ⟨shown, mem, rfl, valued⟩ | unknown
    · obtain ⟨⟨name, schema⟩, declared, rfl⟩ := mem_map.mp mem
      rw [AppDef.isSecret_of_mem_params declared]
      by_contra secret
      simp [secret] at valued
    · by_contra secret
      have declares : entry.appDef.declares name := by
        obtain ⟨schema, declared, _⟩ := AppDef.mem_params_of_isSecret (Bool.of_not_eq_false secret)
        rw [AppDef.declares, AppDef.lookup_of_mem_params declared, Option.isSome_some]
      simp [declares] at unknown

/-- History shows the plain columns of recorded changes, and none of a parameter
that the live definition declares secret. -/
theorem listGenerations_shows {before limit : Option Nat} {listed : List ShownGeneration}
    {shown : ShownGeneration} {name : String} {previous new : Option String}
    (served : listGenerations app before limit state = .ok listed) (mem : shown ∈ listed)
    (shows : shown.change = some (name, some (previous, new))) :
    (∃ entry, state.entry = some entry ∧ entry.appDef.isSecret name = false) ∧
      ∃ row ∈ state.generations, ∃ change, row.change = some change ∧ change.name = name ∧
        change.previousValue = previous ∧ change.newValue = new := by
  unfold listGenerations at served
  split at served
  · cases served
  · rename_i entry found
    cases served
    obtain ⟨row, taken, rfl⟩ := mem_map.mp mem
    obtain ⟨change, recorded, shown⟩ := Option.map_eq_some_iff.mp shows
    obtain ⟨rfl, values⟩ := Prod.mk.inj shown
    split at values
    · cases values
    · rename_i plain
      cases values
      refine ⟨⟨entry, found, ?_⟩, row, ?_, change, recorded, rfl, rfl, rfl⟩
      · simp only [Bool.or_eq_true, not_or] at plain
        exact Bool.of_not_eq_true plain.1.1
      · have kept := mergeSort_perm _ _ |>.mem_iff.mp (mem_of_mem_take taken)
        exact (mem_filter.mp kept).1

end Reads

/-! ## Histories -/

section Histories

variable {Bundle : Type} (host : Host Bundle)

/-- What holds of the secret values of an app after a history of requests. -/
structure SecretsWithheld (requests : List (StoreRequest Bundle)) (app : String) : Prop where
  /-- A registration, update or restart leaves secret values in secret storage only. -/
  encrypted : let state := (storeMachine host).run Store.blank requests app
    ∀ request, request.installs → (serve host app request state).1.answer.isOk →
      Encrypted (serve host app request state).2
  /-- No other request makes a plain copy of a value declared secret. -/
  kept : let state := (storeMachine host).run Store.blank requests app
    ∀ request, request.installs = false → ∀ entry, state.entry = some entry →
      ∀ name, entry.appDef.isSecret name → state.params name = none →
        (serve host app request state).2.params name = none
  /-- Events withhold values that are read from, or go to, secret storage. -/
  announced : let state := (storeMachine host).run Store.blank requests app
    ∀ request, ∀ event ∈ (serve host app request state).1.events,
      ∀ name previous new, event.shows = some (name, previous, new) →
        Withheld state (serve host app request state).2 name previous new
  /-- A description shows no value of a parameter declared secret. -/
  described : let state := (storeMachine host).run Store.blank requests app
    ∀ description, describeApp host.cipher app state = .ok description →
      ∀ name value, description.Shows name value →
        ∃ entry, state.entry = some entry ∧ entry.appDef.isSecret name = false
  /-- History shows no change of a parameter declared secret, and of any other
  change it withholds what the request that made it read from, or put in, secret
  storage. -/
  listed : let state := (storeMachine host).run Store.blank requests app
    ∀ before limit listed, listGenerations app before limit state = .ok listed →
      ∀ shown ∈ listed, ∀ name previous new, shown.change = some (name, some (previous, new)) →
        (∃ entry, state.entry = some entry ∧ entry.appDef.isSecret name = false) ∧
          ∃ earlier request later, requests = earlier ++ request :: later ∧
            Withheld ((storeMachine host).run Store.blank earlier app)
              ((storeMachine host).run Store.blank (earlier ++ [request]) app) name previous new

/-- Every recorded change was made by some request of the history, and its plain
columns withhold what that request read from, or put in, secret storage. -/
theorem recorded_withheld (requests : List (StoreRequest Bundle)) (app : String)
    {row : GenerationRow Bundle} {change : RecordedChange}
    (mem : row ∈ ((storeMachine host).run Store.blank requests app).generations)
    (recorded : row.change = some change) :
    ∃ earlier request later, requests = earlier ++ request :: later ∧
      Withheld ((storeMachine host).run Store.blank earlier app)
        ((storeMachine host).run Store.blank (earlier ++ [request]) app) change.name
        change.previousValue change.newValue := by
  refine (storeMachine host).exists_origin (M := fun store => row ∈ (store app).generations)
    (Q := fun before after => Withheld (before app) (after app) change.name change.previousValue
      change.newValue) ?_ Store.blank requests nofun mem
  intro store request present
  rcases next_serve host store request app with same | ⟨served, _, stepped⟩
  · exact .inl (same ▸ present)
  · rw [stepped] at present ⊢
    exact ((serve_effect served).records present).imp_right fun withheld => withheld _ recorded

/-- **Secret values are withheld, whatever has been requested.** -/
theorem secrets_withheld (requests : List (StoreRequest Bundle)) (app : String) :
    SecretsWithheld host requests app where
  encrypted request installs completed :=
    (serve_effect request).encrypted (run_kempt host requests app) installs completed
  kept request other entry found name secret gone :=
    (serve_effect request).keeps_encrypted other found secret gone
  announced request := (serve_effect request).announces
  described description served name value shows := describeApp_shows served shows
  listed before limit listed served shown member name previous new shows := by
    obtain ⟨live, row, present, change, recorded, rfl, rfl, rfl⟩ :=
      listGenerations_shows served member shows
    exact ⟨live, recorded_withheld host requests app present recorded⟩

end Histories

/-! ## Values that are seen nevertheless -/

/-- A host with two bundles: one declares `token`, secret if `mode` is `locked`,
and `mode`; the other declares nothing. -/
def lockHost : Host Bool where
  engine :=
    { build := fun _ declaring values =>
        { params :=
            if declaring then [("token", ⟨values "mode" = some "locked"⟩), ("mode", ⟨false⟩)]
            else []
          params_nodup := by cases declaring <;> simp
          actions := []
          shells := []
          install := false
          paramChanges := []
          deployments := []
          resources := []
          registries := [] }
      error := fun _ _ _ => none
      rejections := fun _ _ _ _ => []
      checkInstallable := fun _ => .ok ()
      unsupported := fun _ => none }
  cipher := .transparent
  allowed := []

/-- Setting `mode` makes `token` secret and leaves its value in plain storage.
An update to the same bundle moves it to secret storage, and an update to a
bundle that declares nothing has `describe` return it from there. -/
theorem dropped_secret_is_described :
    let locked : List (StoreRequest Bool) :=
      [.about "web" (.register true), .about "web" (.setParam false "token" "hunter2"),
        .about "web" (.setParam false "mode" "locked")]
    let dropped : List (StoreRequest Bool) :=
      locked ++ [.about "web" (.update false true none), .about "web" (.update false false none)]
    let plain := (storeMachine lockHost).run Store.blank locked "web"
    let state := (storeMachine lockHost).run Store.blank dropped "web"
    plain.entry.map (·.appDef.isSecret "token") = some true ∧
      plain.params "token" = some "hunter2" ∧
      state.isStoredSecret "token" ∧ state.params "token" = none ∧
      state.entry.map (·.appDef.declares "token") = some false ∧
      (describeApp lockHost.cipher "web" state).toOption.bind (·.unknownParams "token") =
        some "hunter2" := by
  decide

end Seedling.Apps
