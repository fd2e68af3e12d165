import Seedling.Apps.Generations

/-!
# Generations reconstruct

Reading a generation back from the tables gives the definition and the parameters that were
in force when it was created.  An app's history accounts for its state (`Accounted`): the
generations are numbered from 1, the latest definition is the one in force, and the recorded
changes give the stored parameters.

Rows are only appended while an app is registered, so what the history says of a generation
does not change until then: `generations_reconstruct`.
-/

namespace Seedling.Apps

open Function Foundation AppState List

/-! ## Histories that account for the state -/

section Accounted

variable {Bundle : Type} {host : Host Bundle} {app : String} {state : AppState Bundle}

/-- The history of an app is numbered from 1 and says what each change was; while the
app is registered, its latest definition is the one in force and its changes give the
stored parameters. -/
structure Accounted (cipher : Cipher) (state : AppState Bundle) : Prop where
  kempt : Kempt state
  numbered : Numbered state.generations
  tells : ∀ row ∈ state.generations, row.Tells cipher
  faithful : ∀ entry, state.entry = some entry → Faithful cipher state
  inForce : ∀ entry, state.entry = some entry →
    state.definitionAt state.maxGeneration = some entry.bundle

theorem blank_accounted (cipher : Cipher) : Accounted cipher (AppState.blank : AppState Bundle) :=
  ⟨⟨fun _ => rfl, nofun⟩, rfl, nofun, nofun, nofun⟩

variable {cipher : Cipher} {after : AppState Bundle}

theorem Faithful.transfer (faithful : Faithful cipher state)
    (row : after.row.map RegisteredRow.currentGeneration =
      state.row.map RegisteredRow.currentGeneration) (params : after.params = state.params)
    (secretParams : after.secretParams = state.secretParams)
    (generations : after.generations = state.generations) : Faithful cipher after := by
  obtain ⟨current, values, carried, single⟩ := faithful
  constructor
  case current => rw [row, current, maxGeneration, maxGeneration, generations]
  case values =>
    rw [maxGeneration, valuesAt, generations]
    refine Eq.trans ?_ values
    funext name
    simp only [loadAllParams, loadSecretParams, params, secretParams]
  case carried => rwa [generations]
  case single => rwa [params, secretParams]

variable {row : GenerationRow Bundle} (appended : after.generations = state.generations ++ [row])
  (next : row.generation = state.maxGeneration + 1)
include appended next

theorem maxGeneration_append : after.maxGeneration = state.maxGeneration + 1 := by
  rw [maxGeneration, appended, map_append, foldl_append, map_singleton, foldl_cons, next]
  exact Nat.max_eq_right (Nat.le_succ _)

theorem definitionAt_installed (installs : row.installs) :
    after.definitionAt after.maxGeneration = some row.bundle := by
  rw [definitionAt, maxGeneration_append appended next, appended, filter_append,
    filter_cons_of_pos (by simp [next, installs]), filter_nil, latestRow_append,
    Option.map_some]
  intro older mem
  rw [next]
  exact Nat.le_succ_of_le (le_maxGeneration (mem_filter.mp mem).1)

theorem definitionAt_kept (keeps : row.installs = false) :
    after.definitionAt after.maxGeneration = state.definitionAt state.maxGeneration := by
  rw [definitionAt, maxGeneration_append appended next, appended, filter_append,
    filter_cons_of_neg (by simp [keeps]), filter_nil, append_nil]
  congr 2
  apply filter_congr
  intro older mem
  have below := le_maxGeneration mem
  simp [below, Nat.le_succ_of_le below]

omit next appended

theorem Accounted.keep (accounted : Accounted cipher state) (kempt : Kempt after)
    (generations : after.generations = state.generations)
    (kept : ∀ entry, after.entry = some entry → Faithful cipher after ∧
      ∃ old, state.entry = some old ∧ entry.bundle = old.bundle) : Accounted cipher after where
  kempt := kempt
  numbered := generations ▸ accounted.numbered
  tells := generations ▸ accounted.tells
  faithful entry found := (kept entry found).1
  inForce entry found := by
    obtain ⟨-, old, held, same⟩ := kept entry found
    rw [same, ← accounted.inForce old held, definitionAt, definitionAt, maxGeneration,
      maxGeneration, generations]

theorem Accounted.append (accounted : Accounted cipher state) (kempt : Kempt after)
    (appended : after.generations = state.generations ++ [row])
    (next : row.generation = state.maxGeneration + 1) (tells : row.Tells cipher)
    (faithful : Faithful cipher after)
    (inForce : ∀ entry, after.entry = some entry →
      (row.installs ∧ entry.bundle = row.bundle) ∨
        (row.installs = false ∧ ∃ old, state.entry = some old ∧ entry.bundle = old.bundle)) :
    Accounted cipher after where
  kempt := kempt
  numbered := by
    rw [appended]
    exact accounted.numbered.append row (next.trans (by rw [accounted.numbered.maxGeneration]))
  tells other mem := by
    rw [appended] at mem
    rcases mem_append.mp mem with older | last
    · exact accounted.tells other older
    · rw [mem_singleton.mp last]
      exact tells
  faithful _ _ := faithful
  inForce entry found := by
    rcases inForce entry found with ⟨installs, same⟩ | ⟨keeps, old, held, same⟩
    · rw [definitionAt_installed appended next installs, same]
    · rw [definitionAt_kept appended next keeps, same, accounted.inForce old held]

/-- The request is neither a parameter change nor a start. -/
def AppRequest.ordinary : AppRequest Bundle → Bool
  | .setParam .. | .unsetParam .. | .load => false
  | _ => true

theorem AppEffect.accounted {request : AppRequest Bundle} {result : Outcome × AppState Bundle}
    (effect : AppEffect host app state request result) (accounted : Accounted host.cipher state)
    (ordinary : request.ordinary)
    (fresh : ∀ bundle, request = .register bundle → state.entry = none → state = .blank) :
    Accounted host.cipher result.2 := by
  have kempt := effect.kempt accounted.kempt
  cases effect with
  | unchanged => exact accounted
  | registered bundle faults schedules outcome free =>
    obtain rfl := fresh bundle rfl free
    refine accounted.append kempt rfl rfl ?_ ⟨rfl, ?_, ?_, fun _ => .inl rfl⟩ ?_
    · rintro _ ⟨⟩
    · rfl
    · simp [GenerationRow.ofParam, AppState.blank]
    · rintro entry ⟨⟩
      exact .inl ⟨rfl, rfl⟩
  | unrecorded _ _ _ _ _ _ _ _ asked | paramChanged _ _ _ _ _ _ _ _ _ _ _ asked =>
    cases asked <;> cases ordinary
  | updated _ entry bundle appDef _ change previousIsSecret values _ _ _ generation committed
      found _ _ recorded =>
    have committedFaithful := commitUpdate_faithful (accounted.faithful entry found) bundle
      appDef previousIsSecret change
    rw [← show committed = (_ : Nat × AppState Bundle).2 from congrArg Prod.snd recorded]
      at committedFaithful
    have appended := commitUpdate_appended recorded
    rw [publishUpdate_eq] at kempt ⊢
    refine accounted.append kempt appended rfl ?_ (committedFaithful.transfer rfl rfl rfl rfl) ?_
    · intro told carried
      obtain ⟨changed, -, rfl⟩ := Option.map_eq_some_iff.mp carried
      refine ⟨?_, _, rfl, ?_, ?_⟩ <;> rintro ⟨⟩
    · rintro other ⟨⟩
      exact .inl ⟨rfl, rfl⟩
  | deregistered => refine ⟨kempt, rfl, ?_, ?_, ?_⟩ <;> rintro _ ⟨⟩
  | adjusted =>
    exact accounted.keep kempt rfl fun entry found =>
      ⟨(accounted.faithful entry found).transfer rfl rfl rfl rfl, entry, found, rfl⟩
  | rephased =>
    cases found : state.entry with
    | none =>
      rw [setPhaseAndPersist, found]
      exact accounted
    | some entry =>
      rw [setPhaseAndPersist, found] at kempt ⊢
      refine accounted.keep kempt rfl ?_
      rintro other ⟨⟩
      refine ⟨(accounted.faithful entry found).transfer ?_ rfl rfl rfl, entry, found, rfl⟩
      exact (accounted.kempt.known entry found).row.symm
  | transitioned =>
    refine accounted.keep kempt rfl fun entry found => ?_
    obtain ⟨old, held, rfl⟩ := Option.map_eq_some_iff.mp found
    refine ⟨(accounted.faithful old held).transfer ?_ rfl rfl rfl, old, held, rfl⟩
    exact Option.map_map _ _ _
  | skipped | loaded => cases ordinary

theorem changeParam_accounted (accounted : Accounted host.cipher state) (busy : Bool)
    (name : String) (value : Option String) (announce : Announcement)
    (kempt : Kempt (changeParam host.engine host.cipher host.allowed app busy name value announce
      state).2) :
    Accounted host.cipher
      (changeParam host.engine host.cipher host.allowed app busy name value announce state).2 := by
  cases goes : admitted host app busy name value state with
  | none =>
    rcases changeParam_cases busy name value announce state with ⟨-, same⟩ | ⟨_, going, _⟩
    · rw [same]
      exact accounted
    · rw [goes] at going
      cases going
  | some entry =>
    obtain ⟨found, bundle, current⟩ := accounted.kempt.of_admitted goes
    let change := recordedBy host entry name value state
    let bumped := ((state.storeChange host.cipher (some change)).bump host.cipher change.kind
      bundle (some change)).2
    have recorded : Faithful host.cipher bumped :=
      (accounted.faithful entry found).recorded change.kind bundle (some change) fun _ => rfl
    have appended : bumped.generations = state.generations ++ _ :=
      bump_generations host.cipher change.kind bundle (some change)
    have param : change.kind = .paramSet ∧ value.isSome ∨
        change.kind = .paramUnset ∧ value = none := by
      cases value with
      | none => exact .inr ⟨rfl, rfl⟩
      | some => exact .inl ⟨rfl, rfl⟩
    rw [(changeParam_recorded announce goes current).trans (reloadAndPersist_eq ..)] at kempt ⊢
    refine accounted.append kempt appended rfl ?_ (recorded.transfer ?_ rfl rfl rfl) ?_
    · rintro _ ⟨⟩
      rcases param with ⟨kind, isSome⟩ | ⟨kind, none⟩
      · simp only [kind]
        exact ⟨nofun, change, rfl, fun _ => isSome, nofun⟩
      · simp only [kind]
        exact ⟨nofun, change, rfl, nofun, fun _ => none⟩
    · rw [recorded.current, maxGeneration_append appended rfl]
      rfl
    · rintro other ⟨⟩
      refine .inr ⟨?_, entry, found, ?_⟩
      · rcases param with ⟨kind, -⟩ | ⟨kind, -⟩ <;> simp [GenerationRow.installs, kind]
      · unfold reload
        split <;> rfl

theorem loadApp_defined {entry : AppEntry Bundle}
    (found : (loadApp host.engine host.cipher app state).2.entry = some entry) :
    ∃ row, state.row = some row ∧
      state.definitionAt row.currentGeneration = some entry.bundle := by
  unfold loadApp at found
  split at found
  · cases found
  · rename_i row holds
    split at found
    · cases found
    · split at found
      · cases found
      · rename_i bundle defined
        refine ⟨row, holds, ?_⟩
        cases found
        exact defined

variable (accounted : Accounted host.cipher state)
include accounted

theorem load_accounted : Accounted host.cipher (serve host app .load state).2 := by
  have effect : AppEffect host app state .load _ := serve_effect _
  refine accounted.keep (effect.kempt accounted.kempt) (effect.silent_generations rfl) ?_
  intro entry found
  obtain ⟨row, holds, defined⟩ := loadApp_defined found
  cases held : state.entry with
  | none =>
    rw [accounted.kempt.unknown held] at holds
    cases holds
  | some old =>
    have faithful := accounted.faithful old held
    have current : row.currentGeneration = state.maxGeneration := by
      simpa [holds] using faithful.current
    rw [current, accounted.inForce old held] at defined
    exact ⟨faithful.nextStart app, old, rfl, (Option.some.inj defined).symm⟩

/-- **Every request goes on with the account**, if a name is registered once only. -/
theorem serve_accounted (request : AppRequest Bundle)
    (fresh : ∀ bundle, request = .register bundle → state.entry = none → state = .blank) :
    Accounted host.cipher (serve host app request state).2 := by
  have effect : AppEffect host app state request _ := serve_effect request
  cases request with
  | setParam busy name value =>
    exact changeParam_accounted accounted busy name (some value) _ (effect.kempt accounted.kempt)
  | unsetParam busy name =>
    exact changeParam_accounted accounted busy name none _ (effect.kempt accounted.kempt)
  | load => exact load_accounted accounted
  | _ => exact effect.accounted accounted rfl fresh

end Accounted

/-! ## Runs -/

section Steps

variable {Bundle : Type} {host : Host Bundle} {app : String} {state : AppState Bundle}
  {request : AppRequest Bundle} {result : Outcome × AppState Bundle}
  (effect : AppEffect host app state request result)
include effect

/-- A history stays, grows by one generation, or goes with its app. -/
theorem AppEffect.generations : result.2.generations = state.generations ∨
      (∃ row, result.2.generations = state.generations ++ [row]) ∨ result.2.entry = none := by
  cases effect with
  | unchanged | adjusted | transitioned => exact .inl rfl
  | registered => exact .inr (.inl ⟨_, rfl⟩)
  | unrecorded => exact .inl (storeParamValue_generations ..)
  | paramChanged _ entry name value _ bundle _ _ generation bumped _ _ recorded =>
    refine .inr (.inl ?_)
    rw [reloadAndPersist_generations, (Prod.mk.inj recorded).2]
    exact ⟨_, congrArg (· ++ [_]) (storeParamValue_generations ..)⟩
  | updated _ _ _ _ _ _ _ _ _ _ _ _ committed _ _ _ recorded =>
    have appended : committed.generations = _ := commitUpdate_appended recorded
    rw [publishUpdate_eq]
    exact .inr (.inl ⟨_, appended⟩)
  | deregistered | skipped => exact .inr (.inr rfl)
  | rephased =>
    refine .inl ?_
    unfold setPhaseAndPersist
    split <;> rfl
  | loaded row entry =>
    obtain ⟨params, secretParams, moved⟩ :=
      migrateNewlySecretParams_frame host.cipher state entry.appDef
    rw [moved]
    exact .inl rfl

theorem AppEffect.stays_unregistered (kempt : Kempt state) (free : state.entry = none)
    (other : ∀ bundle, request ≠ .register bundle) : result.2.entry = none := by
  cases effect with
  | unchanged => exact free
  | registered bundle => exact absurd rfl (other bundle)
  | unrecorded _ _ _ _ _ _ _ found | paramChanged _ _ _ _ _ _ _ _ _ _ found
  | updated _ _ _ _ _ _ _ _ _ _ _ _ _ found | deregistered _ _ found =>
    rw [free] at found
    cases found
  | adjusted => exact free
  | rephased => rw [setPhaseAndPersist, free]; exact free
  | transitioned => rw [transitionPhase, free]; rfl
  | skipped => rfl
  | loaded row _ _ found =>
    rw [kempt.unknown free] at found
    cases found

omit effect

theorem AppEffect.stays_blank (effect : AppEffect host app .blank request result)
    (free : result.2.entry = none) : result.2 = .blank := by
  cases effect with
  | unchanged | skipped | rephased => rfl
  | registered => cases free
  | unrecorded _ _ _ _ _ _ _ found | paramChanged _ _ _ _ _ _ _ _ _ _ found
  | updated _ _ _ _ _ _ _ _ _ _ _ _ _ found | deregistered _ _ found | loaded _ _ _ found =>
    cases found
  | adjusted _ _ _ _ _ _ known => cases known
  | transitioned _ phase scaling stopped _ kept =>
    obtain ⟨rfl, rfl⟩ := kept rfl
    rfl

/-- **A history is only added to**, by any requests about any apps and any restarts, until
the app is deregistered or cannot be loaded. -/
theorem generations_only_added_to (host : Host Bundle) (earlier later : List (StoreRequest Bundle))
    (app : String) :
    let reached requests := (storeMachine host).run Store.blank requests app
    (reached earlier).generations <+: (reached (earlier ++ later)).generations ∨
      ∃ before after, later = before ++ after ∧ (reached (earlier ++ before)).entry = none := by
  intro reached
  induction later using reverseRecOn with
  | nil => exact .inl (by simp)
  | append_singleton later request ih =>
    rcases ih with kept | ⟨before, after, rfl, gone⟩
    · have last : reached (earlier ++ (later ++ [request])) = (storeMachine host).next
          ((storeMachine host).run Store.blank (earlier ++ later)) request app := by
        simp only [reached, ← append_assoc, Machine.run_append]
        rfl
      rcases next_serve host _ request app with same | ⟨served, -, stepped⟩
      · exact .inl (by rwa [last, same])
      · rcases (serve_effect served).generations with same | ⟨row, appended⟩ | gone
        · exact .inl (by rwa [last, stepped, same])
        · exact .inl (by rw [last, stepped, appended]; exact kept.trans (prefix_append ..))
        · exact .inr ⟨later ++ [request], [], by simp, by rw [last, stepped, gone]⟩
    · exact .inr ⟨before, after ++ [request], append_assoc .., gone⟩

end Steps

section Runs

variable {Bundle : Type} (host : Host Bundle) (codec : BundleCodec Bundle)
  (requests : List (DefinitionRequest Bundle))

def definitionsAfter : Definitions Bundle :=
  (definitionMachine host codec).run .blank requests

/-- A name is registered only if it has never been that of an app. -/
def NoNameReused : Prop :=
  ∀ earlier app bundle later,
    requests = earlier ++ .store (.about app (.register bundle)) :: later →
      ((definitionsAfter host codec earlier).apps app).entry = none →
        ∀ before after, earlier = before ++ after →
          ((definitionsAfter host codec before).apps app).entry = none

variable {host codec} {requests : List (DefinitionRequest Bundle)}
  {definitions : Definitions Bundle}

theorem definitionsAfter_concat (request : DefinitionRequest Bundle) :
    definitionsAfter host codec (requests ++ [request]) =
      (definitionMachine host codec).next (definitionsAfter host codec requests) request := by
  rw [definitionsAfter, Machine.run_append]
  rfl

theorem NoNameReused.of_append {more : List (DefinitionRequest Bundle)}
    (unique : NoNameReused host codec (requests ++ more)) : NoNameReused host codec requests := by
  rintro earlier app bundle later rfl
  exact unique earlier app bundle (later ++ more) (by simp)

theorem next_apps (definitions : Definitions Bundle) (request : DefinitionRequest Bundle)
    (app : String) :
    ((definitionMachine host codec).next definitions request).apps app = definitions.apps app ∨
      ∃ served, (request = .store (.about app served) ∨
          request = .store .restart ∧ served = .load) ∧
        ((definitionMachine host codec).next definitions request).apps app =
          (serve host app served (definitions.apps app)).2 := by
  cases request with
  | store request =>
    rcases next_serve host definitions.apps request app with same | ⟨served, asked, stepped⟩
    · exact .inl same
    · refine .inr ⟨served, ?_, stepped⟩
      rcases asked with rfl | ⟨rfl, rfl⟩
      · exact .inl rfl
      · exact .inr ⟨rfl, rfl⟩
  | createTemplate template | updateTemplate name fields | deleteTemplate name => exact .inl rfl

/-- What is held about definitions is stored, recorded and accounted for. -/
structure Sound (host : Host Bundle) (codec : BundleCodec Bundle)
    (definitions : Definitions Bundle) : Prop where
  stocked : Stocked codec definitions.tables
  represents : ∀ app, Represents codec definitions.tables app (definitions.apps app)
  accounted : ∀ app, Accounted host.cipher (definitions.apps app)

variable {tables : Tables}

theorem Stocked.record (stocked : Stocked codec tables) (app : String) (request : AppRequest Bundle)
    (before : AppState Bundle) (served : Outcome × AppState Bundle) :
    Stocked codec (Apps.record host codec app request before served tables) := by
  cases request with
  | register bundle | update busy bundle param =>
    simp only [Apps.record]
    split
    · exact stocked.insertRegisterOrUpdate _ _ _ _ _
    · exact stocked
  | setParam busy name value | unsetParam busy name =>
    simp only [Apps.record]
    split
    · exact stocked
    · exact stocked.bumpParamChange _ _ _
  | deregister =>
    simp only [Apps.record]
    split
    · exact stocked.deleteForApp app
    · exact stocked
  | _ => exact stocked

theorem Sound.next (sound : Sound host codec definitions) (request : DefinitionRequest Bundle)
    (fresh : ∀ app bundle, request = .store (.about app (.register bundle)) →
      (definitions.apps app).entry = none → definitions.apps app = .blank) :
    Sound host codec ((definitionMachine host codec).next definitions request) where
  stocked := by
    cases request with
    | store request =>
      cases request with
      | about app request => exact sound.stocked.record app request _ _
      | restart => exact sound.stocked
    | createTemplate template => exact sound.stocked.createTemplate template
    | updateTemplate name fields => exact sound.stocked.updateTemplate name fields
    | deleteTemplate name => exact sound.stocked.deleteTemplate name
  represents app := by
    cases request with
    | store request =>
      cases request with
      | about other request =>
        by_cases concerned : app = other
        · subst concerned
          have recorded : Represents codec (Apps.record host codec app request
              (definitions.apps app) (serve host app request (definitions.apps app))
              definitions.tables) app (serve host app request (definitions.apps app)).2 :=
            (sound.represents app).record (sound.accounted app).kempt request
          rw [← show ((definitionMachine host codec).next definitions
            (.store (.about app request))).apps app = _ from update_self ..] at recorded
          exact recorded
        · rw [show ((definitionMachine host codec).next definitions
            (.store (.about other request))).apps app = _ from update_of_ne concerned ..]
          exact (rowsOf_record_of_ne concerned request _).trans (sound.represents app)
      | restart =>
        have served : AppEffect host app (definitions.apps app) .load _ := serve_effect _
        rw [Represents, show ((definitionMachine host codec).next definitions
          (.store .restart)).apps app = (serve host app .load (definitions.apps app)).2 from
            rfl, served.silent_generations rfl]
        exact sound.represents app
    | createTemplate template =>
      exact (rowsOf_createTemplate template).trans (sound.represents app)
    | updateTemplate name fields =>
      exact (rowsOf_updateTemplate name fields).trans (sound.represents app)
    | deleteTemplate => exact sound.represents app
  accounted app := by
    rcases next_apps definitions request app with same | ⟨served, asked, stepped⟩
    · rw [same]
      exact sound.accounted app
    · rw [stepped]
      refine serve_accounted (sound.accounted app) served ?_
      rintro bundle rfl
      rcases asked with rfl | ⟨_, other⟩
      · exact fresh app bundle rfl
      · cases other

theorem blank_of_never_registered (app : String)
    (never : ∀ before after, requests = before ++ after →
      ((definitionsAfter host codec before).apps app).entry = none) :
    (definitionsAfter host codec requests).apps app = .blank := by
  induction requests using reverseRecOn with
  | nil => rfl
  | append_singleton requests request ih =>
    have blank := ih fun before after split =>
      never before (after ++ [request]) (by simp [split])
    have free := never (requests ++ [request]) [] (by simp)
    rw [definitionsAfter_concat] at free ⊢
    rcases next_apps (definitionsAfter host codec requests) request app with
      same | ⟨served, -, stepped⟩
    · rw [same, blank]
    · rw [stepped, blank] at free ⊢
      exact (serve_effect served).stays_blank free

theorem run_sound (unique : NoNameReused host codec requests) :
    Sound host codec (definitionsAfter host codec requests) := by
  induction requests using reverseRecOn with
  | nil => exact ⟨⟨nofun, nofun⟩, fun _ => rfl, fun _ => blank_accounted _⟩
  | append_singleton requests request ih =>
    rw [definitionsAfter_concat]
    refine (ih unique.of_append).next request ?_
    rintro app bundle rfl free
    exact blank_of_never_registered app (unique requests app bundle [] rfl free)

variable {app : String} {entry : AppEntry Bundle}

theorem history_persists {later : List (DefinitionRequest Bundle)}
    (unique : NoNameReused host codec (requests ++ later))
    (known : ((definitionsAfter host codec requests).apps app).entry = some entry) :
    ((definitionsAfter host codec requests).apps app).generations <+:
        ((definitionsAfter host codec (requests ++ later)).apps app).generations ∨
      ((definitionsAfter host codec (requests ++ later)).apps app).entry = none := by
  induction later using reverseRecOn with
  | nil => exact .inl (by simp)
  | append_singleton later request ih =>
    rw [← append_assoc] at unique ⊢
    have sound := run_sound unique.of_append
    rw [definitionsAfter_concat]
    rcases next_apps (definitionsAfter host codec (requests ++ later)) request app with
      same | ⟨served, asked, stepped⟩
    · rw [same]
      exact ih unique.of_append
    · rw [stepped]
      have effect : AppEffect host app
          ((definitionsAfter host codec (requests ++ later)).apps app) served _ :=
        serve_effect served
      rcases ih unique.of_append with kept | gone
      · rcases effect.generations with same | ⟨row, appended⟩ | gone
        · exact .inl (same ▸ kept)
        · exact .inl (appended ▸ kept.trans (prefix_append _ _))
        · exact .inr gone
      · refine .inr (effect.stays_unregistered (sound.accounted app).kempt gone ?_)
        rintro bundle rfl
        -- the name would be registered a second time
        rcases asked with rfl | ⟨-, other⟩
        · have never := unique (requests ++ later) app bundle [] rfl gone requests later rfl
          rw [known] at never
          cases never
        · cases other

def Tables.Reached (tables : Tables) (app : String) (generation : Nat) : Prop :=
  ∃ row ∈ tables.rowsOf app, row.generation = generation

/-- Reading the generation back gives the definition and the parameters of the state. -/
structure Reconstructs (host : Host Bundle) (codec : BundleCodec Bundle) (tables : Tables)
    (app : String) (generation : Nat) (state : AppState Bundle) : Prop where
  definition : ∃ entry, state.entry = some entry ∧
    (tables.definitionAt app generation).bind (tables.loadBundle codec ·) = .ok entry.bundle
  params : tables.paramMapAt host.cipher app generation = state.loadAllParams host.cipher

variable {generation : Nat} (sound : Sound host codec definitions)
include sound

theorem Sound.reached_iff : definitions.tables.Reached app generation ↔
      ∃ row ∈ (definitions.apps app).generations, row.generation = generation := by
  rw [Tables.Reached, sound.represents app]
  simp [GenerationRow.stored]

theorem Sound.registered_of_reached (reached : definitions.tables.Reached app generation) :
    ∃ entry, (definitions.apps app).entry = some entry := by
  obtain ⟨row, mem, -⟩ := sound.reached_iff.mp reached
  cases known : (definitions.apps app).entry with
  | some entry => exact ⟨entry, rfl⟩
  | none =>
    rw [(sound.accounted app).kempt.unknown known] at mem
    cases mem

omit sound in
theorem refersTo_of_definitionAt {hash : String}
    (defined : tables.definitionAt app generation = .ok hash) : tables.refersTo hash := by
  unfold Tables.definitionAt at defined
  split at defined
  · cases defined
  · rename_i row found
    cases defined
    have mem := (mem_filter.mp (mem_of_latestRow found)).1
    exact refersTo_iff.mpr (.inl ⟨(app, row), mem_rowsOf.mp mem, rfl⟩)

/-- **The latest generation of a state reads back as that state**, as long as the
history has only been added to. -/
theorem Sound.reconstructs {state : AppState Bundle} (accounted : Accounted host.cipher state)
    (known : state.entry = some entry)
    (kept : state.generations <+: (definitions.apps app).generations) :
    Reconstructs host codec definitions.tables app state.maxGeneration state := by
  obtain ⟨more, split⟩ := kept
  have now := sound.accounted app
  have later : ∀ row ∈ more, ¬ row.generation ≤ state.maxGeneration := by
    have numbered := now.numbered
    rw [← split] at numbered
    intro row mem
    rw [accounted.numbered.maxGeneration]
    exact Nat.not_le.mpr (numbered.later row mem)
  have definition : (definitions.apps app).definitionAt state.maxGeneration =
      some entry.bundle := by
    have none_later : more.filter (fun row =>
        row.generation ≤ state.maxGeneration && row.installs) = [] :=
      filter_eq_nil_iff.mpr fun row mem => by simp [later row mem]
    rw [← accounted.inForce entry known, definitionAt, definitionAt, ← split,
      filter_append, none_later, append_nil]
  have values : (definitions.apps app).valuesAt host.cipher state.maxGeneration =
      state.valuesAt host.cipher state.maxGeneration := by
    have none_later : more.filter (·.generation ≤ state.maxGeneration) = [] :=
      filter_eq_nil_iff.mpr fun row mem => by simp [later row mem]
    rw [valuesAt, valuesAt, ← split, filter_append, none_later, append_nil]
  have defined := definitionAt_eq (sound.represents app) definition
  refine ⟨⟨entry, known, ?_⟩, ?_⟩
  · rw [defined]
    exact sound.stocked.loadBundle_hash (refersTo_of_definitionAt defined)
  · rw [paramMapAt_eq (sound.represents app) now.numbered now.tells, values,
      (accounted.faithful entry known).values]

variable {request : DefinitionRequest Bundle}

theorem Sound.created_eq
    (after : Sound host codec ((definitionMachine host codec).next definitions request))
    (new : ¬ definitions.tables.Reached app generation)
    (reached : ((definitionMachine host codec).next definitions request).tables.Reached app
      generation) :
    generation =
      (((definitionMachine host codec).next definitions request).apps app).maxGeneration := by
  obtain ⟨entry, known⟩ := after.registered_of_reached reached
  have numbered := (after.accounted app).numbered
  obtain ⟨row, mem, rfl⟩ := after.reached_iff.mp reached
  rw [numbered.maxGeneration]
  have old : row ∉ (definitions.apps app).generations := fun present =>
    new (sound.reached_iff.mpr ⟨row, present, rfl⟩)
  rcases next_apps definitions request app with same | ⟨served, -, stepped⟩
  · rw [same] at mem
    exact absurd mem old
  · rw [stepped] at mem numbered known ⊢
    have effect : AppEffect host app (definitions.apps app) served _ := serve_effect served
    rcases effect.generations with same | ⟨last, appended⟩ | gone
    · rw [same] at mem
      exact absurd mem old
    · rw [appended] at mem numbered ⊢
      obtain rfl : row = last := by simpa [old] using mem
      rw [numbered.last, length_append, length_singleton]
    · rw [gone] at known
      cases known

omit sound

/-- **Later requests leave what a generation reads back as.** -/
theorem reconstructs_of_created {earlier later : List (DefinitionRequest Bundle)}
    (unique : NoNameReused host codec ((earlier ++ [request]) ++ later))
    (new : ¬ (definitionsAfter host codec earlier).tables.Reached app generation)
    (created : (definitionsAfter host codec (earlier ++ [request])).tables.Reached app generation)
    (reached : (definitionsAfter host codec ((earlier ++ [request]) ++ later)).tables.Reached app
      generation) :
    Reconstructs host codec (definitionsAfter host codec ((earlier ++ [request]) ++ later)).tables
      app generation ((definitionsAfter host codec (earlier ++ [request])).apps app) := by
  have final := run_sound unique
  have after := run_sound unique.of_append
  obtain ⟨entry, known⟩ := after.registered_of_reached created
  have latest : generation =
      ((definitionsAfter host codec (earlier ++ [request])).apps app).maxGeneration := by
    rw [definitionsAfter_concat] at created after ⊢
    exact (run_sound unique.of_append.of_append).created_eq after new created
  have kept : ((definitionsAfter host codec (earlier ++ [request])).apps app).generations <+:
      ((definitionsAfter host codec ((earlier ++ [request]) ++ later)).apps app).generations := by
    rcases history_persists unique known with kept | gone
    · exact kept
    · obtain ⟨_, still⟩ := final.registered_of_reached reached
      rw [gone] at still
      cases still
  rw [latest]
  exact final.reconstructs (after.accounted app) known kept

/-- **Generations reconstruct.**  After any requests that reuse no name, the generations
of each app are numbered from 1; each of them was created by some request, and reads
back as the definition and the parameters in force right after it; and every bundle
that a generation or a template names is stored, as no collection removes one. -/
theorem generations_reconstruct (host : Host Bundle) (codec : BundleCodec Bundle)
    (requests : List (DefinitionRequest Bundle)) (unique : NoNameReused host codec requests) :
    let tables := (definitionsAfter host codec requests).tables
    (∀ app, (tables.rowsOf app).map GenerationRow.generation =
        List.range' 1 (tables.rowsOf app).length) ∧
      (∀ app generation, tables.Reached app generation →
        ∃ earlier request later, requests = earlier ++ request :: later ∧
          ¬ (definitionsAfter host codec earlier).tables.Reached app generation ∧
          (definitionsAfter host codec (earlier ++ [request])).tables.Reached app generation) ∧
      (∀ earlier request later app generation, requests = earlier ++ request :: later →
        ¬ (definitionsAfter host codec earlier).tables.Reached app generation →
        (definitionsAfter host codec (earlier ++ [request])).tables.Reached app generation →
        tables.Reached app generation → Reconstructs host codec tables app generation
            ((definitionsAfter host codec (earlier ++ [request])).apps app)) ∧
      (∀ hash, tables.refersTo hash →
        ∃ bundle, codec.hash bundle = hash ∧ tables.loadBundle codec hash = .ok bundle) ∧
      ∀ (before : Tables) (row : StoredBundle), row ∈ before.bundles.rows →
        before.refersTo row.hash → row ∈ before.gcBundles.bundles.rows := by
  intro tables
  have sound := run_sound unique
  refine ⟨?numbers, ?creation, ?reading, ?storage, ?collection⟩
  case numbers =>
    intro app
    have numbered := (sound.accounted app).numbered
    rw [sound.represents app, map_map, length_map]
    exact numbered
  case creation =>
    intro app generation reached
    refine (definitionMachine host codec).exists_origin
      (M := fun definitions => definitions.tables.Reached app generation)
      (Q := fun before after => ¬ before.tables.Reached app generation ∧
        after.tables.Reached app generation) ?_ .blank requests ?_ reached
    · intro before request after
      by_cases already : before.tables.Reached app generation
      · exact .inl already
      · exact .inr ⟨already, after⟩
    · rintro ⟨row, mem, -⟩
      cases mem
  case reading =>
    rintro earlier request later app generation rfl new created reached
    have split : earlier ++ request :: later = (earlier ++ [request]) ++ later := by simp
    subst tables
    rw [split] at unique reached ⊢
    exact reconstructs_of_created unique new created reached
  case storage => exact fun hash named => sound.stocked.loadBundle named
  case collection => exact fun before row present named => mem_gcBundles present named

end Runs

/-! ## A history with a template -/

def twoBundles : BundleCodec Bool where
  hash bundle := if bundle then "sha256:1" else "sha256:0"
  canonicalBytes bundle := [if bundle then 1 else 0]
  fromCanonicalBytes bytes :=
    if bytes = [1] then .ok true
    else if bytes = [0] then .ok false
    else .error "stored bundle has an unknown encoding"
  hash_injective := by unfold Injective; decide
  fromCanonicalBytes_canonicalBytes := by decide

/-- An app and a template share a bundle; the template goes, and the definition is
replaced. -/
def lockHistory : List (DefinitionRequest Bool) :=
  [.store (.about "web" (.register true)),
    .createTemplate ⟨"base", true, "push", none, "2026-01-01"⟩,
    .store (.about "web" (.setParam false "mode" "open")), .deleteTemplate "base",
    .store (.about "web" (.update false false none))]

theorem lockHistory_noNameReused : NoNameReused lockHost twoBundles lockHistory := by
  intro earlier app bundle later split free before after parts
  obtain rfl : earlier = [] := by
    rcases earlier with _ | ⟨_, _ | ⟨_, _ | ⟨_, _ | ⟨_, _ | ⟨_, _⟩⟩⟩⟩⟩ <;>
      simp [lockHistory] at split ⊢
  obtain ⟨rfl, -⟩ := append_eq_nil_iff.mp parts.symm
  exact free

/-- The second generation reads back as it was when the parameter had been set. -/
theorem lockHistory_reconstructs :
    Reconstructs lockHost twoBundles (definitionsAfter lockHost twoBundles lockHistory).tables
      "web" 2 ((definitionsAfter lockHost twoBundles (lockHistory.take 3)).apps "web") :=
  (generations_reconstruct lockHost twoBundles lockHistory lockHistory_noNameReused).2.2.1
    (lockHistory.take 2) _ (lockHistory.drop 3) "web" 2 rfl
    (by unfold Tables.Reached; decide) (by unfold Tables.Reached; decide)
    (by unfold Tables.Reached; decide)

end Seedling.Apps
