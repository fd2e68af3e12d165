import Seedling.Apps.Effects

/-!
# What is held about a name

`Kempt` ties the tables to the registry: an app of the registry has a row that
names its current generation and a generation that installed a definition, so a
restart finds it again; of a name that is not in the registry nothing is held,
except for secret parameters.  Every request keeps this (`AppEffect.kempt`), so
every run does (`run_kempt`).
-/

namespace Seedling.Apps

open Function Foundation List AppState

/-! ## The rows of an app -/

section Kempt

variable {Bundle : Type}

theorem latestRow_isSome {rows : List (GenerationRow Bundle)} (nonempty : rows ≠ []) :
    (latestRow rows).isSome := by
  have keeps : ∀ (rest : List (GenerationRow Bundle)) (best : GenerationRow Bundle),
      (rest.foldl (fun best row =>
        if best.all (·.generation ≤ row.generation) then some row else best)
        (some best)).isSome := by
    intro rest
    induction rest with
    | nil => exact fun _ => rfl
    | cons row rest ih =>
      intro best
      rw [foldl_cons]
      split
      · exact ih row
      · exact ih best
  cases rows with
  | nil => exact absurd rfl nonempty
  | cons row rest => exact keeps rest row

variable {state : AppState Bundle}

theorem le_maxGeneration {row : GenerationRow Bundle} (mem : row ∈ state.generations) :
    row.generation ≤ state.maxGeneration := by
  have bound : ∀ (numbers : List Nat) (start : Nat),
      start ≤ numbers.foldl max start ∧ ∀ n ∈ numbers, n ≤ numbers.foldl max start := by
    intro numbers
    induction numbers with
    | nil => exact fun start => ⟨Nat.le_refl _, nofun⟩
    | cons n numbers ih =>
      intro start
      obtain ⟨above, all⟩ := ih (max start n)
      refine ⟨Nat.le_trans (Nat.le_max_left _ _) above, fun m listed => ?_⟩
      rcases mem_cons.mp listed with rfl | later
      · exact Nat.le_trans (Nat.le_max_right _ _) above
      · exact all m later
  exact (bound _ 0).2 _ (mem_map_of_mem mem)

/-- What a registered app's rows hold, so that a restart finds it again. -/
structure Registered (state : AppState Bundle) (entry : AppEntry Bundle) : Prop where
  row : state.row.map RegisteredRow.currentGeneration = some entry.currentGeneration
  positive : 0 < entry.currentGeneration
  installed : ∃ row ∈ state.generations,
    row.installs ∧ row.generation ≤ entry.currentGeneration

/-- A registered app has its rows; of any other name nothing is held but secrets
that an earlier registration left. -/
structure Kempt (state : AppState Bundle) : Prop where
  unknown : state.entry = none → state = { AppState.blank with secretParams := state.secretParams }
  known : ∀ entry, state.entry = some entry → Registered state entry

variable {entry : AppEntry Bundle} (registered : Registered state entry)
include registered

theorem Registered.definition : (state.definitionAt entry.currentGeneration).isSome := by
  obtain ⟨row, mem, installs, below⟩ := registered.installed
  unfold definitionAt
  rw [Option.isSome_map]
  apply latestRow_isSome
  intro empty
  have kept : row ∈ state.generations.filter fun row =>
      row.generation ≤ entry.currentGeneration && row.installs := by
    simp [mem, installs, below]
  rw [empty] at kept
  cases kept

omit registered in
theorem Kempt.unregistered_of_missing (kempt : Kempt state)
    (missing : ∀ row, state.row = some row → row.currentGeneration = 0 ∨
      state.definitionAt row.currentGeneration = none) : state.entry = none := by
  by_contra known
  obtain ⟨entry, found⟩ := Option.ne_none_iff_exists'.mp known
  have registered := kempt.known entry found
  obtain ⟨row, holds, current⟩ := Option.map_eq_some_iff.mp registered.row
  rcases missing row holds with zero | undefined
  · exact absurd (current ▸ zero) (Nat.ne_of_gt registered.positive)
  · have defined := registered.definition
    rw [← current, undefined] at defined
    cases defined

variable (cipher : Cipher)

theorem Registered.bump (kind : GenerationKind) (bundle : Bundle)
    (change : Option AppState.ParamChange) :
    let bumped := state.bump cipher kind bundle change
    Registered bumped.2 { entry with currentGeneration := bumped.1 } := by
  obtain ⟨row, found, _⟩ := Option.map_eq_some_iff.mp registered.row
  obtain ⟨installing, mem, installs, _⟩ := registered.installed
  refine ⟨by simp [AppState.bump, found], Nat.succ_pos _, installing,
    mem_append_left _ mem, installs, ?_⟩
  exact Nat.le_succ_of_le (le_maxGeneration mem)

theorem Registered.transfer {after : AppState Bundle} {other : AppEntry Bundle}
    (row : after.row.map RegisteredRow.currentGeneration =
      state.row.map RegisteredRow.currentGeneration)
    (generations : after.generations = state.generations)
    (current : other.currentGeneration = entry.currentGeneration) : Registered after other where
  row := by rw [row, registered.row, current]
  positive := by rw [current]; exact registered.positive
  installed := by rw [generations, current]; exact registered.installed

theorem Registered.storeParamValue (name : String) (value : Option String) (isSecret : Bool) :
    Registered (state.storeParamValue cipher name value isSecret) entry :=
  registered.transfer (by simp) (by simp) rfl

theorem Registered.commitUpdate (bundle : Bundle) (appDef : AppDef) (previousIsSecret : Bool)
    (change : Option (String × Option String × Option String)) :
    let committed := commitUpdate cipher bundle appDef previousIsSecret change state
    Registered committed.2 { entry with currentGeneration := committed.1 } := by
  have migrated : ∀ {before : AppState Bundle} {other : AppEntry Bundle}, Registered before other →
        Registered (before.migrateNewlySecretParams cipher appDef) other := by
    intro before other holds
    obtain ⟨params, secretParams, moved⟩ := migrateNewlySecretParams_frame cipher before appDef
    rw [moved]
    exact holds.transfer rfl rfl rfl
  cases change with
  | none => exact migrated (registered.bump cipher .scriptUpdate bundle none)
  | some changed =>
    obtain ⟨name, previous, value⟩ := changed
    exact migrated ((registered.storeParamValue cipher name value _).bump cipher .scriptUpdate
      bundle _)

end Kempt

section Effect

variable {Bundle : Type} {host : Host Bundle} {app : String} {state : AppState Bundle}
  {request : AppRequest Bundle} {result : Outcome × AppState Bundle}

/-- **Every request keeps an app's state kempt.** -/
theorem AppEffect.kempt (effect : AppEffect host app state request result)
    (kempt : Kempt state) : Kempt result.2 := by
  cases effect with
  | unchanged => exact kempt
  | registered =>
    refine ⟨nofun, fun entry found => ?_⟩
    cases found
    exact ⟨rfl, Nat.succ_pos _, _, mem_append_right _ (mem_singleton_self _), rfl, Nat.le_refl _⟩
  | unrecorded _ entry name value _ _ _ found =>
    refine ⟨fun absent => ?_, fun other same => ?_⟩
    · simp [found] at absent
    · exact (kempt.known other (by simpa using same)).storeParamValue host.cipher name value _
  | paramChanged _ entry name value _ bundle _ _ generation bumped found _ recorded =>
    rw [reloadAndPersist_eq]
    refine ⟨nofun, fun other same => ?_⟩
    cases same
    have stored := (kempt.known entry found).storeParamValue host.cipher name value
      (entry.appDef.isSecret name)
    have raised := stored.bump host.cipher (if value.isSome then .paramSet else .paramUnset)
      bundle (some ⟨name, state.loadAllParams host.cipher name, value,
        entry.appDef.isSecret name, state.isStoredSecret name⟩)
    rw [← recorded] at raised
    exact ⟨rfl, raised.positive, raised.installed⟩
  | updated _ entry bundle appDef _ change previousIsSecret values _ _ _ generation committed
      found _ _ recorded =>
    rw [publishUpdate_eq]
    refine ⟨nofun, fun other same => ?_⟩
    cases same
    have raised := (kempt.known entry found).commitUpdate host.cipher bundle appDef
      previousIsSecret change
    rw [← recorded] at raised
    exact raised.transfer rfl rfl rfl
  | deregistered => exact ⟨fun _ => rfl, nofun⟩
  | adjusted _ _ _ _ _ _ known =>
    refine ⟨fun absent => ?_, fun entry found => ?_⟩
    · rw [show state.entry = none from absent] at known
      cases known
    · exact (kempt.known entry found).transfer rfl rfl rfl
  | rephased =>
    unfold setPhaseAndPersist
    cases found : state.entry with
    | none => exact kempt
    | some entry =>
      refine ⟨nofun, fun other same => ?_⟩
      cases same
      have registered := kempt.known entry found
      exact ⟨rfl, registered.positive, registered.installed⟩
  | transitioned _ phase scaling stopped _ kept =>
    cases found : state.entry with
    | none =>
      obtain ⟨rfl, rfl⟩ := kept found
      rw [kempt.unknown found]
      exact ⟨fun _ => rfl, nofun⟩
    | some entry =>
      refine ⟨fun absent => ?_, fun other same => ?_⟩
      · simp [transitionPhase, found] at absent
      · obtain rfl : { entry with phase } = other := by
          simpa [transitionPhase, found] using same
        refine (kempt.known entry found).transfer ?_ rfl rfl
        exact Option.map_map _ _ _
  | skipped missing =>
    rw [kempt.unknown (kempt.unregistered_of_missing missing)]
    exact ⟨fun _ => rfl, nofun⟩
  | loaded row entry _ found current =>
    obtain ⟨params, secretParams, migrated⟩ :=
      migrateNewlySecretParams_frame host.cipher state entry.appDef
    rw [migrated]
    refine ⟨nofun, fun other same => ?_⟩
    cases same
    cases before : state.entry with
    | none =>
      rw [kempt.unknown before] at found
      cases found
    | some earlier =>
      have registered := kempt.known earlier before
      refine registered.transfer rfl rfl ?_
      have := registered.row
      rw [found] at this
      rw [current]
      exact Option.some.inj this

end Effect

/-! ## Runs -/

section Runs

variable {Bundle : Type} (host : Host Bundle)

def Store.blank : Store Bundle := fun _ => .blank

variable (store : Store Bundle)

theorem next_serve (request : StoreRequest Bundle) (app : String) :
    (storeMachine host).next store request app = store app ∨
      ∃ served, (request = .about app served ∨ request = .restart ∧ served = .load) ∧
        (storeMachine host).next store request app = (serve host app served (store app)).2 := by
  cases request with
  | restart => exact .inr ⟨.load, .inr ⟨rfl, rfl⟩, rfl⟩
  | about other request =>
    by_cases concerned : app = other
    · subst concerned
      exact .inr ⟨request, .inl rfl, update_self ..⟩
    · exact .inl (update_of_ne concerned ..)

theorem next_kempt (request : StoreRequest Bundle) (app : String) (kempt : Kempt (store app)) :
    Kempt ((storeMachine host).next store request app) := by
  rcases next_serve host store request app with same | ⟨served, _, stepped⟩
  · rwa [same]
  · rw [stepped]
    exact (serve_effect served).kempt kempt

/-- **Whatever has been requested, every name is kempt.** -/
theorem run_kempt (requests : List (StoreRequest Bundle)) (app : String) :
    Kempt ((storeMachine host).run Store.blank requests app) :=
  (storeMachine host).run_invariant (I := fun store => Kempt (store app))
    (fun store request => next_kempt host store request app) Store.blank requests
    ⟨fun _ => rfl, nofun⟩

end Runs

end Seedling.Apps
