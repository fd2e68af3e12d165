import Seedling.Apps.Registration

/-!
# Registrations under one name

An app registered under a name that was used before and deregistered should behave as if the
name were new.  `Fresh` compares the world with the earlier registration to one in which
nothing has ever happened.

Deregistering clears every table but that of the secret parameters, so this holds exactly if
each app has no secret values when it is deregistered (`fresh_iff_no_secrets_left`).
`secret_survives_deregistration` shows a secret handed to the script of the later app.
-/

namespace Seedling.Apps

open Function Foundation

/-! ## Names that were used before -/

section Fresh

variable {Bundle : Type} (host : Host Bundle)

/-- From here on nothing that concerns the app tells the store from one in which
nothing has ever happened: neither an outcome, with the value maps the app's
script is run with, nor the app's state. -/
def Fresh (store : Store Bundle) (app : String) : Prop :=
  ∀ later, ((storeMachine host).outputs store later).map (· app) =
        ((storeMachine host).outputs Store.blank later).map (· app) ∧
      (storeMachine host).run store later app = (storeMachine host).run Store.blank later app

/-- An app that this request deregisters has no secret values. -/
def LeavesNoSecrets (store : Store Bundle) (request : StoreRequest Bundle) : Prop :=
  ∀ app busy, request = .about app (.deregister busy) →
    (deregisterApp app busy (store app)).2.entry = none →
      ∀ name, (store app).secretParams name = none

theorem deregisterApp_secretParams (app : String) (busy : Bool) (state : AppState Bundle) :
    (deregisterApp app busy state).2.secretParams = state.secretParams := by
  unfold deregisterApp
  split
  · rfl
  · split
    · rfl
    · split <;> rfl

theorem storeStep_view (app : String) (first second : Store Bundle) (request : StoreRequest Bundle)
    (same : first app = second app) :
    (storeStep host first request).1 app = (storeStep host second request).1 app ∧
      (storeStep host first request).2 app = (storeStep host second request).2 app := by
  cases request with
  | restart => simp [storeStep, same]
  | about other =>
    by_cases concerned : app = other
    · subst concerned
      simp [storeStep, same]
    · simp [storeStep, update_of_ne concerned, same]

variable (store : Store Bundle)

theorem fresh_iff (app : String) : Fresh host store app ↔ store app = .blank := by
  constructor
  · intro fresh
    exact (fresh []).2
  · intro blank later
    exact (storeMachine host).run_view (fun store => store app) (· app)
      (storeStep_view host app) store Store.blank later blank

variable {state : AppState Bundle}

/-- A name that is not registered after a request was not before it, or it has
just been deregistered; its secret values are still there. -/
theorem AppEffect.unregistered {app : String} {request : AppRequest Bundle}
    {result : Outcome × AppState Bundle} (effect : AppEffect host app state request result)
    (kempt : Kempt state) (gone : result.2.entry = none) :
    result.2.secretParams = state.secretParams ∧
      (state.entry = none ∨ request = .deregister false) := by
  cases effect with
  | unchanged | adjusted => exact ⟨rfl, .inl gone⟩
  | registered => cases gone
  | unrecorded _ entry _ _ _ _ _ found => simp [found] at gone
  | paramChanged =>
    cases gone
  | updated =>
    rw [publishUpdate_eq] at gone
    cases gone
  | deregistered => exact ⟨rfl, .inr rfl⟩
  | rephased phase =>
    unfold AppState.setPhaseAndPersist at gone ⊢
    split at gone
    · rename_i absent
      exact ⟨rfl, .inl absent⟩
    · cases gone
  | transitioned => exact ⟨rfl, .inl (by simpa [AppState.transitionPhase] using gone)⟩
  | skipped missing => exact ⟨rfl, .inl (kempt.unregistered_of_missing missing)⟩
  | loaded => cases gone

/-- Nothing at all is held about a name that is not registered. -/
structure Untouched (state : AppState Bundle) : Prop where
  kempt : Kempt state
  bare : state.entry = none → ∀ name, state.secretParams name = none

theorem Untouched.blank (untouched : Untouched state) (unregistered : state.entry = none) :
    state = .blank := by
  rw [untouched.kempt.unknown unregistered, funext (untouched.bare unregistered)]
  rfl

theorem next_untouched (request : StoreRequest Bundle) (untouched : ∀ app, Untouched (store app))
    (clean : LeavesNoSecrets store request) (app : String) :
    Untouched ((storeMachine host).next store request app) := by
  obtain ⟨kempt, bare⟩ := untouched app
  refine ⟨next_kempt host store request app kempt, ?_⟩
  rcases next_serve host store request app with same | ⟨served, asked, stepped⟩
  · rwa [same]
  · rw [stepped]
    intro gone name
    obtain ⟨kept, absent | rfl⟩ := (serve_effect served).unregistered host kempt gone
    · rw [kept, bare absent name]
    · rw [kept]
      rcases asked with rfl | ⟨_, ⟨⟩⟩
      exact clean app false rfl gone name

/-- **A name that was used before and deregistered is as good as new, exactly if
no app had secret values when it was deregistered.**  The condition is on each
deregistration of the history, in the state it is served in. -/
theorem fresh_iff_no_secrets_left (requests : List (StoreRequest Bundle)) :
    (storeMachine host).Along LeavesNoSecrets Store.blank requests ↔
      ∀ earlier later, requests = earlier ++ later →
        ∀ app, ((storeMachine host).run Store.blank earlier app).entry = none →
          Fresh host ((storeMachine host).run Store.blank earlier) app := by
  refine (storeMachine host).along_iff_everywhere (I := fun store => ∀ app, Untouched (store app))
    (A := fun store => ∀ app, (store app).entry = none → Fresh host store app)
    (next_untouched host) ?_ ?_ Store.blank requests
    (fun _ => ⟨⟨fun _ => rfl, nofun⟩, fun _ _ => rfl⟩)
  · intro store untouched app unregistered
    exact (fresh_iff host store app).mpr ((untouched app).blank unregistered)
  · -- A deregistration that leaves a secret behind leaves a state that is not blank.
    intro store request _ unclean fresh
    unfold LeavesNoSecrets at unclean
    push Not at unclean
    obtain ⟨app, busy, rfl, gone, name, held⟩ := unclean
    have served : (storeMachine host).next store (.about app (.deregister busy)) app =
        (deregisterApp app busy (store app)).2 := update_self ..
    have blank := (fresh_iff host _ app).mp (fresh app (by rw [served, gone]))
    rw [served] at blank
    have forgotten := deregisterApp_secretParams app busy (store app)
    rw [blank] at forgotten
    exact held (congrFun forgotten.symm name)

end Fresh

/-! ## A secret that survives -/

def tokenDef : AppDef where
  params := [("token", ⟨true⟩), ("mode", ⟨false⟩)]
  params_nodup := by decide
  actions := []
  shells := []
  install := false
  paramChanges := []
  deployments := []
  resources := []
  registries := []

def tokenHost : Host Unit where
  engine :=
    { build := fun _ _ _ => tokenDef
      error := fun _ _ _ => none
      rejections := fun _ _ _ _ => []
      checkInstallable := fun _ => .ok ()
      unsupported := fun _ => none }
  cipher := .transparent
  allowed := []

/-- The earlier registration sets its token and is deregistered; the script of
the later one, which sets another parameter only, is run with that token. -/
theorem secret_survives_deregistration :
    let earlier : List (StoreRequest Unit) :=
      [.about "web" (.register ()), .about "web" (.setParam false "token" "hunter2"),
        .about "web" (.deregister false)]
    let later : List (StoreRequest Unit) :=
      [.about "web" (.register ()), .about "web" (.setParam false "mode" "fast")]
    let store := (storeMachine tokenHost).run Store.blank earlier
    (store "web").entry.isNone ∧
      ((storeMachine tokenHost).outputs store later).map (fun shown =>
          (shown "web").map fun outcome => outcome.evaluated.map (· "token")) =
        [some [none], some [some "hunter2", some "hunter2"]] ∧
      ((storeMachine tokenHost).outputs Store.blank later).map (fun shown =>
          (shown "web").map fun outcome => outcome.evaluated.map (· "token")) =
        [some [none], some [none, none]] := by
  decide

end Seedling.Apps
