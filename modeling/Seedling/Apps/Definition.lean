import Seedling.Names
import Seedling.Identity

/-!
# App definitions

What the daemon reads of an app's definition, and the script engine that
produces it.  The engine is third-party code and stays abstract: `Engine` gives,
for a bundle and the stored parameter values, the definition built up to where
the script threw, the error it threw, and what the validators reject.
-/

namespace Seedling.Apps

open List

/-! ## Errors -/

/-- The codes a request can fail with. -/
inductive ErrorCode where
  | notFound
  | notInstalled
  | alreadyInstalled
  | installInProgress
  | operationInProgress
  | alreadyQueued
  | requirementsInvalid
  | scriptError
  | validationFailed
  | unsupportedSeedling
  | internal

structure OiError where
  code : ErrorCode
  message : String

def OiError.notFound (message : String) : OiError := ⟨.notFound, message⟩

def OiError.scriptError (message : String) : OiError := ⟨.scriptError, message⟩

def appNotFound (app : String) : OiError := .notFound s!"app not found: {app}"

def operationInProgress (app : String) : OiError :=
  ⟨.operationInProgress, s!"operation in progress for app: {app}"⟩

/-! ## Definitions -/

structure ParamDef where
  secret : Bool

structure ActionDef where
  name : String
  schedules : List String

/-- The part of an app's definition that requests look at. -/
structure AppDef where
  params : List (String × ParamDef)
  params_nodup : (params.map Prod.fst).Nodup
  actions : List ActionDef
  shells : List String
  install : Bool
  paramChanges : List String
  deployments : List (String × Nat × Nat)
  resources : List (ResourceKind × String)
  registries : List String

namespace AppDef

def declares (appDef : AppDef) (name : String) : Bool := (appDef.params.lookup name).isSome

/-- The definition declares the parameter, and declares it secret. -/
def isSecret (appDef : AppDef) (name : String) : Bool :=
  (appDef.params.lookup name).any ParamDef.secret

variable {appDef : AppDef} {name : String}

theorem mem_params_of_isSecret (secret : appDef.isSecret name) :
    ∃ schema, (name, schema) ∈ appDef.params ∧ schema.secret := by
  obtain ⟨schema, found, marked⟩ := (Option.any_eq_true _ _).mp secret
  obtain ⟨before, after, split, _⟩ := lookup_eq_some_iff.mp found
  exact ⟨schema, by simp [split], marked⟩

variable {schema : ParamDef}

variable (mem : (name, schema) ∈ appDef.params)
include mem

theorem lookup_of_mem_params : appDef.params.lookup name = some schema := by
  obtain ⟨before, after, split⟩ := append_of_mem mem
  have nodup := appDef.params_nodup
  rw [split, map_append, nodup_append] at nodup
  refine lookup_eq_some_iff.mpr ⟨before, after, split, fun other listed => ?_⟩
  have distinct := nodup.2.2 other.1 (mem_map_of_mem listed) name mem_cons_self
  simpa using distinct.symm

theorem isSecret_of_mem_params : appDef.isSecret name = schema.secret := by
  rw [isSecret, lookup_of_mem_params mem, Option.any_some]

def schedulePairs (appDef : AppDef) : List (String × String) :=
  appDef.actions.flatMap fun action => action.schedules.map (action.name, ·)

end AppDef

abbrev Values := String → Option String

/-- A parameter whose validator rejected the proposed values. -/
structure Rejection where
  name : String
  reason : String

def validationError (rejections : List Rejection) : OiError :=
  let detail := String.intercalate "; " (rejections.map fun r => s!"{r.name}: {r.reason}")
  ⟨.validationFailed, s!"rejected by validation: {detail}"⟩

/-! ## The engine -/

/-- The script engine, and what the daemon knows of a bundle besides. -/
structure Engine (Bundle : Type) where
  /-- The definition, populated up to wherever the script threw. -/
  build : String → Bundle → Values → AppDef
  error : String → Bundle → Values → Option String
  /-- What the validators of an evaluation say of proposed values. -/
  rejections : String → Bundle → Values → Values → List Rejection
  /-- Whether the running daemon may install the bundle. -/
  checkInstallable : Bundle → Except OiError Unit
  /-- Why the running daemon does not support the bundle. -/
  unsupported : Bundle → Option String

namespace Engine

variable {Bundle : Type} (engine : Engine Bundle)

def evaluate (app : String) (bundle : Bundle) (values : Values) : AppDef × Option String :=
  (engine.build app bundle values, engine.error app bundle values)

def evaluateValidated (app : String) (bundle : Bundle) (values proposed : Values) :
    AppDef × Except String (List Rejection) :=
  (engine.build app bundle values,
    match engine.error app bundle values with
    | some error => .error error
    | none => .ok (engine.rejections app bundle values proposed))

end Engine

end Seedling.Apps
