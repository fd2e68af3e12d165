import Seedling.Apps.Store
import Seedling.Barrier.Log
import Seedling.Instances.Registry
import Seedling.Proxy.Config

/-!
# What a tick sees of the apps

A tick of the reconciler takes a snapshot of every app that is installed, being
installed or being uninstalled: its definition and the desired state of its
resources.  In steady state the desired state is that of the whole definition, with
what the operator stopped held `unscheduled`; during an operation it is what the
action closure has started and stopped so far.
-/

namespace Seedling.Reconcile

open Apps Barrier Instances
open Proxy (IngressDef RedirectSegment)

/-! ## Definitions -/

/-- What a pod binds: a service of the app, or a slot for an external one. -/
structure BoundService where
  external : Bool
  name : String
deriving DecidableEq

structure TcpUdpBinding where
  service : BoundService
  servicePort : Nat
deriving DecidableEq

structure HttpBinding where
  service : BoundService
  servicePort : Nat
  pathPrefix : String
  podPort : Nat
deriving DecidableEq

structure PodDef where
  httpBindings : List HttpBinding
  tcpBindings : List TcpUdpBinding
  udpBindings : List TcpUdpBinding
deriving DecidableEq

/-- What a declared path prefix of a service is. -/
inductive RouteKind where
  | proxied
  | redirect (target : List RedirectSegment) (code : Nat)
deriving DecidableEq

structure Ingress where
  service : String
  declared : IngressDef
deriving DecidableEq

def ingressResourceName (hostname : String) (port : Nat) : String := s!"{hostname}:{port}"

def Ingress.name (ingress : Ingress) : String :=
  ingressResourceName ingress.declared.hostname ingress.declared.port

inductive Resource where
  | ingress (ingress : Ingress)
  | service (name : String) (routes : List (String × RouteKind))
  | externalService (name : String) (routes : List (String × RouteKind))
  | deployment (name : String) (pod : PodDef)
  | job (name : String) (pod : PodDef)
  | volume (name : String)
deriving DecidableEq

abbrev ResourceId := ResourceKind × String

def Resource.id : Resource → ResourceId
  | .ingress declared => (.ingress, declared.name)
  | .service name _ => (.service, name)
  | .externalService name _ => (.externalService, name)
  | .deployment name _ => (.deployment, name)
  | .job name _ => (.job, name)
  | .volume name => (.volume, name)

def Resource.ingress? : Resource → Option Ingress
  | .ingress declared => some declared
  | _ => none

structure AppDef where
  resources : List Resource
  ids_nodup : (resources.map Resource.id).Nodup
deriving DecidableEq

namespace AppDef

def get? (appDef : AppDef) (id : ResourceId) : Option Resource := appDef.resources.find? (·.id = id)

def ingresses (appDef : AppDef) : List Ingress := appDef.resources.filterMap Resource.ingress?

theorem mem_ingresses {appDef : AppDef} {ingress : Ingress} :
    ingress ∈ appDef.ingresses ↔ .ingress ingress ∈ appDef.resources := by
  simp only [ingresses, List.mem_filterMap]
  constructor
  · rintro ⟨resource, mem, isIngress⟩
    cases resource <;> cases isIngress
    exact mem
  · exact fun mem => ⟨.ingress ingress, mem, rfl⟩

end AppDef

/-! ## The registry -/

/-- What a tick asks of the instance registry.  A singleton is one of what was asked
for. -/
structure InstanceRegistry where
  getOrCreateSingleton : String → ResourceKind → String → Except RegistryError ResourceInstance
  ensureScaledGroup : String → ResourceKind → String → Nat → Except RegistryError ScaledGroup
  findAllInstances : String → ResourceKind → String → Except RegistryError (List ResourceInstance)
  singleton_of : ∀ {app kind name instance'}, getOrCreateSingleton app kind name = .ok instance' →
      instance'.app = app ∧ instance'.kind = kind ∧ instance'.name = some name

def InstanceRegistry.ofTable (tape : Nat → InstanceId) (world : World) (registry : Registry) :
    InstanceRegistry where
  getOrCreateSingleton app kind name :=
    (Instances.getOrCreateSingleton tape app kind (some name) registry).1
  ensureScaledGroup app kind name count :=
    .ok (Instances.ensureScaledGroup tape world app kind (some name) count .any registry).1
  findAllInstances app kind name :=
    .ok (registry.table.rows.filter fun row =>
      row.app = app && row.kind = kind && row.name = some name)
  singleton_of answered := by
    simp only [Instances.getOrCreateSingleton] at answered
    split at answered
    · cases answered
    · cases answered
      exact ⟨rfl, rfl, rfl⟩

/-! ## Progress of an operation -/

/-- What the action closure of an operation has placed into the desired state. -/
structure OperationProgress where
  resources : List (ResourceInstance × LifecycleState)
  dynamicDefs : List (ResourceInstance × Resource)
  /-- The ingresses, by name, whose certificates are to be acquired ahead of time. -/
  warmCertHostnames : List String

namespace OperationProgress

def new : OperationProgress := ⟨[], [], []⟩

variable (progress : OperationProgress)

def set (state : LifecycleState) (resource : ResourceInstance) : OperationProgress :=
  { progress with
    resources := Foundation.upsert Prod.fst (resource, state) progress.resources }

def started (resource : ResourceInstance) : OperationProgress :=
  progress.set .ready resource

def stopped (resource : ResourceInstance) : OperationProgress :=
  progress.set .unscheduled resource

def record (entry : ActionLogEntry) : OperationProgress :=
  match entry.callKind with
  | .start => entry.resources.foldl started progress
  | .stop => entry.resources.foldl stopped progress
  | .warmCerts =>
    { progress with
      warmCertHostnames :=
        (entry.resources.filterMap ResourceInstance.name).foldl
          (fun names name => names.insert name) progress.warmCertHostnames }
  | .query | .warmImages | .signal | .write | .exec | .subAction => progress

def fromLog (entries : List ActionLogEntry) : OperationProgress := entries.foldl record new

end OperationProgress

/-! ## Desired state -/

structure DesiredResource where
  instance' : ResourceInstance
  desired : LifecycleState
  definition : Resource
  demoted : Bool
deriving DecidableEq

abbrev DesiredState := List DesiredResource

/-- An app as the in-memory registry and the database hold it at a tick. -/
structure AppRecord where
  name : String
  phase : AppPhase
  appDef : AppDef
  activeProgress : Option OperationProgress
  effectiveScales : String → Option Nat
  stopped : ResourceId → Bool

section Desired

variable (registry : InstanceRegistry) (app : AppRecord)

def steadyResource (resource : Resource) : Except RegistryError DesiredState := do
  let isStopped := app.stopped resource.id
  match (if resource.id.1 = .deployment then app.effectiveScales resource.id.2 else none) with
  | some effective =>
    let group ← registry.ensureScaledGroup app.name resource.id.1 resource.id.2
      (if isStopped then 0 else effective)
    return group.keep.map (⟨·, .ready, resource, false⟩) ++
      group.excess.map (⟨·, .unscheduled, resource, true⟩)
  | none =>
    let instance' ← registry.getOrCreateSingleton app.name resource.id.1 resource.id.2
    return [⟨instance', if isStopped then .unscheduled else .ready, resource, false⟩]

def computeSteady : Except RegistryError DesiredState := do
  let desired ← app.appDef.resources.mapM (steadyResource registry app)
  return desired.flatten

def lookupDefinition (appDef : AppDef) (instance' : ResourceInstance) : Option Resource :=
  appDef.get? (instance'.kind, instance'.name.getD "")

def computeDuringOperation (appDef : AppDef) (progress : OperationProgress) : DesiredState :=
  progress.resources.filterMap fun (instance', desired) =>
    ((lookupDefinition appDef instance').or (progress.dynamicDefs.lookup instance')).map
      fun definition =>
        ⟨instance', desired, definition, instance'.variant = .scaled && desired = .unscheduled⟩

def compute : Except RegistryError DesiredState :=
  match app.activeProgress with
  | none => computeSteady registry app
  | some progress => .ok (computeDuringOperation app.appDef progress)

/-- Every instance there is of the definition's resources, to be torn down. -/
def computeUninstalling : Except RegistryError DesiredState := do
  let desired ← app.appDef.resources.mapM fun resource => do
    let all ← registry.findAllInstances app.name resource.id.1 resource.id.2
    return all.map fun instance' => (⟨instance', .unscheduled, resource, false⟩ : DesiredResource)
  return desired.flatten

/-- The desired state of an app that takes part in the tick.  While an install has
started nothing yet it is empty. -/
def desiredState : Except RegistryError DesiredState :=
  match app.phase with
  | .uninstalling => computeUninstalling registry app
  | .installing => if app.activeProgress.isSome then compute registry app else .ok []
  | .installed | .notInstalled => compute registry app

end Desired

/-! ## Snapshots -/

structure AppSnapshot where
  name : String
  desired : DesiredState
  appDef : AppDef
  phase : AppPhase
  warmCertHostnames : List String
deriving DecidableEq

/-- The snapshot of one app, unless it takes no part in the tick. -/
def snapshotApp (registry : InstanceRegistry) (app : AppRecord) :
    Option (Except RegistryError AppSnapshot) :=
  if app.phase = .notInstalled then none
  else
    some ((desiredState registry app).map fun desired =>
      { name := app.name
        desired
        appDef := app.appDef
        phase := app.phase
        warmCertHostnames := (app.activeProgress.map (·.warmCertHostnames)).getD [] })

/-- The snapshots, and how many apps were left out for an error. -/
def snapshotAllApps (registry : InstanceRegistry) (apps : List AppRecord) :
    List AppSnapshot × Nat :=
  let results := apps.filterMap (snapshotApp registry)
  (results.filterMap Except.toOption, results.countP fun result => !result.toOption.isSome)

end Seedling.Reconcile
