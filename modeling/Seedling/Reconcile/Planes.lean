import Seedling.Reconcile.Serving

/-!
# Applying the absolute state of a tick

The routes, the packet rules and the proxy configuration are each rebuilt in full in
every tick and applied wholesale, so that what is missing from them is removed from the
host.  An app whose desired state cannot be computed, or whose part of a plane cannot,
would go missing; `Coverage` says whether one did, and an incomplete plane is withheld.

A plane is touched only if every app contributed to it (`planes_need_every_app`).
-/

namespace Seedling.Reconcile

open Foundation Apps Instances List
open Proxy (L4Proto ProxyConfig)

/-! ## Coverage -/

/-- Whether every installed app is in what the tick computed. -/
inductive Coverage where
  | complete
  | incomplete
deriving DecidableEq

namespace Coverage

def of (dropped : Nat) : Coverage := if dropped = 0 then .complete else .incomplete

def isComplete (coverage : Coverage) : Bool := coverage = .complete

def and (first second : Coverage) : Coverage :=
  if first.isComplete && second.isComplete then .complete else .incomplete

theorem isComplete_of {dropped : Nat} : (of dropped).isComplete ↔ dropped = 0 := by
  rw [of, isComplete]
  split <;> simp_all

theorem isComplete_and {first second : Coverage} :
    (first.and second).isComplete ↔ first.isComplete ∧ second.isComplete := by
  cases first <;> cases second <;> decide

end Coverage

/-! ## What running pods serve -/

structure BoundPort where
  service : String
  external : Bool
  servicePort : Nat
  proto : L4Proto
  podPort : Nat

/-- A port of a service, over one transport. -/
abbrev ServiceKey := String × Nat × L4Proto

def BoundPort.key (bound : BoundPort) : ServiceKey :=
  (bound.service, bound.servicePort, bound.proto)

structure ServingPod where
  podIp : String
  bindings : List BoundPort
  observedHealthy : Bool

/-- What routing knows besides the snapshots: the running pods of each app, and where
the external services of an app lead, as addresses and as backends of a port. -/
structure Traffic where
  servingPods : String → List ServingPod
  externalAddresses : String → String → List String
  externalBackends : String → ServiceKey → Option (List (String × Nat))

/-! ## Routes -/

structure ServiceRoute where
  serviceIp : String
  backends : List String

def Resource.service? : Resource → Option String
  | .service name _ => some name
  | _ => none

def Resource.externalService? : Resource → Option String
  | .externalService name _ => some name
  | _ => none

def podBacksService (pod : ServingPod) (service : String) : Bool :=
  pod.bindings.any (·.service = service)

section Builders

variable (network : Network) (traffic : Traffic) (app : AppSnapshot)

def buildRoute (kind : ResourceKind) (name : String) (backends : List String) :
    Except RegistryError (ServiceRoute × List Observation) := do
  let svcInstance ← network.registry.getOrCreateSingleton app.name kind name
  return (⟨network.instanceIpv6 svcInstance, backends⟩, (svcInstance, "network_created") ::
      if backends ≠ [] then [(svcInstance, "backend_healthy")] else [])

/-- The routes of an app: its services, then its external services; and what is observed
of them and of the services that are to be unscheduled. -/
def buildRoutes : Except RegistryError (List ServiceRoute × List Observation) := do
  let native ← (app.appDef.resources.filterMap Resource.service?).mapM fun name =>
    buildRoute network app .service name
      (((traffic.servingPods app.name).filter (podBacksService · name)).map ServingPod.podIp)
  let external ← (app.appDef.resources.filterMap Resource.externalService?).mapM fun name =>
    buildRoute network app .externalService name (traffic.externalAddresses app.name name)
  let removed ←
    ((app.desired.filter (·.desired = .unscheduled)).filterMap (·.definition.service?)).mapM
      (network.registry.getOrCreateSingleton app.name .service)
  return ((native ++ external).map Prod.fst,
    (native ++ external).flatMap Prod.snd ++ removed.flatMap fun instance' =>
      [(instance', "stop_sent"), (instance', "network_removed"), (instance', "network_cleaned_up")])

/-! ## Packet rules -/

structure ServiceDnatRule where
  serviceIp : String
  servicePort : Nat
  backends : List (String × Nat)
  proto : L4Proto

/-- The backends of each port, and whether their pods are healthy. -/
def taggedBackends (pods : List ServingPod) : List (ServiceKey × (String × Nat) × Bool) :=
  pods.flatMap fun pod => pod.bindings.map fun bound =>
    (bound.key, (pod.podIp, bound.podPort), pod.observedHealthy)

/-- The healthy backends, or all of them if none is: then the service is degraded. -/
def selectPool (entries : List ((String × Nat) × Bool)) : List (String × Nat) × Bool :=
  if entries.any Prod.snd then ((entries.filter Prod.snd).map Prod.fst, false)
  else (entries.map Prod.fst, true)

def collectServiceBackends (pods : List ServingPod) :
    List (ServiceKey × List (String × Nat) × Bool) :=
  let tagged := taggedBackends pods
  (tagged.map Prod.fst).dedup.map fun key =>
    (key, selectPool ((tagged.filter (·.1 = key)).map Prod.snd))

def buildDnatRule (kind : ResourceKind) (key : ServiceKey) (backends : List (String × Nat)) :
    Except RegistryError ServiceDnatRule := do
  let svcInstance ← network.registry.getOrCreateSingleton app.name kind key.1
  return ⟨network.instanceIpv6 svcInstance, key.2.1, backends, key.2.2⟩

/-- The rules of an app's services and of the external services its pods bind, and the
services that have no healthy backend. -/
def buildServiceDnatRules : Except RegistryError (List ServiceDnatRule × List String) := do
  let pods := traffic.servingPods app.name
  let backends := collectServiceBackends pods
  let native ← backends.mapM fun (key, pool, _) => buildDnatRule network app .service key pool
  let bound := ((pods.flatMap (·.bindings.filter (·.external))).map BoundPort.key).dedup
  let mapped := bound.filterMap fun key => (traffic.externalBackends app.name key).map (key, ·)
  let external ← mapped.mapM fun (key, pool) => buildDnatRule network app .externalService key pool
  return (native ++ external, (backends.filter (·.2.2)).map (·.1.1))

end Builders

/-! ## The tick -/

inductive Plane where
  | routes
  | rules
  | proxy
deriving DecidableEq

/-- What a tick finds, and whether the host takes what is applied. -/
structure Iteration where
  degraded : Bool
  prioritiesReadable : Bool
  apps : List AppRecord
  nat64Ready : Bool
  caddyUp : Bool
  network : Network
  traffic : Traffic
  site : SiteIngressSnapshot
  accepts : Plane → Bool

/-- What a tick does to absolute state and to the faults about it. -/
inductive Effect where
  | tearDownIdle
  | applyRoutes (routes : List ServiceRoute)
  | applyRules (ingress : List IngressRule) (serviceDnat : List ServiceDnatRule)
  | applyConfig (config : ProxyConfig)
  | fileFault (kind : String)
  | clearFault (kind : String)
  /-- File and clear faults of this kind by what was computed. -/
  | reconcileFaults (kind : String)

def faultKinds : Plane → List String
  | .routes => ["routes_failed"]
  | .rules => ["nftables_failed"]
  | .proxy => ["proxy_failed", "proxy_apply_failed"]

/-- Apply a plane, and file or clear its faults by whether the host took it. -/
def applying (plane : Plane) (effect : Effect) (accepted : Bool) : List Effect :=
  effect :: (faultKinds plane).map fun kind =>
    if accepted then .clearFault kind else .fileFault kind

namespace Iteration

variable (iteration : Iteration)

/-- The snapshots, and how many apps were dropped.  Without the priorities every app
counts as dropped, and at least one. -/
def snapshots : List AppSnapshot × Nat :=
  if iteration.prioritiesReadable then
    snapshotAllApps iteration.network.registry iteration.apps
  else ([], max iteration.apps.length 1)

/-- The part of a plane that an app gives, if it can be computed. -/
def contributes : Plane → AppSnapshot → Bool
  | .routes, app => (buildRoutes iteration.network iteration.traffic app).toOption.isSome
  | .rules, app => (buildServiceDnatRules iteration.network iteration.traffic app).toOption.isSome
  | .proxy, app => (collect iteration.network app).toOption.isSome

/-- The coverage of a plane: no app was dropped from the snapshots, and every app that is
not being uninstalled contributes. -/
def coverage (plane : Plane) : Coverage :=
  (Coverage.of ((routedApps iteration.snapshots.1).countP
    fun app => !iteration.contributes plane app)).and (.of iteration.snapshots.2)

def computeRoutes : List ServiceRoute :=
  (routedApps iteration.snapshots.1).flatMap fun app =>
    ((buildRoutes iteration.network iteration.traffic app).toOption.map Prod.fst).getD []

def computeServiceDnat : List ServiceDnatRule :=
  (routedApps iteration.snapshots.1).flatMap fun app =>
    ((buildServiceDnatRules iteration.network iteration.traffic app).toOption.map Prod.fst).getD []

def proxyConfig : ProxyConfig :=
  (computeProxyConfig iteration.network iteration.snapshots.1 iteration.site).config

/-- Apply a plane that is covered in full, and withhold one that is not. -/
def applyPlane (plane : Plane) (effect : Effect) : List Effect :=
  if (iteration.coverage plane).isComplete then
    applying plane effect (iteration.accepts plane)
  else []

def applyRules : List Effect :=
  iteration.applyPlane .rules
    (.applyRules (computeNftablesRules iteration.network iteration.snapshots.1)
      iteration.computeServiceDnat)

/-- The proxy is given no configuration that serves nothing. -/
def applyProxy : List Effect :=
  if iteration.proxyConfig.virtualHosts ≠ [] || iteration.proxyConfig.l4Routes ≠ [] then
    iteration.applyPlane .proxy (.applyConfig iteration.proxyConfig)
  else []

/-- What a tick does.  The faults about degraded services, ingress conflicts and
attachments follow the builds, whether or not these are applied. -/
def tick : List Effect :=
  if iteration.degraded then [.fileFault "container_runtime_unavailable"]
  else if iteration.snapshots.1.isEmpty then
    if iteration.snapshots.2 = 0 then [.tearDownIdle] else []
  else if !iteration.nat64Ready then [.fileFault "nat64_setup_failed"]
  else if iteration.caddyUp then
    [.reconcileFaults "service_degraded", .reconcileFaults "ingress_conflict",
        .reconcileFaults "site_ingress_target_missing"] ++
      (iteration.applyPlane .routes (.applyRoutes iteration.computeRoutes) ++
        (iteration.applyRules ++ iteration.applyProxy))
  else iteration.applyPlane .routes (.applyRoutes iteration.computeRoutes)

end Iteration

/-- The plane that an effect applies, or whose fault it files or clears. -/
def Effect.touches : Effect → Plane → Bool
  | .applyRoutes _, plane => plane = .routes
  | .applyRules .., plane => plane = .rules
  | .applyConfig _, plane => plane = .proxy
  | .fileFault kind, plane | .clearFault kind, plane => kind ∈ faultKinds plane
  | .tearDownIdle, _ | .reconcileFaults _, _ => false

/-! ## What a complete plane covers -/

theorem phase_of_snapshotApp {registry : InstanceRegistry} {app : AppRecord}
    {snapshot : AppSnapshot} (taken : snapshotApp registry app = some (.ok snapshot)) :
    snapshot.phase = app.phase := by
  rw [snapshotApp] at taken
  split at taken
  · cases taken
  · cases computed : desiredState registry app with
    | error =>
      rw [computed] at taken
      cases taken
    | ok =>
      rw [computed] at taken
      cases taken
      rfl

namespace Iteration

variable {iteration : Iteration} {plane : Plane}

/-- A plane that is covered in full has a part of every app it routes, and no app was
dropped from the snapshots. -/
theorem contributes_of_complete (complete : (iteration.coverage plane).isComplete) :
    (∀ app ∈ routedApps iteration.snapshots.1, iteration.contributes plane app) ∧
      iteration.snapshots.2 = 0 := by
  rw [coverage, Coverage.isComplete_and, Coverage.isComplete_of, Coverage.isComplete_of,
    countP_eq_zero] at complete
  refine ⟨fun app routed => ?_, complete.2⟩
  have contributed := complete.1 app routed
  simpa using contributed

theorem snapshotted_of_none_dropped (none : iteration.snapshots.2 = 0) {app : AppRecord}
    (mem : app ∈ iteration.apps) (takesPart : app.phase ≠ .notInstalled) :
    ∃ snapshot ∈ iteration.snapshots.1,
      snapshotApp iteration.network.registry app = some (.ok snapshot) := by
  rw [snapshots] at none ⊢
  split at none
  case isFalse => exact absurd none (by dsimp only; omega)
  case isTrue readable =>
    rw [if_pos readable]
    simp only [snapshotAllApps, countP_eq_zero] at none ⊢
    cases taken : snapshotApp iteration.network.registry app with
    | none =>
      rw [snapshotApp, if_neg takesPart] at taken
      cases taken
    | some result =>
      have listed : result ∈ iteration.apps.filterMap (snapshotApp iteration.network.registry) :=
        mem_filterMap.mpr ⟨app, mem, taken⟩
      cases result with
      | error => exact absurd rfl (none _ listed)
      | ok snapshot =>
        exact ⟨snapshot, mem_filterMap.mpr ⟨.ok snapshot, listed, rfl⟩, rfl⟩

variable {other : Plane}

theorem plane_of_faultKind {kind : String} (one : kind ∈ faultKinds plane)
    (two : kind ∈ faultKinds other) : plane = other := by
  cases plane <;> cases other <;> simp_all [faultKinds]

variable {effect : Effect}

theorem complete_of_applyPlane {touched : Effect}
    (own : ∀ plane, effect.touches plane → plane = other)
    (mem : touched ∈ iteration.applyPlane other effect) (touches : touched.touches plane) :
    (iteration.coverage plane).isComplete := by
  rw [applyPlane] at mem
  split at mem
  case isFalse => cases mem
  case isTrue complete =>
    rcases mem_cons.mp mem with rfl | fault
    · rw [own plane touches]
      exact complete
    · obtain ⟨kind, listed, rfl⟩ := mem_map.mp fault
      have named : kind ∈ faultKinds plane := by
        split at touches
        all_goals exact of_decide_eq_true touches
      rw [plane_of_faultKind named listed]
      exact complete

/-- **What a tick can touch.** It touches a plane only if it is covered in full. -/
theorem complete_of_tick (mem : effect ∈ iteration.tick)
    (touches : effect.touches plane) : (iteration.coverage plane).isComplete := by
  have ownRoutes : ∀ plane, (Effect.applyRoutes iteration.computeRoutes).touches plane →
      plane = .routes := fun _ => of_decide_eq_true
  rw [tick] at mem
  split at mem
  · rw [mem_singleton.mp mem] at touches
    cases plane <;> simp [Effect.touches, faultKinds] at touches
  · split at mem
    · split at mem
      · rw [mem_singleton.mp mem] at touches
        cases touches
      · cases mem
    · split at mem
      · rw [mem_singleton.mp mem] at touches
        cases plane <;> simp [Effect.touches, faultKinds] at touches
      · split at mem
        · rcases mem_append.mp mem with reconciled | applied
          · simp only [mem_cons, not_mem_nil, or_false] at reconciled
            rcases reconciled with rfl | rfl | rfl <;> cases touches
          · rcases mem_append.mp applied with routes | applied
            · exact complete_of_applyPlane ownRoutes routes touches
            · rcases mem_append.mp applied with rules | proxy
              · exact complete_of_applyPlane (fun _ => of_decide_eq_true) rules touches
              · rw [applyProxy] at proxy
                split at proxy
                · exact complete_of_applyPlane (fun _ => of_decide_eq_true) proxy touches
                · cases proxy
        · exact complete_of_applyPlane ownRoutes mem touches

theorem eq_tearDown_of_applyPlane (mem : .tearDownIdle ∈ iteration.applyPlane plane effect) :
    effect = .tearDownIdle := by
  rw [applyPlane] at mem
  split at mem
  · rcases mem_cons.mp mem with same | fault
    · exact same.symm
    · obtain ⟨kind, -, same⟩ := mem_map.mp fault
      split at same <;> cases same
  · cases mem

theorem idle_of_tearDown (mem : .tearDownIdle ∈ iteration.tick) :
    iteration.snapshots.1 = [] ∧ iteration.snapshots.2 = 0 := by
  rw [tick] at mem
  split at mem
  · cases mem_singleton.mp mem
  · split at mem
    case isTrue empty =>
      split at mem
      case isTrue none => exact ⟨isEmpty_iff.mp empty, none⟩
      case isFalse => cases mem
    case isFalse =>
      split at mem
      · cases mem_singleton.mp mem
      · split at mem
        · rcases mem_append.mp mem with reconciled | applied
          · simp at reconciled
          · rcases mem_append.mp applied with routes | applied
            · cases eq_tearDown_of_applyPlane routes
            · rcases mem_append.mp applied with rules | proxy
              · cases eq_tearDown_of_applyPlane rules
              · rw [applyProxy] at proxy
                split at proxy
                · cases eq_tearDown_of_applyPlane proxy
                · cases proxy
        · cases eq_tearDown_of_applyPlane mem

/-- Every app that takes part in the tick has a snapshot, and every one of these that is
not being uninstalled contributes to the plane. -/
def Contributed (iteration : Iteration) (plane : Plane) : Prop :=
  ∀ app ∈ iteration.apps, app.phase ≠ .notInstalled →
    ∃ snapshot, snapshotApp iteration.network.registry app = some (.ok snapshot) ∧
      (app.phase ≠ .uninstalling → iteration.contributes plane snapshot)

theorem contributed_of_complete (complete : (iteration.coverage plane).isComplete) :
    iteration.Contributed plane := by
  intro app mem takesPart
  obtain ⟨contributes, none⟩ := contributes_of_complete complete
  obtain ⟨snapshot, listed, taken⟩ := snapshotted_of_none_dropped none mem takesPart
  refine ⟨snapshot, taken, fun stays => contributes snapshot (mem_routedApps.mpr ⟨listed, ?_⟩)⟩
  rw [phase_of_snapshotApp taken]
  exact stays

/-- **Absolute state needs every app.** A tick applies a plane, or files or clears a fault
about its application, only if every app contributed to that plane; and it tears the host
down only if no app is installed, being installed or being uninstalled. -/
theorem planes_need_every_app (iteration : Iteration) :
    (∀ plane, ∀ effect ∈ iteration.tick, effect.touches plane →
      iteration.Contributed plane) ∧
    (.tearDownIdle ∈ iteration.tick → ∀ app ∈ iteration.apps, app.phase = .notInstalled) := by
  constructor
  · intro plane effect mem touches
    exact contributed_of_complete (complete_of_tick mem touches)
  · intro mem app listed
    obtain ⟨empty, none⟩ := idle_of_tearDown mem
    by_contra takesPart
    obtain ⟨snapshot, present, -⟩ := snapshotted_of_none_dropped none listed takesPart
    rw [empty] at present
    cases present

/-- An app that is being installed, with a service and no ingress. -/
def installingShop : AppRecord where
  name := "shop"
  phase := .installing
  appDef := ⟨[.service "web" []], List.nodup_singleton _⟩
  activeProgress := some .new
  effectiveScales _ := none
  stopped _ := false

/-- A tick in which the instance registry answers nothing. -/
def silentIteration : Iteration where
  degraded := false
  prioritiesReadable := true
  apps := [installingShop]
  nat64Ready := true
  caddyUp := true
  network :=
    { registry :=
        { getOrCreateSingleton := fun _ _ _ => .error .queryReturnedNoRows
          ensureScaledGroup := fun _ _ _ _ => .error .queryReturnedNoRows
          findAllInstances := fun _ _ _ => .error .queryReturnedNoRows
          singleton_of := nofun }
      instanceIpv6 := fun _ => "fd00::1"
      runningPods := fun _ => []
      caddyV6 := "fd00::2"
      caddyV4 := none }
  traffic := ⟨fun _ => [], fun _ _ => [], fun _ _ => none⟩
  site := ⟨[], []⟩
  accepts _ := true

/-- The routes of the app cannot be computed and are withheld; the packet rules, which it
has a part in, are applied. -/
theorem silent_rules_applied :
    ¬ ∀ effect ∈ silentIteration.tick, ∀ plane, effect.touches plane →
      ∀ other, silentIteration.Contributed other := by
  intro withheld
  have applied : silentIteration.tick.any (·.touches .rules) := by decide
  obtain ⟨effect, mem, touches⟩ := any_eq_true.mp applied
  obtain ⟨snapshot, taken, contributes⟩ :=
    withheld effect mem .rules touches .routes installingShop mem_cons_self nofun
  cases taken
  exact absurd (contributes nofun) (by decide)

end Iteration

end Seedling.Reconcile
