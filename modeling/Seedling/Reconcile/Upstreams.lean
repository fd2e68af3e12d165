import Seedling.Reconcile.Backends
import Seedling.Reconcile.Conflicts
import Seedling.Foundation.Separated

/-!
# Where the proxy sends what an ingress takes

The port of a service that an ingress is sent to is that of the first TCP or HTTP binding
found, so it is the port of the ingress exactly if that binding is at it
(`upstream_at_named_port_iff`).  The pods behind a path prefix are looked up by name, and so is
the service, so they are those of the resources that declare it exactly if no pod of another
kind, and no slot for an external service, has such a name (`prefix_upstreams_exact_iff`).
-/

namespace Seedling.Reconcile

open Instances Foundation List

/-! ## The port of a service -/

/-- The ports that pods bind under the name of a service, in the order they are looked
through.  Bindings over UDP are not. -/
def PodDef.scannedPorts (pod : PodDef) (service : String) : List Nat :=
  (pod.tcpBindings.filter (·.service.name = service)).map TcpUdpBinding.servicePort ++
    (pod.httpBindings.filter (·.service.name = service)).map HttpBinding.servicePort

def scannedPorts (appDef : AppDef) (service : String) : List Nat :=
  (appDef.resources.filterMap Resource.pod?).flatMap (·.2.scannedPorts service)

theorem scanAppsForServicePort_eq (appDef : AppDef) (service : String) :
    scanAppsForServicePort appDef service = (scannedPorts appDef service).head? := by
  have scan : ∀ pod : PodDef, scanPodForPort pod service = (pod.scannedPorts service).head? := by
    simp [scanPodForPort, PodDef.scannedPorts]
  simp only [scanAppsForServicePort, scannedPorts, scan, head?_flatMap]
  induction appDef.resources with
  | nil => rfl
  | cons resource rest ih => cases found : resource.pod? <;> simp [found, ih, findSome?_cons]

/-- What is taken in is sent to a port of an address. -/
def ProxyBuildOutput.GoesTo (output : ProxyBuildOutput) (ip : String) (port : Nat) : Prop :=
  (∀ entry ∈ output.l4Routes, entry.route.upstreams = [s!"[{ip}]:{port}"]) ∧
    ∀ pair ∈ output.pairs, pair.2.serviceIp = ip ∧ pair.2.servicePort = port

/-- **An ingress is sent to its own port of its service exactly if the first TCP or HTTP
binding found, if there is one, is at it.** -/
theorem upstream_at_named_port_iff (network : Network) (app : AppSnapshot) (ingress : Ingress)
    (output : ProxyBuildOutput) (built : collectIngress network app ingress = .ok output) :
    ∃ service,
      network.registry.getOrCreateSingleton app.name .service ingress.service = .ok service ∧
        (output.GoesTo (network.instanceIpv6 service) ingress.declared.port ↔
          ∀ first ∈ (scannedPorts app.appDef ingress.service).head?,
            first = ingress.declared.port) := by
  simp only [collectIngress, findUpstreamPort, scanAppsForServicePort_eq] at built
  obtain ⟨service, served, built⟩ := exists_of_bind_ok built
  obtain ⟨_, _, built⟩ := exists_of_bind_ok built
  cases built
  refine ⟨service, served, ?_⟩
  generalize (scannedPorts app.appDef ingress.service).head? = first
  have sent : (∀ port ∈ first, port = ingress.declared.port) ↔
      first.getD ingress.declared.port = ingress.declared.port := by
    cases first <;> simp
  rw [sent]
  cases ingress.declared.httpTerminate.isNone with
  | false => simp [ProxyBuildOutput.GoesTo]
  | true =>
    simp only [ProxyBuildOutput.GoesTo, if_true, l4Protos]
    split <;> simp [repr_inj]

theorem database_at_its_port :
    ∃ output, collectIngress freshNetwork databaseSnapshot databaseIngress = .ok output ∧
      output.GoesTo "fd00::1" 5432 := by
  refine ⟨_, rfl, ?_⟩
  obtain ⟨_, _, exact'⟩ := upstream_at_named_port_iff freshNetwork databaseSnapshot databaseIngress
    _ rfl
  exact exact'.mpr (by decide)

/-- A pod binds a port of a service of its app, over whichever transport. -/
def PodDef.binds (pod : PodDef) (service : String) (port : Nat) : Bool :=
  (pod.tcpBindings ++ pod.udpBindings).any (· = ⟨⟨false, service⟩, port⟩) ||
    pod.httpBindings.any fun bound => bound.service = ⟨false, service⟩ && bound.servicePort = port

/-- The pod of the database, which it serves over TCP or over UDP. -/
def databasePod (udp : Bool) : PodDef :=
  if udp then ⟨[], [], [⟨⟨false, "data"⟩, 5432⟩]⟩ else ⟨[], [⟨⟨false, "data"⟩, 5432⟩], []⟩

/-- The database with a pool declared before it, at a port of its own. -/
def pooledSnapshot (udp : Bool) : AppSnapshot :=
  { databaseSnapshot with
    appDef := ⟨[.ingress databaseIngress, .service "data" [],
      .deployment "pgbouncer" ⟨[], [⟨⟨false, "data"⟩, 6432⟩], []⟩,
      .deployment "postgres" (databasePod udp)], by cases udp <;> decide⟩ }

/-- **What the database is to take goes to the port of the pool.** -/
theorem database_sent_to_pool :
    let sent (udp : Bool) := (databasePod udp).binds "data" 5432 ∧
      ∃ output, collectIngress freshNetwork (pooledSnapshot udp) databaseIngress = .ok output ∧
        output.l4Routes.map (·.route.upstreams) = [["[fd00::1]:6432"]]
    sent false ∧ sent true :=
  ⟨⟨by decide, _, rfl, by decide⟩, by decide, _, rfl, by decide⟩

/-! ## The pods behind a prefix -/

section Prefixes

variable (appDef : AppDef) (service : String) (runningPods : List RunningPod)

/-- The bindings over HTTP under the name of a service, each with the resource that declares
it. -/
def declaredBindings : List (ResourceId × HttpBinding) :=
  appDef.resources.flatMap fun resource => resource.pod?.toList.flatMap fun (_, pod) =>
    (pod.httpBindings.filter (·.service.name = service)).map (resource.id, ·)

/-- The pods that the code takes for those of a resource. -/
def podsNamed (id : ResourceId) : List RunningPod :=
  runningPods.filter (·.instance'.name = some id.2)

def addresses (binding : HttpBinding) (pods : List RunningPod) : List String :=
  pods.map fun running => s!"[{running.podIp}]:{binding.podPort}"

/-- The running pods of the resource that declares a binding of the app's own service. -/
def podsOf (bound : ResourceId × HttpBinding) : List RunningPod :=
  (podsNamed runningPods bound.1).filter fun running =>
    running.instance'.kind = bound.1.1 && !bound.2.service.external

/-- The addresses due behind a prefix: those of the pods of each resource that declares it. -/
def dueUpstreams (start : String) : List String :=
  ((declaredBindings appDef service).filter (·.2.pathPrefix = start)).flatMap fun bound =>
    addresses bound.2 (podsOf runningPods bound)

/-- The routes are those of the prefixes declared, with the pods told by name. -/
theorem collectHttpRoutes_eq : collectHttpRoutes appDef service runningPods =
      (((declaredBindings appDef service).map (·.2.pathPrefix)).dedup.mergeSort fun first second =>
        first ≤ second).map fun start =>
          ⟨start, ((declaredBindings appDef service).filter (·.2.pathPrefix = start)).flatMap
            fun (id, binding) => addresses binding (podsNamed runningPods id)⟩ := by
  have claims : ((appDef.resources.filterMap Resource.pod?).flatMap fun (name, pod) =>
      (pod.httpBindings.filter (·.service.name = service)).map fun binding =>
        (binding.pathPrefix, (runningPods.filter (·.instance'.name = some name)).map fun running =>
          s!"[{running.podIp}]:{binding.podPort}")) =
      (declaredBindings appDef service).map fun (id, binding) =>
        (binding.pathPrefix, addresses binding (podsNamed runningPods id)) := by
    rw [declaredBindings]
    induction appDef.resources with
    | nil => rfl
    | cons resource rest ih =>
      rw [flatMap_cons, map_append, ← ih]
      cases resource <;> simp [filterMap_cons, Resource.pod?, Resource.id, addresses, podsNamed]
  simp only [collectHttpRoutes, claims, map_map, filter_map, flatMap_map, Function.comp_def]

theorem nodup_addresses {binding : HttpBinding} {pods : List RunningPod} :
    (addresses binding pods).Nodup ↔ (pods.map RunningPod.podIp).Nodup := by
  have injective : Function.Injective fun ip : String => s!"[{ip}]:{binding.podPort}" := by
    intro first second same
    simpa [ToString.toString] using same
  have paired := (map_map (g := fun ip : String => s!"[{ip}]:{binding.podPort}")
    (f := RunningPod.podIp) (l := pods)).symm
  exact (iff_of_eq (congrArg Nodup paired)).trans (nodup_map_iff injective)

/-- **The pods behind each prefix are those of the resources that declare it, each once, exactly
if no pod has the name of such a resource and another kind, none is of a resource that declares
a slot for an external service of that name, and no address stands for two pods of a resource or
for two bindings at the prefix.** -/
theorem prefix_upstreams_exact_iff : (∀ route ∈ collectHttpRoutes appDef service runningPods,
        route.upstreams = dueUpstreams appDef service runningPods route.pathPrefix ∧
          route.upstreams.Nodup) ↔
      (∀ bound ∈ declaredBindings appDef service, ∀ running ∈ runningPods,
          running.instance'.name = some bound.1.2 →
            running.instance'.kind = bound.1.1 ∧ bound.2.service.external = false) ∧
        (∀ bound ∈ declaredBindings appDef service,
          ((podsOf runningPods bound).map RunningPod.podIp).Nodup) ∧
        ∀ start, ((declaredBindings appDef service).filter (·.2.pathPrefix = start)).Pairwise
          fun one other => (addresses one.2 (podsOf runningPods one)).Disjoint
            (addresses other.2 (podsOf runningPods other)) := by
  have exact_iff : ∀ start, ((declaredBindings appDef service).filter
      (·.2.pathPrefix = start)).flatMap
        (fun (id, binding) => addresses binding (podsNamed runningPods id)) =
          dueUpstreams appDef service runningPods start ↔
      ∀ bound ∈ declaredBindings appDef service, bound.2.pathPrefix = start →
        ∀ running ∈ runningPods, running.instance'.name = some bound.1.2 →
          running.instance'.kind = bound.1.1 ∧ bound.2.service.external = false := by
    intro start
    refine (flatMap_filter_eq_iff ..).trans ?_
    simp [podsNamed]
  have once : ∀ start, (dueUpstreams appDef service runningPods start).Nodup ↔
      (∀ bound ∈ declaredBindings appDef service, bound.2.pathPrefix = start →
        ((podsOf runningPods bound).map RunningPod.podIp).Nodup) ∧
      ((declaredBindings appDef service).filter (·.2.pathPrefix = start)).Pairwise
        fun one other => (addresses one.2 (podsOf runningPods one)).Disjoint
          (addresses other.2 (podsOf runningPods other)) := by
    simp [dueUpstreams, nodup_flatMap, nodup_addresses]
  rw [collectHttpRoutes_eq]
  simp only [mem_map, mem_mergeSort, mem_dedup, forall_exists_index, and_imp,
    forall_apply_eq_imp_iff₂]
  constructor
  · intro each
    have own : ∀ bound ∈ declaredBindings appDef service, _ := fun bound mem =>
      (exact_iff _).mp (each bound mem).1 bound mem rfl
    have unique : ∀ bound ∈ declaredBindings appDef service, _ := fun bound mem =>
      (once _).mp ((each bound mem).1 ▸ (each bound mem).2)
    refine ⟨own, fun bound mem => (unique bound mem).1 bound mem rfl, fun start => ?_⟩
    cases declared : (declaredBindings appDef service).filter (·.2.pathPrefix = start) with
    | nil => exact .nil
    | cons bound rest =>
      obtain ⟨mem, same⟩ := mem_filter.mp (declared ▸ mem_cons_self : bound ∈ filter _ _)
      rw [← declared, ← of_decide_eq_true same]
      exact (unique bound mem).2
  · rintro ⟨own, pods, bindings⟩ bound mem
    have same := (exact_iff bound.2.pathPrefix).mpr fun other listed _ => own other listed
    exact ⟨same, same ▸ (once _).mpr ⟨fun other listed _ => pods other listed, bindings _⟩⟩

end Prefixes

/-- A job and a deployment of one name, of which the deployment declares a prefix. -/
def twoKinds : AppDef :=
  ⟨[.deployment "web" ⟨[⟨⟨false, "site"⟩, 80, "/", 8080⟩], [], []⟩, .job "web" ⟨[], [], []⟩],
    by decide⟩

/-- **A pod of the job receives the prefix**, which it did not declare. -/
theorem job_receives_prefix :
    let pods := [⟨.newSingleton 1#128 "shop" .job "web", "fd00::9"⟩]
    ∃ route ∈ collectHttpRoutes twoKinds "site" pods, route.upstreams = ["[fd00::9]:8080"] ∧
      dueUpstreams twoKinds "site" pods route.pathPrefix = [] := by
  intro pods
  have declared : "/" ∈ ((declaredBindings twoKinds "site").map (·.2.pathPrefix)).dedup := by decide
  exact ⟨_, mem_map_of_mem (mem_mergeSort.mpr declared), by decide, by decide⟩

end Seedling.Reconcile
