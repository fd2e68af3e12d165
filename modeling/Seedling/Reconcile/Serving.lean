import Seedling.Reconcile.Network
import Seedling.Foundation.Fallible
import Seedling.Proxy.Routing

/-!
# Which ingresses are served

The configuration and the packet rules are collected from the definition of an app,
and the desired state is only reported on: an ingress is routed whether or not it is
desired.  `served_only_when_wanted_iff` says what follows: ingresses are served only
when they are wanted, and recorded ready only when they are served, exactly when every
ingress of every app that is not being uninstalled is wanted, and none is in conflict
with a site attachment while a configuration is applied.
-/

namespace Seedling.Reconcile

open Apps Instances Foundation List Prod
open Proxy (IngressDef ServiceUpstream L4Proto VirtualHost forwardRoutes)

section Collected

variable {network : Network} {app : AppSnapshot} {ingress : Ingress} {part build : ProxyBuildOutput}

/-- What an ingress contributes: an HTTP one its pair, any other its layer-4 routes. -/
theorem collectIngress_ok (collected : collectIngress network app ingress = .ok part) :
    ∃ instance' upstream url,
      network.registry.getOrCreateSingleton app.name .ingress ingress.name = .ok instance' ∧
      part.readyObservations = [(instance', "ingress_ready")] ∧
      part.pairs =
        (if ingress.declared.httpTerminate.isNone then [] else [(ingress.declared, upstream)]) ∧
      part.l4Routes =
        if ingress.declared.httpTerminate.isNone then
          (l4Protos ingress.declared).map fun proto =>
            ⟨(app.name, ingress.name), ⟨ingress.declared.port, proto, [url]⟩⟩
        else [] := by
  obtain ⟨_, _, collected⟩ := exists_of_bind_ok collected
  obtain ⟨instance', found, collected⟩ := exists_of_bind_ok collected
  cases collected
  exact ⟨instance', _, _, found, rfl, rfl, rfl⟩

variable (collected : collect network app = .ok build)
include collected

theorem collect_ok : ∃ builds, app.appDef.ingresses.mapM (collectIngress network app) = .ok builds ∧
      build.pairs = builds.flatMap ProxyBuildOutput.pairs ∧
      build.l4Routes = builds.flatMap ProxyBuildOutput.l4Routes ∧
      build.readyObservations = builds.flatMap ProxyBuildOutput.readyObservations := by
  obtain ⟨builds, each, collected⟩ := exists_of_bind_ok collected
  obtain ⟨_, _, collected⟩ := exists_of_bind_ok collected
  cases collected
  exact ⟨builds, each, rfl, rfl, rfl⟩

theorem part_of_ingress (mem : ingress ∈ app.appDef.ingresses) :
    ∃ part, collectIngress network app ingress = .ok part ∧
      part.pairs ⊆ build.pairs ∧ part.l4Routes ⊆ build.l4Routes ∧
      part.readyObservations ⊆ build.readyObservations := by
  obtain ⟨builds, each, pairs, l4Routes, ready⟩ := collect_ok collected
  obtain ⟨part, listed, computes⟩ := exists_of_mapM_ok each mem
  rw [pairs, l4Routes, ready]
  exact ⟨part, computes, fun _ inside => mem_flatMap.mpr ⟨part, listed, inside⟩,
    fun _ inside => mem_flatMap.mpr ⟨part, listed, inside⟩,
    fun _ inside => mem_flatMap.mpr ⟨part, listed, inside⟩⟩

theorem ingress_of_pair {pair : IngressDef × ServiceUpstream} (mem : pair ∈ build.pairs) :
    ∃ ingress ∈ app.appDef.ingresses, ingress.declared = pair.1 ∧
      ingress.declared.httpTerminate.isSome := by
  obtain ⟨builds, each, pairs, -, -⟩ := collect_ok collected
  rw [pairs] at mem
  obtain ⟨part, listed, inside⟩ := mem_flatMap.mp mem
  obtain ⟨ingress, known, computes⟩ := mem_of_mapM_ok each listed
  obtain ⟨_, upstream, _, -, -, pairs', -⟩ := collectIngress_ok computes
  rw [pairs'] at inside
  split at inside
  · cases inside
  · rename_i http
    rw [mem_singleton.mp inside]
    exact ⟨ingress, known, rfl, Option.isSome_iff_ne_none.mpr (by simpa using http)⟩

theorem ingress_of_l4Route {entry : AppL4Route} (mem : entry ∈ build.l4Routes) :
    ∃ ingress ∈ app.appDef.ingresses, entry.origin = (app.name, ingress.name) ∧
      ingress.declared.httpTerminate = none ∧ entry.route.port = ingress.declared.port ∧
      entry.route.proto ∈ l4Protos ingress.declared := by
  obtain ⟨builds, each, -, l4Routes, -⟩ := collect_ok collected
  rw [l4Routes] at mem
  obtain ⟨part, listed, inside⟩ := mem_flatMap.mp mem
  obtain ⟨ingress, known, computes⟩ := mem_of_mapM_ok each listed
  obtain ⟨_, _, url, -, -, -, routes⟩ := collectIngress_ok computes
  rw [routes] at inside
  split at inside
  · rename_i plain
    obtain ⟨proto, served, rfl⟩ := mem_map.mp inside
    exact ⟨ingress, known, rfl, by simpa using plain, rfl, served⟩
  · cases inside

theorem ingress_of_ready {observation : Observation} (mem : observation ∈ build.readyObservations) :
    ∃ ingress ∈ app.appDef.ingresses, observation.1.app = app.name ∧
      observation.1.name = some ingress.name := by
  obtain ⟨builds, each, -, -, ready⟩ := collect_ok collected
  rw [ready] at mem
  obtain ⟨part, listed, inside⟩ := mem_flatMap.mp mem
  obtain ⟨ingress, known, computes⟩ := mem_of_mapM_ok each listed
  obtain ⟨instance', _, _, found, observed, -, -⟩ := collectIngress_ok computes
  rw [observed, mem_singleton] at inside
  obtain ⟨ofApp, -, named⟩ := network.registry.singleton_of found
  rw [inside]
  exact ⟨ingress, known, ofApp, named⟩

end Collected

/-! ## Served, forwarded, wanted -/

section Tick

variable (network : Network) (apps : List AppSnapshot) (site : SiteIngressSnapshot)
  (app : AppSnapshot) (ingress : Ingress)

/-- The configuration holds an HTTP ingress: its pair is one the configuration is built
from, and its routes are those of its virtual host. -/
def HttpServed : Prop :=
  ∃ upstream, (app.name, ingress.declared, upstream) ∈ survivingAppPairs network apps site ∧
    ∃ vhost ∈ (computeProxyConfig network apps site).config.virtualHosts,
      vhost.isFor ingress.declared ∧
        ∀ route ∈ forwardRoutes ingress.declared upstream, route ∈ vhost.routes

/-- The configuration holds a layer-4 route of the ingress. -/
def L4Served : Prop :=
  ∃ entry ∈ allL4Routes network apps, entry.origin = (app.name, ingress.name) ∧
    entry.route ∈ (computeProxyConfig network apps site).config.l4Routes

def Served : Prop :=
  HttpServed network apps site app ingress ∨ L4Served network apps site app ingress

/-- The packet rules hold a rule of the ingress. -/
def Forwarded : Prop :=
  ∃ rule ∈ computeNftablesRules network apps, rule.origin = (app.name, ingress.name)

/-- The ingress is not held unscheduled and, during an install, has been started. -/
structure Wanted : Prop where
  scheduled : ∀ desired ∈ app.desired, desired.definition = .ingress ingress →
    desired.desired ≠ .unscheduled
  started : app.phase = .installing → ∃ desired ∈ app.desired,
    desired.definition = .ingress ingress ∧ desired.desired = .ready

def RecordedReady (skipped : Nat) (accepted : Bool) : Prop :=
  ∃ observation ∈ readyAfter network apps site skipped accepted,
    observation.1.app = app.name ∧ observation.1.name = some ingress.name

end Tick

section Collect

variable {network : Network} {apps : List AppSnapshot} {site : SiteIngressSnapshot}
  {app : AppSnapshot} {ingress : Ingress} {build : ProxyBuildOutput}

theorem mem_routedApps : app ∈ routedApps apps ↔ app ∈ apps ∧ app.phase ≠ .uninstalling := by
  simp [routedApps]

theorem mem_appBuilds : (app, build) ∈ appBuilds network apps ↔
    app ∈ routedApps apps ∧ collect network app = .ok build := by
  simp only [appBuilds, mem_filterMap, Option.map_eq_some_iff, toOption_eq_some, mk.injEq]
  constructor
  · rintro ⟨_, routed, _, collected, rfl, rfl⟩
    exact ⟨routed, collected⟩
  · rintro ⟨routed, collected⟩
    exact ⟨app, routed, build, collected, rfl, rfl⟩

theorem app_unique (names : (apps.map AppSnapshot.name).Nodup) {other : AppSnapshot}
    (mem : app ∈ apps) (also : other ∈ routedApps apps) (same : other.name = app.name) :
    other = app :=
  inj_on_of_nodup_map names (mem_routedApps.mp also).1 mem same

theorem ingress_unique {other : Ingress} (mem : ingress ∈ app.appDef.ingresses)
    (also : other ∈ app.appDef.ingresses) (same : other.name = ingress.name) :
    other = ingress := by
  have equal : Resource.ingress other = Resource.ingress ingress :=
    inj_on_of_nodup_map app.appDef.ids_nodup (AppDef.mem_ingresses.mp also)
      (AppDef.mem_ingresses.mp mem) (congrArg (mk ResourceKind.ingress) same)
  exact Resource.ingress.inj equal

theorem httpServed_of_survives {upstream : ServiceUpstream}
    (survives : (app.name, ingress.declared, upstream) ∈ survivingAppPairs network apps site) :
    HttpServed network apps site app ingress := by
  refine ⟨upstream, survives, ?_⟩
  have merges := Proxy.merges_buildProxyConfig ((survivingAppPairs network apps site).map snd ++
      (survivingSiteData network apps site).forwards.map snd)
    ((survivingSiteData network apps site).redirects.map snd)
  have entry : (ingress.declared, forwardRoutes ingress.declared upstream) ∈ Proxy.entriesOf
      ((survivingAppPairs network apps site).map snd ++
        (survivingSiteData network apps site).forwards.map snd)
      ((survivingSiteData network apps site).redirects.map snd) :=
    mem_append_left _ (mem_map.mpr ⟨(ingress.declared, upstream),
      mem_append_left _ (mem_map_of_mem survives), rfl⟩)
  obtain ⟨vhost, present, isFor, holds, -⟩ := merges.hosts _ entry
  exact ⟨vhost, present, isFor, holds⟩

theorem routed_of_served (names : (apps.map AppSnapshot.name).Nodup) (mem : app ∈ apps)
    (served : Served network apps site app ingress) : app ∈ routedApps apps := by
  rcases served with ⟨upstream, survives, -⟩ | ⟨entry, listed, origin, -⟩
  · obtain ⟨⟨other, build⟩, built, paired⟩ :=
      mem_flatMap.mp (mem_filter.mp survives).1
    obtain ⟨pair, -, same⟩ := mem_map.mp paired
    have routed := (mem_appBuilds.mp built).1
    rw [app_unique names mem routed (congrArg fst same)] at routed
    exact routed
  · obtain ⟨⟨other, build⟩, built, inside⟩ := mem_flatMap.mp listed
    obtain ⟨routed, collected⟩ := mem_appBuilds.mp built
    obtain ⟨_, -, named, -⟩ := ingress_of_l4Route collected inside
    rw [app_unique names mem routed (congrArg fst (named.symm.trans origin))] at routed
    exact routed

theorem forwarded_iff (names : (apps.map AppSnapshot.name).Nodup) (mem : app ∈ apps)
    (declared : ingress ∈ app.appDef.ingresses) :
    Forwarded network apps app ingress ↔ app ∈ routedApps apps := by
  constructor
  · rintro ⟨rule, listed, origin⟩
    obtain ⟨other, routed, built⟩ := mem_flatMap.mp listed
    obtain ⟨_, -, inside⟩ := mem_flatMap.mp built
    have named : rule.origin.1 = other.name := by
      simp only [ingressRules, mem_cons, Option.mem_toList, Option.map_eq_some_iff] at inside
      rcases inside with rfl | ⟨_, -, rfl⟩ <;> rfl
    rw [origin] at named
    rw [app_unique names mem routed named.symm] at routed
    exact routed
  · intro routed
    exact ⟨_, mem_flatMap.mpr ⟨app, routed, mem_flatMap.mpr
      ⟨ingress, declared, mem_cons_self⟩⟩, rfl⟩

variable (routed : app ∈ routedApps apps) (collected : collect network app = .ok build)
  (declared : ingress ∈ app.appDef.ingresses)
  (http : ingress.declared.httpTerminate.isSome)
include routed collected declared http

theorem pair_of_collected :
    ∃ upstream, (app.name, ingress.declared, upstream) ∈ allPairs network apps := by
  obtain ⟨part, computes, pairs, -, -⟩ := part_of_ingress collected declared
  obtain ⟨_, upstream, _, -, -, ownPairs, -⟩ := collectIngress_ok computes
  rw [if_neg (by simpa [Option.isSome_iff_ne_none] using http)] at ownPairs
  have own : (ingress.declared, upstream) ∈ build.pairs := pairs (by rw [ownPairs]; simp)
  exact ⟨upstream, mem_flatMap.mpr ⟨(app, build), mem_appBuilds.mpr ⟨routed, collected⟩,
    mem_map_of_mem own⟩⟩

theorem survives_of_collected
    (clear : (ingress.declared.hostname, ingress.declared.port) ∉ conflicts network apps site) :
    ∃ upstream, (app.name, ingress.declared, upstream) ∈ survivingAppPairs network apps site := by
  obtain ⟨upstream, paired⟩ := pair_of_collected routed collected declared http
  exact ⟨upstream, mem_filter.mpr ⟨paired, by simpa using clear⟩⟩

omit http

theorem l4Route_of_collected (plain : ingress.declared.httpTerminate = none) {proto : L4Proto}
    (served : proto ∈ l4Protos ingress.declared) :
    ∃ entry ∈ allL4Routes network apps, entry.origin = (app.name, ingress.name) ∧
      entry.route.port = ingress.declared.port ∧ entry.route.proto = proto := by
  obtain ⟨part, computes, -, l4Routes, -⟩ := part_of_ingress collected declared
  obtain ⟨_, _, url, -, -, -, ownRoutes⟩ := collectIngress_ok computes
  rw [if_pos (by simp [plain])] at ownRoutes
  let entry : AppL4Route := ⟨(app.name, ingress.name), ⟨ingress.declared.port, proto, [url]⟩⟩
  have own : entry ∈ part.l4Routes := by
    rw [ownRoutes]
    exact mem_map_of_mem served
  exact ⟨entry, mem_flatMap.mpr ⟨(app, build), mem_appBuilds.mpr ⟨routed, collected⟩,
    l4Routes own⟩, rfl, rfl, rfl⟩

theorem served_of_collected (clear : ingress.declared.httpTerminate.isSome →
      (ingress.declared.hostname, ingress.declared.port) ∉ conflicts network apps site) :
    Served network apps site app ingress := by
  cases plain : ingress.declared.httpTerminate with
  | none =>
    have tcp : L4Proto.tcp ∈ l4Protos ingress.declared := by
      simp only [l4Protos]
      split <;> simp
    obtain ⟨entry, listed, origin, -⟩ := l4Route_of_collected routed collected declared plain tcp
    exact .inr ⟨entry, listed, origin, mem_append_left _ (mem_map_of_mem listed)⟩
  | some =>
    have http : ingress.declared.httpTerminate.isSome := by rw [plain]; rfl
    obtain ⟨upstream, survives⟩ := survives_of_collected routed collected declared http (clear http)
    exact .inl (httpServed_of_survives survives)

omit declared collected routed

theorem not_served_of_conflict (names : (apps.map AppSnapshot.name).Nodup) (mem : app ∈ apps)
    (declared : ingress ∈ app.appDef.ingresses)
    (http : ingress.declared.httpTerminate.isSome)
    (conflict : (ingress.declared.hostname, ingress.declared.port) ∈ conflicts network apps site) :
    ¬ Served network apps site app ingress := by
  rintro (⟨upstream, survives, -⟩ | ⟨entry, listed, origin, -⟩)
  · exact absurd conflict (by simpa using (mem_filter.mp survives).2)
  · obtain ⟨⟨other, build⟩, built, inside⟩ := mem_flatMap.mp listed
    obtain ⟨routed, collected⟩ := mem_appBuilds.mp built
    obtain ⟨route, also, named, plain, -⟩ := ingress_of_l4Route collected inside
    have same := named.symm.trans origin
    obtain rfl := app_unique names mem routed (congrArg fst same)
    rw [← ingress_unique declared also (congrArg snd same), plain] at http
    cases http

variable {skipped : Nat} {accepted : Bool}

theorem collected_of_recordedReady (names : (apps.map AppSnapshot.name).Nodup) (mem : app ∈ apps)
    (ready : RecordedReady network apps site app ingress skipped accepted) :
    applied network apps site skipped accepted ∧ app ∈ routedApps apps ∧
      ∃ build, collect network app = .ok build := by
  obtain ⟨observation, listed, ofApp, -⟩ := ready
  simp only [readyAfter] at listed
  split at listed
  · rename_i applies
    obtain ⟨⟨other, build⟩, built, inside⟩ := mem_flatMap.mp listed
    obtain ⟨routed, collected⟩ := mem_appBuilds.mp built
    obtain ⟨_, -, ofOther, -⟩ := ingress_of_ready collected inside
    obtain rfl := app_unique names mem routed (ofOther.symm.trans ofApp)
    exact ⟨applies, routed, build, collected⟩
  · cases listed

/-- Once a configuration is applied, every ingress of every app it covers is recorded
ready. -/
theorem recordedReady_of_applied (applies : applied network apps site skipped accepted)
    (routed : app ∈ routedApps apps) (declared : ingress ∈ app.appDef.ingresses) :
    RecordedReady network apps site app ingress skipped accepted := by
  have complete : (computeProxyConfig network apps site).complete := by
    simp only [applied, Bool.and_eq_true] at applies
    exact applies.1.1.1
  have collects := all_eq_true.mp complete app routed
  obtain ⟨build, collected⟩ := Option.isSome_iff_exists.mp collects
  rw [toOption_eq_some] at collected
  obtain ⟨part, computes, -, -, readies⟩ := part_of_ingress collected declared
  obtain ⟨instance', _, _, found, ready, -, -⟩ := collectIngress_ok computes
  obtain ⟨ofApp, -, named⟩ := network.registry.singleton_of found
  refine ⟨(instance', "ingress_ready"), ?_, ofApp, named⟩
  rw [readyAfter, if_pos applies]
  exact mem_flatMap.mpr ⟨(app, build), mem_appBuilds.mpr ⟨routed, collected⟩,
    readies (by rw [ready]; simp)⟩

end Collect

/-! ## The main result -/

/-- **Ingresses are served only when wanted and recorded ready only when served exactly
when all of them are wanted and none is in conflict while a configuration is applied.** -/
theorem served_only_when_wanted_iff (network : Network) (apps : List AppSnapshot)
    (site : SiteIngressSnapshot) (skipped : Nat) (accepted : Bool)
    (names : (apps.map AppSnapshot.name).Nodup) :
    (∀ app ∈ apps, ∀ ingress ∈ app.appDef.ingresses,
      (Served network apps site app ingress ∨ Forwarded network apps app ingress →
        Wanted app ingress) ∧
      (RecordedReady network apps site app ingress skipped accepted →
        Served network apps site app ingress)) ↔
    (∀ app ∈ routedApps apps, ∀ ingress ∈ app.appDef.ingresses, Wanted app ingress) ∧
      (applied network apps site skipped accepted →
        ∀ app ∈ routedApps apps, ∀ ingress ∈ app.appDef.ingresses,
          ingress.declared.httpTerminate.isSome →
            (ingress.declared.hostname, ingress.declared.port) ∉ conflicts network apps site) := by
  constructor
  · intro holds
    constructor
    · intro app routed ingress declared
      have mem := (mem_routedApps.mp routed).1
      exact (holds app mem ingress declared).1
        (.inr ((forwarded_iff names mem declared).mpr routed))
    · intro applies app routed ingress declared http conflict
      have mem := (mem_routedApps.mp routed).1
      exact not_served_of_conflict names mem declared http conflict
        ((holds app mem ingress declared).2 (recordedReady_of_applied applies routed declared))
  · rintro ⟨wanted, clear⟩ app mem ingress declared
    constructor
    · rintro (served | forwarded)
      · exact wanted app (routed_of_served names mem served) ingress declared
      · exact wanted app ((forwarded_iff names mem declared).mp forwarded) ingress declared
    · intro ready
      obtain ⟨applies, routed, build, collected⟩ := collected_of_recordedReady names mem ready
      exact served_of_collected routed collected declared
        (clear applies app routed ingress declared)

def freshNetwork : Network where
  registry := .ofTable (fun _ => 1#128) ⟨fun _ => false, fun _ => false⟩ Registry.init
  instanceIpv6 _ := "fd00::1"
  runningPods _ := []
  caddyV6 := "fd00::2"
  caddyV4 := none

def shopIngress : Ingress := ⟨"web", ⟨"shop.test", 443, true, false, some .http1, none⟩⟩

def shopInstance : ResourceInstance := .newSingleton 1#128 "shop" .ingress shopIngress.name

def shop (phase : AppPhase) (progress : Option OperationProgress) (stopped : Bool) : AppRecord where
  name := "shop"
  phase
  appDef := ⟨[.ingress shopIngress], by decide⟩
  activeProgress := progress
  effectiveScales _ := none
  stopped _ := stopped

def shopSnapshot (phase : AppPhase) (desired : DesiredState) (warm : List String) :
    AppSnapshot where
  name := "shop"
  desired
  appDef := ⟨[.ingress shopIngress], by decide⟩
  phase
  warmCertHostnames := warm

/-- A running ingress that nothing else claims is served, wanted and ready. -/
theorem running_ingress_is_wanted :
    let running := shopSnapshot .installed [⟨shopInstance, .ready, .ingress shopIngress, false⟩] []
    (Served freshNetwork [running] ⟨[], []⟩ running shopIngress ∨
        Forwarded freshNetwork [running] running shopIngress → Wanted running shopIngress) ∧
      (RecordedReady freshNetwork [running] ⟨[], []⟩ running shopIngress 0 true →
        Served freshNetwork [running] ⟨[], []⟩ running shopIngress) := by
  intro running
  refine (served_only_when_wanted_iff freshNetwork [running] ⟨[], []⟩ 0 true
    (nodup_singleton _)).mpr ⟨?_, ?_⟩ running mem_cons_self shopIngress mem_cons_self
  · intro app routed ingress declared
    obtain rfl := mem_singleton.mp (mem_routedApps.mp routed).1
    obtain rfl := mem_singleton.mp declared
    exact ⟨by decide, nofun⟩
  · intro _ app routed ingress declared _
    obtain rfl := mem_singleton.mp (mem_routedApps.mp routed).1
    obtain rfl := mem_singleton.mp declared
    decide +kernel

/-- An ingress that the operator stopped, and one that an install only warmed, are served
and forwarded; one that a site attachment claims as well is recorded ready. -/
theorem unwanted_ingress_is_served :
    let stopped := shopSnapshot .installed
      [⟨shopInstance, .unscheduled, .ingress shopIngress, false⟩] []
    let warmed := shopSnapshot .installing [] ["shop.test:443"]
    let running := shopSnapshot .installed [⟨shopInstance, .ready, .ingress shopIngress, false⟩] []
    let site : SiteIngressSnapshot :=
      ⟨[⟨"front", "shop.test", .acme, false⟩, ⟨"docs", "docs.test", .acme, false⟩],
        [⟨"front", 443, .http, .redirect "https://new.test" 307 true⟩,
          ⟨"docs", 443, .http, .redirect "https://new.test" 307 true⟩]⟩
    (snapshotAllApps freshNetwork.registry [shop .installed none true] = ([stopped], 0) ∧
      Served freshNetwork [stopped] ⟨[], []⟩ stopped shopIngress ∧
      Forwarded freshNetwork [stopped] stopped shopIngress ∧ ¬ Wanted stopped shopIngress) ∧
    (snapshotAllApps freshNetwork.registry
        [shop .installing (some (.fromLog [⟨0, .warmCerts, [shopInstance], [], none⟩])) false] =
          ([warmed], 0) ∧
      Served freshNetwork [warmed] ⟨[], []⟩ warmed shopIngress ∧ ¬ Wanted warmed shopIngress) ∧
    (snapshotAllApps freshNetwork.registry [shop .installed none false] = ([running], 0) ∧
      RecordedReady freshNetwork [running] site running shopIngress 0 true ∧
      ¬ Served freshNetwork [running] site running shopIngress) := by
  have declared : shopIngress ∈ [shopIngress] := mem_cons_self
  refine ⟨⟨by decide +kernel, ?_, ?_, ?_⟩, ⟨by decide +kernel, ?_, ?_⟩, ⟨by decide +kernel, ?_, ?_⟩⟩
  · exact served_of_collected (by decide) rfl declared (by decide +kernel)
  · exact (forwarded_iff (by decide) (by decide) declared).mpr (by decide)
  · intro wanted
    exact wanted.scheduled _ mem_cons_self rfl rfl
  · exact served_of_collected (by decide) rfl declared (by decide +kernel)
  · intro wanted
    obtain ⟨_, listed, -⟩ := wanted.started rfl
    cases listed
  · exact recordedReady_of_applied (by decide +kernel) (by decide) declared
  · exact not_served_of_conflict (by decide) (by decide) declared rfl (by decide +kernel)

end Seedling.Reconcile
