import Seedling.Reconcile.Snapshot

/-!
# The proxy configuration and the packet rules of a tick

From one set of app snapshots and the site ingresses with their attachments, a
tick computes the proxy configuration (`computeProxyConfig`) and, by a separate
pass over the snapshots, the rules that forward packets to the proxy
(`computeNftablesRules`).  A `(hostname, port)` that an app ingress and a site
attachment both claim is dropped from the configuration on both sides.

The field `origin` of a rule or a route says which ingress it is for; nothing reads it.
-/

namespace Seedling.Reconcile

open Apps Instances
open Proxy (IngressDef HttpForwardRoute HttpRedirectRoute ServiceUpstream RedirectTarget L4Proto
  L4Route ProxyConfig HttpTermination buildProxyConfig)

/-! ## The network of a tick -/

structure RunningPod where
  instance' : ResourceInstance
  podIp : String

/-- What a tick knows besides the snapshots. -/
structure Network where
  registry : InstanceRegistry
  /-- The address of an instance under the node's prefix. -/
  instanceIpv6 : ResourceInstance → String
  runningPods : String → List RunningPod
  caddyV6 : String
  caddyV4 : Option String

/-- The app and the name of an ingress. -/
abbrev Origin := String × String

/-! ## Services -/

def scanPodForPort (pod : PodDef) (service : String) : Option Nat :=
  ((pod.tcpBindings.find? (·.service.name = service)).map TcpUdpBinding.servicePort).or
    ((pod.httpBindings.find? (·.service.name = service)).map HttpBinding.servicePort)

def Resource.pod? : Resource → Option (String × PodDef)
  | .deployment name pod | .job name pod => some (name, pod)
  | _ => none

variable (appDef : AppDef)

def scanAppsForServicePort (service : String) : Option Nat :=
  appDef.resources.findSome? fun resource =>
    resource.pod?.bind fun (_, pod) => scanPodForPort pod service

def findUpstreamPort (service : String) (fallbackPort : Nat) : Nat :=
  (scanAppsForServicePort appDef service).getD fallbackPort

/-- The path prefixes a service declares. -/
def serviceProxyDef (service : String) : List (String × RouteKind) :=
  (appDef.resources.findSome? fun
    | .service name routes | .externalService name routes =>
      if name = service then some routes else none
    | _ => none).getD []

/-- The routes of a service: the prefixes that pods bind on it, each with the running
pods behind it. -/
def collectHttpRoutes (service : String) (runningPods : List RunningPod) : List HttpForwardRoute :=
  let claims := (appDef.resources.filterMap Resource.pod?).flatMap fun (name, pod) =>
    (pod.httpBindings.filter (·.service.name = service)).map fun binding =>
      (binding.pathPrefix,
        (runningPods.filter (·.instance'.name = some name)).map fun running =>
          s!"[{running.podIp}]:{binding.podPort}")
  ((claims.map Prod.fst).dedup.mergeSort fun first second => first ≤ second).map fun start =>
    ⟨start, (claims.filter (·.1 = start)).flatMap Prod.snd⟩

def collectRedirectRoutes (routes : List (String × RouteKind)) : List HttpRedirectRoute :=
  routes.filterMap fun
    | (start, .redirect target code) => some ⟨start, target, code⟩
    | (_, .proxied) => none

/-! ## App ingresses -/

structure AppL4Route where
  origin : Origin
  route : L4Route

abbrev Observation := ResourceInstance × String

structure ProxyBuildOutput where
  pairs : List (IngressDef × ServiceUpstream)
  l4Routes : List AppL4Route
  /-- Persisted whatever becomes of the configuration. -/
  observations : List Observation
  /-- Persisted only once the configuration has been applied. -/
  readyObservations : List Observation

def l4Protos (declared : IngressDef) : List L4Proto :=
  if declared.dtls then [.tcp, .udp] else [.tcp]

variable (network : Network)

def collectIngress (app : AppSnapshot) (ingress : Ingress) :
    Except RegistryError ProxyBuildOutput := do
  let declared := ingress.declared
  let svcInstance ← network.registry.getOrCreateSingleton app.name .service ingress.service
  let serviceIp := network.instanceIpv6 svcInstance
  let upstreamPort := findUpstreamPort app.appDef ingress.service declared.port
  let ingressInstance ← network.registry.getOrCreateSingleton app.name .ingress ingress.name
  return {
    pairs :=
      if declared.httpTerminate.isNone then []
      else
        [(declared,
          { routes := collectHttpRoutes app.appDef ingress.service (network.runningPods app.name)
            redirects := collectRedirectRoutes (serviceProxyDef app.appDef ingress.service)
            serviceIp
            servicePort := upstreamPort })]
    l4Routes :=
      if declared.httpTerminate.isNone then
        (l4Protos declared).map fun proto =>
          ⟨(app.name, ingress.name), ⟨declared.port, proto, [s!"[{serviceIp}]:{upstreamPort}"]⟩⟩
      else []
    observations := [(ingressInstance, "ingress_configured")]
    readyObservations := [(ingressInstance, "ingress_ready")] }

def unscheduledIngresses (desired : DesiredState) : List Ingress :=
  (desired.filter (·.desired = .unscheduled)).filterMap (·.definition.ingress?)

def collect (app : AppSnapshot) : Except RegistryError ProxyBuildOutput := do
  let builds ← app.appDef.ingresses.mapM (collectIngress network app)
  let removed ← (unscheduledIngresses app.desired).mapM fun ingress =>
    network.registry.getOrCreateSingleton app.name .ingress ingress.name
  return {
    pairs := builds.flatMap ProxyBuildOutput.pairs
    l4Routes := builds.flatMap ProxyBuildOutput.l4Routes
    observations := builds.flatMap ProxyBuildOutput.observations ++
      removed.flatMap fun instance' =>
        [(instance', "stop_sent"), (instance', "ingress_removed"),
          (instance', "ingress_cleaned_up")]
    readyObservations := builds.flatMap ProxyBuildOutput.readyObservations }

/-! ## Site attachments -/

inductive AttachmentProtocol where
  | tcp
  | udp
  | http
  | http2

def AttachmentProtocol.asStr : AttachmentProtocol → String
  | .tcp => "tcp"
  | .udp => "udp"
  | .http => "http"
  | .http2 => "http2"

inductive AttachmentTarget where
  | forward (app service : String)
  | redirect (url : String) (code : Nat) (preservePath : Bool)

structure SiteIngressAttachment where
  siteIngress : String
  port : Nat
  protocol : AttachmentProtocol
  target : AttachmentTarget

inductive TlsProvider where
  | acme
  | tailscale
  | internal
  | none
deriving DecidableEq

structure SiteIngressDef where
  name : String
  hostname : String
  tlsProvider : TlsProvider
  stale : Bool

structure SiteIngressSnapshot where
  ingresses : List SiteIngressDef
  attachments : List SiteIngressAttachment

structure SiteL4Entry where
  siteIngress : String
  hostname : String
  route : L4Route

structure UnresolvedAttachment where
  siteIngress : String
  port : Nat
  protocol : AttachmentProtocol
  reason : String

structure SiteProxyData where
  forwards : List (String × IngressDef × ServiceUpstream)
  redirects : List (String × IngressDef × RedirectTarget)
  l4Routes : List SiteL4Entry
  unresolved : List UnresolvedAttachment

def SiteProxyData.empty : SiteProxyData := ⟨[], [], [], []⟩

def resolveForwardUpstream (apps : List AppSnapshot) (targetApp targetService : String) :
    Except String ServiceUpstream := do
  let some snapshot := apps.find? (·.name = targetApp)
    | throw s!"target app AppName(\"{targetApp}\") is not installed"
  let some (.service ..) := snapshot.appDef.get? (.service, targetService)
    | throw s!"target app AppName(\"{targetApp}\") does not declare service \"{targetService}\""
  let svcInstance ←
    match network.registry.getOrCreateSingleton targetApp .service targetService with
    | .ok instance' => pure instance'
    | .error .queryReturnedNoRows =>
      throw (s!"registry lookup for {targetApp}/{targetService} failed: " ++
        "Query returned no rows")
  let some upstreamPort := scanAppsForServicePort snapshot.appDef targetService
    | throw s!"no pod binding found for {targetApp}/{targetService}"
  return {
    routes := collectHttpRoutes snapshot.appDef targetService (network.runningPods targetApp)
    redirects := collectRedirectRoutes (serviceProxyDef snapshot.appDef targetService)
    serviceIp := network.instanceIpv6 svcInstance
    servicePort := upstreamPort }

def attachmentDef (ingress : SiteIngressDef) (port : Nat) (terminate : HttpTermination) :
    IngressDef where
  hostname := ingress.hostname
  port
  tls := ingress.tlsProvider ≠ .none
  dtls := false
  httpTerminate := some terminate
  redirect := none

section Attachment

variable (network : Network) (apps : List AppSnapshot) (ingress : SiteIngressDef)
  (attachment : SiteIngressAttachment)

def unresolved (reason : String) : SiteProxyData :=
  { SiteProxyData.empty with
    unresolved := [⟨ingress.name, attachment.port, attachment.protocol, reason⟩] }

/-- An attachment for packets or connections as they come. -/
def resolveL4 (proto : L4Proto) : SiteProxyData :=
  match attachment.target with
  | .redirect .. =>
    unresolved ingress attachment
      ("redirect targets are only valid on HTTP/HTTP2 attachments, not " ++
        attachment.protocol.asStr)
  | .forward app service =>
    match resolveForwardUpstream network apps app service with
    | .error reason => unresolved ingress attachment reason
    | .ok upstream =>
      { SiteProxyData.empty with
        l4Routes := [⟨ingress.name, ingress.hostname,
          ⟨attachment.port, proto, [s!"[{upstream.serviceIp}]:{upstream.servicePort}"]⟩⟩] }

def resolveHttp (terminate : HttpTermination) : SiteProxyData :=
  if attachment.port = 0 then
    unresolved ingress attachment
      "port 0 rejected: Runtime error: port must be an integer between 1 and 65535, got 0"
  else
    let declared := attachmentDef ingress attachment.port terminate
    match attachment.target with
    | .redirect url code preservePath =>
      { SiteProxyData.empty with
        redirects := [(ingress.name, declared, ⟨url, code, preservePath⟩)] }
    | .forward app service =>
      match resolveForwardUpstream network apps app service with
      | .error reason => unresolved ingress attachment reason
      | .ok upstream =>
        { SiteProxyData.empty with forwards := [(ingress.name, declared, upstream)] }

def resolveAttachment : SiteProxyData :=
  match attachment.protocol with
  | .tcp => resolveL4 network apps ingress attachment .tcp
  | .udp => resolveL4 network apps ingress attachment .udp
  | .http => resolveHttp network apps ingress attachment .http1
  | .http2 => resolveHttp network apps ingress attachment .http2

end Attachment

/-- Resolve every attachment of every site ingress that has not lost its source. -/
def collectSite (apps : List AppSnapshot) (site : SiteIngressSnapshot) : SiteProxyData :=
  let resolved := (site.ingresses.filter (!·.stale)).flatMap fun ingress =>
    (site.attachments.filter (·.siteIngress = ingress.name)).map
      (resolveAttachment network apps ingress)
  { forwards := resolved.flatMap SiteProxyData.forwards
    redirects := resolved.flatMap SiteProxyData.redirects
    l4Routes := resolved.flatMap SiteProxyData.l4Routes
    unresolved := resolved.flatMap SiteProxyData.unresolved }

/-! ## The proxy configuration -/

/-- The `(hostname, port)`s that app ingresses and site attachments both claim. -/
def detectConflicts (appPairs : List (String × IngressDef × ServiceUpstream))
    (site : SiteProxyData) : List (String × Nat) :=
  let appKeys := appPairs.map fun (_, declared, _) => (declared.hostname, declared.port)
  let siteKeys :=
    site.forwards.map (fun (_, declared, _) => (declared.hostname, declared.port)) ++
      site.redirects.map (fun (_, declared, _) => (declared.hostname, declared.port)) ++
      site.l4Routes.map fun entry => (entry.hostname, entry.route.port)
  appKeys.dedup.filter (· ∈ siteKeys)

def dropConflictingAppPairs (pairs : List (String × IngressDef × ServiceUpstream))
    (conflicts : List (String × Nat)) : List (String × IngressDef × ServiceUpstream) :=
  pairs.filter fun (_, declared, _) => (declared.hostname, declared.port) ∉ conflicts

def dropConflictingSiteData (site : SiteProxyData) (conflicts : List (String × Nat)) :
    SiteProxyData :=
  { site with
    forwards := site.forwards.filter fun (_, declared, _) =>
      (declared.hostname, declared.port) ∉ conflicts
    redirects := site.redirects.filter fun (_, declared, _) =>
      (declared.hostname, declared.port) ∉ conflicts
    l4Routes := site.l4Routes.filter fun entry => (entry.hostname, entry.route.port) ∉ conflicts }

/-- Ask for the certificates of hostnames that no TLS virtual host covers. -/
def augmentWithWarmCerts (config : ProxyConfig) (warm : List String) : ProxyConfig :=
  let routed := (config.virtualHosts.filter (·.tlsAcme)).map (·.hostname)
  { config with
    warmCertHostnames := (warm.filter (· ∉ routed)).foldl (fun names name => names.insert name)
      config.warmCertHostnames }

/-- The hostnames of the TLS ingresses that an operation warms. -/
def warmHostnames (app : AppSnapshot) : List String :=
  app.warmCertHostnames.filterMap fun name =>
    (app.appDef.get? (.ingress, name)).bind fun resource =>
      resource.ingress?.bind fun ingress =>
        if ingress.declared.tls then some ingress.declared.hostname else none

section Tick

variable (network : Network) (apps : List AppSnapshot) (site : SiteIngressSnapshot)

def routedApps : List AppSnapshot := apps.filter (·.phase ≠ .uninstalling)

/-- What each app contributes; an app whose lookups fail is left out. -/
def appBuilds : List (AppSnapshot × ProxyBuildOutput) :=
  (routedApps apps).filterMap fun app => (collect network app).toOption.map (app, ·)

def allPairs : List (String × IngressDef × ServiceUpstream) :=
  (appBuilds network apps).flatMap fun (app, build) => build.pairs.map (app.name, ·)

def conflicts : List (String × Nat) :=
  detectConflicts (allPairs network apps) (collectSite network apps site)

def survivingAppPairs : List (String × IngressDef × ServiceUpstream) :=
  dropConflictingAppPairs (allPairs network apps) (conflicts network apps site)

def survivingSiteData : SiteProxyData :=
  dropConflictingSiteData (collectSite network apps site) (conflicts network apps site)

def allL4Routes : List AppL4Route :=
  (appBuilds network apps).flatMap fun (_, build) => build.l4Routes

structure ProxyBuildResult where
  config : ProxyConfig
  /-- No app was left out. -/
  complete : Bool
  observations : List Observation
  readyObservations : List Observation
  unresolvedSiteAttachments : List UnresolvedAttachment

def computeProxyConfig : ProxyBuildResult :=
  let surviving := survivingSiteData network apps site
  let config := buildProxyConfig
    ((survivingAppPairs network apps site).map Prod.snd ++ surviving.forwards.map Prod.snd)
    (surviving.redirects.map Prod.snd)
  let config := { config with
    l4Routes := (allL4Routes network apps).map AppL4Route.route ++
      surviving.l4Routes.map SiteL4Entry.route }
  { config := augmentWithWarmCerts config
      ((appBuilds network apps).flatMap fun (app, _) => warmHostnames app)
    complete := (routedApps apps).all fun app => (collect network app).toOption.isSome
    observations := (appBuilds network apps).flatMap fun (_, build) => build.observations
    readyObservations := (appBuilds network apps).flatMap fun (_, build) => build.readyObservations
    unresolvedSiteAttachments := surviving.unresolved }

/-- The configuration is applied: `skipped` apps have no snapshot and `accepted` is
whether the proxy takes it.  Nothing is applied if an app was left out or if there is
nothing to serve. -/
def applied (skipped : Nat) (accepted : Bool) : Bool :=
  let build := computeProxyConfig network apps site
  let hasProxyConfig := build.config.virtualHosts ≠ [] || build.config.l4Routes ≠ []
  build.complete && skipped = 0 && hasProxyConfig && accepted

/-- The observations of readiness that the tick persists. -/
def readyAfter (skipped : Nat) (accepted : Bool) : List Observation :=
  if applied network apps site skipped accepted then
    (computeProxyConfig network apps site).readyObservations
  else []

/-! ## Packet rules -/

inductive ForwardProto where
  | tcp
  | both

structure IngressRule where
  origin : Origin
  externalPort : Nat
  proto : ForwardProto
  caddyV6 : String × Nat
  caddyV4 : Option (String × Nat)

def ingressRules (app : AppSnapshot) (ingress : Ingress) : List IngressRule :=
  let declared := ingress.declared
  let rule (port : Nat) (proto : ForwardProto) : IngressRule :=
    { origin := (app.name, ingress.name)
      externalPort := port
      proto
      caddyV6 := (network.caddyV6, port)
      caddyV4 := network.caddyV4.map (·, port) }
  let servesQuic := declared.tls && declared.httpTerminate.isSome
  rule declared.port (if declared.dtls || servesQuic then .both else .tcp) ::
    (declared.redirect.map fun redirect => rule redirect.port .tcp).toList

def buildIngressRules (app : AppSnapshot) : List IngressRule :=
  app.appDef.ingresses.flatMap (ingressRules network app)

/-- The rules that forward packets to the proxy. -/
def computeNftablesRules : List IngressRule := (routedApps apps).flatMap (buildIngressRules network)

end Tick

end Seedling.Reconcile
