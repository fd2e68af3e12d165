import Seedling.Proxy.Redirect
import Mathlib.Data.List.Sort
import Mathlib.Data.String.Basic

/-!
# The proxy configuration

Ingresses and site attachments with their resolved targets are merged into virtual
hosts by hostname and termination, next to a set of listeners; from these the
proxy's own configuration is emitted, which has one server for TLS and one for
plaintext, each with an ordered list of routes.

The field `origin` of a route says which ingress it was declared by; nothing reads it.
-/

namespace Seedling.Proxy

/-! ## Declarations -/

inductive HttpTermination where
  | http1
  | http2
deriving DecidableEq

structure RedirectDef where
  port : Nat
  code : Nat
deriving DecidableEq

structure IngressDef where
  hostname : String
  port : Nat
  tls : Bool
  dtls : Bool
  httpTerminate : Option HttpTermination
  redirect : Option RedirectDef
deriving DecidableEq

/-- An HTTP route of a service and the pods behind it. -/
structure HttpForwardRoute where
  pathPrefix : String
  upstreams : List String

structure HttpRedirectRoute where
  pathPrefix : String
  target : List RedirectSegment
  code : Nat

structure ServiceUpstream where
  routes : List HttpForwardRoute
  redirects : List HttpRedirectRoute
  serviceIp : String
  servicePort : Nat

structure RedirectTarget where
  url : String
  code : Nat
  preservePath : Bool

/-! ## The merged configuration -/

inductive ProxyRouteHandler where
  | reverseProxy (upstreams : List String)
  | routeRedirect (target : List RedirectSegment) (code : Nat)
  | redirect (url : String) (code : Nat) (preservePath : Bool)
deriving DecidableEq

structure ProxyRoute where
  pathPrefix : String
  handler : ProxyRouteHandler
  /-- The hostname and the port of the ingress that declared the route. -/
  origin : String × Nat
deriving DecidableEq

structure HttpRedirect where
  fromPort : Nat
  toPort : Nat
  code : Nat
deriving DecidableEq

structure VirtualHost where
  hostname : String
  tlsAcme : Bool
  redirect : Option HttpRedirect
  routes : List ProxyRoute

inductive ProxyListenerProto where
  | http
  | https
  | quic
deriving DecidableEq

structure ProxyListener where
  port : Nat
  proto : ProxyListenerProto
deriving DecidableEq

inductive L4Proto where
  | tcp
  | udp
deriving DecidableEq

structure L4Route where
  port : Nat
  proto : L4Proto
  upstreams : List String
deriving DecidableEq

/-- The configuration; the listeners are a set. -/
structure ProxyConfig where
  listeners : List ProxyListener
  virtualHosts : List VirtualHost
  l4Routes : List L4Route
  warmCertHostnames : List String

variable (ingress : IngressDef)

def IngressDef.isHttps : Bool := ingress.tls && ingress.httpTerminate.isSome

def listenersOf : List ProxyListener :=
  [⟨ingress.port, if ingress.isHttps then .https else .http⟩] ++
    (if ingress.isHttps then [⟨ingress.port, .quic⟩] else []) ++
    match ingress.redirect with
    | some redirect => [⟨redirect.port, .http⟩]
    | none => []

def registerListeners (listeners : List ProxyListener) (ingress : IngressDef) :
    List ProxyListener :=
  (listenersOf ingress).foldl (fun listeners listener => listeners.insert listener) listeners

def VirtualHost.le (first second : VirtualHost) : Prop :=
  first.hostname < second.hostname ∨
    (first.hostname = second.hostname ∧ (first.tlsAcme → second.tlsAcme))

instance : DecidableRel VirtualHost.le := fun _ _ => inferInstanceAs (Decidable (_ ∨ _ ∧ (_ → _)))

def VirtualHost.isFor (vhost : VirtualHost) : Bool :=
  vhost.hostname = ingress.hostname && vhost.tlsAcme = ingress.tls

def IngressDef.httpRedirect : Option HttpRedirect :=
  ingress.redirect.map fun redirect => ⟨redirect.port, ingress.port, redirect.code⟩

/-- Find or make the virtual host of an ingress, and append routes to it.  An ingress
that asks for a redirect sets the one of its virtual host. -/
def ensureVhost (vhosts : List VirtualHost) (ingress : IngressDef) (routes : List ProxyRoute) :
    List VirtualHost :=
  if vhosts.any (VirtualHost.isFor ingress) then
    vhosts.map fun vhost =>
      if vhost.isFor ingress then
        { vhost with
          redirect := ingress.httpRedirect.or vhost.redirect
          routes := vhost.routes ++ routes }
      else vhost
  else
    vhosts.orderedInsert VirtualHost.le
      { hostname := ingress.hostname
        tlsAcme := ingress.tls
        redirect := ingress.httpRedirect
        routes }

/-- The routes of a forwarded ingress: its service's redirects, then its routes, or one
through the service's address if it has none. -/
def forwardRoutes (upstream : ServiceUpstream) : List ProxyRoute :=
  let origin := (ingress.hostname, ingress.port)
  upstream.redirects.map (fun redirect =>
    ⟨redirect.pathPrefix, .routeRedirect redirect.target redirect.code, origin⟩) ++
  if upstream.routes = [] then
    [⟨"/", .reverseProxy [s!"http://[{upstream.serviceIp}]:{upstream.servicePort}"], origin⟩]
  else
    upstream.routes.map fun route =>
      ⟨route.pathPrefix, .reverseProxy (route.upstreams.map ("http://" ++ ·)), origin⟩

def redirectRoutes (target : RedirectTarget) : List ProxyRoute :=
  [⟨"/", .redirect target.url target.code target.preservePath, (ingress.hostname, ingress.port)⟩]

def ProxyConfig.add (config : ProxyConfig) (ingress : IngressDef) (routes : List ProxyRoute) :
    ProxyConfig :=
  { config with
    listeners := registerListeners config.listeners ingress
    virtualHosts := ensureVhost config.virtualHosts ingress routes }

def buildProxyConfig (forwards : List (IngressDef × ServiceUpstream))
    (redirects : List (IngressDef × RedirectTarget)) : ProxyConfig :=
  let config := forwards.foldl (fun config (ingress, upstream) =>
    config.add ingress (forwardRoutes ingress upstream)) ⟨[], [], [], []⟩
  redirects.foldl (fun config (ingress, target) =>
    config.add ingress (redirectRoutes ingress target)) config

/-! ## The emitted configuration -/

inductive PathPattern where
  | exact (text : List Char)
  | beginsWith (text : List Char)

/-- The path is one as the matcher compares it: decoded and cleaned. -/
def PathPattern.accepts (path : List Char) : PathPattern → Bool
  | .exact text => fold path = fold text
  | .beginsWith text => (fold text).isPrefixOf (fold path)

inductive CaddyHandle where
  | route (route : ProxyRoute)
  | httpRedirect (redirect : HttpRedirect)
deriving DecidableEq

/-- A terminal route; without patterns it takes every path. -/
structure CaddyRoute where
  host : String
  paths : Option (List PathPattern)
  handle : CaddyHandle

structure CaddyServer where
  listen : List Nat
  routes : List CaddyRoute

structure CaddyConfig where
  seedlingHttps : Option CaddyServer
  seedlingHttp : Option CaddyServer

def pathPatterns (route : ProxyRoute) : Option (List PathPattern) :=
  match route.handler with
  | .routeRedirect .. =>
    let start := redirectPrefix route.pathPrefix.toList
    some [.exact start, .beginsWith (start ++ ['/'])]
  | _ =>
    if route.pathPrefix = "/" then none else some [.beginsWith route.pathPrefix.toList]

/-- The routes of a virtual host, those with longer prefixes first. -/
def proxyRoutesForVhost (vhost : VirtualHost) : List CaddyRoute :=
  (vhost.routes.mergeSort fun first second =>
    second.pathPrefix.utf8ByteSize ≤ first.pathPrefix.utf8ByteSize).map fun route =>
      ⟨vhost.hostname, pathPatterns route, .route route⟩

def redirectRoute (hostname : String) (redirect : HttpRedirect) : CaddyRoute :=
  ⟨hostname, none, .httpRedirect redirect⟩

def plaintextRoutes (vhost : VirtualHost) : List CaddyRoute :=
  match vhost.redirect with
  | some redirect => [redirectRoute vhost.hostname redirect]
  | none => if vhost.tlsAcme then [] else proxyRoutesForVhost vhost

def ProxyConfig.ports (config : ProxyConfig) (proto : ProxyListenerProto) : List Nat :=
  (config.listeners.filter (·.proto = proto)).map ProxyListener.port

def server? (listen : List Nat) (routes : List CaddyRoute) : Option CaddyServer :=
  if listen = [] ∨ routes = [] then none else some ⟨listen, routes⟩

def buildCaddyConfig (config : ProxyConfig) : CaddyConfig where
  seedlingHttps :=
    server? (config.ports .https ++ config.ports .quic)
      ((config.virtualHosts.filter (·.tlsAcme)).flatMap proxyRoutesForVhost)
  seedlingHttp := server? (config.ports .http) (config.virtualHosts.flatMap plaintextRoutes)

/-! ## Requests -/

inductive Scheme where
  | http
  | https

structure Request where
  scheme : Scheme
  host : String
  port : Nat
  path : List Char

def CaddyRoute.accepts (request : Request) (route : CaddyRoute) : Bool :=
  route.host = request.host &&
    match route.paths with
    | none => true
    | some patterns => patterns.any (PathPattern.accepts request.path)

/-- The routes are tried in order and the first that accepts is terminal. -/
def CaddyServer.select (request : Request) (server : CaddyServer) : Option CaddyHandle :=
  if request.port ∈ server.listen then
    (server.routes.find? (CaddyRoute.accepts request)).map CaddyRoute.handle
  else none

def CaddyConfig.select (config : CaddyConfig) (request : Request) : Option CaddyHandle :=
  match request.scheme with
  | .https => config.seedlingHttps.bind (CaddyServer.select request)
  | .http => config.seedlingHttp.bind (CaddyServer.select request)

end Seedling.Proxy
