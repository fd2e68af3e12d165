import Mathlib.Data.List.Dedup
import Seedling.Foundation.Separated
import Seedling.Foundation.Table
import Seedling.Proxy.Config

/-!
# What the emitted servers bind

Besides the two web servers the emitted configuration has one server for each layer-4
route, in an object keyed by transport and port.  Before it is sent,
`conflictingListenerPorts` looks for a port that both web servers would bind.

It does not look at the layer-4 routes.  `bindings_sound_iff` says for which
configurations that does no harm: the routes are on different ports, and on none that a
web server binds.
-/

namespace Seedling.Proxy

open Foundation List

/-! ## Layer-4 servers -/

/-- A transport and a port. -/
abbrev Endpoint := L4Proto × Nat

def L4Proto.text : L4Proto → String
  | .tcp => "tcp"
  | .udp => "udp"

/-- A layer-4 server listens on one port and forwards what it is sent. -/
structure L4Server where
  listen : Endpoint
  upstreams : List String
deriving DecidableEq

def serverName (endpoint : Endpoint) : String := "l4_" ++ endpoint.1.text ++ "_" ++ endpoint.2.repr

/-- Two servers are one field of the object if they have one name. -/
def L4Server.clash (first second : L4Server) : Bool :=
  serverName first.listen = serverName second.listen

def L4Route.endpoint (route : L4Route) : Endpoint := (route.proto, route.port)

def L4Route.server (route : L4Route) : L4Server := ⟨route.endpoint, route.upstreams⟩

/-- The routes are put into the object one after another. -/
def l4Servers (routes : List L4Route) : Table L4Server.clash :=
  routes.foldl (fun servers route => servers.insertOrReplace route.server) Table.empty

/-! ## The emitted configuration -/

structure EmittedConfig where
  web : CaddyConfig
  layer4 : Table L4Server.clash

variable (config : ProxyConfig)

def emit : EmittedConfig :=
  ⟨buildCaddyConfig config, l4Servers config.l4Routes⟩

/-- Ports declared for both a plaintext and a TLS listener, in order. -/
def conflictingListenerPorts : List Nat :=
  ((config.ports .http).dedup.filter
    (· ∈ config.ports .https ++ config.ports .quic)).insertionSort (· ≤ ·)

/-- The configuration is refused if a port is in conflict, and sent otherwise. -/
def applyConfig : Except (List Nat) EmittedConfig :=
  if conflictingListenerPorts config = [] then .ok (emit config)
  else .error (conflictingListenerPorts config)

/-- A TLS server answers HTTP/3 on the UDP port of the same number. -/
def tlsBinds (server : CaddyServer) : List Endpoint :=
  server.listen.flatMap fun port => [(.tcp, port), (.udp, port)]

def plaintextBinds (server : CaddyServer) : List Endpoint :=
  server.listen.map fun port => (.tcp, port)

def CaddyConfig.binds (web : CaddyConfig) : List (List Endpoint) :=
  web.seedlingHttps.toList.map tlsBinds ++ web.seedlingHttp.toList.map plaintextBinds

def EmittedConfig.binds (emitted : EmittedConfig) : List (List Endpoint) :=
  emitted.web.binds ++ emitted.layer4.rows.map fun server => [server.listen]

/-! ## The object of layer-4 servers -/

theorem serverName_inj {first second : Endpoint} :
    serverName first = serverName second ↔ first = second := by
  refine ⟨fun same => ?_, fun same => same ▸ rfl⟩
  have length : ∀ proto : L4Proto, ("l4_" ++ proto.text ++ "_").toList.length = 7 := by
    rintro (_ | _) <;> rfl
  have chars : ("l4_" ++ first.1.text ++ "_").toList ++ first.2.repr.toList =
      ("l4_" ++ second.1.text ++ "_").toList ++ second.2.repr.toList := by
    rw [← String.toList_append, ← String.toList_append]
    exact congrArg String.toList same
  obtain ⟨named, numbered⟩ := append_inj chars ((length _).trans (length _).symm)
  have proto : first.1 = second.1 := by
    cases one : first.1 <;> cases other : second.1 <;> rw [one, other] at named
    · exact absurd named (by decide)
    · exact absurd named (by decide)
  exact Prod.ext proto (repr_inj.mp (String.toList_inj.mp numbered))

theorem l4Servers_append (routes : List L4Route) (route : L4Route) :
    l4Servers (routes ++ [route]) = (l4Servers routes).insertOrReplace route.server := by
  rw [l4Servers, foldl_append]
  rfl

theorem clash_iff {first second : L4Server} :
    first.clash second ↔ first.listen = second.listen := by
  rw [L4Server.clash, decide_eq_true_eq, serverName_inj]

variable {routes : List L4Route}

theorem exists_route {server : L4Server} (mem : server ∈ (l4Servers routes).rows) :
    ∃ route ∈ routes, route.server = server := by
  induction routes using reverseRecOn with
  | nil => cases mem
  | append_singleton routes route ih =>
    rw [l4Servers_append, Table.mem_insertOrReplace] at mem
    rcases mem with rfl | ⟨old, -⟩
    · exact ⟨route, mem_append_right _ (mem_singleton_self _), rfl⟩
    · obtain ⟨earlier, listed, same⟩ := ih old
      exact ⟨earlier, mem_append_left _ listed, same⟩

variable {route : L4Route}

theorem exists_server (mem : route ∈ routes) :
    ∃ server ∈ (l4Servers routes).rows, server.listen = route.endpoint := by
  induction routes using reverseRecOn with
  | nil => cases mem
  | append_singleton routes last ih =>
    rw [l4Servers_append]
    by_cases replaced : last.endpoint = route.endpoint
    · exact ⟨last.server, Table.mem_insertOrReplace.mpr (Or.inl rfl), replaced⟩
    · rcases mem_append.mp mem with earlier | here
      · obtain ⟨server, kept, listens⟩ := ih earlier
        refine ⟨server, Table.mem_insertOrReplace.mpr (Or.inr ⟨kept, ?_⟩), listens⟩
        rw [Bool.eq_false_iff, ne_eq, clash_iff, listens]
        exact Ne.symm replaced
      · exact absurd (mem_singleton.mp here ▸ rfl) replaced

theorem server_mem (apart : (routes.map L4Route.endpoint).Nodup) (mem : route ∈ routes) :
    route.server ∈ (l4Servers routes).rows := by
  obtain ⟨server, kept, listens⟩ := exists_server mem
  obtain ⟨origin, listed, rfl⟩ := exists_route kept
  have same : origin = route := inj_on_of_nodup_map apart listed mem listens
  exact same ▸ kept

/-! ## The web servers -/

def ServesTls : Prop :=
  ∃ vhost ∈ config.virtualHosts, vhost.tlsAcme ∧ vhost.routes ≠ []

/-- Some virtual host is served, or redirected from, in plaintext. -/
def ServesPlaintext : Prop :=
  ∃ vhost ∈ config.virtualHosts, vhost.redirect.isSome ∨ vhost.tlsAcme = false ∧ vhost.routes ≠ []

variable {vhost : VirtualHost}

theorem proxyRoutesForVhost_eq_nil : proxyRoutesForVhost vhost = [] ↔ vhost.routes = [] := by
  rw [proxyRoutesForVhost, map_eq_nil_iff, ← length_eq_zero_iff, length_mergeSort,
    length_eq_zero_iff]

theorem plaintextRoutes_eq_nil : plaintextRoutes vhost = [] ↔
      ¬ (vhost.redirect.isSome ∨ vhost.tlsAcme = false ∧ vhost.routes ≠ []) := by
  rw [plaintextRoutes]
  cases redirect : vhost.redirect with
  | some => simp
  | none =>
    cases tls : vhost.tlsAcme with
    | true => simp
    | false => simp [proxyRoutesForVhost_eq_nil]

variable {server : CaddyServer}

theorem mem_server? {listen : List Nat} {routes : List CaddyRoute} :
    server ∈ server? listen routes ↔ listen ≠ [] ∧ routes ≠ [] ∧ server = ⟨listen, routes⟩ := by
  rw [server?]
  split
  · next nothing => simp; tauto
  · next serves => simp; tauto

def ProxyConfig.tlsPorts : List Nat :=
  config.ports .https ++ config.ports .quic

/-- A web server of the configuration binds the port, which takes a virtual host to serve. -/
def WebBound (endpoint : Endpoint) : Prop :=
  endpoint.2 ∈ config.tlsPorts ∧ ServesTls config ∨
    endpoint.1 = .tcp ∧ endpoint.2 ∈ config.ports .http ∧ ServesPlaintext config

variable {endpoint : Endpoint}

theorem mem_tlsBinds : endpoint ∈ tlsBinds server ↔ endpoint.2 ∈ server.listen := by
  obtain ⟨proto, port⟩ := endpoint
  cases proto <;> simp [tlsBinds]

theorem mem_plaintextBinds :
    endpoint ∈ plaintextBinds server ↔ endpoint.1 = .tcp ∧ endpoint.2 ∈ server.listen := by
  obtain ⟨proto, port⟩ := endpoint
  cases proto <;> simp [plaintextBinds]

variable {config : ProxyConfig}

theorem tls_bound_iff :
    (∃ server ∈ (buildCaddyConfig config).seedlingHttps, endpoint ∈ tlsBinds server) ↔
      endpoint.2 ∈ config.tlsPorts ∧ ServesTls config := by
  have serves : (config.virtualHosts.filter (·.tlsAcme)).flatMap proxyRoutesForVhost ≠ [] ↔
      ServesTls config := by
    simp [ServesTls, proxyRoutesForVhost_eq_nil]
  constructor
  · rintro ⟨server, emitted, bound⟩
    obtain ⟨-, routes, rfl⟩ := mem_server?.mp emitted
    exact ⟨mem_tlsBinds.mp bound, serves.mp routes⟩
  · rintro ⟨listed, routes⟩
    exact ⟨_, mem_server?.mpr ⟨ne_nil_of_mem listed, serves.mpr routes, rfl⟩,
      mem_tlsBinds.mpr listed⟩

theorem plaintext_bound_iff :
    (∃ server ∈ (buildCaddyConfig config).seedlingHttp, endpoint ∈ plaintextBinds server) ↔
      endpoint.1 = .tcp ∧ endpoint.2 ∈ config.ports .http ∧ ServesPlaintext config := by
  have serves : config.virtualHosts.flatMap plaintextRoutes ≠ [] ↔ ServesPlaintext config := by
    simp only [ne_eq, flatMap_eq_nil_iff, plaintextRoutes_eq_nil]
    push Not
    rfl
  constructor
  · rintro ⟨server, emitted, bound⟩
    obtain ⟨-, routes, rfl⟩ := mem_server?.mp emitted
    obtain ⟨tcp, listed⟩ := mem_plaintextBinds.mp bound
    exact ⟨tcp, listed, serves.mp routes⟩
  · rintro ⟨tcp, listed, routes⟩
    exact ⟨_, mem_server?.mpr ⟨ne_nil_of_mem listed, serves.mpr routes, rfl⟩,
      mem_plaintextBinds.mpr ⟨tcp, listed⟩⟩

/-! ## Servers that share a port -/

theorem conflictingListenerPorts_eq_nil :
    conflictingListenerPorts config = [] ↔ ∀ port ∈ config.ports .http, port ∉ config.tlsPorts := by
  rw [conflictingListenerPorts, ← length_eq_zero_iff, length_insertionSort,
    length_eq_zero_iff]
  simp [ProxyConfig.tlsPorts]

theorem mem_webBinds :
    (∃ binds ∈ (buildCaddyConfig config).binds, endpoint ∈ binds) ↔ WebBound config endpoint := by
  rw [WebBound, ← tls_bound_iff, ← plaintext_bound_iff]
  simp [CaddyConfig.binds, or_and_right, exists_or]

theorem pairwise_toList {α β : Type} {R : β → β → Prop} (value : Option α) (f : α → β) :
    (value.toList.map f).Pairwise R := by
  cases value with
  | none => exact List.Pairwise.nil
  | some => exact pairwise_singleton _ _

theorem webBinds_disjoint (passes : conflictingListenerPorts config = []) :
    (buildCaddyConfig config).binds.Pairwise List.Disjoint := by
  refine pairwise_append.mpr ⟨pairwise_toList _ _, pairwise_toList _ _, ?_⟩
  intro tls tlsBound plaintext plaintextBound endpoint bound shared
  obtain ⟨https, emitted, rfl⟩ := mem_map.mp tlsBound
  obtain ⟨http, plainEmitted, rfl⟩ := mem_map.mp plaintextBound
  obtain ⟨listed, -⟩ := tls_bound_iff.mp ⟨https, Option.mem_toList.mp emitted, bound⟩
  obtain ⟨-, plain, -⟩ := plaintext_bound_iff.mp ⟨http, Option.mem_toList.mp plainEmitted, shared⟩
  exact conflictingListenerPorts_eq_nil.mp passes _ plain listed

theorem layer4_disjoint (servers : Table L4Server.clash) :
    (servers.rows.map fun server => [server.listen]).Pairwise List.Disjoint := by
  rw [pairwise_map]
  refine servers.distinct.imp fun {first second} free => ?_
  rw [disjoint_singleton, mem_singleton]
  rw [Bool.eq_false_iff, ne_eq, clash_iff] at free
  exact Ne.symm free

variable (passes : conflictingListenerPorts config = [])
include passes

/-- Where the check passes, two servers share a port exactly if a layer-4 route is on one
that a web server binds. -/
theorem binds_disjoint_iff : (emit config).binds.Pairwise List.Disjoint ↔
      ∀ route ∈ config.l4Routes, ¬ WebBound config route.endpoint := by
  rw [EmittedConfig.binds, pairwise_append]
  constructor
  · rintro ⟨-, -, apart⟩ route mem bound
    obtain ⟨binds, emitted, within⟩ := mem_webBinds.mpr bound
    obtain ⟨server, kept, listens⟩ := exists_server mem
    have alone := apart binds emitted _ (mem_map_of_mem kept) within
    rw [listens] at alone
    exact alone (mem_singleton_self _)
  · intro apart
    refine ⟨webBinds_disjoint passes, layer4_disjoint _, ?_⟩
    intro binds emitted single listed endpoint within shared
    obtain ⟨server, kept, rfl⟩ := mem_map.mp listed
    obtain ⟨route, mem, rfl⟩ := exists_route kept
    rw [mem_singleton.mp shared] at within
    exact apart route mem (mem_webBinds.mp ⟨binds, emitted, within⟩)

/-- What the check is for: no two servers bind one port, every layer-4 route is served, and
two routes on one port are reported. -/
structure BindingsSound (config : ProxyConfig) : Prop where
  disjoint : (emit config).binds.Pairwise List.Disjoint
  served : ∀ route ∈ config.l4Routes, route.server ∈ (emit config).layer4.rows
  reported : ¬ (config.l4Routes.map L4Route.endpoint).Nodup →
    ∃ ports, applyConfig config = .error ports

theorem applyConfig_of_passes : applyConfig config = .ok (emit config) := if_pos passes

omit passes

/-- **A configuration that passes the check is sound** exactly if its layer-4 routes are on
different ports, and on none that a web server binds. -/
theorem bindings_sound_iff {config : ProxyConfig} (passes : conflictingListenerPorts config = []) :
    BindingsSound config ↔ (config.l4Routes.map L4Route.endpoint).Nodup ∧
        ∀ route ∈ config.l4Routes, ¬ WebBound config route.endpoint := by
  constructor
  · intro sound
    refine ⟨?_, (binds_disjoint_iff passes).mp sound.disjoint⟩
    by_contra shared
    obtain ⟨ports, refused⟩ := sound.reported shared
    rw [applyConfig_of_passes passes] at refused
    cases refused
  · rintro ⟨different, apart⟩
    exact ⟨(binds_disjoint_iff passes).mpr apart, fun _ mem => server_mem different mem,
      fun shared => absurd different shared⟩

def twoDatabases : ProxyConfig :=
  ⟨[], [], [⟨5432, .tcp, ["[fd5e::1]:5432"]⟩, ⟨5432, .tcp, ["[fd5e::2]:5432"]⟩], []⟩

/-- **The second route takes the place of the first**, and nothing is reported. -/
theorem route_replaced : conflictingListenerPorts twoDatabases = [] ∧
      (emit twoDatabases).layer4.rows = [⟨(.tcp, 5432), ["[fd5e::2]:5432"]⟩] ∧
      ¬ BindingsSound twoDatabases := by
  have passes : conflictingListenerPorts twoDatabases = [] := by decide
  refine ⟨passes, by decide, fun sound => ?_⟩
  obtain ⟨ports, refused⟩ := sound.reported (by decide)
  cases refused

def siteAndDatabase : ProxyConfig :=
  ⟨[⟨443, .https⟩, ⟨443, .quic⟩],
    [⟨"shop.example", true, none, [⟨"/", .reverseProxy ["http://[fd5e::1]:80"],
      ("shop.example", 443)⟩]⟩],
    [⟨5432, .tcp, ["[fd5e::2]:5432"]⟩], []⟩

theorem siteAndDatabase_sound : BindingsSound siteAndDatabase := by
  refine (bindings_sound_iff (by decide)).mpr ⟨by decide, ?_⟩
  intro route mem bound
  rw [mem_singleton.mp mem] at bound
  rcases bound with ⟨listed, -⟩ | ⟨-, listed, -⟩
  · exact absurd listed (by decide)
  · exact absurd listed (by decide)

end Seedling.Proxy
