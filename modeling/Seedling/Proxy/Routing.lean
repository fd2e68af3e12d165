import Seedling.Proxy.Config

/-!
# Which declaration answers a request

The emitted servers match on the host and the path, not on the port a request
arrives on.  `requests_reach_declared_iff` says what follows: every request is
answered by what is declared at its host and port exactly when there is one TLS
port and one plaintext port among all declarations.
-/

namespace Seedling.Proxy

open List CaddyRoute

/-! ## Merging -/

abbrev Entry := IngressDef × List ProxyRoute

def entriesOf (forwards : List (IngressDef × ServiceUpstream))
    (redirects : List (IngressDef × RedirectTarget)) : List Entry :=
  forwards.map (fun (ingress, upstream) => (ingress, forwardRoutes ingress upstream)) ++
    redirects.map fun (ingress, target) => (ingress, redirectRoutes ingress target)

/-- The configuration holds the entries: what it listens on, and what its virtual
hosts are made of. -/
structure Merges (entries : List Entry) (config : ProxyConfig) : Prop where
  listens : ∀ listener, listener ∈ config.listeners ↔
    ∃ entry ∈ entries, listener ∈ listenersOf entry.1
  routes : ∀ vhost ∈ config.virtualHosts, ∀ route ∈ vhost.routes, ∃ entry ∈ entries,
    vhost.isFor entry.1 ∧ route ∈ entry.2
  redirects : ∀ vhost ∈ config.virtualHosts, ∀ redirect, vhost.redirect = some redirect →
    ∃ entry ∈ entries, vhost.isFor entry.1 ∧ entry.1.httpRedirect = some redirect
  hosts : ∀ entry ∈ entries, ∃ vhost ∈ config.virtualHosts, vhost.isFor entry.1 ∧
    (∀ route ∈ entry.2, route ∈ vhost.routes) ∧
    (entry.1.redirect.isSome → vhost.redirect.isSome)

variable {ingress : IngressDef}

theorem mem_registerListeners {listeners : List ProxyListener} {listener : ProxyListener} :
    listener ∈ registerListeners listeners ingress ↔
      listener ∈ listeners ∨ listener ∈ listenersOf ingress := by
  have each : ∀ (added listeners : List ProxyListener),
      listener ∈ added.foldl (fun listeners listener => listeners.insert listener) listeners ↔
        listener ∈ listeners ∨ listener ∈ added := by
    intro added
    induction added with
    | nil => simp
    | cons first added ih =>
      intro listeners
      rw [foldl_cons, ih, mem_insert_iff, mem_cons]
      tauto
  exact each _ _

theorem httpRedirect_isSome : ingress.httpRedirect.isSome = ingress.redirect.isSome := by
  simp [IngressDef.httpRedirect]

variable {vhosts : List VirtualHost}

/-- A virtual host after an entry is added: one that was there, one that was there and
takes the entry in, or a new one. -/
theorem mem_ensureVhost {routes : List ProxyRoute} {vhost : VirtualHost}
    (mem : vhost ∈ ensureVhost vhosts ingress routes) :
    (vhost ∈ vhosts) ∨
      (∃ old ∈ vhosts, old.isFor ingress ∧ vhost = { old with
        redirect := ingress.httpRedirect.or old.redirect
        routes := old.routes ++ routes }) ∨
      vhost = ⟨ingress.hostname, ingress.tls, ingress.httpRedirect, routes⟩ := by
  unfold ensureVhost at mem
  split at mem
  · obtain ⟨old, present, rfl⟩ := mem_map.mp mem
    split
    · exact .inr (.inl ⟨old, present, by assumption, rfl⟩)
    · exact .inl present
  · rcases (mem_orderedInsert ..).mp mem with new | old
    · exact .inr (.inr new)
    · exact .inl old

variable (ingress : IngressDef)

theorem isFor_new (redirect : Option HttpRedirect) (routes : List ProxyRoute) :
    VirtualHost.isFor ingress ⟨ingress.hostname, ingress.tls, redirect, routes⟩ := by
  simp [VirtualHost.isFor]

theorem ensureVhost_keeps (routes : List ProxyRoute) {old : VirtualHost} (present : old ∈ vhosts) :
    ∃ vhost ∈ ensureVhost vhosts ingress routes,
      vhost.hostname = old.hostname ∧ vhost.tlsAcme = old.tlsAcme ∧
        (∀ route ∈ old.routes, route ∈ vhost.routes) ∧
        (old.redirect.isSome → vhost.redirect.isSome) := by
  unfold ensureVhost
  split
  · refine ⟨_, mem_map_of_mem present, ?_⟩
    split
    · exact ⟨rfl, rfl, fun route mem => mem_append_left _ mem, by simp +contextual⟩
    · exact ⟨rfl, rfl, fun _ mem => mem, id⟩
  · exact ⟨old, (mem_orderedInsert ..).mpr (.inr present), rfl, rfl,
      fun _ mem => mem, id⟩

theorem ensureVhost_takes (vhosts : List VirtualHost) (ingress : IngressDef)
    (routes : List ProxyRoute) :
    ∃ vhost ∈ ensureVhost vhosts ingress routes, vhost.isFor ingress ∧
      (∀ route ∈ routes, route ∈ vhost.routes) ∧
      (ingress.redirect.isSome → vhost.redirect.isSome) := by
  unfold ensureVhost
  split
  · rename_i some
    obtain ⟨old, present, isFor⟩ := any_eq_true.mp some
    refine ⟨_, mem_map_of_mem present, ?_⟩
    rw [if_pos isFor]
    refine ⟨isFor, fun route mem => mem_append_right _ mem, fun asks => ?_⟩
    rw [Option.isSome_or, httpRedirect_isSome, asks, Bool.true_or]
  · exact ⟨_, (mem_orderedInsert ..).mpr (.inl rfl), isFor_new .., fun _ mem => mem,
      fun asks => by rwa [httpRedirect_isSome]⟩

theorem Merges.add {entries : List Entry} {config : ProxyConfig} (merges : Merges entries config)
    (entry : Entry) : Merges (entries ++ [entry]) (config.add entry.1 entry.2) := by
  obtain ⟨ingress, routes⟩ := entry
  have old : ∀ {other : Entry}, other ∈ entries → other ∈ entries ++ [(ingress, routes)] :=
    mem_append_left _
  have new : (ingress, routes) ∈ entries ++ [(ingress, routes)] := mem_append_right _ mem_cons_self
  constructor
  · intro listener
    rw [ProxyConfig.add, mem_registerListeners, merges.listens]
    simp
  · intro vhost mem route inside
    rcases mem_ensureVhost mem with before | ⟨before, present, isFor, rfl⟩ | rfl
    · obtain ⟨other, known, found⟩ := merges.routes vhost before route inside
      exact ⟨other, old known, found⟩
    · rcases mem_append.mp inside with early | late
      · obtain ⟨other, known, found⟩ := merges.routes before present route early
        exact ⟨other, old known, found⟩
      · exact ⟨_, new, isFor, late⟩
    · exact ⟨_, new, isFor_new .., inside⟩
  · intro vhost mem redirect asked
    rcases mem_ensureVhost mem with before | ⟨before, present, isFor, rfl⟩ | rfl
    · obtain ⟨other, known, found⟩ := merges.redirects vhost before redirect asked
      exact ⟨other, old known, found⟩
    · rcases Option.or_eq_some_iff.mp asked with here | ⟨_, there⟩
      · exact ⟨_, new, isFor, here⟩
      · obtain ⟨other, known, found⟩ := merges.redirects before present redirect there
        exact ⟨other, old known, found⟩
    · exact ⟨_, new, isFor_new .., asked⟩
  · intro other mem
    rcases mem_append.mp mem with before | here
    · obtain ⟨vhost, present, isFor, holds, asks⟩ := merges.hosts other before
      obtain ⟨after, kept, hostname, tls, routed, redirects⟩ :=
        ensureVhost_keeps ingress routes present
      refine ⟨after, kept, ?_, fun route inside => routed route (holds route inside),
        fun some => redirects (asks some)⟩
      rw [VirtualHost.isFor, hostname, tls]
      exact isFor
    · cases mem_singleton.mp here
      exact ensureVhost_takes ..

/-- **The merged configuration holds exactly its entries.** -/
theorem merges_buildProxyConfig (forwards : List (IngressDef × ServiceUpstream))
    (redirects : List (IngressDef × RedirectTarget)) :
    Merges (entriesOf forwards redirects) (buildProxyConfig forwards redirects) := by
  have run : ∀ (rest done : List Entry) (config : ProxyConfig), Merges done config →
      Merges (done ++ rest)
        (rest.foldl (fun config entry => config.add entry.1 entry.2) config) := by
    intro rest
    induction rest with
    | nil =>
      intro done config merges
      rwa [append_nil]
    | cons entry rest ih =>
      intro done config merges
      have next := ih _ _ (merges.add entry)
      rwa [append_assoc] at next
  have merged := run (entriesOf forwards redirects) [] ⟨[], [], [], []⟩
    ⟨by simp, nofun, nofun, nofun⟩
  rwa [entriesOf, foldl_append, foldl_map, foldl_map] at merged

/-! ## Selecting -/

section Select

variable {entries : List Entry} {config : ProxyConfig} {request : Request} {handle : CaddyHandle}

theorem mem_ports {proto : ProxyListenerProto} {port : Nat} :
    port ∈ config.ports proto ↔ ⟨port, proto⟩ ∈ config.listeners := by
  simp only [ProxyConfig.ports, mem_map, mem_filter, decide_eq_true_eq]
  constructor
  · rintro ⟨listener, ⟨mem, rfl⟩, rfl⟩
    exact mem
  · intro mem
    exact ⟨_, ⟨mem, rfl⟩, rfl⟩

variable {routes : List CaddyRoute}

/-- A server answers a request on a port it listens on, by a route that accepts it. -/
theorem select_server? {listen : List Nat} :
    (server? listen routes).bind (CaddyServer.select request) =
      if request.port ∈ listen then
        (routes.find? (CaddyRoute.accepts request)).map CaddyRoute.handle
      else none := by
  unfold server?
  split
  · rename_i nothing
    rcases nothing with rfl | rfl <;> simp
  · rfl

theorem mem_proxyRoutesForVhost {vhost : VirtualHost} {route : CaddyRoute} :
    route ∈ proxyRoutesForVhost vhost ↔ ∃ declared ∈ vhost.routes,
        route = ⟨vhost.hostname, pathPatterns declared, .route declared⟩ := by
  simp only [proxyRoutesForVhost, mem_map, mem_mergeSort, eq_comm]

theorem exists_accepted_path (hostname : String) (route : ProxyRoute) :
    ∃ path, ∀ scheme port, accepts ⟨scheme, hostname, port, path⟩
      ⟨hostname, pathPatterns route, .route route⟩ := by
  obtain ⟨start, handler, origin⟩ := route
  cases handler with
  | routeRedirect =>
    refine ⟨redirectPrefix start.toList, fun _ _ => ?_⟩
    simp [accepts, pathPatterns, PathPattern.accepts]
  | reverseProxy | redirect =>
    refine ⟨start.toList, fun _ _ => ?_⟩
    by_cases root : start = "/"
    · simp [accepts, pathPatterns, root]
    · simp [accepts, pathPatterns, root, PathPattern.accepts]

theorem find?_handle
    (found : (routes.find? (CaddyRoute.accepts request)).map CaddyRoute.handle = some handle) :
    ∃ route ∈ routes, route.host = request.host ∧ route.handle = handle := by
  obtain ⟨route, first, rfl⟩ := Option.map_eq_some_iff.mp found
  have accepts := find?_some first
  simp only [CaddyRoute.accepts, Bool.and_eq_true, decide_eq_true_eq] at accepts
  exact ⟨route, mem_of_find?_eq_some first, accepts.1, rfl⟩

end Select

/-! ## What is declared where -/

/-- The answer is what the declarations have at the host and port of the request: a
route of the ingress there, or the redirect of an ingress that asks for one on that
port, to the ingress's own port. -/
def DeclaredAt (declared : List IngressDef) (host : String) (port : Nat) : CaddyHandle → Prop
  | .route route => ∃ ingress ∈ declared, ingress.hostname = host ∧ ingress.port = port ∧
      route.origin = (ingress.hostname, ingress.port)
  | .httpRedirect redirect => ∃ ingress ∈ declared, ingress.hostname = host ∧
      redirect.toPort = ingress.port ∧ ingress.redirect = some ⟨port, redirect.code⟩

def plaintextPorts (ingress : IngressDef) : List Nat :=
  (if ingress.tls then [] else [ingress.port]) ++ (ingress.redirect.map RedirectDef.port).toList

structure OnePortEach (declared : List IngressDef) : Prop where
  tls : ∀ first ∈ declared, ∀ second ∈ declared, first.tls → second.tls →
    first.port = second.port
  plaintext : ∀ first ∈ declared, ∀ second ∈ declared, ∀ port ∈ plaintextPorts first,
    ∀ other ∈ plaintextPorts second, port = other

theorem DeclaredAt.port_unique {declared : List IngressDef}
    (distinct : (declared.map fun ingress => (ingress.hostname, ingress.port)).Nodup)
    {host : String} {port other : Nat} {handle : CaddyHandle}
    (here : DeclaredAt declared host port handle) (there : DeclaredAt declared host other handle) :
    port = other := by
  cases handle with
  | route =>
    obtain ⟨_, _, _, rfl, origin⟩ := here
    obtain ⟨_, _, _, rfl, same⟩ := there
    exact congrArg Prod.snd (origin.symm.trans same)
  | httpRedirect =>
    obtain ⟨first, mem, hostname, toPort, asks⟩ := here
    obtain ⟨second, also, hostname', toPort', asks'⟩ := there
    have same : first = second := inj_on_of_nodup_map distinct mem also
      (Prod.ext (hostname.trans hostname'.symm) (toPort.symm.trans toPort'))
    rw [same, asks'] at asks
    cases asks
    rfl

section Entries

variable {forwards : List (IngressDef × ServiceUpstream)}
  {redirects : List (IngressDef × RedirectTarget)} {entry : Entry}

theorem map_fst_entriesOf (forwards : List (IngressDef × ServiceUpstream))
    (redirects : List (IngressDef × RedirectTarget)) :
    (entriesOf forwards redirects).map Prod.fst =
      forwards.map Prod.fst ++ redirects.map Prod.fst := by
  rw [entriesOf, map_append, map_map, map_map]
  rfl

theorem entry_routes (mem : entry ∈ entriesOf forwards redirects) : (∃ route, route ∈ entry.2) ∧
      ∀ route ∈ entry.2, route.origin = (entry.1.hostname, entry.1.port) := by
  rcases mem_append.mp mem with forward | redirect
  · obtain ⟨⟨ingress, upstream⟩, _, rfl⟩ := mem_map.mp forward
    constructor
    · simp only [forwardRoutes, mem_append]
      split
      · exact ⟨_, .inr mem_cons_self⟩
      · rename_i some
        obtain ⟨route, rest, shape⟩ := exists_cons_of_ne_nil some
        exact ⟨_, .inr (mem_map_of_mem (shape ▸ mem_cons_self))⟩
    · intro route inside
      simp only [forwardRoutes, mem_append] at inside
      rcases inside with early | late
      · obtain ⟨_, _, rfl⟩ := mem_map.mp early
        rfl
      · split at late
        · cases mem_singleton.mp late
          rfl
        · obtain ⟨_, _, rfl⟩ := mem_map.mp late
          rfl
  · obtain ⟨⟨ingress, target⟩, _, rfl⟩ := mem_map.mp redirect
    refine ⟨⟨_, mem_cons_self⟩, fun route inside => ?_⟩
    cases mem_singleton.mp inside
    rfl

end Entries

/-! ## Requests reach what is declared -/

section Reach

variable {entries : List Entry} {config : ProxyConfig} {port : Nat} {ingress : IngressDef}

theorem mem_listenersOf (http : ingress.httpTerminate.isSome) :
    ((⟨port, .https⟩ ∈ listenersOf ingress ∨ ⟨port, .quic⟩ ∈ listenersOf ingress) ↔
        ingress.tls ∧ port = ingress.port) ∧
      (⟨port, .http⟩ ∈ listenersOf ingress ↔ port ∈ plaintextPorts ingress) := by
  simp only [listenersOf, plaintextPorts, IngressDef.isHttps, http]
  cases ingress.tls <;> cases ingress.redirect <;> simp

variable (merges : Merges entries config)
  (http : ∀ entry ∈ entries, entry.1.httpTerminate.isSome)
include merges http

theorem Merges.tls_listens : port ∈ config.ports .https ++ config.ports .quic ↔
      ∃ entry ∈ entries, entry.1.tls ∧ port = entry.1.port := by
  rw [mem_append, mem_ports, mem_ports, merges.listens, merges.listens]
  constructor
  · rintro (⟨entry, mem, listens⟩ | ⟨entry, mem, listens⟩)
    · exact ⟨entry, mem, (mem_listenersOf (http entry mem)).1.mp (.inl listens)⟩
    · exact ⟨entry, mem, (mem_listenersOf (http entry mem)).1.mp (.inr listens)⟩
  · rintro ⟨entry, mem, serves⟩
    rcases (mem_listenersOf (http entry mem)).1.mpr serves with listens | listens
    · exact .inl ⟨entry, mem, listens⟩
    · exact .inr ⟨entry, mem, listens⟩

theorem Merges.plaintext_listens :
    port ∈ config.ports .http ↔ ∃ entry ∈ entries, port ∈ plaintextPorts entry.1 := by
  rw [mem_ports, merges.listens]
  refine exists_congr fun entry => and_congr_right fun mem => ?_
  exact (mem_listenersOf (http entry mem)).2

omit http

omit merges in
theorem isFor_iff {vhost : VirtualHost} : vhost.isFor ingress ↔
      vhost.hostname = ingress.hostname ∧ vhost.tlsAcme = ingress.tls := by
  simp [VirtualHost.isFor]

variable {host : String} {route : CaddyRoute}

theorem Merges.tls_answer
    (mem : route ∈ (config.virtualHosts.filter (·.tlsAcme)).flatMap proxyRoutesForVhost)
    (isHost : route.host = host) :
    ∃ entry ∈ entries, entry.1.hostname = host ∧ entry.1.tls ∧
      ∃ declared ∈ entry.2, route.handle = .route declared := by
  obtain ⟨vhost, inside, emitted⟩ := mem_flatMap.mp mem
  obtain ⟨present, tls⟩ := mem_filter.mp inside
  obtain ⟨declared, routed, rfl⟩ := mem_proxyRoutesForVhost.mp emitted
  obtain ⟨entry, known, isFor, from_⟩ := merges.routes vhost present declared routed
  obtain ⟨hostname, acme⟩ := isFor_iff.mp isFor
  exact ⟨entry, known, hostname.symm.trans isHost, acme.symm.trans tls, declared, from_, rfl⟩

/-- A plaintext answer is a redirect an ingress of the host asks for, or a route of a
plaintext ingress of the host. -/
theorem Merges.plaintext_answer (mem : route ∈ config.virtualHosts.flatMap plaintextRoutes)
    (isHost : route.host = host) :
    ∃ entry ∈ entries, entry.1.hostname = host ∧
      ((∃ redirect, entry.1.httpRedirect = some redirect ∧ route.handle = .httpRedirect redirect) ∨
        (entry.1.tls = false ∧ ∃ declared ∈ entry.2, route.handle = .route declared)) := by
  obtain ⟨vhost, present, emitted⟩ := mem_flatMap.mp mem
  unfold plaintextRoutes at emitted
  split at emitted
  · rename_i redirect asked
    cases mem_singleton.mp emitted
    obtain ⟨entry, known, isFor, asks⟩ := merges.redirects vhost present redirect asked
    exact ⟨entry, known, (isFor_iff.mp isFor).1.symm.trans isHost, .inl ⟨redirect, asks, rfl⟩⟩
  · split at emitted
    · cases emitted
    · rename_i plaintext
      obtain ⟨declared, routed, rfl⟩ := mem_proxyRoutesForVhost.mp emitted
      obtain ⟨entry, known, isFor, from_⟩ := merges.routes vhost present declared routed
      obtain ⟨hostname, acme⟩ := isFor_iff.mp isFor
      exact ⟨entry, known, hostname.symm.trans isHost,
        .inr ⟨by rw [← acme, Bool.of_not_eq_true plaintext], declared, from_, rfl⟩⟩

variable {entry : Entry}

theorem Merges.exists_tls_route (known : entry ∈ entries) (tls : entry.1.tls)
    (routes : ∃ route, route ∈ entry.2) :
    ∃ path, ∃ route ∈ (config.virtualHosts.filter (·.tlsAcme)).flatMap proxyRoutesForVhost,
      ∀ scheme port, route.accepts ⟨scheme, entry.1.hostname, port, path⟩ := by
  obtain ⟨vhost, present, isFor, holds, _⟩ := merges.hosts entry known
  obtain ⟨hostname, acme⟩ := isFor_iff.mp isFor
  obtain ⟨route, routed⟩ := routes
  obtain ⟨path, accepts⟩ := exists_accepted_path vhost.hostname route
  refine ⟨path, _, mem_flatMap.mpr ⟨vhost, mem_filter.mpr ⟨present, ?_⟩,
    mem_proxyRoutesForVhost.mpr ⟨route, holds route routed, rfl⟩⟩, ?_⟩
  · rw [acme, tls]
  · rw [← hostname]
    exact accepts

theorem Merges.exists_plaintext_route (known : entry ∈ entries)
    (listens : port ∈ plaintextPorts entry.1) (routes : ∃ route, route ∈ entry.2) :
    ∃ path, ∃ route ∈ config.virtualHosts.flatMap plaintextRoutes,
      ∀ scheme port, route.accepts ⟨scheme, entry.1.hostname, port, path⟩ := by
  obtain ⟨vhost, present, isFor, holds, asks⟩ := merges.hosts entry known
  obtain ⟨hostname, acme⟩ := isFor_iff.mp isFor
  cases asked : vhost.redirect with
  | some redirect =>
    refine ⟨[], redirectRoute vhost.hostname redirect, mem_flatMap.mpr ⟨vhost, present, ?_⟩,
      fun _ _ => ?_⟩
    · simp [plaintextRoutes, asked]
    · simp [accepts, redirectRoute, hostname]
  | none =>
    have noRedirect : entry.1.redirect = none := by
      cases own : entry.1.redirect with
      | none => rfl
      | some =>
        have some := asks (by rw [own, Option.isSome_some])
        rw [asked] at some
        cases some
    have plaintext : entry.1.tls = false := by
      cases tls : entry.1.tls with
      | false => rfl
      | true => simp [plaintextPorts, tls, noRedirect] at listens
    obtain ⟨route, routed⟩ := routes
    obtain ⟨path, accepts⟩ := exists_accepted_path vhost.hostname route
    refine ⟨path, ⟨vhost.hostname, pathPatterns route, .route route⟩,
      mem_flatMap.mpr ⟨vhost, present, ?_⟩, ?_⟩
    · rw [plaintextRoutes, asked, acme, plaintext]
      exact mem_proxyRoutesForVhost.mpr ⟨route, holds route routed, rfl⟩
    · rw [← hostname]
      exact accepts

omit merges in
/-- A server that answers some request of a host answers it on every port it
listens on, and alike. -/
theorem exists_answer {routes : List CaddyRoute} (scheme : Scheme) {path : List Char}
    (mem : route ∈ routes)
    (accepts : ∀ scheme port, route.accepts ⟨scheme, host, port, path⟩) :
    ∃ handle, ∀ port, (routes.find? (CaddyRoute.accepts ⟨scheme, host, port, path⟩)).map
      CaddyRoute.handle = some handle := by
  have answered : (routes.find? (CaddyRoute.accepts ⟨scheme, host, 0, path⟩)).isSome :=
    find?_isSome.mpr ⟨route, mem, accepts scheme 0⟩
  obtain ⟨first, found⟩ := Option.isSome_iff_exists.mp answered
  refine ⟨first.handle, fun port => ?_⟩
  -- what answers does not depend on the port, as long as it is listened on
  have same : routes.find? (CaddyRoute.accepts ⟨scheme, host, port, path⟩) = some first := found
  rw [same, Option.map_some]

variable (http : ∀ entry ∈ entries, entry.1.httpTerminate.isSome)
include http

theorem Merges.exists_tls_answer (known : entry ∈ entries) (tls : entry.1.tls)
    (routes : ∃ route, route ∈ entry.2) :
    ∃ path handle, ∀ other ∈ entries, other.1.tls →
      (buildCaddyConfig config).select ⟨.https, entry.1.hostname, other.1.port, path⟩ =
        some handle := by
  obtain ⟨path, route, inside, accepts⟩ := merges.exists_tls_route known tls routes
  obtain ⟨handle, answered⟩ := exists_answer .https inside accepts
  refine ⟨path, handle, fun other serving otherTls => select_server?.trans ?_⟩
  rw [if_pos ((merges.tls_listens http).mpr ⟨other, serving, otherTls, rfl⟩), answered]

theorem Merges.exists_plaintext_answer (known : entry ∈ entries)
    (listens : port ∈ plaintextPorts entry.1) (routes : ∃ route, route ∈ entry.2) :
    ∃ path handle, ∀ other ∈ entries, ∀ port ∈ plaintextPorts other.1,
      (buildCaddyConfig config).select ⟨.http, entry.1.hostname, port, path⟩ = some handle := by
  obtain ⟨path, route, inside, accepts⟩ := merges.exists_plaintext_route known listens routes
  obtain ⟨handle, answered⟩ := exists_answer .http inside accepts
  refine ⟨path, handle, fun other serving port plaintext => select_server?.trans ?_⟩
  rw [if_pos ((merges.plaintext_listens http).mpr ⟨other, serving, plaintext⟩), answered]

omit merges

section OnePort

variable (merges : Merges entries config)
  (http : ∀ entry ∈ entries, entry.1.httpTerminate.isSome)
  (routes : ∀ entry ∈ entries, ∀ route ∈ entry.2, route.origin = (entry.1.hostname, entry.1.port))
  (one : OnePortEach (entries.map Prod.fst))
include merges http routes one

variable {host : String} {path : List Char} {handle : CaddyHandle}

theorem declaredAt_of_tls_answer {port : Nat}
    (selected : (buildCaddyConfig config).select ⟨.https, host, port, path⟩ = some handle) :
    DeclaredAt (entries.map Prod.fst) host port handle := by
  have answer := select_server?.symm.trans selected
  split at answer
  · rename_i listens
    obtain ⟨route, inside, isHost, rfl⟩ := find?_handle answer
    obtain ⟨entry, known, hostname, tls, declared, routed, answers⟩ :=
      merges.tls_answer inside isHost
    obtain ⟨other, serving, otherTls, rfl⟩ := (merges.tls_listens http).mp listens
    have ports := one.tls entry.1 (mem_map_of_mem known) other.1
      (mem_map_of_mem serving) tls otherTls
    rw [answers]
    exact ⟨entry.1, mem_map_of_mem known, hostname, ports, routes entry known declared routed⟩
  · cases answer

theorem declaredAt_of_plaintext_answer {port : Nat}
    (selected : (buildCaddyConfig config).select ⟨.http, host, port, path⟩ = some handle) :
    DeclaredAt (entries.map Prod.fst) host port handle := by
  have answer := select_server?.symm.trans selected
  split at answer
  · rename_i listens
    obtain ⟨route, inside, isHost, rfl⟩ := find?_handle answer
    obtain ⟨entry, known, hostname, kinds⟩ := merges.plaintext_answer inside isHost
    obtain ⟨other, serving, plaintext⟩ := (merges.plaintext_listens http).mp listens
    have mem := mem_map_of_mem (f := Prod.fst) known
    have ports : ∀ port' ∈ plaintextPorts entry.1, port' = port := fun port' listens' =>
      one.plaintext entry.1 mem other.1 (mem_map_of_mem serving) port' listens' port plaintext
    rcases kinds with ⟨redirect, asks, answers⟩ | ⟨plain, declared, routed, answers⟩
    · obtain ⟨asked, isAsked, rfl⟩ := Option.map_eq_some_iff.mp asks
      rw [answers]
      refine ⟨entry.1, mem, hostname, rfl, ?_⟩
      rw [isAsked, ← ports asked.port (by simp [plaintextPorts, isAsked])]
    · rw [answers]
      exact ⟨entry.1, mem, hostname, ports entry.1.port (by simp [plaintextPorts, plain]),
        routes entry known declared routed⟩
  · cases answer

end OnePort

end Reach

/-- **Every request is answered by what is declared at its host and port exactly when
there is one TLS port and one plaintext port.** -/
theorem requests_reach_declared_iff (forwards : List (IngressDef × ServiceUpstream))
    (redirects : List (IngressDef × RedirectTarget))
    (http : ∀ ingress ∈ forwards.map Prod.fst ++ redirects.map Prod.fst,
      ingress.httpTerminate.isSome)
    (distinct : ((forwards.map Prod.fst ++ redirects.map Prod.fst).map fun ingress =>
      (ingress.hostname, ingress.port)).Nodup) :
    (∀ request handle,
      (buildCaddyConfig (buildProxyConfig forwards redirects)).select request = some handle →
        DeclaredAt (forwards.map Prod.fst ++ redirects.map Prod.fst) request.host request.port
          handle) ↔
      OnePortEach (forwards.map Prod.fst ++ redirects.map Prod.fst) := by
  have merges := merges_buildProxyConfig forwards redirects
  rw [← map_fst_entriesOf] at http distinct ⊢
  have entryHttp : ∀ entry ∈ entriesOf forwards redirects, entry.1.httpTerminate.isSome :=
    fun entry known => http entry.1 (mem_map_of_mem known)
  constructor
  · intro reaches
    constructor
    · intro first mem second also firstTls secondTls
      obtain ⟨entry, known, rfl⟩ := mem_map.mp mem
      obtain ⟨other, serving, rfl⟩ := mem_map.mp also
      obtain ⟨path, handle, answered⟩ :=
        merges.exists_tls_answer entryHttp known firstTls (entry_routes known).1
      -- the same answer at both ports, and it is declared at one of them only
      exact (reaches _ handle (answered entry known firstTls)).port_unique distinct
        (reaches _ handle (answered other serving secondTls))
    · intro first mem second also port listens port' listens'
      obtain ⟨entry, known, rfl⟩ := mem_map.mp mem
      obtain ⟨other, serving, rfl⟩ := mem_map.mp also
      obtain ⟨path, handle, answered⟩ :=
        merges.exists_plaintext_answer entryHttp known listens (entry_routes known).1
      exact (reaches _ handle (answered entry known port listens)).port_unique distinct
        (reaches _ handle (answered other serving port' listens'))
  · rintro one ⟨scheme, host, port, path⟩ handle selected
    have routes := fun entry known => (@entry_routes forwards redirects entry known).2
    cases scheme with
    | https => exact declaredAt_of_tls_answer merges entryHttp routes one selected
    | http => exact declaredAt_of_plaintext_answer merges entryHttp routes one selected

def tlsIngress (hostname : String) (port : Nat) (redirect : Option RedirectDef) :
    IngressDef × ServiceUpstream :=
  (⟨hostname, port, true, false, some .http1, redirect⟩, ⟨[], [], "fd00::1", 80⟩)

/-- Two hosts on the usual ports: a request is answered by what it asked for. -/
theorem usual_ports_reach_declared : ∃ handle, (buildCaddyConfig (buildProxyConfig
        [tlsIngress "shop.test" 443 none, tlsIngress "admin.test" 443 (some ⟨80, 308⟩)]
        [])).select ⟨.https, "admin.test", 443, ['/']⟩ = some handle ∧
      DeclaredAt [(tlsIngress "shop.test" 443 none).1,
        (tlsIngress "admin.test" 443 (some ⟨80, 308⟩)).1] "admin.test" 443 handle := by
  have selected : (buildCaddyConfig (buildProxyConfig
      [tlsIngress "shop.test" 443 none, tlsIngress "admin.test" 443 (some ⟨80, 308⟩)]
      [])).select ⟨.https, "admin.test", 443, ['/']⟩ =
      some (.route ⟨"/", .reverseProxy ["http://[fd00::1]:80"], ("admin.test", 443)⟩) := by
    decide +kernel
  refine ⟨_, selected, ?_⟩
  exact (requests_reach_declared_iff
    [tlsIngress "shop.test" 443 none, tlsIngress "admin.test" 443 (some ⟨80, 308⟩)] []
    (by decide) (by decide)).mpr ⟨by decide, by decide⟩ _ _ selected

/-- Two hosts on a port each: the second is also answered on the port of the first. -/
theorem other_port_is_answered :
    (([tlsIngress "shop.test" 443 none, tlsIngress "admin.test" 8443 none].map fun entry =>
      (entry.1.hostname, entry.1.port)).Nodup) ∧
    ∃ handle, (buildCaddyConfig (buildProxyConfig
        [tlsIngress "shop.test" 443 none, tlsIngress "admin.test" 8443 none] [])).select
        ⟨.https, "admin.test", 443, ['/']⟩ = some handle ∧
      ¬ DeclaredAt [(tlsIngress "shop.test" 443 none).1, (tlsIngress "admin.test" 8443 none).1]
        "admin.test" 443 handle := by
  refine ⟨by decide, .route ⟨"/", .reverseProxy ["http://[fd00::1]:80"], ("admin.test", 8443)⟩,
    ?_, ?_⟩
  · decide +kernel
  · rintro ⟨ingress, mem, hostname, port, -⟩
    simp only [mem_cons, not_mem_nil, or_false] at mem
    rcases mem with rfl | rfl
    · exact absurd hostname (by decide)
    · exact absurd port (by decide)

end Seedling.Proxy
