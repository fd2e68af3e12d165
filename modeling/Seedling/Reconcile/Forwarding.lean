import Seedling.Reconcile.Serving

/-!
# What is forwarded against what is listened on

The packet rules are computed from the ingresses of the apps alone, and the proxy
listens for what is left of app ingresses and site attachments after conflicts.
`forwards_what_it_listens_on_iff` says when the two agree: what site attachments listen
on has to be forwarded for some app ingress, and what is forwarded for an ingress that is
not served has to be listened on for another.
-/

namespace Seedling.Reconcile

open Apps Instances Foundation List
open Proxy (IngressDef ServiceUpstream RedirectTarget L4Proto L4Route ProxyConfig ProxyListener
  ProxyListenerProto listenersOf)

/-! ## Sockets -/

abbrev Socket := Nat × L4Proto

def transport : ProxyListenerProto → L4Proto
  | .http | .https => .tcp
  | .quic => .udp

def ProxyListener.socket (listener : ProxyListener) : Socket :=
  (listener.port, transport listener.proto)

def L4Route.socket (route : L4Route) : Socket := (route.port, route.proto)

def Listens (config : ProxyConfig) (socket : Socket) : Prop :=
  (∃ listener ∈ config.listeners, ProxyListener.socket listener = socket) ∨
    ∃ route ∈ config.l4Routes, L4Route.socket route = socket

def IngressRule.covers (rule : IngressRule) (socket : Socket) : Prop :=
  rule.externalPort = socket.1 ∧ (rule.proto = .both ∨ socket.2 = .tcp)

def Forwards (rules : List IngressRule) (socket : Socket) : Prop :=
  ∃ rule ∈ rules, rule.covers socket

variable (declared : IngressDef)

def httpSockets : List Socket :=
  (listenersOf declared).map ProxyListener.socket

def l4Sockets : List Socket := (l4Protos declared).map (declared.port, ·)

def listenSockets : List Socket :=
  if declared.httpTerminate.isNone then l4Sockets declared else httpSockets declared

def forwardSockets : List Socket :=
  [(declared.port, .tcp)] ++
    (if declared.dtls || declared.tls && declared.httpTerminate.isSome then
      [(declared.port, .udp)] else []) ++
    (declared.redirect.map fun redirect => (redirect.port, .tcp)).toList

/-- What is forwarded for an ingress although it is not listened for: the port of a
redirect without HTTP termination, and UDP for DTLS with plaintext HTTP termination. -/
def strayingSockets : List Socket :=
  (if declared.httpTerminate.isNone then
    (declared.redirect.map fun redirect => (redirect.port, L4Proto.tcp)).toList else []) ++
    if declared.dtls && declared.httpTerminate.isSome && !declared.tls then
      [(declared.port, .udp)] else []

/-- What is forwarded for an ingress is what it is listened for on and what strays. -/
theorem mem_forwardSockets {declared : IngressDef} {socket : Socket} :
    socket ∈ forwardSockets declared ↔
      socket ∈ listenSockets declared ∨ socket ∈ strayingSockets declared := by
  obtain ⟨hostname, port, tls, dtls, httpTerminate, redirect⟩ := declared
  cases httpTerminate <;> cases tls <;> cases dtls <;> cases redirect <;>
    simp [forwardSockets, listenSockets, strayingSockets, l4Sockets, l4Protos, httpSockets,
      listenersOf, IngressDef.isHttps, ProxyListener.socket, transport, or_comm, or_assoc,
      or_left_comm]

/-! ## What a tick forwards and listens on -/

def SiteProxyData.sockets (site : SiteProxyData) : List Socket :=
  site.forwards.flatMap (fun (_, declared, _) => httpSockets declared) ++
    site.redirects.flatMap (fun (_, declared, _) => httpSockets declared) ++
    site.l4Routes.map fun entry => L4Route.socket entry.route

section Tick

variable (network : Network) (apps : List AppSnapshot) (site : SiteIngressSnapshot)

/-- What the app ingresses that are served are listened for on. -/
def appSockets : List Socket :=
  (survivingAppPairs network apps site).flatMap (fun (_, declared, _) => httpSockets declared) ++
    (allL4Routes network apps).map fun entry => L4Route.socket entry.route

/-- An ingress for which something is listened on: its app was collected and it is not an
HTTP ingress in conflict. -/
structure IsServed (app : AppSnapshot) (ingress : Ingress) : Prop where
  collected : (collect network app).toOption.isSome
  clear : ingress.declared.httpTerminate.isSome →
    (ingress.declared.hostname, ingress.declared.port) ∉ conflicts network apps site

/-- The sockets agree: every socket of a site attachment is forwarded for an app ingress,
and every socket forwarded for an ingress that is not served, or straying from one that
is, belongs to another that is. -/
structure SocketsAgree : Prop where
  attached : ∀ socket ∈ (survivingSiteData network apps site).sockets, ∃ app ∈ routedApps apps,
    ∃ ingress ∈ app.appDef.ingresses, socket ∈ forwardSockets ingress.declared
  unserved : ∀ app ∈ routedApps apps, ∀ ingress ∈ app.appDef.ingresses,
    ¬ IsServed network apps site app ingress → ∀ socket ∈ forwardSockets ingress.declared,
      socket ∈ appSockets network apps site ++ (survivingSiteData network apps site).sockets
  straying : ∀ app ∈ routedApps apps, ∀ ingress ∈ app.appDef.ingresses,
    ∀ socket ∈ strayingSockets ingress.declared,
      socket ∈ appSockets network apps site ++ (survivingSiteData network apps site).sockets

end Tick

section Sockets

variable {network : Network} {apps : List AppSnapshot} {site : SiteIngressSnapshot}
  {socket : Socket} {app : AppSnapshot} {ingress : Ingress}

theorem covers_iff : (∃ rule ∈ ingressRules network app ingress, rule.covers socket) ↔
      socket ∈ forwardSockets ingress.declared := by
  obtain ⟨port, proto⟩ := socket
  obtain ⟨service, hostname, declaredPort, tls, dtls, httpTerminate, redirect⟩ := ingress
  cases proto <;> cases httpTerminate <;> cases tls <;> cases dtls <;> cases redirect <;>
    simp [ingressRules, IngressRule.covers, forwardSockets, eq_comm]

theorem forwards_iff : Forwards (computeNftablesRules network apps) socket ↔
    ∃ app ∈ routedApps apps, ∃ ingress ∈ app.appDef.ingresses,
      socket ∈ forwardSockets ingress.declared := by
  simp only [Forwards, computeNftablesRules, buildIngressRules, mem_flatMap]
  constructor
  · rintro ⟨rule, ⟨app, routed, ingress, declared, listed⟩, covers⟩
    exact ⟨app, routed, ingress, declared, covers_iff.mp ⟨rule, listed, covers⟩⟩
  · rintro ⟨app, routed, ingress, declared, forwarded⟩
    obtain ⟨rule, listed, covers⟩ := covers_iff.mpr forwarded
    exact ⟨rule, ⟨app, routed, ingress, declared, listed⟩, covers⟩

theorem exists_listener_iff {forwards : List (IngressDef × ServiceUpstream)}
    {redirects : List (IngressDef × RedirectTarget)} :
    (∃ listener ∈ (Proxy.buildProxyConfig forwards redirects).listeners,
      ProxyListener.socket listener = socket) ↔
      socket ∈ (forwards.map Prod.fst ++ redirects.map Prod.fst).flatMap httpSockets := by
  have merges := Proxy.merges_buildProxyConfig forwards redirects
  simp only [merges.listens, ← Proxy.map_fst_entriesOf, httpSockets, mem_flatMap, mem_map]
  constructor
  · rintro ⟨listener, ⟨entry, known, listens⟩, rfl⟩
    exact ⟨entry.1, ⟨entry, known, rfl⟩, listener, listens, rfl⟩
  · rintro ⟨_, ⟨entry, known, rfl⟩, listener, listens, rfl⟩
    exact ⟨listener, ⟨entry, known, listens⟩, rfl⟩

theorem listens_iff : Listens (computeProxyConfig network apps site).config socket ↔
    socket ∈ appSockets network apps site ++ (survivingSiteData network apps site).sockets := by
  have listeners := @exists_listener_iff socket
  have routes : (∃ route ∈ (computeProxyConfig network apps site).config.l4Routes,
      L4Route.socket route = socket) ↔
      socket ∈ (allL4Routes network apps).map (fun entry => L4Route.socket entry.route) ++
        (survivingSiteData network apps site).l4Routes.map
          fun entry => L4Route.socket entry.route := by
    refine mem_map.symm.trans ?_
    simp [computeProxyConfig, augmentWithWarmCerts]
  refine (or_congr listeners routes).trans ?_
  simp only [appSockets, SiteProxyData.sockets, flatMap_append, flatMap_map, mem_append]
  constructor
  · rintro (((app | forward) | redirect) | app | l4)
    · exact .inl (.inl app)
    · exact .inr (.inl (.inl forward))
    · exact .inr (.inl (.inr redirect))
    · exact .inl (.inr app)
    · exact .inr (.inr l4)
  · rintro ((app | app) | (forward | redirect) | l4)
    · exact .inl (.inl (.inl app))
    · exact .inr (.inl app)
    · exact .inl (.inl (.inr forward))
    · exact .inl (.inr redirect)
    · exact .inr (.inr l4)

theorem mem_appSockets_of_served (routed : app ∈ routedApps apps)
    (declared : ingress ∈ app.appDef.ingresses) (served : IsServed network apps site app ingress)
    (listens : socket ∈ listenSockets ingress.declared) :
    socket ∈ appSockets network apps site := by
  obtain ⟨build, collected⟩ := Option.isSome_iff_exists.mp served.collected
  rw [toOption_eq_some] at collected
  rw [listenSockets] at listens
  split at listens
  · rename_i plain
    obtain ⟨proto, uses, rfl⟩ := mem_map.mp listens
    obtain ⟨entry, listed, -, port, same⟩ := l4Route_of_collected routed collected declared
      (Option.isNone_iff_eq_none.mp plain) uses
    exact mem_append_right _ (mem_map.mpr ⟨entry, listed, Prod.ext port same⟩)
  · rename_i http
    have terminates : ingress.declared.httpTerminate.isSome := by
      simpa [Option.isSome_iff_ne_none] using http
    obtain ⟨upstream, survives⟩ :=
      survives_of_collected routed collected declared terminates (served.clear terminates)
    exact mem_append_left _ (mem_flatMap.mpr ⟨_, survives, listens⟩)

theorem forwarded_of_mem_appSockets (listens : socket ∈ appSockets network apps site) :
    ∃ app ∈ routedApps apps, ∃ ingress ∈ app.appDef.ingresses,
      socket ∈ forwardSockets ingress.declared := by
  rcases mem_append.mp listens with http | l4
  · obtain ⟨⟨name, declared, upstream⟩, survives, listens⟩ := mem_flatMap.mp http
    obtain ⟨⟨app, build⟩, built, paired⟩ := mem_flatMap.mp (mem_filter.mp survives).1
    obtain ⟨pair, inside, same⟩ := mem_map.mp paired
    cases same
    obtain ⟨routed, collected⟩ := mem_appBuilds.mp built
    obtain ⟨ingress, known, rfl, terminates⟩ := ingress_of_pair collected inside
    refine ⟨app, routed, ingress, known, mem_forwardSockets.mpr (.inl ?_)⟩
    rw [listenSockets, if_neg (by simpa [Option.isSome_iff_ne_none] using terminates)]
    exact listens
  · obtain ⟨entry, listed, rfl⟩ := mem_map.mp l4
    obtain ⟨⟨app, build⟩, built, inside⟩ := mem_flatMap.mp listed
    obtain ⟨routed, collected⟩ := mem_appBuilds.mp built
    obtain ⟨ingress, known, -, plain, port, proto⟩ := ingress_of_l4Route collected inside
    refine ⟨app, routed, ingress, known, mem_forwardSockets.mpr (.inl ?_)⟩
    rw [listenSockets, if_pos (by simp [plain])]
    exact mem_map.mpr ⟨entry.route.proto, proto, Prod.ext port.symm rfl⟩

end Sockets

/-! ## The main result -/

/-- **The packet rules of a tick forward what the proxy listens on, and nothing else,
exactly when the sockets agree.** -/
theorem forwards_what_it_listens_on_iff (network : Network) (apps : List AppSnapshot)
    (site : SiteIngressSnapshot) :
    (∀ socket, Forwards (computeNftablesRules network apps) socket ↔
      Listens (computeProxyConfig network apps site).config socket) ↔
      SocketsAgree network apps site := by
  simp only [forwards_iff, listens_iff]
  constructor
  · intro agree
    refine ⟨?_, ?_, ?_⟩
    · intro socket attached
      exact (agree socket).mpr (mem_append_right _ attached)
    · intro app routed ingress declared _ socket forwarded
      exact (agree socket).mp ⟨app, routed, ingress, declared, forwarded⟩
    · intro app routed ingress declared socket straying
      exact (agree socket).mp
        ⟨app, routed, ingress, declared, mem_forwardSockets.mpr (.inr straying)⟩
  · intro agree socket
    constructor
    · rintro ⟨app, routed, ingress, declared, forwarded⟩
      by_cases served : IsServed network apps site app ingress
      · rcases mem_forwardSockets.mp forwarded with listens | straying
        · exact mem_append_left _ (mem_appSockets_of_served routed declared served listens)
        · exact agree.straying app routed ingress declared socket straying
      · exact agree.unserved app routed ingress declared served socket forwarded
    · intro listens
      rcases mem_append.mp listens with own | attached
      · exact forwarded_of_mem_appSockets own
      · exact agree.attached socket attached

/-- An attachment on a port that no app uses is listened on and not forwarded; an ingress
that is in conflict is forwarded and not listened on. -/
theorem attachment_is_not_forwarded :
    let running := shopSnapshot .installed [⟨shopInstance, .ready, .ingress shopIngress, false⟩] []
    let attached (port : Nat) : SiteIngressSnapshot :=
      ⟨[⟨"front", "shop.test", .acme, false⟩],
        [⟨"front", port, .http, .redirect "https://new.test" 307 true⟩]⟩
    (Listens (computeProxyConfig freshNetwork [running] (attached 8443)).config (8443, .tcp) ∧
      ¬ Forwards (computeNftablesRules freshNetwork [running]) (8443, .tcp)) ∧
    (Forwards (computeNftablesRules freshNetwork [running]) (443, .tcp) ∧
      ¬ Listens (computeProxyConfig freshNetwork [running] (attached 443)).config (443, .tcp)) := by
  intro running attached
  simp only [forwards_iff, listens_iff]
  refine ⟨⟨by decide +kernel, ?_⟩, ⟨?_, by decide +kernel⟩⟩
  · rintro ⟨app, routed, ingress, declared, forwarded⟩
    obtain rfl := mem_singleton.mp (mem_routedApps.mp routed).1
    obtain rfl := mem_singleton.mp declared
    exact absurd forwarded (by decide)
  · exact ⟨running, by decide, shopIngress, mem_cons_self, by decide⟩

end Seedling.Reconcile
