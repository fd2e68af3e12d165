import Mathlib.Data.List.Dedup
import Seedling.Reconcile.Serving

/-!
# Conflicting claims on a hostname and port

An app ingress and a site attachment that claim the same `(hostname, port)` are both to be
withheld from the proxy configuration.  The claims of the apps are read from the pairs of
HTTP ingresses; an ingress that is passed through has no pair, and its layer-4 routes are
added to the configuration whatever the site claims.  `conflicts_withheld_iff` says when
that does no harm: no such ingress claims what an attachment does.
-/

namespace Seedling.Reconcile

open Apps Instances Foundation List
open Proxy (IngressDef ServiceUpstream L4Proto)

/-! ## Claims -/

abbrev ClaimKey := String × Nat

def ingressClaim (declared : IngressDef) : ClaimKey := (declared.hostname, declared.port)

def SiteL4Entry.claim (entry : SiteL4Entry) : ClaimKey := (entry.hostname, entry.route.port)

def SiteProxyData.claims (site : SiteProxyData) : List ClaimKey :=
  site.forwards.map (fun entry => ingressClaim entry.2.1) ++
    site.redirects.map (fun entry => ingressClaim entry.2.1) ++
    site.l4Routes.map SiteL4Entry.claim

structure Collected (network : Network) (apps : List AppSnapshot) (app : AppSnapshot)
    (ingress : Ingress) : Prop where
  routed : app ∈ routedApps apps
  built : ∃ build, collect network app = .ok build
  declared : ingress ∈ app.appDef.ingresses

/-- An attachment that a tick resolves: its site ingress has not lost its source, and it has
a target. -/
structure Resolved (network : Network) (apps : List AppSnapshot) (site : SiteIngressSnapshot)
    (siteIngress : SiteIngressDef) (attachment : SiteIngressAttachment) : Prop where
  known : siteIngress ∈ site.ingresses
  live : siteIngress.stale = false
  listed : attachment ∈ site.attachments
  own : attachment.siteIngress = siteIngress.name
  target : (resolveAttachment network apps siteIngress attachment).unresolved = []

def SiteIngressDef.claim (siteIngress : SiteIngressDef) (attachment : SiteIngressAttachment) :
    ClaimKey := (siteIngress.hostname, attachment.port)

structure Within (part whole : SiteProxyData) : Prop where
  forwards : ∀ entry ∈ part.forwards, entry ∈ whole.forwards
  redirects : ∀ entry ∈ part.redirects, entry ∈ whole.redirects
  l4Routes : ∀ entry ∈ part.l4Routes, entry ∈ whole.l4Routes

structure Outside (part whole : SiteProxyData) : Prop where
  forwards : ∀ entry ∈ part.forwards, entry ∉ whole.forwards
  redirects : ∀ entry ∈ part.redirects, entry ∉ whole.redirects
  l4Routes : ∀ entry ∈ part.l4Routes, entry ∉ whole.l4Routes

section Site

variable {network : Network} {apps : List AppSnapshot} {site : SiteIngressSnapshot}
  {siteIngress : SiteIngressDef} {attachment : SiteIngressAttachment}

/-- An attachment claims its hostname and port if it has a target, and nothing otherwise. -/
def Settles (siteIngress : SiteIngressDef) (attachment : SiteIngressAttachment)
    (data : SiteProxyData) : Prop :=
  data.unresolved = [] ∧ data.claims = [siteIngress.claim attachment] ∨
    data.unresolved ≠ [] ∧ data.claims = []

theorem settles_unresolved (reason : String) :
    Settles siteIngress attachment (unresolved siteIngress attachment reason) :=
  Or.inr ⟨cons_ne_nil _ _, rfl⟩

theorem settles_resolveL4 (proto : L4Proto) :
    Settles siteIngress attachment (resolveL4 network apps siteIngress attachment proto) := by
  rw [resolveL4]
  split
  · exact settles_unresolved _
  · split
    · exact settles_unresolved _
    · exact Or.inl ⟨rfl, rfl⟩

theorem settles_resolveHttp (terminate : Proxy.HttpTermination) :
    Settles siteIngress attachment (resolveHttp network apps siteIngress attachment terminate) := by
  rw [resolveHttp]
  split
  · exact settles_unresolved _
  · split
    · exact Or.inl ⟨rfl, rfl⟩
    · split
      · exact settles_unresolved _
      · exact Or.inl ⟨rfl, rfl⟩

theorem settles_resolveAttachment :
    Settles siteIngress attachment (resolveAttachment network apps siteIngress attachment) := by
  rw [resolveAttachment]
  split
  · exact settles_resolveL4 .tcp
  · exact settles_resolveL4 .udp
  · exact settles_resolveHttp .http1
  · exact settles_resolveHttp .http2

variable {key : ClaimKey}

theorem mem_claims {data : SiteProxyData} :
    key ∈ data.claims ↔ (∃ entry ∈ data.forwards, ingressClaim entry.2.1 = key) ∨
        (∃ entry ∈ data.redirects, ingressClaim entry.2.1 = key) ∨
        ∃ entry ∈ data.l4Routes, entry.claim = key := by
  simp [SiteProxyData.claims]

theorem Within.claims {part whole : SiteProxyData} (within : Within part whole)
    (claimed : key ∈ part.claims) : key ∈ whole.claims := by
  rw [mem_claims] at claimed ⊢
  rcases claimed with ⟨entry, mem, same⟩ | ⟨entry, mem, same⟩ | ⟨entry, mem, same⟩
  · exact Or.inl ⟨entry, within.forwards entry mem, same⟩
  · exact Or.inr (Or.inl ⟨entry, within.redirects entry mem, same⟩)
  · exact Or.inr (Or.inr ⟨entry, within.l4Routes entry mem, same⟩)

/-- What each attachment of each live site ingress comes to. -/
def siteParts (network : Network) (apps : List AppSnapshot) (site : SiteIngressSnapshot) :
    List SiteProxyData :=
  (site.ingresses.filter (!·.stale)).flatMap fun ingress =>
    (site.attachments.filter (·.siteIngress = ingress.name)).map
      (resolveAttachment network apps ingress)

theorem within_of_mem_siteParts {part : SiteProxyData}
    (mem : part ∈ siteParts network apps site) : Within part (collectSite network apps site) :=
  ⟨fun _ entry => mem_flatMap.mpr ⟨part, mem, entry⟩,
    fun _ entry => mem_flatMap.mpr ⟨part, mem, entry⟩,
    fun _ entry => mem_flatMap.mpr ⟨part, mem, entry⟩⟩

theorem exists_sitePart (claimed : key ∈ (collectSite network apps site).claims) :
    ∃ part ∈ siteParts network apps site, key ∈ part.claims := by
  rw [mem_claims] at claimed
  rcases claimed with ⟨entry, mem, same⟩ | ⟨entry, mem, same⟩ | ⟨entry, mem, same⟩
  · obtain ⟨part, listed, inside⟩ := mem_flatMap.mp mem
    exact ⟨part, listed, mem_claims.mpr (Or.inl ⟨entry, inside, same⟩)⟩
  · obtain ⟨part, listed, inside⟩ := mem_flatMap.mp mem
    exact ⟨part, listed, mem_claims.mpr (Or.inr (Or.inl ⟨entry, inside, same⟩))⟩
  · obtain ⟨part, listed, inside⟩ := mem_flatMap.mp mem
    exact ⟨part, listed, mem_claims.mpr (Or.inr (Or.inr ⟨entry, inside, same⟩))⟩

variable (resolved : Resolved network apps site siteIngress attachment)
include resolved

theorem Resolved.mem_siteParts :
    resolveAttachment network apps siteIngress attachment ∈ siteParts network apps site := by
  refine mem_flatMap.mpr ⟨siteIngress, mem_filter.mpr ⟨resolved.known, by simp [resolved.live]⟩, ?_⟩
  exact mem_map_of_mem (mem_filter.mpr ⟨resolved.listed, by simpa using resolved.own⟩)

theorem Resolved.claims : (resolveAttachment network apps siteIngress attachment).claims =
      [siteIngress.claim attachment] := by
  rcases settles_resolveAttachment with ⟨-, claims⟩ | ⟨without, -⟩
  · exact claims
  · exact absurd resolved.target without

omit resolved

/-- **What the site claims are the claims of its resolved attachments.** -/
theorem mem_claims_collectSite : key ∈ (collectSite network apps site).claims ↔
      ∃ siteIngress attachment, Resolved network apps site siteIngress attachment ∧
        siteIngress.claim attachment = key := by
  constructor
  · intro claimed
    obtain ⟨part, listed, inside⟩ := exists_sitePart claimed
    obtain ⟨siteIngress, known, mapped⟩ := mem_flatMap.mp listed
    obtain ⟨attachment, filtered, rfl⟩ := mem_map.mp mapped
    obtain ⟨known, live⟩ := mem_filter.mp known
    obtain ⟨attached, own⟩ := mem_filter.mp filtered
    rcases settles_resolveAttachment with ⟨target, claims⟩ | ⟨-, nothing⟩
    · rw [claims] at inside
      exact ⟨siteIngress, attachment,
        ⟨known, by simpa using live, attached, by simpa using own, target⟩,
        (mem_singleton.mp inside).symm⟩
    · rw [nothing] at inside
      cases inside
  · rintro ⟨siteIngress, attachment, resolved, rfl⟩
    refine (within_of_mem_siteParts resolved.mem_siteParts).claims ?_
    rw [resolved.claims]
    exact mem_singleton_self _

end Site

/-! ## Dropping what is in conflict -/

variable {part whole : SiteProxyData} {dropped : List ClaimKey}

theorem outside_dropped (claims : ∀ key ∈ part.claims, key ∈ dropped) :
    Outside part (dropConflictingSiteData whole dropped) := by
  constructor
  · intro entry mem kept
    have clear : ingressClaim entry.2.1 ∉ dropped := of_decide_eq_true (mem_filter.mp kept).2
    exact clear (claims _ (mem_claims.mpr (Or.inl ⟨entry, mem, rfl⟩)))
  · intro entry mem kept
    have clear : ingressClaim entry.2.1 ∉ dropped := of_decide_eq_true (mem_filter.mp kept).2
    exact clear (claims _ (mem_claims.mpr (Or.inr (Or.inl ⟨entry, mem, rfl⟩))))
  · intro entry mem kept
    have clear : entry.claim ∉ dropped := of_decide_eq_true (mem_filter.mp kept).2
    exact clear (claims _ (mem_claims.mpr (Or.inr (Or.inr ⟨entry, mem, rfl⟩))))

theorem within_dropped (within : Within part whole) (clear : ∀ key ∈ part.claims, key ∉ dropped) :
    Within part (dropConflictingSiteData whole dropped) := by
  constructor
  · intro entry mem
    have kept := clear _ (mem_claims.mpr (Or.inl ⟨entry, mem, rfl⟩))
    exact mem_filter.mpr ⟨within.forwards entry mem, decide_eq_true kept⟩
  · intro entry mem
    have kept := clear _ (mem_claims.mpr (Or.inr (Or.inl ⟨entry, mem, rfl⟩)))
    exact mem_filter.mpr ⟨within.redirects entry mem, decide_eq_true kept⟩
  · intro entry mem
    have kept := clear _ (mem_claims.mpr (Or.inr (Or.inr ⟨entry, mem, rfl⟩)))
    exact mem_filter.mpr ⟨within.l4Routes entry mem, decide_eq_true kept⟩

section Tick

variable {network : Network} {apps : List AppSnapshot} {site : SiteIngressSnapshot}
  {app : AppSnapshot} {ingress : Ingress} {siteIngress : SiteIngressDef}
  {attachment : SiteIngressAttachment} {key : ClaimKey}

theorem exists_pair_iff : (∃ pair ∈ allPairs network apps, ingressClaim pair.2.1 = key) ↔
      ∃ app ingress, Collected network apps app ingress ∧
        ingress.declared.httpTerminate.isSome ∧ ingressClaim ingress.declared = key := by
  constructor
  · rintro ⟨pair, mem, rfl⟩
    obtain ⟨⟨app, build⟩, built, paired⟩ := mem_flatMap.mp mem
    obtain ⟨own, inside, rfl⟩ := mem_map.mp paired
    obtain ⟨routed, collected⟩ := mem_appBuilds.mp built
    obtain ⟨ingress, declared, same, http⟩ := ingress_of_pair collected inside
    exact ⟨app, ingress, ⟨routed, ⟨build, collected⟩, declared⟩, http, congrArg ingressClaim same⟩
  · rintro ⟨app, ingress, ⟨routed, ⟨build, collected⟩, declared⟩, http, rfl⟩
    obtain ⟨upstream, paired⟩ := pair_of_collected routed collected declared http
    exact ⟨_, paired, rfl⟩

/-- **A conflict is reported** exactly where an HTTP ingress and an attachment claim the
same. -/
theorem mem_conflicts_iff : key ∈ conflicts network apps site ↔
      (∃ app ingress, Collected network apps app ingress ∧
        ingress.declared.httpTerminate.isSome ∧ ingressClaim ingress.declared = key) ∧
      ∃ siteIngress attachment, Resolved network apps site siteIngress attachment ∧
        siteIngress.claim attachment = key := by
  rw [conflicts, detectConflicts]
  dsimp only
  rw [mem_filter, mem_dedup, mem_map, decide_eq_true_eq]
  exact and_congr exists_pair_iff mem_claims_collectSite

/-! ## What is kept -/

/-- What the ingress contributes is in the configuration: the pair it is built from, or the
layer-4 routes. -/
def AppKept (network : Network) (apps : List AppSnapshot) (site : SiteIngressSnapshot)
    (app : AppSnapshot) (ingress : Ingress) : Prop :=
  ∃ part, collectIngress network app ingress = .ok part ∧
    (∀ pair ∈ part.pairs, (app.name, pair) ∈ survivingAppPairs network apps site) ∧
    ∀ entry ∈ part.l4Routes, entry.route ∈ (computeProxyConfig network apps site).config.l4Routes

theorem appKept_of_clear (collected : Collected network apps app ingress)
    (clear : ingressClaim ingress.declared ∉ conflicts network apps site) :
    AppKept network apps site app ingress := by
  obtain ⟨build, built⟩ := collected.built
  have listed := mem_appBuilds.mpr ⟨collected.routed, built⟩
  obtain ⟨part, computes, pairs, l4Routes, -⟩ := part_of_ingress built collected.declared
  obtain ⟨_, upstream, _, -, -, ownPairs, -⟩ := collectIngress_ok computes
  refine ⟨part, computes, fun pair mem => ?_, fun entry mem => ?_⟩
  · refine mem_filter.mpr ⟨mem_flatMap.mpr ⟨(app, build), listed, mem_map_of_mem (pairs mem)⟩, ?_⟩
    rw [ownPairs] at mem
    split at mem
    · cases mem
    · rw [mem_singleton.mp mem]
      exact decide_eq_true clear
  · exact mem_append_left _ (mem_map_of_mem (mem_flatMap.mpr ⟨(app, build), listed, l4Routes mem⟩))

/-- What the specification asks of conflicts: both sides are withheld and the pair is
reported, and whatever has no claim against it is kept. -/
structure ConflictsWithheld (network : Network) (apps : List AppSnapshot)
    (site : SiteIngressSnapshot) : Prop where
  withheld : ∀ app ingress siteIngress attachment, Collected network apps app ingress →
    Resolved network apps site siteIngress attachment →
    ingressClaim ingress.declared = siteIngress.claim attachment →
      ¬ Served network apps site app ingress ∧
        Outside (resolveAttachment network apps siteIngress attachment)
          (survivingSiteData network apps site) ∧
        siteIngress.claim attachment ∈ conflicts network apps site
  appsKept : ∀ app ingress, Collected network apps app ingress →
    (∀ siteIngress attachment, Resolved network apps site siteIngress attachment →
      ingressClaim ingress.declared ≠ siteIngress.claim attachment) →
      AppKept network apps site app ingress
  siteKept : ∀ siteIngress attachment, Resolved network apps site siteIngress attachment →
    (∀ app ingress, Collected network apps app ingress →
      ingressClaim ingress.declared ≠ siteIngress.claim attachment) →
      Within (resolveAttachment network apps siteIngress attachment)
        (survivingSiteData network apps site)

/-- **Conflicting claims are withheld and nothing else is**, exactly if no attachment claims
what an ingress that is passed through does. -/
theorem conflicts_withheld_iff (names : (apps.map AppSnapshot.name).Nodup) :
    ConflictsWithheld network apps site ↔
      ∀ app ingress siteIngress attachment, Collected network apps app ingress →
        Resolved network apps site siteIngress attachment →
        ingress.declared.httpTerminate = none →
          ingressClaim ingress.declared ≠ siteIngress.claim attachment := by
  constructor
  · intro holds app ingress siteIngress attachment collected resolved plain same
    obtain ⟨build, built⟩ := collected.built
    refine (holds.withheld app ingress siteIngress attachment collected resolved same).1 ?_
    refine served_of_collected collected.routed built collected.declared fun http => ?_
    rw [plain] at http
    cases http
  · intro clear
    refine ⟨?_, ?_, ?_⟩
    · intro app ingress siteIngress attachment collected resolved same
      have http : ingress.declared.httpTerminate.isSome := by
        rw [Option.isSome_iff_ne_none]
        exact fun plain => clear app ingress siteIngress attachment collected resolved plain same
      have conflict : siteIngress.claim attachment ∈ conflicts network apps site :=
        mem_conflicts_iff.mpr ⟨⟨app, ingress, collected, http, same⟩,
          ⟨siteIngress, attachment, resolved, rfl⟩⟩
      have ownConflict : ingressClaim ingress.declared ∈ conflicts network apps site :=
        same ▸ conflict
      refine ⟨?_, outside_dropped fun key claimed => ?_, conflict⟩
      · exact not_served_of_conflict names (mem_routedApps.mp collected.routed).1
          collected.declared http ownConflict
      · rw [resolved.claims] at claimed
        exact mem_singleton.mp claimed ▸ conflict
    · intro app ingress collected unclaimed
      refine appKept_of_clear collected fun conflict => ?_
      obtain ⟨-, siteIngress, attachment, resolved, same⟩ := mem_conflicts_iff.mp conflict
      exact unclaimed siteIngress attachment resolved same.symm
    · intro siteIngress attachment resolved unclaimed
      refine within_dropped (within_of_mem_siteParts resolved.mem_siteParts) fun key claimed => ?_
      rw [resolved.claims] at claimed
      intro conflict
      rw [mem_singleton.mp claimed] at conflict
      obtain ⟨⟨app, ingress, collected, -, same⟩, -⟩ := mem_conflicts_iff.mp conflict
      exact unclaimed app ingress collected same

end Tick

def databaseIngress : Ingress := ⟨"data", ⟨"db.test", 5432, false, false, none, none⟩⟩

/-- An app with the database, its service and the pod behind it. -/
def databaseSnapshot : AppSnapshot where
  name := "shop"
  desired := []
  appDef := ⟨[.ingress databaseIngress, .service "data" [],
    .deployment "postgres" ⟨[], [⟨⟨false, "data"⟩, 5432⟩], []⟩], by decide⟩
  phase := .installed
  warmCertHostnames := []

def databaseSite (hostname : String) : SiteIngressSnapshot :=
  ⟨[⟨"front", hostname, .none, false⟩], [⟨"front", 5432, .tcp, .forward "shop" "data"⟩]⟩

theorem databaseSite_resolved (hostname : String) :
    Resolved freshNetwork [databaseSnapshot] (databaseSite hostname)
      ⟨"front", hostname, .none, false⟩ ⟨"front", 5432, .tcp, .forward "shop" "data"⟩ where
  known := mem_singleton_self _
  live := rfl
  listed := mem_singleton_self _
  own := rfl
  target := rfl

/-- **Both claims on a port that is passed through are served**, and no conflict is
reported. -/
theorem passed_through_claims_served : ingressClaim databaseIngress.declared = ("db.test", 5432) ∧
      conflicts freshNetwork [databaseSnapshot] (databaseSite "db.test") = [] ∧
      (computeProxyConfig freshNetwork [databaseSnapshot]
        (databaseSite "db.test")).config.l4Routes =
          [⟨5432, .tcp, ["[fd00::1]:5432"]⟩, ⟨5432, .tcp, ["[fd00::1]:5432"]⟩] ∧
      ¬ ConflictsWithheld freshNetwork [databaseSnapshot] (databaseSite "db.test") := by
  refine ⟨rfl, by decide +kernel, by decide +kernel, fun holds => ?_⟩
  have conflict := (holds.withheld databaseSnapshot databaseIngress _ _
    ⟨by decide, ⟨_, rfl⟩, by decide⟩ (databaseSite_resolved "db.test") rfl).2.2
  revert conflict
  decide +kernel

/-- The app with another ingress, for HTTP, under the hostname of the site. -/
def frontSnapshot : AppSnapshot :=
  { databaseSnapshot with
    appDef := ⟨.ingress ⟨"data", ⟨"front.test", 5432, true, false, some .http1, none⟩⟩ ::
      databaseSnapshot.appDef.resources, by decide⟩ }

/-- Under its own hostname the site conflicts with the HTTP ingress alone: that is
withheld, and what is passed through is kept. -/
theorem front_withheld :
    ("front.test", 5432) ∈ conflicts freshNetwork [frontSnapshot] (databaseSite "front.test") ∧
      ConflictsWithheld freshNetwork [frontSnapshot] (databaseSite "front.test") := by
  refine ⟨by decide +kernel, (conflicts_withheld_iff (by decide)).mpr ?_⟩
  intro app ingress siteIngress attachment collected resolved passed same
  obtain rfl := mem_singleton.mp resolved.known
  obtain rfl := mem_singleton.mp (mem_routedApps.mp collected.routed).1
  have listed : ingress ∈ frontSnapshot.appDef.ingresses := collected.declared
  rcases mem_cons.mp listed with rfl | other
  · cases passed
  · rw [mem_singleton.mp other] at same
    have hostnames : "db.test" = "front.test" := congrArg Prod.fst same
    exact absurd hostnames (by decide)

end Seedling.Reconcile
