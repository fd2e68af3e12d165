import Seedling.Barrier.Probe
import Seedling.Barrier.Surfaces
import Seedling.Instances.Uniqueness

/-!
# What a probe leaves behind

In a probe every runtime call returns before it acts (`probeDispatch_idle`).  What remains is
the resolution of the arguments: each named deployment, service or ingress is asked of the
registry, which inserts the instances it does not have.

`Grows` says that a registry gets new rows unless some condition holds: for a call, that the
instances of its arguments are there already (`Probed.Settled`).  It composes up to
`probe_has_no_effect_iff`.
-/

namespace Seedling.Barrier

open Foundation Instances ResourceInstance List Nat Target

/-! ## Calls of a probe act on nothing -/

structure Idle (pass : PassState) : Prop where
  probing : pass.ctx.probeMode
  noHit : pass.barrierHit = false
  effects : pass.effects = []
  pending : pass.ctx.pending = []

namespace Idle

variable {pass : PassState} {env : Env}

variable (idle : Idle pass)
include idle

theorem withCounter (counter : Nat) :
    Idle (pass.withCtx { pass.ctx with anonCounter := counter }) :=
  ⟨idle.probing, idle.noHit, idle.effects, idle.pending⟩

variable {kind : Option CallKind} {honours : Bool} {targets : Option (List ResourceInstance)}

theorem way {result : Except EvalError Unit} {after : PassState}
    (way : Way env kind targets honours pass result after) : Idle after := by
  cases way with
  | early => exact idle
  | probed probing probes => exact ⟨probes, idle.noHit, idle.effects, idle.pending⟩
  | restarted _ live => exact absurd (live.symm.trans idle.probing) nofun
  | rethrown | cancelled => exact idle
  | acted live => exact absurd idle.probing live

theorem comes {outcome : Outcome} (comes : Comes env kind targets honours pass outcome) :
    Idle outcome.2 := by
  obtain ⟨_, ⟨counter, row, rowless⟩, answers⟩ := comes
  obtain rfl := rowless (.inr (.inr idle.probing))
  rw [PassState.perform_nil] at answers
  exact (idle.withCounter counter).way answers

end Idle

section Calls

variable (site : ProbeSite) (op : Operation) {state : ProbeState}

theorem withProbedTarget_idle {reuse : InstanceReuse} {target : Target}
    {next : List Extracted → PassState → Outcome} (idle : Idle state.pass)
    (kept : ∀ found pass, Idle pass → Idle (next found pass).2) :
    Idle (withProbedTarget site op reuse target next state).2.pass := by
  rw [withProbedTarget]
  split
  · exact idle.withCounter _
  · exact kept _ _ (idle.withCounter _)

/-- **A call of a probe acts on nothing.** -/
theorem probeDispatch_idle (call : Call) (idle : Idle state.pass) :
    Idle (probeDispatch site op call state).2.pass := by
  cases call with
  | start =>
    exact withProbedTarget_idle site op idle fun found _ still =>
      still.comes (doStartOrQuery_comes (some _) rfl fun _ => rfl)
  | query =>
    exact withProbedTarget_idle site op idle fun found _ still =>
      still.comes (doStartOrQuery_comes none rfl (by rintro ⟨⟩))
  | warmCerts =>
    exact withProbedTarget_idle site op idle fun found _ still =>
      still.comes (doWarmCerts_comes (probeEnv site op state.registry) found)
  | warmImages =>
    exact withProbedTarget_idle site op idle fun found _ still =>
      still.comes (doWarmImages_comes found)
  | stop =>
    refine withProbedTarget_idle site op idle fun found _ still => ?_
    split
    · exact still
    · exact still.comes (doStop_comes _ _)
  | signal target signal =>
    exact withProbedTarget_idle site op idle fun found _ still =>
      still.comes (doSignal_comes _ signal)
  | write target path contents =>
    simp only [probeDispatch]
    split
    · exact idle
    · exact idle.comes (doWrite_comes _ _ path contents)
  | exec target argv extraEnv =>
    simp only [probeDispatch]
    split
    · exact idle
    · split
      · exact idle
      · exact idle.comes (doExec_comes _ argv extraEnv)
  | barrier ref method => exact idle.comes (doBarrier_comes ref method)
  | restart resource => exact idle.comes (doRestart_comes resource)

end Calls

/-! ## Growing registries -/

/-- The ids drawn from here up to the limit are distinct, and none is in the table. -/
structure Fresh (tape : Nat → InstanceId) (limit : Nat) (registry : Registry) : Prop where
  new : ∀ row ∈ registry.table.rows, ∀ i, registry.drawn ≤ i → i < limit → row.id ≠ tape i
  distinct : ∀ i, registry.drawn ≤ i → ∀ j < limit, i < j → tape i ≠ tape j

/-- The rows stay, and there are no others at the end exactly if `P` holds, provided
that the ids drawn up to the limit are fresh. -/
structure Grows (tape : Nat → InstanceId) (limit : Nat) (before after : Registry) (P : Prop) :
    Prop where
  drawn : before.drawn ≤ after.drawn
  fresh : after.drawn ≤ limit → Fresh tape limit before → Fresh tape limit after
  rows : after.drawn ≤ limit → Fresh tape limit before →
    ∃ more, after.table.rows = before.table.rows ++ more ∧ (more = [] ↔ P)

section Growth

variable {tape : Nat → InstanceId} {limit : Nat} {registry after last : Registry} {P Q : Prop}

theorem Fresh.insert (fresh : Fresh tape limit registry) {row : ResourceInstance}
    (id : row.id = tape registry.drawn) :
    Fresh tape limit ⟨registry.table.insertOrIgnore row, registry.drawn + 1⟩ where
  new other present i later below := by
    rcases Table.mem_insertOrIgnore.mp present with old | ⟨_, rfl⟩
    · exact fresh.new other old i (le_of_succ_le later) below
    · rw [id]
      exact fresh.distinct _ (le_refl _) i below later
  distinct i later := fresh.distinct i (le_of_succ_le later)

theorem Grows.refl (registry : Registry) (holds : P) : Grows tape limit registry registry P :=
  ⟨le_refl _, fun _ fresh => fresh, fun _ _ => ⟨[], by simp, by simpa using holds⟩⟩

theorem Grows.rows_eq_iff (grows : Grows tape limit registry after P)
    (within : after.drawn ≤ limit) (fresh : Fresh tape limit registry) :
    after.table.rows = registry.table.rows ↔ P := by
  obtain ⟨more, rows, iff⟩ := grows.rows within fresh
  rw [rows, append_right_eq_self, iff]

theorem Grows.congr (grows : Grows tape limit registry after P) (same : P ↔ Q) :
    Grows tape limit registry after Q := by
  rwa [← propext same]

/-- Growth composes.  The second condition may be read off the rows at the start, as
these are the rows in between if the first holds. -/
theorem Grows.trans (first : Grows tape limit registry after P)
    (condition : List ResourceInstance → Prop)
    (second : Grows tape limit after last (condition after.table.rows)) :
    Grows tape limit registry last (P ∧ condition registry.table.rows) where
  drawn := le_trans first.drawn second.drawn
  fresh within fresh := second.fresh within (first.fresh (le_trans second.drawn within) fresh)
  rows within fresh := by
    have within' : after.drawn ≤ limit := le_trans second.drawn within
    obtain ⟨some, rows, iff⟩ := first.rows within' fresh
    obtain ⟨more, rows', iff'⟩ := second.rows within (first.fresh within' fresh)
    refine ⟨some ++ more, by rw [rows', rows, append_assoc], ?_⟩
    rw [append_eq_nil_iff, iff, iff']
    refine and_congr_right fun holds => ?_
    rw [(first.rows_eq_iff within' fresh).mpr holds]

theorem Fresh.admits_scaled (fresh : Fresh tape limit registry) (within : registry.drawn < limit)
    (app : String) (kind : ResourceKind) (name : String) :
    registry.table.Admits (newScaled (tape registry.drawn) app kind name) := by
  intro old present
  have other : old.id ≠ tape registry.drawn := fresh.new old present _ (le_refl _) within
  simp [clash, newScaled, other]

/-- **Minting adds as many rows as it is asked for.** -/
theorem mint_grows (registry : Registry) (app : String) (kind : ResourceKind) (name : String)
    (count : Nat) :
    Grows tape limit registry (mint tape app kind name count registry).2 (count = 0) := by
  induction count generalizing registry with
  | zero => exact .refl registry rfl
  | succ count ih =>
    have inserted : Grows tape limit registry
        ⟨registry.table.insertOrIgnore (newScaled (tape registry.drawn) app kind name),
          registry.drawn + 1⟩ False :=
      ⟨le_succ _, fun _ fresh => fresh.insert rfl, fun within fresh =>
        ⟨_, Table.rows_insertOrIgnore (fresh.admits_scaled within app kind name), by simp⟩⟩
    exact (inserted.trans (fun _ => count = 0) (ih _)).congr (by simp)

variable {kind : ResourceKind}

theorem newSingleton_id (drawn : InstanceId) (app : String) (notJob : kind ≠ .job) (name : String) :
    (newSingleton drawn app kind name).id = drawn := by
  cases kind <;> first | rfl | exact absurd rfl notJob

theorem Fresh.clash_singleton (fresh : Fresh tape limit registry) (within : registry.drawn < limit)
    (app : String) (notJob : kind ≠ .job) (name : String) {old : ResourceInstance}
    (present : old ∈ registry.table.rows) :
    clash old (newSingleton (tape registry.drawn) app kind name) =
      isSingletonOf app kind (some name) old := by
  have other : old.id ≠ tape registry.drawn := fresh.new old present _ (le_refl _) within
  rw [Bool.eq_iff_iff, clash_iff, newSingleton_id _ _ notJob]
  simp only [other, false_or, isSingletonOf, Bool.and_eq_true, decide_eq_true_eq]
  constructor
  · rintro ⟨singleton, -, ofApp, ofKind, -, named⟩
    exact ⟨⟨⟨ofApp, ofKind⟩, named⟩, singleton⟩
  · rintro ⟨⟨⟨ofApp, ofKind⟩, named⟩, singleton⟩
    exact ⟨singleton, rfl, ofApp, ofKind, by rw [named]; rfl, named⟩

theorem Fresh.not_admits (fresh : Fresh tape limit registry) (within : registry.drawn < limit)
    {app : String} (notJob : kind ≠ .job) {name : String} :
    ¬ registry.table.Admits (newSingleton (tape registry.drawn) app kind name) ↔
      ∃ row ∈ registry.table.rows, isSingletonOf app kind (some name) row := by
  simp only [Table.Admits, not_forall, Bool.not_eq_false, exists_prop]
  refine exists_congr fun row => and_congr_right fun present => ?_
  rw [fresh.clash_singleton within app notJob name present]

theorem insertSingleton_grows (registry : Registry) (app : String) (notJob : kind ≠ .job)
    (name : String) :
    Grows tape limit registry (registry.insertSingleton tape app kind name)
      (∃ row ∈ registry.table.rows, isSingletonOf app kind (some name) row) := by
  rw [Registry.insertSingleton, if_neg notJob]
  refine ⟨le_succ _, fun _ fresh => fresh.insert (newSingleton_id _ _ notJob _),
    fun within fresh => ?_⟩
  rw [← fresh.not_admits within notJob]
  by_cases admitted : registry.table.Admits (newSingleton (tape registry.drawn) app kind name)
  · exact ⟨_, Table.rows_insertOrIgnore admitted, by simp [admitted]⟩
  · exact ⟨[], by rw [Table.insertOrIgnore_of_not_admits admitted, append_nil], by simp [admitted]⟩

theorem Fresh.getOrCreateSingleton_isOk (fresh : Fresh tape limit registry) (app : String)
    (notJob : kind ≠ .job) (name : String)
    (within : (getOrCreateSingleton tape app kind (some name) registry).2.drawn ≤ limit) :
    (getOrCreateSingleton tape app kind (some name) registry).1.isOk := by
  rw [getOrCreateSingleton_registry, Registry.insertSingleton, if_neg notJob] at within
  rcases getOrCreateSingleton_cases tape app kind name registry with
    ⟨row, -, -, answered⟩ | ⟨refused, none, -⟩
  · rw [answered]
    rfl
  · obtain ⟨row, present, found⟩ := (fresh.not_admits within notJob).mp refused
    rw [none row present] at found
    cases found

end Growth

/-! ## What the calls ask for -/

def Resource.isAction : Resource → Bool
  | .action _ => true
  | _ => false

/-- The resources of an argument whose instances are asked for: those of a
collection up to an action, which no call accepts. -/
def Target.requested : Target → List Resource
  | .resource one => [one]
  | .collection resources => resources.takeWhile fun resource => !resource.isAction
  | .started _ => []

def Call.requests : Call → List (InstanceReuse × Resource)
  | .start target => target.requested.map (.live, ·)
  | .query target => target.requested.map (.any, ·)
  | .warmCerts target => target.requested.map (.any, ·)
  | .warmImages target => target.requested.map (.any, ·)
  | .stop target _ => target.requested.map (.any, ·)
  | .signal target _ => target.requested.map (.any, ·)
  | .exec (.resource (.deployment name low high image)) argv _ =>
    if argv = [] ∨ name = "" ∨ 1 < high then []
    else [(.any, .deployment name low high image)]
  | _ => []

section Requests

variable (site : ProbeSite) (op : Operation) {limit : Nat}

/-- The rows hold the instances a request asks for: the replicas of a deployment's
lower bound, not torn down ones if they are to be started, and the singleton of a
service or an ingress. -/
def InstancesExist (app : String) (rows : List ResourceInstance)
    (request : InstanceReuse × Resource) : Prop :=
  match request.2 with
  | .deployment name low _ _ =>
    name = "" ∨ max low 1 ≤ (rows.filter fun row =>
      row.app = app && row.kind = .deployment && row.name = some name &&
        row.variant = .scaled && (request.1 = .any || !site.world.tornDown row)).length
  | .service name =>
    name = "" ∨ ∃ row ∈ rows, isSingletonOf app .service (some name) row
  | .ingress name _ => ∃ row ∈ rows, isSingletonOf app .ingress (some name) row
  | _ => True

variable (registry : Registry)

theorem ensureScaledGroup_grows (name : String) (count : Nat) (reuse : InstanceReuse) :
    Grows site.tape limit registry
      (ensureScaledGroup site.tape site.world op.app .deployment (some name) count reuse.registry
        registry).2
      (count ≤ (registry.table.rows.filter fun row =>
        row.app = op.app && row.kind = .deployment && row.name = some name &&
          row.variant = .scaled && (reuse = .any || !site.world.tornDown row)).length) := by
  have minted : ∀ live : List ResourceInstance, Grows site.tape limit registry
      (mint site.tape op.app .deployment name (count - live.length) registry).2
      (count ≤ live.length) :=
    fun live => (mint_grows registry op.app .deployment name _).congr Nat.sub_eq_zero_iff_le
  cases reuse with
  | any =>
    refine (minted _).congr ?_
    simp [Bool.and_comm]
  | live =>
    refine (minted _).congr ?_
    show count ≤ (partition (fun row => !site.world.tornDown row) _).1.length ↔ _
    rw [partition_eq_filter_filter, filter_filter, filter_filter]
    simp only [reduceCtorEq, decide_false, Bool.false_or, Bool.and_comm, Bool.and_left_comm,
      Bool.and_assoc]

/-- **The registry grows unless the instances asked for exist.** -/
theorem registryAfter_grows (request : InstanceReuse × Resource) :
    Grows site.tape limit registry (registryAfter site op request.1 registry request.2)
      (InstancesExist site op.app registry.table.rows request) := by
  obtain ⟨reuse, resource⟩ := request
  cases resource with
  | deployment name =>
    rw [registryAfter, InstancesExist]
    by_cases unnamed : name = ""
    · rw [if_pos unnamed]
      exact .refl registry (.inl unnamed)
    · rw [if_neg unnamed]
      exact (ensureScaledGroup_grows site op registry name _ reuse).congr (by simp [unnamed])
  | service name =>
    rw [registryAfter, InstancesExist]
    by_cases unnamed : name = ""
    · rw [if_pos unnamed]
      exact .refl registry (.inl unnamed)
    · rw [if_neg unnamed, getOrCreateSingleton_registry]
      exact (insertSingleton_grows registry op.app (by decide) name).congr (by simp [unnamed])
  | ingress name =>
    rw [registryAfter, getOrCreateSingleton_registry]
    exact insertSingleton_grows registry op.app (by decide) name
  | job | action | other => exact .refl registry trivial

def AllExist (app : String) (requests : List (InstanceReuse × Resource))
    (rows : List ResourceInstance) : Prop :=
  ∀ request ∈ requests, InstancesExist site app rows request

theorem extractResource_probeEnv {registry : Registry} (fresh : Fresh site.tape limit registry)
    (reuse : InstanceReuse) (counter : Nat) (resource : Resource)
    (within : (registryAfter site op reuse registry resource).drawn ≤ limit) :
    (extractResource op (probeEnv site op registry) reuse counter resource).1.isOk =
      !resource.isAction := by
  have singleton : ∀ kind, kind ≠ .job → ∀ name,
      (getOrCreateSingleton site.tape op.app kind (some name) registry).2.drawn ≤ limit →
        ((probeEnv site op registry).getOrCreateSingleton kind name).isOk := by
    intro kind notJob name within
    have asked := fresh.getOrCreateSingleton_isOk op.app notJob name within
    simp only [probeEnv]
    revert asked
    cases (getOrCreateSingleton site.tape op.app kind (some name) registry).1 <;> simp [
      Except.mapError, Except.toBool]
  have mapped : ∀ (outcome : Except String ResourceInstance)
      (f : ResourceInstance → List Extracted), (outcome.map f).isOk = outcome.isOk := by
    rintro (_ | _) f <;> rfl
  cases resource with
  | deployment | job =>
    rw [extractResource]
    split <;> rfl
  | service name =>
    rw [extractResource]
    rw [registryAfter] at within
    split
    · rfl
    · rename_i named
      rw [if_neg named] at within
      exact (mapped _ _).trans (singleton .service (by decide) name within)
  | ingress name => exact (mapped _ _).trans (singleton .ingress (by decide) name within)
  | action | other => rfl

theorem probeCollection_grows (reuse : InstanceReuse) (counter : Nat) (resources : List Resource) :
    Grows site.tape limit registry (probeCollection site op reuse counter registry resources).2
      (AllExist site op.app ((collection resources).requested.map (reuse, ·))
        registry.table.rows) := by
  induction resources generalizing counter registry with
  | nil => exact .refl registry (by simp [requested, AllExist])
  | cons resource rest ih =>
    have first : Grows site.tape limit registry (registryAfter site op reuse registry resource) _ :=
      registryAfter_grows site op registry (reuse, resource)
    cases isAction : resource.isAction with
    | true =>
      obtain ⟨name, rfl⟩ : ∃ name, resource = .action name := by
        cases resource <;> simp_all [Resource.isAction]
      exact .refl registry (by simp [requested, Resource.isAction, AllExist])
    | false =>
      have asked : AllExist site op.app
          ((collection (resource :: rest)).requested.map (reuse, ·)) registry.table.rows ↔
          InstancesExist site op.app registry.table.rows (reuse, resource) ∧
            AllExist site op.app ((collection rest).requested.map (reuse, ·))
              registry.table.rows := by
        simp [requested, isAction, AllExist]
      refine Grows.congr ?_ asked.symm
      have succeeds : Fresh site.tape limit registry →
          (registryAfter site op reuse registry resource).drawn ≤ limit → _ :=
        fun fresh => extractResource_probeEnv site op fresh reuse counter resource
      rw [probeCollection]
      revert succeeds
      obtain ⟨found, counter'⟩ :=
        extractResource op (probeEnv site op registry) reuse counter resource
      intro succeeds
      cases found with
      | error =>
        refine ⟨first.drawn, first.fresh, fun within fresh => ?_⟩
        have succeeded := succeeds fresh within
        simp [isAction, Except.toBool] at succeeded
      | ok found =>
        have whole := first.trans _ (ih _ counter')
        dsimp only
        split <;> rename_i rest <;> rw [rest] at whole <;> exact whole

theorem probeInstances_grows (reuse : InstanceReuse) (handles : List Started) (counter : Nat)
    (target : Target) :
    Grows site.tape limit registry (probeInstances site op reuse handles counter registry target).2
      (AllExist site op.app (target.requested.map (reuse, ·)) registry.table.rows) := by
  cases target with
  | resource one =>
    exact (registryAfter_grows site op registry (reuse, one)).congr (by simp [requested, AllExist])
  | collection resources => exact probeCollection_grows site op registry reuse counter resources
  | started => exact .refl registry (by simp [requested, AllExist])

variable (state : ProbeState)

theorem withProbedTarget_grows (reuse : InstanceReuse) (target : Target)
    (next : List Extracted → PassState → Outcome) :
    Grows site.tape limit state.registry
      (withProbedTarget site op reuse target next state).2.registry
      (AllExist site op.app (target.requested.map (reuse, ·)) state.registry.table.rows) := by
  have resolved : Grows site.tape limit state.registry _ _ :=
    probeInstances_grows site op state.registry reuse state.pass.handles
      state.pass.ctx.anonCounter target
  rw [withProbedTarget]
  split <;> rename_i found <;> rw [found] at resolved <;> exact resolved

/-- **A call leaves the registry as it was unless something it asks for is missing.** -/
theorem probeDispatch_grows (call : Call) :
    Grows site.tape limit state.registry (probeDispatch site op call state).2.registry
      (AllExist site op.app call.requests state.registry.table.rows) := by
  cases call with
  | start | query | warmCerts | warmImages | stop | signal =>
    exact withProbedTarget_grows site op state _ _ _
  | write =>
    simp only [probeDispatch]
    split <;> exact .refl _ (by simp [Call.requests, AllExist])
  | exec target argv extraEnv =>
    have resolved : (probeDispatch site op (.exec target argv extraEnv) state).2.registry =
        if argv = [] then state.registry
        else execRegistryAfter site op state.registry target := by
      simp only [probeDispatch]
      split
      · rfl
      · split <;> rfl
    rw [resolved]
    match target with
    | .resource (.deployment name low high image) =>
      by_cases skipped : argv = [] ∨ name = "" ∨ 1 < high
      · have same : (if argv = [] then state.registry else execRegistryAfter site op
            state.registry (.resource (.deployment name low high image))) =
            state.registry := by
          rcases skipped with none | none
          · rw [if_pos none]
          · rw [execRegistryAfter, if_pos none, ite_self]
        rw [same]
        exact .refl _ (by simp [Call.requests, skipped, AllExist])
      · have grown : Grows site.tape limit state.registry _ _ :=
          registryAfter_grows site op state.registry (.any, .deployment name low high image)
        rw [not_or] at skipped
        rw [if_neg skipped.1, execRegistryAfter, if_neg skipped.2]
        exact grown.congr (by simp [Call.requests, skipped, AllExist])
    | .resource (.job _ _) | .resource (.service _) | .resource (.ingress _ _)
    | .resource (.action _) | .resource .other | .collection _ | .started _ =>
      simp only [execRegistryAfter, ite_self]
      exact .refl _ (by simp [Call.requests, AllExist])
  | barrier | restart => exact .refl _ (by simp [Call.requests, AllExist])

end Requests

/-! ## Closures and handlers -/

section Probes

variable (site : ProbeSite) {limit : Nat}

abbrev Probed := Script.Ask Call SubActionCall × ProbeState

/-- The rows hold the instances of what is asked for. -/
def Probed.Settled (app : String) (rows : List ResourceInstance) (one : Probed) : Prop :=
  match one.1 with
  | .call call => AllExist site app call.requests rows
  | .enter _ => True

/-- **A closure leaves the registry as it was unless something it asks for is not
there**, and does nothing else. -/
theorem probe_closure (op : Operation) (closure : Closure) (handler : String)
    (registry : Registry) :
    let start := ProbeState.initial handler registry
    let after := (closure.run (probeHandlerCalls site op) start).2
    Idle after.pass ∧ Grows site.tape limit registry after.registry
      (∀ one ∈ closure.trace (probeHandlerCalls site op) start,
        Probed.Settled site op.app registry.table.rows one) := by
  intro start after
  have reached := Script.trace_invariant (probeHandlerCalls site op)
    (J := fun asked state => Idle state.pass ∧ Grows site.tape limit registry state.registry
        (∀ one ∈ asked, Probed.Settled site op.app registry.table.rows one))
    (fun asked ask state ⟨idle, grows⟩ => by
      cases ask with
      | call call =>
        refine ⟨probeDispatch_idle site op call idle, ?_⟩
        refine (grows.trans _ (probeDispatch_grows site op state call)).congr ?_
        simp [Probed.Settled, or_imp, forall_and]
      | enter =>
        refine ⟨idle, grows.congr ?_⟩
        simp [Probed.Settled, or_imp, forall_and])
    (fun asked state invariant => invariant) closure start []
    ⟨⟨rfl, rfl, rfl, rfl⟩, .refl registry (by simp)⟩
  exact reached

variable (limit) (app : ProbedApp) (request : ProbeRequest)

def handlerAsks (operationId : String) (handler : HandlerDef) (world : ProbeWorld) : List Probed :=
  let (resolved, missing) := handler.params app request
  if missing ≠ [] then []
  else (handler.closure resolved).trace
    (probeHandlerCalls site (probeOperation site app operationId))
    (ProbeState.initial handler.name world.registry)

def handlersAsk (world : ProbeWorld) : List (String × HandlerDef) → List Probed
  | [] => []
  | (operationId, handler) :: rest =>
    handlerAsks site app request operationId handler world ++
      handlersAsk (probeHandler site app request operationId handler world).2 rest

def appAsks (script : Except String (List (String × HandlerDef))) (world : ProbeWorld) :
    List Probed :=
  match script with
  | .error _ => []
  | .ok handlers => handlersAsk site app request world handlers

/-- Nothing was carried out or recorded, and the flags are as the next operation
expects them. -/
structure Spared (before after : ProbeWorld) : Prop where
  effects : after.effects = before.effects
  pending : after.pending = before.pending
  inActionClosure : after.flags.inActionClosure = before.flags.inActionClosure
  inProbe : after.flags.inProbe = before.flags.inProbe
  barrierHit : after.flags.barrierHitPending → before.flags.barrierHitPending

theorem Spared.refl (world : ProbeWorld) : Spared world world := ⟨rfl, rfl, rfl, rfl, id⟩

theorem Spared.trans {first second third : ProbeWorld} (left : Spared first second)
    (right : Spared second third) : Spared first third :=
  ⟨right.effects.trans left.effects, right.pending.trans left.pending,
    right.inActionClosure.trans left.inActionClosure, right.inProbe.trans left.inProbe,
    fun hit => left.barrierHit (right.barrierHit hit)⟩

def ThreadFlags.Outside (flags : ThreadFlags) : Prop :=
  flags.inActionClosure = false ∧ flags.inProbe = false

theorem Spared.outside {before after : ProbeWorld} (spared : Spared before after)
    (outside : before.flags.Outside) : after.flags.Outside :=
  ⟨spared.inActionClosure.trans outside.1, spared.inProbe.trans outside.2⟩

variable {world : ProbeWorld}

theorem probeHandler_grows (operationId : String) (handler : HandlerDef)
    (outside : world.flags.Outside) :
    Spared world (probeHandler site app request operationId handler world).2 ∧
      Grows site.tape limit world.registry
        (probeHandler site app request operationId handler world).2.registry
        (∀ one ∈ handlerAsks site app request operationId handler world,
          Probed.Settled site app.name world.registry.table.rows one) := by
  rw [probeHandler, handlerAsks]
  dsimp only
  split
  · exact ⟨.refl world, .refl _ (by simp)⟩
  · obtain ⟨idle, grows⟩ := probe_closure site (probeOperation site app operationId)
      (handler.closure (handler.params app request).1) handler.name world.registry
    refine ⟨⟨?_, ?_, outside.1.symm, outside.2.symm, ?_⟩, grows⟩
    · rw [idle.effects, append_nil]
    · rw [idle.pending, append_nil]
    · intro hit
      rw [idle.noHit] at hit
      cases hit

theorem probeHandlers_grows (handlers : List (String × HandlerDef)) (outside : world.flags.Outside) :
    Spared world (probeHandlers site app request world handlers).2 ∧
      Grows site.tape limit world.registry
        (probeHandlers site app request world handlers).2.registry
        (∀ one ∈ handlersAsk site app request world handlers,
          Probed.Settled site app.name world.registry.table.rows one) := by
  induction handlers generalizing world with
  | nil => exact ⟨.refl world, .refl _ (by simp [handlersAsk])⟩
  | cons first rest ih =>
    obtain ⟨operationId, handler⟩ := first
    have probed := probeHandler_grows site limit app request operationId handler outside
    have later := ih (probed.1.outside outside)
    refine ⟨probed.1.trans later.1, (probed.2.trans (fun rows => ∀ one ∈ _,
      Probed.Settled site app.name rows one) later.2).congr ?_⟩
    rw [handlersAsk, forall_mem_append]

/-- The instances in the database are the same, and everything else was spared. -/
structure NoEffect (before after : ProbeWorld) : Prop extends Spared before after where
  instances : after.registry.table.rows = before.registry.table.rows

/-- **Probing an app has no effect exactly if the database holds the instances of
everything its handlers ask for.** -/
theorem probe_has_no_effect_iff (script : Except String (List (String × HandlerDef)))
    (world : ProbeWorld) (outside : world.flags.Outside)
    (fresh : Fresh site.tape (probeApp site app request script world).2.registry.drawn
      world.registry) :
    NoEffect world (probeApp site app request script world).2 ↔
      ∀ one ∈ appAsks site app request script world,
        Probed.Settled site app.name world.registry.table.rows one := by
  have probed : Spared world (probeApp site app request script world).2 ∧
      Grows site.tape (probeApp site app request script world).2.registry.drawn world.registry
        (probeApp site app request script world).2.registry
        (∀ one ∈ appAsks site app request script world,
          Probed.Settled site app.name world.registry.table.rows one) := by
    cases script with
    | error => exact ⟨.refl world, .refl _ (by simp [appAsks])⟩
    | ok handlers => exact probeHandlers_grows site _ app request handlers outside
  rw [← probed.2.rows_eq_iff (le_refl _) fresh]
  exact ⟨NoEffect.instances, fun same => ⟨probed.1, same⟩⟩

end Probes

/-! ## A new service -/

/-- Ids in counting order, and an app of which nothing has been observed. -/
def shopSite : ProbeSite where
  tape := countingTape
  world := unobserved
  definedImage _ _ := none
  nowSecs := 0
  uuidV5 _ _ := InstanceId.nil
  anonVolumeId _ := InstanceId.nil

/-- The action `deploy`, which starts the service `web` and the job `migrate`. -/
def deployShop : Except String (List (String × HandlerDef)) :=
  .ok [("op1",
    { name := "deploy"
      kind := .action
      closure := fun _ => .call
        (.start (.collection [.service "web", .job "migrate" (some "shop:1")])) fun _ => .done
      schema := [] })]

def shopWorld (registry : Registry) : ProbeWorld := ⟨registry, ⟨false, false, false⟩, [], []⟩

def webRegistered : Registry :=
  (getOrCreateSingleton countingTape "shop" .service (some "web") .init).2

theorem probe_of_registered_service : NoEffect (shopWorld webRegistered)
      (probeApp shopSite ⟨"shop", []⟩ ⟨fun _ => [], false⟩ deployShop
        (shopWorld webRegistered)).2 := by
  refine (probe_has_no_effect_iff shopSite ⟨"shop", []⟩ ⟨fun _ => [], false⟩ deployShop
    (shopWorld webRegistered) ⟨rfl, rfl⟩ ⟨?_, ?_⟩).mpr ?_
  · decide
  · intro i drawn j below earlier
    have one : 1 ≤ i := drawn
    have two : j < 2 := below
    omega
  · have settled : AllExist shopSite "shop"
        [(.live, .service "web"), (.live, .job "migrate" (some "shop:1"))]
        webRegistered.table.rows := by
      have present : ∃ row ∈ webRegistered.table.rows,
          isSingletonOf "shop" .service (some "web") row := by decide
      simp only [AllExist, forall_mem_cons]
      exact ⟨.inr present, trivial, forall_mem_nil _⟩
    exact forall_mem_cons.mpr ⟨settled, forall_mem_nil _⟩

/-- **A probe creates the service it finds named**, before anything was deployed. -/
theorem probe_mints_service : (probeApp shopSite ⟨"shop", []⟩ ⟨fun _ => [], false⟩ deployShop
      (shopWorld .init)).2.registry.table.rows.map (fun row => (row.app, row.kind, row.name)) =
        [("shop", .service, some "web")] ∧
      ¬ NoEffect (shopWorld .init)
        (probeApp shopSite ⟨"shop", []⟩ ⟨fun _ => [], false⟩ deployShop (shopWorld .init)).2 :=
  ⟨by decide, fun none => absurd none.instances (by decide)⟩

end Seedling.Barrier
