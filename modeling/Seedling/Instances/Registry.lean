import Seedling.Identity
import Seedling.Foundation.Machine
import Seedling.Foundation.Table

/-!
# The instance registry

The table of resource instances, and the two ways to get instances from it: the singleton of
an `(app, kind, name)`, and a scaled group.  A row is inserted only if it clashes with no
other, in its id or, for a singleton, in its app, kind and name.

Ids are drawn at random: they come off a tape, `Registry.drawn` being how much of it is used
up; a job's id is nil and not drawn.  `computeSteady` asks for the instances an app should
have.
-/

namespace Seedling.Instances

open Foundation ResourceInstance

/-! ## The table -/

/-- The primary key is the id; among singletons, app, kind and name are unique,
an absent name being like no other. -/
def clash (first second : ResourceInstance) : Bool :=
  first.id = second.id ||
    (first.variant = .singleton && second.variant = .singleton && first.app = second.app &&
      first.kind = second.kind && first.name.isSome && first.name = second.name)

theorem clash_iff {first second : ResourceInstance} : clash first second ↔
    first.id = second.id ∨
      first.variant = .singleton ∧ second.variant = .singleton ∧ first.app = second.app ∧
        first.kind = second.kind ∧ first.name.isSome ∧ first.name = second.name := by
  simp [clash, and_assoc]

theorem clash_symmetric (first second : ResourceInstance) :
    clash first second = clash second first := by
  have swap : ∀ {first second : ResourceInstance}, clash first second →
      clash second first := by
    intro first second clashes
    rcases clash_iff.mp clashes with id | ⟨one, two, app, kind, named, name⟩
    · exact clash_iff.mpr (.inl id.symm)
    · exact clash_iff.mpr (.inr ⟨two, one, app.symm, kind.symm, name ▸ named, name.symm⟩)
  exact Bool.eq_iff_iff.mpr ⟨swap, swap⟩

structure Registry where
  table : Table clash
  /-- How many ids have been drawn. -/
  drawn : Nat

def Registry.init : Registry := ⟨.empty, 0⟩

inductive RegistryError where
  | queryReturnedNoRows

section Model

variable (tape : Nat → InstanceId)

/-- The instance to insert for a singleton.  A named job draws no id. -/
def candidate (app : String) (kind : ResourceKind) (name : Option String) (registry : Registry) :
    ResourceInstance × Registry :=
  match name with
  | some name =>
    (newSingleton (tape registry.drawn) app kind name,
      { registry with drawn := if kind = .job then registry.drawn else registry.drawn + 1 })
  | none =>
    (newAnonymous (tape registry.drawn) app kind, { registry with drawn := registry.drawn + 1 })

def isSingletonOf (app : String) (kind : ResourceKind) (name : Option String)
    (row : ResourceInstance) : Bool :=
  row.app = app && row.kind = kind && row.name = name && row.variant = .singleton

/-- Insert the singleton unless it is there, and read it back.  A failure rolls
the table back. -/
def getOrCreateSingleton (app : String) (kind : ResourceKind) (name : Option String)
    (registry : Registry) : Except RegistryError ResourceInstance × Registry :=
  let (instance', registry) := candidate tape app kind name registry
  let table := registry.table.insertOrIgnore instance'
  match table.rows.find? (isSingletonOf app kind name) with
  | none => (.error .queryReturnedNoRows, registry)
  | some row =>
    (.ok
      { id := row.id
        app
        kind
        name
        variant := .singleton
        displayName := row.displayName },
      { registry with table })

/-! ## Scaled groups -/

inductive InstanceReuse where
  | any
  | live

structure ScaledGroup where
  keep : List ResourceInstance
  excess : List ResourceInstance

structure World where
  ready : ResourceInstance → Bool
  tornDown : ResourceInstance → Bool

/-- Insert so many new scaled instances. -/
def mint (app : String) (kind : ResourceKind) (name : String) :
    Nat → Registry → List ResourceInstance × Registry
  | 0, registry => ([], registry)
  | count + 1, registry =>
    let instance' := newScaled (tape registry.drawn) app kind name
    let (more, registry) := mint app kind name count
      { table := registry.table.insertOrIgnore instance', drawn := registry.drawn + 1 }
    (instance' :: more, registry)

/-- Exactly `count` scaled instances, the ready ones first, and what is in excess
of them; singletons of the group are always in excess. -/
def ensureScaledGroup (world : World) (app : String) (kind : ResourceKind) (name : Option String)
    (count : Nat) (reuse : InstanceReuse) (registry : Registry) : ScaledGroup × Registry :=
  let existing := registry.table.rows.filter fun row =>
    row.app = app && row.kind = kind && row.name = name
  let singletons := existing.filter (·.variant = .singleton)
  let scaled := existing.filter (·.variant = .scaled)
  let (live, retired) :=
    match reuse with
    | .any => (scaled, [])
    | .live => scaled.partition (!world.tornDown ·)
  let (minted, registry) := mint tape app kind (name.getD "") (count - live.length) registry
  let observed := live.map (fun row => (row, world.ready row)) ++ minted.map (·, false)
  let sorted := (observed.mergeSort fun first second => first.2 || !second.2).map Prod.fst
  ({ keep := sorted.take count, excess := sorted.drop count ++ retired ++ singletons }, registry)

/-! ## Desired state -/

structure DesiredResource where
  instance' : ResourceInstance
  desired : LifecycleState
  demoted : Bool

/-- The resources an app declares, the scale in force of its deployments, and
what the operator has stopped. -/
structure AppResources where
  resources : List (ResourceKind × String)
  effectiveScales : String → Option Nat
  stopped : ResourceKind × String → Bool

/-- The desired instances of one resource: a group for a deployment that has a
scale, a singleton for anything else. -/
def steadyResource (world : World) (app : String) (declared : AppResources)
    (resource : ResourceKind × String) (registry : Registry) :
    Except RegistryError (List DesiredResource) × Registry :=
  let isStopped := declared.stopped resource
  match (if resource.1 = .deployment then declared.effectiveScales resource.2 else none) with
  | some effective =>
    let (group, registry) := ensureScaledGroup tape world app resource.1 (some resource.2)
      (if isStopped then 0 else effective) .any registry
    (.ok (group.keep.map (⟨·, .ready, false⟩) ++ group.excess.map (⟨·, .unscheduled, true⟩)),
      registry)
  | none =>
    match getOrCreateSingleton tape app resource.1 (some resource.2) registry with
    | (.error error, registry) => (.error error, registry)
    | (.ok instance', registry) =>
      (.ok [⟨instance', if isStopped then .unscheduled else .ready, false⟩], registry)

/-- The loop over an app's resources; it stops at the first failure. -/
def steadyResources (world : World) (app : String) (declared : AppResources) :
    List (ResourceKind × String) → Registry → Except RegistryError (List DesiredResource) × Registry
  | [], registry => (.ok [], registry)
  | resource :: rest, registry =>
    match steadyResource tape world app declared resource registry with
    | (.error error, registry) => (.error error, registry)
    | (.ok desired, registry) =>
      match steadyResources world app declared rest registry with
      | (.error error, registry) => (.error error, registry)
      | (.ok more, registry) => (.ok (desired ++ more), registry)

def computeSteady (world : World) (app : String) (declared : AppResources) (registry : Registry) :
    Except RegistryError (List DesiredResource) × Registry :=
  steadyResources tape world app declared declared.resources registry

end Model

/-! ## The machine -/

inductive RegistryCall where
  | singleton (app : String) (kind : ResourceKind) (name : String)
  | scaledGroup (world : World) (app : String) (kind : ResourceKind) (name : String) (count : Nat)
      (reuse : InstanceReuse)
  | steady (world : World) (app : String) (declared : AppResources)

/-- Serve one call; the answer lists the instances it gives. -/
def Registry.step (tape : Nat → InstanceId) (registry : Registry) :
    RegistryCall → Except RegistryError (List ResourceInstance) × Registry
  | .singleton app kind name =>
    let (answer, registry) := getOrCreateSingleton tape app kind (some name) registry
    (answer.map ([·]), registry)
  | .scaledGroup world app kind name count reuse =>
    let (group, registry) :=
      ensureScaledGroup tape world app kind (some name) count reuse registry
    (.ok (group.keep ++ group.excess), registry)
  | .steady world app declared =>
    let (answer, registry) := computeSteady tape world app declared registry
    (answer.map (·.map DesiredResource.instance'), registry)

def registryMachine (tape : Nat → InstanceId) :
    Machine Registry RegistryCall (Except RegistryError (List ResourceInstance)) where
  step := Registry.step tape

end Seedling.Instances
