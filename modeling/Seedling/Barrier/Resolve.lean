import Seedling.Barrier.Log
import Seedling.Paths

/-!
# What a call can see, and the instances its arguments stand for

`extractInstances` turns an argument of a call, resources of the definition or a `Started`
of the same pass, into instances through the registry; anonymous resources and named jobs get
ids derived from the operation instead, so that every pass finds the same ones.

Everything outside the pass that a call consults is in `Env`: the instance registry, the
scaling decisions, the world oracle, the clock, the cancel flag and the hooks.  Each call has
an `Env` of its own, so the world may move between any two.
-/

namespace Seedling.Barrier

/-! ## Script values -/

/-- A resource of the app definition, as a script holds it.  An empty name is an
anonymous resource made inside the closure. -/
inductive Resource where
  | deployment (name : String) (low high : Nat) (image : Option String)
  | job (name : String) (image : Option String)
  | service (name : String)
  | ingress (name : String) (tls : Bool)
  | action (name : String)
  | other

def Resource.image : Resource → Option String
  | .deployment _ _ _ image => image
  | .job _ image => image
  | _ => none

/-- An instance with the definition it came with, if the script held one. -/
abbrev Extracted := ResourceInstance × Option Resource

inductive WarmMode where
  | none
  | certs
  | images (pairs : List (ResourceInstance × String))

/-- What `rt.start` and its siblings return: the group of instances, and the log
position of the call barriers on the group belong to. -/
structure Started where
  resources : List ResourceInstance
  warm : WarmMode
  originIndex : Option Nat

def Started.narrowedTo (started : Started) (keep : ResourceInstance → Bool) : Started where
  resources := started.resources.filter keep
  warm :=
    match started.warm with
    | .images pairs => .images (pairs.filter fun pair => keep pair.1)
    | other => other
  originIndex := started.originIndex

/-- A `Started` the script holds: one an earlier call of the pass returned,
narrowed by the collection methods applied to it since. -/
structure StartedRef where
  handle : Nat
  keep : ResourceInstance → Bool

inductive Target where
  | resource (resource : Resource)
  | collection (resources : List Resource)
  | started (ref : StartedRef)

inductive VolumeWriteTarget where
  | namedVolume (name : String) (tmpfs : Bool)
  | anonymousVolume (anonId : String) (tmpfs : Bool)
  | externalBound (hostPath : String)

inductive VolumeArg where
  | volume (name anonId : Option String) (tmpfs : Bool)
  | externalVolume (name : String) (hostPath : Option String)
  | other

/-! ## The environment of a call -/

/-- Whether a group may resolve to instances already torn down. -/
inductive InstanceReuse where
  | live
  | any
deriving DecidableEq

/-- What a call consults outside its pass. -/
structure Env where
  effectiveScale : String → Nat → Nat → Except String Nat
  ensureScaledGroup : String → Nat → InstanceReuse → Except String (List ResourceInstance)
  getOrCreateSingleton : ResourceKind → String → Except String ResourceInstance
  findAllInstances : String → ResourceKind → String → Except String (List ResourceInstance)
  definedImage : ResourceKind → String → Option String
  drawId : InstanceId
  lifecycleState : ResourceInstance → LifecycleState
  certValidFor : ResourceInstance → Bool
  imagePresent : String → Bool
  terminationSuccess : ResourceInstance → Option Bool
  nowSecs : Nat
  cancelled : Bool
  signaler : Option (String → String → Except String Bool)
  writer : Option (String → VolumeWriteTarget → String → List UInt8 → Except String Unit)
  executor : Option (String → List String → List (String × String) → Except String Int)
  bumpRestartGen : String → Except String Unit
  hasAction : String → Bool
  validateCallParams : String → Params → Except String Params
  /-- How a stored extra is shown. -/
  debugExtra : Option Extra → String
  /-- What is wrong with a text read as JSON. -/
  jsonError : String → Option String

/-- What stays the same over all passes of an operation. -/
structure Operation where
  app : String
  operationId : String
  uuidV5 : String → String → InstanceId
  anonVolumeId : String → InstanceId

/-! ## Extraction -/

section Extraction

variable (op : Operation) (env : Env)

def anonymousInstance (kind : ResourceKind) (key short : String) (counter : Nat) :
    ResourceInstance :=
  let id := op.uuidV5 op.operationId s!"anon-{key}:{counter}"
  { id := id
    app := op.app
    kind := kind
    name := none
    variant := .singleton
    displayName := s!"{op.app}-anon-{short}-{id.displaySuffix}" }

/-- The instance of a named job, the same one throughout the operation. -/
def operationJob (name : String) : ResourceInstance :=
  let id := op.uuidV5 op.operationId s!"job:{name}"
  { id := id
    app := op.app
    kind := .job
    name := some name
    variant := .singleton
    displayName := s!"{op.app}-{name}-{id.displaySuffix}" }

/-- The instances of a named deployment: as many as its effective scale, and
one at least. -/
def deploymentInstances (reuse : InstanceReuse) (name : String) (low high : Nat) :
    Except String (List Extracted) := do
  let scale ← env.effectiveScale name low high
  let keep ← env.ensureScaledGroup name (max scale 1) reuse
  return keep.map fun inst => (inst, none)

/-- The instances of one resource.  The counter numbers the anonymous resources
of the pass. -/
def extractResource (reuse : InstanceReuse) (counter : Nat) :
    Resource → Except String (List Extracted) × Nat
  | .deployment name low high image =>
    if name = "" then
      (.ok [(anonymousInstance op .deployment "deployment" "dep" counter,
        some (.deployment name low high image))], counter + 1)
    else (deploymentInstances env reuse name low high, counter)
  | .job name image =>
    if name = "" then
      (.ok [(anonymousInstance op .job "job" "job" counter, some (.job name image))], counter + 1)
    else (.ok [(operationJob op name, some (.job name image))], counter)
  | .service name =>
    if name = "" then
      (.ok [(anonymousInstance op .service "service" "svc" counter, some (.service name))],
        counter + 1)
    else ((env.getOrCreateSingleton .service name).map fun inst => [(inst, none)], counter)
  | .ingress name tls =>
    ((env.getOrCreateSingleton .ingress name).map fun inst => [(inst, some (.ingress name tls))],
      counter)
  | .action name =>
    (.error s!"rt.start does not invoke actions: pass Action \"{name}\" to .call() instead",
      counter)
  | .other => (.ok [], counter)

def extractCollection (reuse : InstanceReuse) (counter : Nat) :
    List Resource → Except String (List Extracted) × Nat
  | [] => (.ok [], counter)
  | resource :: rest =>
    match extractResource op env reuse counter resource with
    | (.error text, counter) => (.error text, counter)
    | (.ok found, counter) =>
      match extractCollection reuse counter rest with
      | (.error text, counter) => (.error text, counter)
      | (.ok more, counter) => (.ok (found ++ more), counter)

def StartedRef.lookup (ref : StartedRef) (handles : List Started) : Option Started :=
  (handles[ref.handle]?).map fun started => started.narrowedTo ref.keep

def extractInstances (reuse : InstanceReuse) (handles : List Started) (counter : Nat) :
    Target → Except String (List Extracted) × Nat
  | .resource resource => extractResource op env reuse counter resource
  | .collection resources => extractCollection op env reuse counter resources
  | .started ref =>
    match ref.lookup handles with
    | none => (.error "Variable not found", counter)
    | some started => (.ok (started.resources.map fun inst => (inst, none)), counter)

end Extraction

/-! ## Images, signals and deadlines -/

/-- The image of each deployment and job that has one. -/
def extractContainerImages (env : Env) (extracted : List Extracted) :
    List (ResourceInstance × String) :=
  extracted.filterMap fun (inst, definition) =>
    if inst.kind = .deployment ∨ inst.kind = .job then
      let image :=
        match definition with
        | some resource => resource.image
        | none => inst.name.bind (env.definedImage inst.kind)
      (image.filter (· ≠ "")).map fun image => (inst, image)
    else none

/-- The distinct image references, in order of first appearance. -/
def dedupImageRefs (pairs : List (ResourceInstance × String)) : List String :=
  pairs.foldl (fun refs pair => if refs.contains pair.2 then refs else refs ++ [pair.2]) []

def knownSignals : List String :=
  ["HUP", "INT", "QUIT", "ILL", "TRAP", "ABRT", "BUS", "FPE", "KILL", "USR1", "SEGV", "USR2",
    "PIPE", "ALRM", "TERM", "STKFLT", "CHLD", "CONT", "STOP", "TSTP", "TTIN", "TTOU", "URG",
    "XCPU", "XFSZ", "VTALRM", "PROF", "WINCH", "IO", "POLL", "PWR", "SYS"]

def isWhiteSpace (c : Char) : Bool :=
  (9 ≤ c.toNat && c.toNat ≤ 13) || (0x2000 ≤ c.toNat && c.toNat ≤ 0x200a) ||
    [0x20, 0x85, 0xa0, 0x1680, 0x2028, 0x2029, 0x202f, 0x205f, 0x3000].contains c.toNat

def trimChars (chars : List Char) : List Char :=
  ((chars.dropWhile isWhiteSpace).reverse.dropWhile isWhiteSpace).reverse

def canonicaliseSignalName (input : String) : Option String :=
  let upper := (trimChars input.toList).map Char.toUpper
  let bare := if ['S', 'I', 'G'].isPrefixOf upper then upper.drop 3 else upper
  if knownSignals.contains (String.ofList bare) then some ("SIG" ++ String.ofList bare) else none

example : canonicaliseSignalName " hup" = some "SIGHUP" := by decide

def defaultScheduledDeadlineSecs : Nat := 30
def defaultRunningDeadlineSecs : Nat := 30
def defaultReadyDeadlineSecs : Nat := 30
def defaultTerminatedDeadlineSecs : Nat := 6 * 3600
def defaultStopDeadlineSecs : Nat := 30

def resolveDeadline (d : Int) (defaultSecs : Nat) : Except String Nat :=
  if d = 0 then .ok defaultSecs
  else if d < 0 then .error s!"deadline must be a positive number of seconds, got {d}"
  else .ok d.toNat

def deadlineArg (d : Option Int) (defaultSecs : Nat) : Except String Nat :=
  match d with
  | none => .ok defaultSecs
  | some d => resolveDeadline d defaultSecs

end Seedling.Barrier
