import Seedling.Container.Definition
import Seedling.Foundation.CommandLine
import Seedling.Foundation.Separated

/-!
# From a definition to the command that runs it

`specFromPod` resolves a container definition, for one instance and in one context,
to a `ContainerSpec`; `podmanArgs` is the command line that runs it.  The hash of the
specification is stamped on it as a label, so that a later look at the running
container can tell whether starting it now would run something else.
-/

namespace Seedling

def InstanceId.toHex (id : InstanceId) : String :=
  String.ofList ((List.range 32).map fun i => hexDigit (id.toNat >>> (124 - 4 * i)))

end Seedling

namespace Seedling.Container

open Foundation Foundation.CommandLine List

/-! ## Mount sources -/

inductive MountSource where
  | volume (name : String)
  | bind (path : String)
  | tmpfs
deriving DecidableEq

structure Mount where
  source : MountSource
  target : String
  readOnly : Bool

structure ResolvedExternalMount where
  source : MountSource
  readOnly : Bool

def joinPath (dir name : String) : String :=
  if dir.toList.getLast? = some '/' then dir ++ name else dir ++ "/" ++ name

structure SiteVolume where
  name : String
  kind : SiteVolumeKind

inductive VolumeRef where
  | site (name : String)
  | app (app volume : String)

structure ExternalVolumeMapping where
  externalName : String
  target : VolumeRef
  readOnly : Bool

def sitePath (volumesDir : String) (name : String) : String := joinPath volumesDir ("site-" ++ name)

def SiteVolume.path (volumesDir : String) (site : SiteVolume) : String :=
  match site.kind with
  | .managed | .snapshot => sitePath volumesDir site.name
  | .bind hostPath => hostPath

/-- What a mapping stands for; one to a site volume that is gone stands for nothing. -/
def resolveMapping (volumesDir : String) (sites : List SiteVolume)
    (mapping : ExternalVolumeMapping) : Option ResolvedExternalMount :=
  match mapping.target with
  | .site name =>
    (sites.find? (·.name = name)).map fun site =>
      ⟨.bind (site.path volumesDir), mapping.readOnly || site.kind.isReadOnly⟩
  | .app app volume =>
    some ⟨.bind (joinPath volumesDir (VolumeName.forApp app volume)), mapping.readOnly⟩

/-- The mounts of an app's external volumes.  An app has one mapping of a name. -/
def resolveExternalVolumes (volumesDir : String) (mappings : List ExternalVolumeMapping)
    (sites : List SiteVolume) (name : String) : Option ResolvedExternalMount :=
  mappings.findSome? fun mapping =>
    if mapping.externalName = name then resolveMapping volumesDir sites mapping else none

/-! ## Specifications -/

structure HealthCheckSpec where
  command : List String
  interval : Nat
  timeout : Nat
  retries : Nat
  startPeriod : Nat

structure ContainerSpec where
  name : String
  image : String
  command : List String
  entrypoint : List String
  env : List EnvVar
  mounts : List Mount
  network : String
  labels : List (String × String)
  health : Option HealthCheckSpec
  hosts : List (String × String)
  dnsServers : List String
  memory : Option String
  cpus : Option String
  extraCaps : List String
  writableRootfs : Bool
  pidsLimit : Nat
  workdir : Option String
  user : Option String
  stopSignal : Option String
  stopTimeoutSecs : Option Nat

/-- Set a label; labels are kept in the order of their keys. -/
def insertLabel (key value : String) : List (String × String) → List (String × String)
  | [] => [(key, value)]
  | (other, held) :: rest =>
    match compareText key.toList other.toList with
    | .lt => (key, value) :: (other, held) :: rest
    | .eq => (key, value) :: rest
    | .gt => (other, held) :: insertLabel key value rest

def removeLabel (key : String) (labels : List (String × String)) : List (String × String) :=
  labels.filter (·.1 ≠ key)

/-! ## The command line -/

/-- A character inside a quoted text. -/
def escapeChar (c : Char) : List Char :=
  if c = '"' then ['\\', '"']
  else if c = '\\' then ['\\', '\\']
  else if c = '\n' then ['\\', 'n']
  else if c = '\r' then ['\\', 'r']
  else if c = '\t' then ['\\', 't']
  else if c.toNat = 8 then ['\\', 'b']
  else if c.toNat = 12 then ['\\', 'f']
  else if c.toNat < 32 then
    ['\\', 'u', '0', '0', InstanceId.hexDigit (c.toNat / 16), InstanceId.hexDigit c.toNat]
  else [c]

def jsonText (text : String) : String :=
  "\"" ++ String.ofList (text.toList.flatMap escapeChar) ++ "\""

def jsonArray (texts : List String) : String :=
  "[" ++ String.intercalate "," (texts.map jsonText) ++ "]"

def MountSource.text : MountSource → String
  | .volume name => name
  | .bind path => path
  | .tmpfs => ""

/-- The value that asks podman for a mount. -/
def Mount.volumeText (mount : Mount) : String :=
  mount.source.text ++ ":" ++ mount.target ++ if mount.readOnly then ":ro" else ""

def Mount.args (mount : Mount) : List String :=
  match mount.source with
  | .tmpfs => ["--mount", "type=tmpfs,destination=" ++ mount.target]
  | .volume _ | .bind _ => ["--volume", mount.volumeText]

def HealthCheckSpec.args (health : HealthCheckSpec) : List String :=
  ["--health-cmd", jsonArray health.command,
    "--health-interval", toString health.interval ++ "s",
    "--health-timeout", toString health.timeout ++ "s",
    "--health-retries", toString health.retries,
    "--health-start-period", toString health.startPeriod ++ "s",
    "--health-on-failure", "none"]

/-- The command that runs a specification.  An entrypoint is passed in front of the
command, with the image's own cleared. -/
def podmanArgs (spec : ContainerSpec) : List String :=
  flatten
    [["podman", "run", "--rm", "--log-driver=none", "--cap-drop=ALL"],
      spec.extraCaps.map ("--cap-add=" ++ ·),
      ["--security-opt", "no-new-privileges"],
      if spec.writableRootfs then [] else ["--read-only", "--tmpfs", "/tmp"],
      ["--pids-limit", toString spec.pidsLimit, "--ulimit", "nofile=65536:65536"],
      spec.memory.toList.map ("--memory=" ++ ·),
      spec.cpus.toList.map ("--cpus=" ++ ·),
      spec.workdir.toList.map ("--workdir=" ++ ·),
      spec.user.toList.flatMap fun user => ["--user", user],
      ["--name", spec.name, "--network", spec.network],
      spec.env.flatMap fun var => ["--env", var.toText],
      spec.mounts.flatMap Mount.args,
      spec.labels.flatMap fun label => ["--label", label.1 ++ "=" ++ label.2],
      spec.hosts.flatMap fun host => ["--add-host", host.1 ++ ":" ++ host.2],
      spec.dnsServers.flatMap fun dns => ["--dns", dns],
      spec.health.toList.flatMap HealthCheckSpec.args,
      if spec.entrypoint = [] then [] else ["--entrypoint", "[]"],
      [spec.image],
      spec.entrypoint,
      spec.command]

/-! ## The hash of a specification -/

def specHashLabel : String := "seedling.spec-hash"

def restartGenLabel : String := "seedling.restart-gen"

/-- How the stop settings of the unit take part in the hash, where they are set. -/
def ContainerSpec.stopArgs (spec : ContainerSpec) : List String :=
  spec.stopSignal.toList.map ("--seedling-stop-signal=" ++ ·) ++
    spec.stopTimeoutSecs.toList.map ("--seedling-stop-timeout=" ++ toString ·)

/-- The specification without its own hash. -/
def ContainerSpec.hashable (spec : ContainerSpec) : ContainerSpec :=
  { spec with labels := removeLabel specHashLabel spec.labels }

def ContainerSpec.hashedText (spec : ContainerSpec) : String :=
  joinText (Char.ofNat 0) (podmanArgs spec.hashable ++ spec.stopArgs)

section Spec

variable (sha256 : String → String)

def specHash (spec : ContainerSpec) : String := sha256 spec.hashedText

/-! ## Resolving a definition -/

structure PodNetwork where
  name : String
  mountAddress : String

structure SpecContext where
  network : PodNetwork
  serviceMounts : List (Nat × String × Nat)
  dnsServers : List String
  volumesDir : Option String
  externalVolumes : String → Option ResolvedExternalMount

def tmpfsVolumesDir : String := "/run/seedling/tmpfs-volumes"

def VolumeKey.hostName (app : String) : VolumeKey → String
  | .named name => VolumeName.forApp app name
  | .anonymous anonId => anonId

def Volume.source (app : String) (volumesDir : Option String) (volume : Volume) : MountSource :=
  let name := volume.key.hostName app
  if volume.tmpfs then .bind (joinPath tmpfsVolumesDir name)
  else
    match volume.key, volumesDir with
    | .named _, some dir => .bind (joinPath dir name)
    | _, _ => .volume name

/-- A mount as it is resolved: an operation's own binding comes before the mappings. -/
def resolveMount (app : String) (context : SpecContext) (path : String) : VolumeMount → Mount
  | .volume volume => ⟨volume.source app context.volumesDir, path, false⟩
  | .externalVolume external =>
    match external.operationBinding with
    | some binding => ⟨.bind binding.hostPath, path, binding.readOnly⟩
    | none =>
      match context.externalVolumes external.name with
      | some resolved => ⟨resolved.source, path, resolved.readOnly⟩
      | none => ⟨.volume external.name, path, false⟩

def instanceLabels (inst : ResourceInstance) : List (String × String) :=
  insertLabel "seedling.unit-gen" "1" (insertLabel "seedling.display-name" inst.displayName
      (insertLabel "seedling.kind" inst.kind.debug (insertLabel "seedling.instance" inst.id.toHex
          (insertLabel "seedling.app" inst.app []))))

variable (container : ContainerDef)

/-- The specification before its hash is stamped on it. -/
def unstampedSpec (inst : ResourceInstance) (context : SpecContext) :
    ContainerSpec where
  name := inst.displayName
  image := container.image.getD ""
  command := container.args.getD []
  entrypoint := container.command.getD []
  env := container.env
  mounts := container.volumeMounts.map fun (path, mount) => resolveMount inst.app context path mount
  network := context.network.name
  labels := instanceLabels inst
  health := container.healthcheck.map fun check =>
    ⟨check.cmd, check.intervalSecs, check.timeoutSecs, check.retries, check.startPeriodSecs⟩
  hosts :=
    if context.serviceMounts = [] then [] else [("localmount", context.network.mountAddress)]
  dnsServers := context.dnsServers
  memory := container.memory
  cpus := container.cpus
  extraCaps := container.extraCaps
  writableRootfs := container.writableRootfs
  pidsLimit := container.pidsLimit.getD 256
  workdir := container.workdir
  user := container.user
  stopSignal := container.stopSignal
  stopTimeoutSecs := container.stopTimeoutSecs

def specFromPod (inst : ResourceInstance) (context : SpecContext) : ContainerSpec :=
  let spec := unstampedSpec container inst context
  { spec with labels := insertLabel specHashLabel (specHash sha256 spec) spec.labels }

/-- The specification of an instance that has been asked to restart `restartGen` times. -/
def restartedSpec (inst : ResourceInstance) (context : SpecContext) (restartGen : Nat) :
    ContainerSpec :=
  let spec := specFromPod sha256 container inst context
  if 0 < restartGen then
    { spec with labels := insertLabel restartGenLabel (toString restartGen) spec.labels }
  else spec

def deploymentSpec := restartedSpec

def jobSpec := restartedSpec

/-- What the specification of an instance depends on besides its definition. -/
structure Surroundings where
  network : PodNetwork
  serviceMounts : List (Nat × String × Nat)
  dnsServers : List String
  volumesDir : String
  mappings : List ExternalVolumeMapping
  sites : List SiteVolume
  restartGen : Nat

namespace Surroundings

variable (around : Surroundings)

def context : SpecContext where
  network := around.network
  serviceMounts := around.serviceMounts
  dnsServers := around.dnsServers
  volumesDir := some around.volumesDir
  externalVolumes := resolveExternalVolumes around.volumesDir around.mappings around.sites

def spec (container : ContainerDef) (inst : ResourceInstance) : ContainerSpec :=
  restartedSpec sha256 container inst around.context around.restartGen

end Surroundings

end Spec

/-! ## Taking the command line apart -/

def Mount.option (mount : Mount) : Written :=
  match mount.source with
  | .tmpfs => .separate "mount" ("type=tmpfs,destination=" ++ mount.target)
  | .volume _ | .bind _ => .separate "volume" mount.volumeText

def HealthCheckSpec.options (health : HealthCheckSpec) : List Written :=
  [.separate "health-cmd" (jsonArray health.command),
    .separate "health-interval" (toString health.interval ++ "s"),
    .separate "health-timeout" (toString health.timeout ++ "s"),
    .separate "health-retries" (toString health.retries),
    .separate "health-start-period" (toString health.startPeriod ++ "s"),
    .separate "health-on-failure" "none"]

def labelOption (label : String × String) : Written := .separate "label" (label.1 ++ "=" ++ label.2)

/-- The options in front of the mounts. -/
def ContainerSpec.leading (spec : ContainerSpec) : List Written :=
  flatten [[.bare "rm", .attached "log-driver" "none", .attached "cap-drop" "ALL"],
      spec.extraCaps.map (.attached "cap-add"),
      [.separate "security-opt" "no-new-privileges"],
      if spec.writableRootfs then [] else [.bare "read-only", .separate "tmpfs" "/tmp"],
      [.separate "pids-limit" (toString spec.pidsLimit), .separate "ulimit" "nofile=65536:65536"],
      spec.memory.toList.map (.attached "memory"),
      spec.cpus.toList.map (.attached "cpus"),
      spec.workdir.toList.map (.attached "workdir"),
      spec.user.toList.map (.separate "user"),
      [.separate "name" spec.name, .separate "network" spec.network],
      spec.env.map fun var => .separate "env" var.toText]

/-- The options behind the labels. -/
def ContainerSpec.trailing (spec : ContainerSpec) : List Written :=
  flatten [spec.hosts.map fun host => .separate "add-host" (host.1 ++ ":" ++ host.2),
      spec.dnsServers.map (.separate "dns"),
      spec.health.toList.flatMap HealthCheckSpec.options,
      if spec.entrypoint = [] then [] else [.separate "entrypoint" "[]"]]

def ContainerSpec.options (spec : ContainerSpec) : List Written :=
  spec.leading ++ spec.mounts.map Mount.option ++ spec.labels.map labelOption ++ spec.trailing

theorem Mount.args_eq : Mount.args = fun mount => mount.option.render := by
  funext mount
  rw [Mount.args, Mount.option]
  split <;> rfl

theorem HealthCheckSpec.args_eq :
    HealthCheckSpec.args = fun health => health.options.flatMap Written.render := by
  funext health
  simp [HealthCheckSpec.args, HealthCheckSpec.options, Written.render]

theorem render_attached (name text : String) (spelled : "--" ++ name ++ "=" = text)
    (values : List String) :
    (values.map (Written.attached name)).flatMap Written.render = values.map (text ++ ·) := by
  simp only [map_eq_flatMap, flatMap_assoc, flatMap_singleton, Written.render,
    spelled]

variable (spec : ContainerSpec)

/-- **The command line of a specification**: its options, the image, the command. -/
theorem podmanArgs_eq : podmanArgs spec =
      "podman" :: "run" :: (spec.options.flatMap Written.render ++
        spec.image :: (spec.entrypoint ++ spec.command)) := by
  have rootfs : (if spec.writableRootfs then []
      else [Written.bare "read-only", .separate "tmpfs" "/tmp"]).flatMap Written.render =
      if spec.writableRootfs then [] else ["--read-only", "--tmpfs", "/tmp"] := by
    cases spec.writableRootfs <;> decide
  have entrypoint : (if spec.entrypoint = [] then []
      else [Written.separate "entrypoint" "[]"]).flatMap Written.render =
      if spec.entrypoint = [] then [] else ["--entrypoint", "[]"] := by
    split <;> decide
  simp only [podmanArgs, ContainerSpec.options, ContainerSpec.leading, ContainerSpec.trailing,
    labelOption, flatten_cons, flatten_nil,
    flatMap_append, rootfs, entrypoint, Mount.args_eq, HealthCheckSpec.args_eq,
    flatMap_map, flatMap_assoc,
    render_attached "cap-add" "--cap-add=" (by decide),
    render_attached "memory" "--memory=" (by decide),
    render_attached "cpus" "--cpus=" (by decide),
    render_attached "workdir" "--workdir=" (by decide),
    flatMap_cons, Written.render, String.reduceAppend, cons_append, nil_append,
    append_nil, append_assoc]

/-! ## Options by name -/

/-- The options written with their value attached. -/
def attachedNames : List String :=
  ["log-driver", "cap-drop", "cap-add", "memory", "cpus", "workdir"]

/-- The options written apart from their value, mounts and labels aside. -/
def separateNames : List String :=
  ["security-opt", "tmpfs", "pids-limit", "ulimit", "user", "name", "network", "env", "add-host",
    "dns", "health-cmd", "health-interval", "health-timeout", "health-retries",
    "health-start-period", "health-on-failure", "entrypoint"]

/-- An option that is neither a mount nor a label, whatever its value. -/
inductive Setting : Written → Prop where
  | bare {name : String} (listed : name ∈ ["rm", "read-only"]) : Setting (.bare name)
  | attached {name : String} (listed : name ∈ attachedNames) (value : String) :
      Setting (.attached name value)
  | separate {name : String} (listed : name ∈ separateNames) (value : String) :
      Setting (.separate name value)

variable {name : String}

theorem settings_separate (listed : name ∈ separateNames) {α : Type} (value : α → String)
    (items : List α) :
    ∀ option ∈ items.map fun item => Written.separate name (value item), Setting option :=
  forall_mem_map.mpr fun item _ => .separate listed (value item)

theorem settings_attached (listed : name ∈ attachedNames) (values : List String) :
    ∀ option ∈ values.map (Written.attached name), Setting option :=
  forall_mem_map.mpr fun value _ => .attached listed value

theorem setting_of_leading : ∀ option ∈ spec.leading, Setting option := by
  have rootfs : ∀ option ∈ (if spec.writableRootfs then []
      else [Written.bare "read-only", .separate "tmpfs" "/tmp"]), Setting option := by
    split
    · nofun
    · simp only [forall_mem_cons]
      exact ⟨.bare (by decide), .separate (by decide) _, nofun⟩
  simp only [ContainerSpec.leading, flatten_cons, flatten_nil, append_nil,
    forall_mem_append, forall_mem_cons]
  exact ⟨⟨.bare (by decide), .attached (by decide) _, .attached (by decide) _, nofun⟩,
    settings_attached (by decide) _, ⟨.separate (by decide) _, nofun⟩, rootfs,
    ⟨.separate (by decide) _, .separate (by decide) _, nofun⟩,
    settings_attached (by decide) _, settings_attached (by decide) _,
    settings_attached (by decide) _, settings_separate (by decide) id _,
    ⟨.separate (by decide) _, .separate (by decide) _, nofun⟩,
    settings_separate (by decide) EnvVar.toText _⟩

theorem setting_of_trailing : ∀ option ∈ spec.trailing, Setting option := by
  have health : ∀ check : HealthCheckSpec, ∀ option ∈ check.options, Setting option := by
    intro check
    simp only [HealthCheckSpec.options, forall_mem_cons]
    exact ⟨.separate (by decide) _, .separate (by decide) _, .separate (by decide) _,
      .separate (by decide) _, .separate (by decide) _, .separate (by decide) _, nofun⟩
  have entrypoint : ∀ option ∈ (if spec.entrypoint = [] then []
      else [Written.separate "entrypoint" "[]"]), Setting option := by
    split
    · nofun
    · simp only [forall_mem_cons]
      exact ⟨.separate (by decide) _, nofun⟩
  simp only [ContainerSpec.trailing, flatten_cons, flatten_nil, append_nil,
    forall_mem_append]
  refine ⟨settings_separate (by decide) _ _, settings_separate (by decide) id _, ?_, entrypoint⟩
  intro option mem
  obtain ⟨check, _, listed⟩ := mem_flatMap.mp mem
  exact health check option listed

end Seedling.Container
