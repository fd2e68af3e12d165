import Seedling.Barrier.Resolve
import Seedling.Foundation.Fallible

/-!
# Container definitions

What the builder methods of a container accept, and the definition they make.
`build` runs a list of builder calls; a definition it returns is `WellFormed`: its
image passed `validateImageRef` and every path it mounts at passed
`validateMountpoint` (`build_wellFormed`).
-/

namespace Seedling.Container

open Foundation List
open Barrier (trimChars isWhiteSpace canonicaliseSignalName)

/-! ## Volumes and mounts -/

/-- Which volume a value stands for: a named volume of the app, or one that an
action closure made without a name. -/
inductive VolumeKey where
  | named (name : String)
  | anonymous (anonId : String)
deriving DecidableEq

structure Volume where
  key : VolumeKey
  tmpfs : Bool
  writes : List (String × String)
deriving DecidableEq

/-- The host path an operation binds an external volume to. -/
structure VolumeBinding where
  hostPath : String
  readOnly : Bool
deriving DecidableEq

structure ExternalVolume where
  name : String
  operationBinding : Option VolumeBinding
deriving DecidableEq

inductive VolumeMount where
  | volume (volume : Volume)
  | externalVolume (volume : ExternalVolume)
deriving DecidableEq

/-! ## Mountpoints -/

def forbiddenMountpoints : List String :=
  ["/", "/proc", "/sys", "/dev", "/etc", "/bin", "/sbin", "/lib", "/lib64", "/usr", "/boot", "/run"]

/-- The segments a path leads to, one component after another. -/
def followComponent (segments : List String) : Component → List String
  | .rootDir | .curDir => segments
  | .parentDir => segments.dropLast
  | .normal segment => segments ++ [segment]

/-- The path with `.`, `..` and repeated separators resolved. -/
def canonicalPath (path : String) : String :=
  "/" ++ String.intercalate "/" ((components path).foldl followComponent [])

def validateMountpoint (path : String) : Except String Unit :=
  if path.toList.contains (Char.ofNat 0) then .error "mountpoint must not contain null bytes"
  else if path.toList.head? ≠ some '/' then
    .error s!"mountpoint must be an absolute path, got '{path}'"
  else
    match forbiddenMountpoints.find? (canonicalPath path = ·) with
    | some forbidden =>
      .error s!"mountpoint '{path}' resolves to forbidden path '{forbidden}'"
    | none => .ok ()

variable {path : String}

theorem canonicalPath_not_forbidden (accepted : validateMountpoint path = .ok ()) :
    canonicalPath path ∉ forbiddenMountpoints := by
  intro forbidden
  rw [validateMountpoint] at accepted
  split at accepted
  · cases accepted
  · split at accepted
    · cases accepted
    · cases found : forbiddenMountpoints.find? (canonicalPath path = ·) with
      | none =>
        have apart := find?_eq_none.mp found _ forbidden
        simp at apart
      | some => simp [found] at accepted

example : validateMountpoint "/etc/" =
    .error "mountpoint '/etc/' resolves to forbidden path '/etc'" := by decide

/-! ## Image references -/

def splitOnce (separator : Char) (text : List Char) : Option (List Char × List Char) :=
  if separator ∈ text then
    some (text.takeWhile (· ≠ separator), (text.dropWhile (· ≠ separator)).tail)
  else none

def splitLast (separator : Char) (text : List Char) : Option (List Char × List Char) :=
  (splitOnce separator text.reverse).map fun (after, before) => (before.reverse, after.reverse)

def isLowerOrDigit (c : Char) : Bool := c.isLower || c.isDigit

def isLowerHex (c : Char) : Bool := c.isDigit || ('a' ≤ c && c ≤ 'f')

def validateDigest (image : String) (digest : List Char) : Except String Unit :=
  match splitOnce ':' digest with
  | none => .error s!"invalid image digest (expected algorithm:hex): '{image}'"
  | some (algo, hex) =>
    let algoText := String.ofList algo
    let hexText := String.ofList hex
    if algo = [] ∨ ¬ algo.all isLowerOrDigit then
      .error s!"invalid digest algorithm: '{algoText}'"
    else if hex.length < 32 ∨ ¬ hex.all isLowerHex then
      .error ("invalid digest hex (must be at least 32 lowercase hex characters): " ++
        s!"'{hexText}'")
    else .ok ()

def validateTag (tag : List Char) : Except String Unit :=
  let tagText := String.ofList tag
  if tag = [] ∨ ¬ tag.all (fun c => c.isAlphanum || c == '.' || c == '_' || c == '-') then
    .error s!"invalid image tag: '{tagText}'"
  else .ok ()

def validateSegment (image : String) (segment : List Char) : Except String Unit :=
  let segmentText := String.ofList segment
  if segment = [] then .error s!"image path contains empty segment: '{image}'"
  else if ¬ segment.all (fun c => isLowerOrDigit c || c == '.' || c == '_' || c == '-') then
    .error s!"image path segment contains invalid characters: '{segmentText}'"
  else .ok ()

def validateImageRef (image : String) : Except String Unit := do
  let (nameTag, digest) :=
    match splitOnce '@' image.toList with
    | some (left, right) => (left, some right)
    | none => (image.toList, none)
  match digest with
  | some digest => validateDigest image digest
  | none => .ok ()
  match splitOnce '/' nameTag with
  | none =>
    .error s!"image must be fully qualified (registry/path[:tag][@digest]): '{image}'"
  | some (registry, rest) =>
    let registryText := String.ofList registry
    if '.' ∉ registry ∧ ':' ∉ registry then
      .error s!"image registry must be a hostname (contain '.' or ':'): '{registryText}'"
    else
      let (path, tag) :=
        match splitLast ':' rest with
        | some (path, tag) => (path, some tag)
        | none => (rest, none)
      if tag = none ∧ digest = none then
        .error ("image must have a tag or digest (registry/path:tag or " ++
          s!"registry/path@digest): '{image}'")
      else
        match tag with
        | some tag => validateTag tag
        | none => .ok ()
        if path = [] then .error s!"image path must not be empty: '{image}'"
        else (path.splitOn '/').forM (validateSegment image)

example : validateImageRef "docker.io/library/nginx:1.27" = .ok () := by decide

example : validateImageRef "docker.io/library/nginx" =
    .error ("image must have a tag or digest (registry/path:tag or registry/path@digest): " ++
      "'docker.io/library/nginx'") := by decide

/-! ## The other settings -/

def validateMemoryLimit (limit : String) : Except String Unit :=
  match limit.toList.reverse with
  | [] => .error "memory limit must end with a unit suffix (k, m, or g)"
  | suffix :: reversed =>
    let num := reversed.reverse
    let suffixText := String.singleton suffix
    if ¬ suffix.isAlpha then .error "memory limit must end with a unit suffix (k, m, or g)"
    else if num = [] ∨ ¬ num.all Char.isDigit ∨ num.head? = some '0' then
      .error s!"memory limit must be a positive integer followed by k, m, or g: '{limit}'"
    else if suffix.toLower ∈ ['k', 'm', 'g'] then .ok ()
    else .error s!"memory limit suffix must be k, m, or g, got '{suffixText}'"

def allowedCaps : List String :=
  ["AUDIT_CONTROL", "AUDIT_READ", "AUDIT_WRITE", "BLOCK_SUSPEND", "BPF", "CHECKPOINT_RESTORE",
    "CHOWN", "DAC_OVERRIDE", "DAC_READ_SEARCH", "FOWNER", "FSETID", "IPC_LOCK", "IPC_OWNER",
    "KILL", "LEASE", "LINUX_IMMUTABLE", "MAC_ADMIN", "MAC_OVERRIDE", "MKNOD", "NET_ADMIN",
    "NET_BIND_SERVICE", "NET_BROADCAST", "NET_RAW", "PERFMON", "SETFCAP", "SETGID", "SETPCAP",
    "SETUID", "SYS_ADMIN", "SYS_BOOT", "SYS_CHROOT", "SYS_MODULE", "SYS_NICE", "SYS_PACCT",
    "SYS_PTRACE", "SYS_RAWIO", "SYS_RESOURCE", "SYS_TIME", "SYS_TTY_CONFIG", "SYSLOG",
    "WAKE_ALARM"]

def validateCapability (cap : String) : Except String String :=
  let normalised := String.ofList (cap.toList.map Char.toUpper)
  if allowedCaps.contains normalised then .ok normalised
  else .error s!"unknown Linux capability: '{cap}'"

/-- Names that influence the loader or the search paths of the container. -/
def forbiddenEnvNames : List String :=
  ["PATH", "LD_PRELOAD", "LD_LIBRARY_PATH", "LD_AUDIT", "LD_DEBUG", "LD_PROFILE"]

def validateEnvName (name : String) : Except String Unit :=
  if name = "" then .error "environment variable name must not be empty"
  else if name.toList.head?.any Char.isDigit then
    .error "environment variable name must not start with a digit"
  else
    match name.toList.find? fun c => !c.isAlphanum && c != '_' with
    | some c =>
      let shown := c.quote
      .error (s!"environment variable name contains invalid character {shown}: must use only " ++
        "ASCII letters, digits, and underscores")
    | none =>
      if forbiddenEnvNames.contains name then
        .error "environment variable name is forbidden (loader-sensitive)"
      else .ok ()

structure EnvVar where
  name : String
  value : String
deriving DecidableEq

def EnvVar.new (name value : String) : Except String EnvVar := do
  validateEnvName name
  if value.toList.contains (Char.ofNat 0) then
    .error "environment variable value must not contain null bytes"
  else .ok ⟨name, value⟩

def EnvVar.toText (var : EnvVar) : String := var.name ++ "=" ++ var.value

def validateWorkdir (path : String) : Except String Unit :=
  if path.toList.head? = some '/' then .ok ()
  else .error s!"workdir must be an absolute path, got '{path}'"

def validateUser (spec : String) : Except String String :=
  let trimmed := String.ofList (trimChars spec.toList)
  if trimmed = "" then .error "user must not be empty"
  else if trimmed.toList.any isWhiteSpace then
    .error s!"user must not contain whitespace, got '{trimmed}'"
  else .ok trimmed

def normaliseSignal (input : String) : Except String String :=
  match canonicaliseSignalName input with
  | some signal => .ok signal
  | none =>
    let shown := input.quote
    .error (s!"stop_signal {shown} is not a recognised POSIX signal name; expected something " ++
      "like \"SIGINT\" or \"INT\"")

def takeCount (what : String) (n : Int) : Except String Nat :=
  if 1 ≤ n ∧ n ≤ 4294967295 then .ok n.toNat
  else .error s!"`{what}` must be between 1 and 4294967295, got {n}"

inductive OnExit where
  | restart
  | restartOnFailure
  | terminate
deriving DecidableEq

structure HealthcheckDef where
  cmd : List String
  intervalSecs : Nat
  timeoutSecs : Nat
  retries : Nat
  startPeriodSecs : Nat
deriving DecidableEq

/-! ## Definitions -/

/-- A container as the script describes it.  The limit on processors is kept as it
is displayed. -/
structure ContainerDef where
  image : Option String
  command : Option (List String)
  args : Option (List String)
  env : List EnvVar
  volumeMounts : List (String × VolumeMount)
  onExit : Option OnExit
  memory : Option String
  cpus : Option String
  extraCaps : List String
  writableRootfs : Bool
  pidsLimit : Option Nat
  workdir : Option String
  user : Option String
  healthcheck : Option HealthcheckDef
  stopSignal : Option String
  stopTimeoutSecs : Option Nat
deriving DecidableEq

def ContainerDef.empty : ContainerDef :=
  ⟨none, none, none, [], [], none, none, none, [], false, none, none, none, none, none, none⟩

/-! ## Mounts by path

Mounts are kept in the order of their paths, taken component by component: a path
that differs from one already there in its separators only takes its place. -/

def compareText : List Char → List Char → Ordering
  | [], [] => .eq
  | [], _ :: _ => .lt
  | _ :: _, [] => .gt
  | c :: rest, d :: more =>
    if c.toNat < d.toNat then .lt
    else if d.toNat < c.toNat then .gt
    else compareText rest more

def compareComponent : Component → Component → Ordering
  | .rootDir, .rootDir => .eq
  | .rootDir, _ => .lt
  | _, .rootDir => .gt
  | .curDir, .curDir => .eq
  | .curDir, _ => .lt
  | _, .curDir => .gt
  | .parentDir, .parentDir => .eq
  | .parentDir, _ => .lt
  | _, .parentDir => .gt
  | .normal first, .normal second => compareText first.toList second.toList

def compareComponents : List Component → List Component → Ordering
  | [], [] => .eq
  | [], _ :: _ => .lt
  | _ :: _, [] => .gt
  | c :: rest, d :: more =>
    match compareComponent c d with
    | .eq => compareComponents rest more
    | other => other

def insertMount (path : String) (mount : VolumeMount) :
    List (String × VolumeMount) → List (String × VolumeMount)
  | [] => [(path, mount)]
  | (other, held) :: rest =>
    match compareComponents (components path) (components other) with
    | .lt => (path, mount) :: (other, held) :: rest
    | .eq => (other, mount) :: rest
    | .gt => (other, held) :: insertMount path mount rest

theorem mem_insertMount {mount : VolumeMount} {mounts : List (String × VolumeMount)}
    {entry : String × VolumeMount} (mem : entry ∈ insertMount path mount mounts) :
    entry.1 = path ∨ entry.1 ∈ mounts.map Prod.fst := by
  induction mounts with
  | nil =>
    cases mem_singleton.mp mem
    exact .inl rfl
  | cons head rest ih =>
    rw [insertMount] at mem
    split at mem
    · rcases mem_cons.mp mem with rfl | there
      · exact .inl rfl
      · exact .inr (mem_map_of_mem there)
    · rcases mem_cons.mp mem with rfl | there
      · exact .inr mem_cons_self
      · exact .inr (mem_cons_of_mem _ (mem_map_of_mem there))
    · rcases mem_cons.mp mem with rfl | there
      · exact .inr mem_cons_self
      · exact (ih there).imp_right (mem_cons_of_mem _)

/-! ## The builder -/

/-- A call of a builder method.  An array given to `env` is one call per entry; the
limit on processors comes with whether it is positive and finite. -/
inductive BuilderCall where
  | image (image : String)
  | command (entrypoint : List String)
  | arg (args : List String)
  | env (name value : String)
  | mount (path : String) (mount : VolumeMount)
  | onExit (strategy : OnExit)
  | memory (limit : String)
  | cpus (limit : String) (positive : Bool)
  | capAdd (cap : String)
  | writableRootfs
  | pidsLimit (limit : Int)
  | workdir (path : String)
  | user (spec : String)
  | stopSignal (signal : String)
  | stopTimeout (secs : Int)
  | healthcheck (definition : HealthcheckDef)

/-- Set a variable, in the place of one of the same name if there is one. -/
def setEnv (var : EnvVar) : List EnvVar → List EnvVar
  | [] => [var]
  | held :: rest => if held.name = var.name then var :: rest else held :: setEnv var rest

def applyCall (container : ContainerDef) : BuilderCall → Except String ContainerDef
  | .image image => do
      validateImageRef image
      return { container with image := some image }
  | .command entrypoint => .ok { container with command := some entrypoint }
  | .arg args => .ok { container with args := some (container.args.getD [] ++ args) }
  | .env name value => do
      let var ← EnvVar.new name value
      return { container with env := setEnv var container.env }
  | .mount path mount => do
      validateMountpoint path
      return { container with volumeMounts := insertMount path mount container.volumeMounts }
  | .onExit strategy => .ok { container with onExit := some strategy }
  | .memory limit => do
      validateMemoryLimit limit
      return { container with memory := some (String.ofList (limit.toList.map Char.toLower)) }
  | .cpus limit positive =>
    if positive then .ok { container with cpus := some limit }
    else .error s!"cpus limit must be a positive number, got {limit}"
  | .capAdd cap => do
      let normalised ← validateCapability cap
      if container.extraCaps.contains normalised then return container
      else return { container with extraCaps := container.extraCaps ++ [normalised] }
  | .writableRootfs => .ok { container with writableRootfs := true }
  | .pidsLimit limit => do
      let limit ← takeCount "pids_limit" limit
      return { container with pidsLimit := some limit }
  | .workdir path => do
      validateWorkdir path
      return { container with workdir := some path }
  | .user spec => do
      let user ← validateUser spec
      return { container with user := some user }
  | .stopSignal signal => do
      let signal ← normaliseSignal signal
      return { container with stopSignal := some signal }
  | .stopTimeout secs => do
      let secs ← takeCount "stop_timeout" secs
      return { container with stopTimeoutSecs := some secs }
  | .healthcheck definition => .ok { container with healthcheck := some definition }

/-- The definition a list of builder calls makes, up to the first that throws. -/
def build (calls : List BuilderCall) : Except String ContainerDef := calls.foldlM applyCall .empty

/-- What the builder has checked of a definition. -/
structure WellFormed (container : ContainerDef) : Prop where
  image : ∀ image, container.image = some image → validateImageRef image = .ok ()
  mounts : ∀ path ∈ container.volumeMounts.map Prod.fst, validateMountpoint path = .ok ()

variable {container after : ContainerDef}

theorem WellFormed.of_same (formed : WellFormed container) (image : after.image = container.image)
    (mounts : after.volumeMounts = container.volumeMounts) :
    WellFormed after :=
  ⟨image ▸ formed.image, mounts ▸ formed.mounts⟩

theorem applyCall_wellFormed {call : BuilderCall} (applied : applyCall container call = .ok after)
    (formed : WellFormed container) :
    WellFormed after := by
  cases call with
  | image =>
    obtain ⟨_, accepted, set⟩ := exists_of_bind_ok applied
    cases set
    exact ⟨fun other same => Option.some.inj same ▸ accepted, formed.mounts⟩
  | mount =>
    obtain ⟨_, accepted, set⟩ := exists_of_bind_ok applied
    cases set
    refine ⟨formed.image, fun other mem => ?_⟩
    obtain ⟨entry, inserted, rfl⟩ := mem_map.mp mem
    rcases mem_insertMount inserted with same | before
    · exact same ▸ accepted
    · exact formed.mounts _ before
  | command | arg | onExit | writableRootfs | healthcheck =>
    cases applied; exact formed.of_same rfl rfl
  | env =>
    obtain ⟨var, _, set⟩ := exists_of_bind_ok applied
    cases set
    exact formed.of_same rfl rfl
  | memory | pidsLimit | workdir | user | stopSignal | stopTimeout =>
    obtain ⟨_, _, set⟩ := exists_of_bind_ok applied
    cases set
    exact formed.of_same rfl rfl
  | cpus limit positive =>
    cases positive with
    | false => cases applied
    | true => cases applied; exact formed.of_same rfl rfl
  | capAdd =>
    obtain ⟨normalised, _, set⟩ := exists_of_bind_ok applied
    split at set
    · cases set
      exact formed
    · cases set
      exact formed.of_same rfl rfl

/-- **What the builder accepts is well formed.** -/
theorem build_wellFormed {calls : List BuilderCall} (built : build calls = .ok container) :
    WellFormed container :=
  foldlM_preserves (fun _ _ _ applied formed => applyCall_wellFormed applied formed) built
    ⟨nofun, nofun⟩

end Seedling.Container
