import Seedling.Container.Spec

/-!
# Reading the command back as podman does

podman takes options up to the first argument that is not one, that argument as the
image and the rest as the command, and splits the value of `--volume` at its colons
into source, destination and options.  `readArgv` does the same.

`runs_as_declared_iff` says which definitions run as declared: the image must not look like
an option, and no text that a mount is made of may have a colon in it.  Neither the check
of an image nor that of a mountpoint looks for these.
-/

namespace Seedling.Container

open Foundation Foundation.CommandLine List ContainerSpec Written

/-! ## Reading -/

/-- The options of `podman run` that are in use, and whether they take a value. -/
def podmanOptions : List (String × Bool) :=
  [("rm", false), ("log-driver", true), ("cap-drop", true), ("cap-add", true),
    ("security-opt", true), ("read-only", false), ("tmpfs", true), ("pids-limit", true),
    ("ulimit", true), ("memory", true), ("cpus", true), ("workdir", true), ("user", true),
    ("name", true), ("network", true), ("env", true), ("mount", true), ("volume", true),
    ("label", true), ("add-host", true), ("dns", true), ("health-cmd", true),
    ("health-interval", true), ("health-timeout", true), ("health-retries", true),
    ("health-start-period", true), ("health-on-failure", true), ("entrypoint", true)]

def podmanTable : Table := fun name => podmanOptions.lookup name

/-- A mount as podman understands the value of `--volume`. -/
structure MountReading where
  source : String
  destination : String
  options : List String
deriving DecidableEq

def readVolume (value : String) : Option MountReading :=
  match splitText ':' value with
  | [source, destination] => some ⟨source, destination, []⟩
  | [source, destination, options] => some ⟨source, destination, splitText ',' options⟩
  | _ => none

/-- A command as podman understands it; a `--volume` it refuses is none. -/
structure Reading where
  options : List Given
  mounts : List (Option MountReading)
  image : String
  command : List String

def isVolume (given : Given) : Bool := given.name = "volume"

def readArgv (argv : List String) : Option Reading :=
  match argv with
  | program :: command :: args =>
    if program = "podman" ∧ command = "run" then
      match readOptions podmanTable args with
      | some (given, image :: command) =>
        some ⟨given.filter (!isVolume ·),
          (given.filter isVolume).map fun volume => volume.value.bind readVolume,
          image, command⟩
      | _ => none
    else none
  | _ => none

/-! ## What a specification says -/

def ContainerSpec.volumes (spec : ContainerSpec) : List Mount :=
  spec.mounts.filter (·.source ≠ .tmpfs)

/-- The mount as declared: its source, its destination, and `ro` if it is read-only. -/
def Mount.reading (mount : Mount) : MountReading :=
  ⟨mount.source.text, mount.target, if mount.readOnly then ["ro"] else []⟩

def ContainerSpec.reading (spec : ContainerSpec) : Reading where
  options := (spec.options.map Written.given).filter (!isVolume ·)
  mounts := spec.volumes.map fun mount => some mount.reading
  image := spec.image
  command := spec.entrypoint ++ spec.command

/-! ## Mounts -/

/-- **A mount reads back** exactly if neither its source nor its target has a colon:
what a value is split into never has one. -/
theorem readVolume_volumeText_iff (mount : Mount) :
    readVolume mount.volumeText = some mount.reading ↔
      ':' ∉ mount.source.text.toList ∧ ':' ∉ mount.target.toList := by
  constructor
  · intro read
    have pieces : mount.source.text ∈ splitText ':' mount.volumeText ∧
        mount.target ∈ splitText ':' mount.volumeText := by
      rw [readVolume] at read
      split at read
      · rename_i source destination split
        obtain ⟨rfl, rfl, -⟩ := MountReading.mk.inj (Option.some.inj read)
        simp [split]
      · rename_i source destination options split
        obtain ⟨rfl, rfl, -⟩ := MountReading.mk.inj (Option.some.inj read)
        simp [split]
      · cases read
    exact ⟨not_mem_of_mem_splitText pieces.1, not_mem_of_mem_splitText pieces.2⟩
  · rintro ⟨source, target⟩
    have colon : ":" = String.singleton ':' := rfl
    cases writable : mount.readOnly with
    | false =>
      have split : splitText ':' mount.volumeText = [mount.source.text, mount.target] := by
        simp only [Mount.volumeText, writable, Bool.false_eq_true, if_false, String.append_empty]
        rw [colon, splitText_append source, splitText_of_not_mem target]
      simp [readVolume, split, Mount.reading, writable]
    | true =>
      have split : splitText ':' mount.volumeText = [mount.source.text, mount.target, "ro"] := by
        have spelled : mount.volumeText =
            mount.source.text ++ ":" ++ (mount.target ++ ":" ++ "ro") := by
          simp [Mount.volumeText, writable, String.append_assoc]
        rw [spelled, colon, splitText_append source, splitText_append target]
        rfl
      simp only [readVolume, split, Mount.reading, writable]
      rfl

/-! ## The whole command -/

variable {option : Written}

theorem Setting.known (setting : Setting option) : option.Known podmanTable := by
  have bare : ∀ name ∈ ["rm", "read-only"],
      name ≠ "" ∧ '=' ∉ name.toList ∧ podmanTable name = some false := by decide
  have attached : ∀ name ∈ attachedNames,
      name ≠ "" ∧ '=' ∉ name.toList ∧ (podmanTable name).isSome := by decide
  have separate : ∀ name ∈ separateNames,
      name ≠ "" ∧ '=' ∉ name.toList ∧ podmanTable name = some true := by decide
  cases setting with
  | bare listed => exact bare _ listed
  | attached listed => exact attached _ listed
  | separate listed => exact separate _ listed

theorem Setting.not_isVolume (setting : Setting option) : isVolume option.given = false := by
  have others : ∀ name ∈ ["rm", "read-only"] ++ attachedNames ++ separateNames,
      decide (name = "volume") = false := by decide
  cases setting with
  | bare listed => exact others _ (mem_append_left _ (mem_append_left _ listed))
  | attached listed =>
    exact others _ (mem_append_left _ (mem_append_right _ listed))
  | separate listed => exact others _ (mem_append_right _ listed)

theorem Mount.option_known (mount : Mount) : mount.option.Known podmanTable := by
  have names : ∀ name ∈ ["mount", "volume"],
      name ≠ "" ∧ '=' ∉ name.toList ∧ podmanTable name = some true := by decide
  rw [Mount.option]
  split
  · exact names "mount" (by decide)
  · exact names "volume" (by decide)
  · exact names "volume" (by decide)

theorem labelOption_known (label : String × String) : (labelOption label).Known podmanTable := by
  have named : "label" ≠ "" ∧ '=' ∉ "label".toList ∧ podmanTable "label" = some true := by decide
  exact named

variable (spec : ContainerSpec)
include spec

theorem options_known : ∀ option ∈ spec.options, option.Known podmanTable := by
  simp only [options, forall_mem_append]
  exact ⟨⟨⟨fun option mem => (setting_of_leading spec option mem).known,
    forall_mem_map.mpr fun mount _ => mount.option_known⟩,
    forall_mem_map.mpr fun label _ => labelOption_known label⟩,
    fun option mem => (setting_of_trailing spec option mem).known⟩

theorem filter_isVolume_options : (spec.options.map given).filter isVolume =
      spec.volumes.map fun mount => ⟨"volume", some mount.volumeText⟩ := by
  have none_of {options : List Written} (others : ∀ option ∈ options,
      isVolume option.given = false) : (options.map given).filter isVolume = [] := by
    rw [filter_eq_nil_iff]
    intro given mem
    obtain ⟨option, listed, rfl⟩ := mem_map.mp mem
    simp [others option listed]
  have mounts : ((spec.mounts.map Mount.option).map given).filter isVolume =
      spec.volumes.map fun mount => ⟨"volume", some mount.volumeText⟩ := by
    rw [volumes]
    induction spec.mounts with
    | nil => rfl
    | cons mount mounts ih =>
      simp only [map_cons, filter_cons, ih, Mount.option]
      cases mount.source <;> simp [given, isVolume]
  simp only [options, map_append, filter_append, mounts,
    none_of fun option mem => (setting_of_leading spec option mem).not_isVolume,
    none_of fun option mem => (setting_of_trailing spec option mem).not_isVolume,
    none_of (forall_mem_map.mpr fun label (_ : label ∈ spec.labels) =>
      show isVolume (labelOption label).given = false from rfl),
    nil_append, append_nil]

theorem readArgv_podmanArgs : readArgv (podmanArgs spec) =
      match readOptions podmanTable (spec.image :: (spec.entrypoint ++ spec.command)) with
      | some (more, image :: command) =>
        some ⟨(spec.options.map given ++ more).filter (!isVolume ·),
          ((spec.options.map given ++ more).filter isVolume).map
            fun volume => volume.value.bind readVolume,
          image, command⟩
      | _ => none := by
  rw [podmanArgs_eq, readArgv]
  simp only [read_render (options_known spec)]
  cases readOptions podmanTable (spec.image :: (spec.entrypoint ++ spec.command)) with
  | none => rfl
  | some read =>
    obtain ⟨more, left⟩ := read
    cases left <;> rfl

theorem readVolumes_iff : ((spec.options.map given).filter isVolume).map
        (fun volume => volume.value.bind readVolume) = spec.reading.mounts ↔
      ∀ mount ∈ spec.volumes, ':' ∉ mount.source.text.toList ∧ ':' ∉ mount.target.toList := by
  rw [filter_isVolume_options, map_map, reading, map_inj_left]
  exact forall₂_congr fun mount _ => readVolume_volumeText_iff mount

/-- **A command reads back as its specification** exactly if the image does not look
like an option and no mount has a colon in its source or its target. -/
theorem readArgv_podmanArgs_iff :
    readArgv (podmanArgs spec) = some spec.reading ↔ ¬ Dashed spec.image ∧
        ∀ mount ∈ spec.volumes, ':' ∉ mount.source.text.toList ∧ ':' ∉ mount.target.toList := by
  rw [readArgv_podmanArgs, ← readVolumes_iff]
  constructor
  · intro read
    cases left : readOptions podmanTable (spec.image :: (spec.entrypoint ++ spec.command)) with
    | none => simp [left] at read
    | some parts =>
      obtain ⟨more, rest⟩ := parts
      cases rest with
      | nil => simp [left] at read
      | cons =>
        simp only [left, Option.some.injEq, reading, Reading.mk.injEq,
          filter_append, map_append] at read
        obtain ⟨options, mounts, rfl, rfl⟩ := read
        -- an option read off the image would be one too many
        have settings : more.filter (!isVolume ·) = [] := by simpa using options
        have volumes : more.filter isVolume = [] := by
          have lengths := congrArg length mounts
          rw [filter_isVolume_options, length_append, length_map, length_map,
            length_map, length_map, Nat.add_eq_left] at lengths
          exact length_eq_zero_iff.mp lengths
        have nothing : more = [] := by
          rw [eq_nil_iff_forall_not_mem]
          intro given mem
          cases kind : isVolume given with
          | true => exact filter_eq_nil_iff.mp volumes given mem kind
          | false => exact filter_eq_nil_iff.mp settings given mem (by simp [kind])
        subst nothing
        exact ⟨read_ends_iff.mp left, by simpa [reading] using mounts⟩
  · rintro ⟨plain, mounts⟩
    rw [read_ends_iff.mpr plain]
    simp only [append_nil, mounts]
    rfl

omit spec

/-! ## Definitions the builder accepts -/

def targetTexts (around : Surroundings) (mapping : ExternalVolumeMapping) : Option (List String) :=
  match mapping.target with
  | .site name =>
    (around.sites.find? (·.name = name)).map fun site =>
      match site.kind with
      | .managed | .snapshot => [around.volumesDir, site.name]
      | .bind hostPath => [hostPath]
  | .app app volume => some [around.volumesDir, app, volume]

def sourceTexts (app : String) (around : Surroundings) : VolumeMount → List String
  | .volume ⟨.named name, true, _⟩ => [app, name]
  | .volume ⟨.named name, false, _⟩ => [around.volumesDir, app, name]
  | .volume ⟨.anonymous anonId, _, _⟩ => [anonId]
  | .externalVolume ⟨_, some binding⟩ => [binding.hostPath]
  | .externalVolume ⟨name, none⟩ =>
    (around.mappings.findSome? fun mapping =>
      if mapping.externalName = name then targetTexts around mapping else none).getD [name]

/-- The container that runs is the one declared: the command reads back as the
specification, with the declared image, each mount at its declared path with the
source and the access it resolves to, and none on a forbidden path. -/
structure RunsAsDeclared (sha256 : String → String) (container : ContainerDef)
    (inst : ResourceInstance) (around : Surroundings) : Prop where
  readsBack : readArgv (podmanArgs (around.spec sha256 container inst)) =
    some (around.spec sha256 container inst).reading
  image : (around.spec sha256 container inst).reading.image = container.image.getD ""
  mounts : (around.spec sha256 container inst).reading.mounts =
    container.volumeMounts.map fun (path, mount) =>
      some (resolveMount inst.app around.context path mount).reading
  allowed : ∀ reading, readArgv (podmanArgs (around.spec sha256 container inst)) = some reading →
    ∀ mount, some mount ∈ reading.mounts → canonicalPath mount.destination ∉ forbiddenMountpoints

section Declared

variable {sha256 : String → String} {container : ContainerDef} {inst : ResourceInstance}
  {around : Surroundings}

theorem colon_mem_joinPath (dir name : String) :
    ':' ∈ (joinPath dir name).toList ↔ ':' ∈ dir.toList ∨ ':' ∈ name.toList := by
  rw [joinPath]
  split <;> simp

theorem colon_mem_forApp (app name : String) :
    ':' ∈ (VolumeName.forApp app name).toList ↔ ':' ∈ app.toList ∨ ':' ∈ name.toList := by
  simp [VolumeName.forApp, kindSlug]

theorem colon_mem_sitePath (dir name : String) :
    ':' ∈ (sitePath dir name).toList ↔ ':' ∈ dir.toList ∨ ':' ∈ name.toList := by
  rw [sitePath, colon_mem_joinPath]
  simp

theorem colon_mem_target (around : Surroundings) (mapping : ExternalVolumeMapping) :
    (resolveMapping around.volumesDir around.sites mapping = none ∧
        targetTexts around mapping = none) ∨
      ∃ resolved texts, resolveMapping around.volumesDir around.sites mapping = some resolved ∧
        targetTexts around mapping = some texts ∧ resolved.source ≠ .tmpfs ∧
        (':' ∈ resolved.source.text.toList ↔ ∃ text ∈ texts, ':' ∈ text.toList) := by
  rw [resolveMapping, targetTexts]
  cases mapping.target with
  | site name =>
    simp only
    cases around.sites.find? (·.name = name) with
    | none => exact .inl ⟨rfl, rfl⟩
    | some site =>
      refine .inr ⟨_, _, rfl, rfl, nofun, ?_⟩
      cases kind : site.kind with
      | managed | snapshot => simp [MountSource.text, SiteVolume.path, kind, colon_mem_sitePath]
      | bind => simp [MountSource.text, SiteVolume.path, kind]
  | app =>
    refine .inr ⟨_, _, rfl, rfl, nofun, ?_⟩
    simp [MountSource.text, colon_mem_joinPath, colon_mem_forApp]

theorem colon_mem_mapped (around : Surroundings) (name : String)
    (mappings : List ExternalVolumeMapping) :
    (resolveExternalVolumes around.volumesDir mappings around.sites name = none ∧
        (mappings.findSome? fun mapping =>
          if mapping.externalName = name then targetTexts around mapping else none) = none) ∨
      ∃ resolved texts,
        resolveExternalVolumes around.volumesDir mappings around.sites name = some resolved ∧
        (mappings.findSome? fun mapping =>
          if mapping.externalName = name then targetTexts around mapping else none) = some texts ∧
        resolved.source ≠ .tmpfs ∧
        (':' ∈ resolved.source.text.toList ↔ ∃ text ∈ texts, ':' ∈ text.toList) := by
  induction mappings with
  | nil => exact .inl ⟨rfl, rfl⟩
  | cons mapping mappings ih =>
    rw [resolveExternalVolumes, findSome?_cons, findSome?_cons]
    by_cases named : mapping.externalName = name
    · rw [if_pos named, if_pos named]
      rcases colon_mem_target around mapping with ⟨none, noTexts⟩ | ⟨resolved, texts, found⟩
      · rw [none, noTexts]
        exact ih
      · rw [found.1, found.2.1]
        exact .inr ⟨resolved, texts, rfl, rfl, found.2.2⟩
    · rw [if_neg named, if_neg named]
      exact ih

theorem colon_mem_source (app path : String) (around : Surroundings) (mount : VolumeMount) :
    (resolveMount app around.context path mount).source ≠ .tmpfs ∧
      (':' ∈ (resolveMount app around.context path mount).source.text.toList ↔
        ∃ text ∈ sourceTexts app around mount, ':' ∈ text.toList) := by
  cases mount with
  | volume volume =>
    obtain ⟨key, tmpfs, writes⟩ := volume
    cases key with
    | named =>
      cases tmpfs with
      | true =>
        refine ⟨nofun, ?_⟩
        simp [resolveMount, Volume.source, VolumeKey.hostName, sourceTexts, MountSource.text,
          colon_mem_joinPath, colon_mem_forApp, tmpfsVolumesDir]
      | false =>
        refine ⟨nofun, ?_⟩
        simp [resolveMount, Volume.source, VolumeKey.hostName, sourceTexts, MountSource.text,
          colon_mem_joinPath, colon_mem_forApp, Surroundings.context]
    | anonymous =>
      cases tmpfs with
      | true =>
        refine ⟨nofun, ?_⟩
        simp [resolveMount, Volume.source, VolumeKey.hostName, sourceTexts, MountSource.text,
          colon_mem_joinPath, tmpfsVolumesDir]
      | false =>
        refine ⟨nofun, ?_⟩
        simp [resolveMount, Volume.source, VolumeKey.hostName, sourceTexts, MountSource.text]
  | externalVolume external =>
    obtain ⟨name, binding⟩ := external
    cases binding with
    | some => simp [resolveMount, sourceTexts, MountSource.text]
    | none =>
      simp only [resolveMount, sourceTexts, Surroundings.context]
      rcases colon_mem_mapped around name around.mappings with
        ⟨none, noTexts⟩ | ⟨resolved, texts, found, listed, kept⟩
      · simp [none, noTexts, MountSource.text]
      · simp only [found, listed]
        exact kept

theorem resolveMount_target (app path : String) (context : SpecContext) (mount : VolumeMount) :
    (resolveMount app context path mount).target = path := by
  cases mount with
  | volume => rfl
  | externalVolume =>
    rw [resolveMount]
    split
    · rfl
    · split <;> rfl

theorem spec_image : (around.spec sha256 container inst).image = container.image.getD "" := by
  rw [Surroundings.spec, restartedSpec]
  split <;> rfl

theorem spec_mounts : (around.spec sha256 container inst).mounts =
      container.volumeMounts.map fun (path, mount) =>
        resolveMount inst.app around.context path mount := by
  rw [Surroundings.spec, restartedSpec]
  split <;> rfl

theorem spec_volumes :
    (around.spec sha256 container inst).volumes = (around.spec sha256 container inst).mounts := by
  rw [volumes, filter_eq_self, spec_mounts]
  intro mount mem
  obtain ⟨⟨path, declared⟩, _, rfl⟩ := mem_map.mp mem
  simpa using (colon_mem_source inst.app path around declared).1

/-- An accepted image looks like an option exactly if it starts with a dash. -/
theorem dashed_image_iff (formed : WellFormed container) :
    Dashed (container.image.getD "") ↔ (container.image.getD "").toList.head? = some '-' := by
  constructor
  · rintro ⟨c, rest, spelled⟩
    rw [spelled, head?_cons]
  · intro dash
    cases declared : container.image with
    | none => simp [declared] at dash
    | some image =>
      rw [declared] at dash
      cases spelled : image.toList with
      | nil => simp [spelled] at dash
      | cons first rest =>
        obtain rfl : first = '-' := by simpa [spelled] using dash
        cases rest with
        | nil =>
          -- a lone dash has no registry, and is refused
          have lone : image = "-" := String.toList_inj.mp spelled
          have accepted := formed.image image declared
          subst lone
          exact absurd accepted (by decide)
        | cons c rest => exact ⟨c, rest, spelled⟩

theorem colonless_iff : (∀ mount ∈ (around.spec sha256 container inst).volumes,
        ':' ∉ mount.source.text.toList ∧ ':' ∉ mount.target.toList) ↔
      ∀ entry ∈ container.volumeMounts, ':' ∉ entry.1.toList ∧
        ∀ text ∈ sourceTexts inst.app around entry.2, ':' ∉ text.toList := by
  rw [spec_volumes, spec_mounts, forall_mem_map]
  refine forall₂_congr fun entry _ => ?_
  rw [(colon_mem_source inst.app entry.1 around entry.2).2, resolveMount_target, and_comm]
  simp

end Declared

/-- **The container that runs is the one declared** exactly if its image does not start
with a dash and no mount has a colon in its path or in the texts of its source. -/
theorem runs_as_declared_iff (sha256 : String → String) (calls : List BuilderCall)
    (container : ContainerDef) (built : build calls = .ok container) (inst : ResourceInstance)
    (around : Surroundings) :
    RunsAsDeclared sha256 container inst around ↔
      (container.image.getD "").toList.head? ≠ some '-' ∧
        ∀ entry ∈ container.volumeMounts, ':' ∉ entry.1.toList ∧
          ∀ text ∈ sourceTexts inst.app around entry.2, ':' ∉ text.toList := by
  have formed := build_wellFormed built
  have reads := readArgv_podmanArgs_iff (around.spec sha256 container inst)
  rw [spec_image, dashed_image_iff formed, colonless_iff] at reads
  constructor
  · intro runs
    exact reads.mp runs.readsBack
  · intro plain
    have readsBack := reads.mpr plain
    have mounts : (around.spec sha256 container inst).reading.mounts =
        container.volumeMounts.map fun (path, mount) =>
          some (resolveMount inst.app around.context path mount).reading := by
      rw [reading, spec_volumes, spec_mounts, map_map]
      rfl
    refine ⟨readsBack, spec_image, mounts, fun reading read mount listed => ?_⟩
    obtain rfl : (around.spec sha256 container inst).reading = reading :=
      Option.some.inj (readsBack.symm.trans read)
    rw [mounts] at listed
    obtain ⟨entry, mem, same⟩ := mem_map.mp listed
    obtain rfl := Option.some.inj same
    rw [Mount.reading, resolveMount_target]
    exact canonicalPath_not_forbidden (formed.mounts _ (mem_map_of_mem mem))

def webInstance : ResourceInstance :=
  ⟨1#128, "shop", .deployment, some "web", .scaled, "shop-web-1"⟩

def plainSurroundings : Surroundings :=
  ⟨⟨"seedling-shop-web-1", "fd5e::1"⟩, [], ["fd5e::53"], "/var/lib/seedling/volumes", [], [], 0⟩

def dataVolume : VolumeMount := .volume ⟨.named "data", false, []⟩

def ordinaryCalls : List BuilderCall :=
  [.image "docker.io/library/nginx:1.27", .mount "/srv/data" dataVolume]

theorem ordinaryCalls_run_as_declared : ∃ container, build ordinaryCalls = .ok container ∧
      RunsAsDeclared (fun _ => "hash") container webInstance plainSurroundings :=
  ⟨{ ContainerDef.empty with
      image := some "docker.io/library/nginx:1.27", volumeMounts := [("/srv/data", dataVolume)] },
    by decide,
    (runs_as_declared_iff _ ordinaryCalls _ (by decide) webInstance plainSurroundings).mpr
      (by decide)⟩

/-- The builder accepts a mountpoint that podman reads as `/etc` with an option. -/
def mountCalls : List BuilderCall :=
  [.image "docker.io/library/nginx:1.27", .mount "/etc:ro" dataVolume]

/-- The builder accepts an image that podman reads as an option, and the command then
names the image. -/
def imageCalls : List BuilderCall :=
  [.image "--env=a.b/c:1", .arg ["docker.io/evil/image:1"]]

theorem builder_accepts_other_commands : (∃ container, build mountCalls = .ok container ∧
      (readArgv (podmanArgs (plainSurroundings.spec (fun _ => "hash") container
        webInstance))).map Reading.mounts =
        some [some ⟨"/var/lib/seedling/volumes/shop-volume-data", "/etc", ["ro"]⟩] ∧
      ¬ RunsAsDeclared (fun _ => "hash") container webInstance plainSurroundings) ∧
    ∃ container, build imageCalls = .ok container ∧
      (readArgv (podmanArgs (plainSurroundings.spec (fun _ => "hash") container
        webInstance))).map Reading.image = some "docker.io/evil/image:1" ∧
      ¬ RunsAsDeclared (fun _ => "hash") container webInstance plainSurroundings := by
  refine ⟨⟨{ ContainerDef.empty with
      image := some "docker.io/library/nginx:1.27", volumeMounts := [("/etc:ro", dataVolume)] },
    by decide, by decide, ?_⟩,
    ⟨{ ContainerDef.empty with
      image := some "--env=a.b/c:1", args := some ["docker.io/evil/image:1"] },
    by decide, by decide, ?_⟩⟩
  · intro runs
    have mounts := congrArg (Option.map Reading.mounts) runs.readsBack
    revert mounts
    decide
  · intro runs
    have image := congrArg (Option.map Reading.image) runs.readsBack
    revert image
    decide

end Seedling.Container
