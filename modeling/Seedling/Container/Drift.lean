import Seedling.Container.Reading

/-!
# Telling that a running container is out of date

The hash of a workload's specification is stamped on its container.  The reconciler computes
the hash the instance would be started with now and takes it as stale when the two differ.

`Situation.specHash_iff` says when they agree, `Situation.launch_iff` when nothing changed.
`drift_exact_iff` compares the two: the stamp is taken before the restart generation is
added, the restart policy is no part of it, a stop setting is hashed like an argument behind
the command, and a read that fails counts as a read that found nothing.
-/

namespace Seedling.Container

open Foundation Foundation.CommandLine List ContainerSpec

/-! ## Starting a workload -/

inductive PodKind where
  | deployment
  | job

inductive TransientRestart where
  | no
  | onFailure
  | always
deriving DecidableEq

def mapOnExit : OnExit → TransientRestart
  | .restart => .always
  | .terminate => .no
  | .restartOnFailure => .onFailure

def PodKind.defaultOnExit : PodKind → OnExit
  | .deployment => .restart
  | .job => .terminate

/-- What the unit of a workload is started with. -/
structure Launch where
  argv : List String
  killSignal : Option String
  timeoutStopSecs : Option Nat
  restart : TransientRestart

/-- A definition of a workload, and what it is resolved in. -/
structure Situation where
  container : ContainerDef
  around : Surroundings

def ContainerDef.requiredExternalVolumes (container : ContainerDef) : List String :=
  container.volumeMounts.filterMap fun entry =>
    match entry.2 with
    | .externalVolume ⟨name, none⟩ => some name
    | _ => none

/-- The reads the hash of a specification rests on, and whether each succeeds. -/
structure Reads where
  registry : Bool
  restartGen : Bool
  mappings : Bool
  sites : Bool

def Reads.allSucceed : Reads := ⟨true, true, true, true⟩

/-- The surroundings as they are read; a read that fails finds nothing. -/
def Surroundings.readWith (around : Surroundings) (reads : Reads) : Surroundings :=
  { around with
    restartGen := if reads.restartGen then around.restartGen else 0
    mappings := if reads.mappings then around.mappings else []
    sites := if reads.sites then around.sites else [] }

def ContainerSpec.stampedHash (spec : ContainerSpec) : Option String :=
  spec.labels.lookup specHashLabel

def specStale (observed desired : Option String) : Bool :=
  match observed, desired with
  | some observed, some desired => observed ≠ desired
  | none, some _ => true
  | _, none => false

/-! ## The command line around its labels -/

def ContainerSpec.front (spec : ContainerSpec) : List Written :=
  spec.leading ++ spec.mounts.map Mount.option

/-- The arguments behind the labels. -/
def ContainerSpec.back (spec : ContainerSpec) : List String :=
  spec.trailing.flatMap Written.render ++ spec.image :: (spec.entrypoint ++ spec.command)

def labelArgs (labels : List (String × String)) : List String :=
  labels.flatMap fun label => (labelOption label).render

theorem podmanArgs_labelled (spec : ContainerSpec) (labels : List (String × String)) :
    podmanArgs { spec with labels := labels } = "podman" :: "run" ::
        (spec.front.flatMap Written.render ++ (labelArgs labels ++ spec.back)) := by
  rw [podmanArgs_eq, options]
  simp only [flatMap_append, flatMap_map, append_assoc, front]
  rfl

def isLabel (option : Written) : Bool := option.given.name = "label"

theorem Setting.not_isLabel {option : Written} (setting : Setting option) :
    isLabel option = false := by
  have others : ∀ name ∈ ["rm", "read-only"] ++ attachedNames ++ separateNames,
      decide (name = "label") = false := by decide
  cases setting with
  | bare listed => exact others _ (mem_append_left _ (mem_append_left _ listed))
  | attached listed =>
    exact others _ (mem_append_left _ (mem_append_right _ listed))
  | separate listed => exact others _ (mem_append_right _ listed)

theorem Mount.not_isLabel (mount : Mount) : isLabel mount.option = false := by
  rw [Mount.option]
  split <;> rfl

theorem front_not_isLabel (spec : ContainerSpec) :
    ∀ option ∈ spec.front, isLabel option = false := by
  rw [front, forall_mem_append]
  exact ⟨fun option mem => (setting_of_leading spec option mem).not_isLabel,
    forall_mem_map.mpr fun mount _ => mount.not_isLabel⟩

theorem front_known (spec : ContainerSpec) : ∀ option ∈ spec.front, option.Known podmanTable := by
  rw [front, forall_mem_append]
  exact ⟨fun option mem => (setting_of_leading spec option mem).known,
    forall_mem_map.mpr fun mount _ => mount.option_known⟩

variable {labels others : List (String × String)} {rest more : List String}

theorem labelArgs_cancel {key value other text : String} (plain : '=' ∉ key.toList)
    (otherPlain : '=' ∉ other.toList)
    (same : labelArgs ((key, value) :: labels) ++ rest = labelArgs ((other, text) :: others) ++
      more) :
    key = other ∧ value = text ∧ labelArgs labels ++ rest = labelArgs others ++ more := by
  simp only [labelArgs, flatMap_cons, labelOption, Written.render, cons_append,
    cons.injEq, true_and] at same
  obtain ⟨texts, following⟩ := same
  have spelled : "=" = String.singleton '=' := rfl
  have keys : key = other := by
    have pieces := congrArg (splitText '=') texts
    rw [spelled, splitText_append plain, splitText_append otherPlain] at pieces
    exact (cons.inj pieces).1
  subst keys
  exact ⟨rfl, (String.append_right_inj _).mp texts, following⟩

/-! ## Labels -/

def instanceKeys (inst : ResourceInstance) : List (String × String) :=
  [("seedling.display-name", inst.displayName), ("seedling.instance", inst.id.toHex),
    ("seedling.kind", inst.kind.debug)]

def appLabel (inst : ResourceInstance) : String × String := ("seedling.app", inst.app)

def unitGenLabel : String := "seedling.unit-gen"

theorem restartGenLabel_plain : '=' ∉ restartGenLabel.toList := by decide

theorem specHashLabel_plain : '=' ∉ specHashLabel.toList := by decide

theorem unitGenLabel_plain : '=' ∉ unitGenLabel.toList := by decide

theorem restartGenLabel_ne_unitGenLabel : restartGenLabel ≠ unitGenLabel := by decide

theorem restartGenLabel_ne_specHashLabel : restartGenLabel ≠ specHashLabel := by decide

def genLabels (gen : Nat) : List (String × String) :=
  if 0 < gen then [(restartGenLabel, toString gen)] else []

def ContainerSpec.line (spec : ContainerSpec) (inst : ResourceInstance)
    (labels : List (String × String)) : List String :=
  podmanArgs { spec with labels := appLabel inst :: instanceKeys inst ++ labels }

theorem line_eq (spec : ContainerSpec) (inst : ResourceInstance) (labels : List (String × String)) :
    spec.line inst labels = "podman" :: "run" :: (spec.front.flatMap Written.render ++
        ((labelOption (appLabel inst)).render ++
          (labelArgs (instanceKeys inst) ++ (labelArgs labels ++ spec.back)))) := by
  have labelled : labelArgs (appLabel inst :: instanceKeys inst ++ labels) =
      (labelOption (appLabel inst)).render ++
        (labelArgs (instanceKeys inst) ++ labelArgs labels) := by
    rfl
  rw [line, podmanArgs_labelled, labelled]
  simp

variable {inst : ResourceInstance}

/-- **Command lines that agree** have the same options in front of the labels, and agree
from the first label that may differ. -/
theorem line_cancel {spec other : ContainerSpec}
    (same : spec.line inst labels ++ rest = other.line inst others ++ more) :
    spec.front = other.front ∧
      labelArgs labels ++ (spec.back ++ rest) = labelArgs others ++ (other.back ++ more) := by
  rw [line_eq, line_eq] at same
  simp only [cons_append, append_assoc, cons.injEq, true_and] at same
  obtain ⟨front, -, following⟩ := render_align
    (forall_mem_cons.mpr ⟨labelOption_known (appLabel inst), front_known spec⟩)
    (forall_mem_cons.mpr ⟨labelOption_known (appLabel inst), front_known other⟩)
    (front_not_isLabel spec) (front_not_isLabel other) rfl rfl same
  exact ⟨front, append_cancel_left following⟩

theorem line_iff {spec other : ContainerSpec} : spec.line inst labels = other.line inst labels ↔
      spec.front = other.front ∧ spec.back = other.back := by
  constructor
  · intro same
    have line := congrArg (· ++ ([] : List String)) same
    obtain ⟨front, back⟩ := line_cancel line
    exact ⟨front, by simpa using back⟩
  · rintro ⟨front, back⟩
    rw [line_eq, line_eq, front, back]

namespace Situation

section Start

variable (sha256 : String → String) (kind : PodKind) (inst : ResourceInstance)
  (situation : Situation)

/-- The specification of the workload.  A job is never asked to restart. -/
def spec : ContainerSpec :=
  match kind with
  | .deployment =>
    deploymentSpec sha256 situation.container inst situation.around.context
      situation.around.restartGen
  | .job => jobSpec sha256 situation.container inst situation.around.context 0

def restart : TransientRestart := mapOnExit (situation.container.onExit.getD kind.defaultOnExit)

def launch : Launch where
  argv := podmanArgs (situation.spec sha256 kind inst)
  killSignal := situation.container.stopSignal
  timeoutStopSecs := situation.container.stopTimeoutSecs
  restart := situation.restart kind

/-- The first external volume that has no mapping. -/
def unmapped : Option String :=
  situation.container.requiredExternalVolumes.find? fun name =>
    (situation.around.context.externalVolumes name).isNone

/-- Start the workload, unless an external volume is not mapped. -/
def start : Except String Launch :=
  match situation.unmapped with
  | some name => .error s!"external volume '{name}' is not mapped"
  | none => .ok (situation.launch sha256 kind inst)

def readWith (reads : Reads) : Situation :=
  { situation with around := situation.around.readWith reads }

/-- The hash the workload would be started with now; none if the registry cannot be
read. -/
def desiredSpecHash (reads : Reads) : Option String :=
  if reads.registry then some (specHash sha256 ((situation.readWith reads).spec sha256 kind inst))
  else none

end Start

/-! ## What is hashed -/

section Hashed

variable (kind : PodKind) (inst : ResourceInstance) (situation : Situation)

def restartGen : Nat :=
  match kind with
  | .deployment => situation.around.restartGen
  | .job => 0

def unstamped : ContainerSpec := unstampedSpec situation.container inst situation.around.context

def hashedArgs : List String :=
  podmanArgs (situation.unstamped inst) ++ (situation.unstamped inst).stopArgs

theorem spec_eq (sha256 : String → String) : situation.spec sha256 kind inst =
      restartedSpec sha256 situation.container inst situation.around.context
        (situation.restartGen kind) := by
  cases kind <;> rfl

end Hashed

/-! ## When the hashes agree, and when nothing changed -/

section Compare

variable {sha256 : String → String} {kind : PodKind} {inst : ResourceInstance}
  {before now : Situation}

theorem podmanArgs_unstamped (inst : ResourceInstance) (situation : Situation) :
    podmanArgs (situation.unstamped inst) =
      (situation.unstamped inst).line inst [(unitGenLabel, "1")] :=
  rfl

theorem podmanArgs_spec (sha256 : String → String) (kind : PodKind) (inst : ResourceInstance)
    (situation : Situation) :
    podmanArgs (situation.spec sha256 kind inst) =
      (situation.unstamped inst).line inst (genLabels (situation.restartGen kind) ++
        [(specHashLabel, specHash sha256 (situation.unstamped inst)), (unitGenLabel, "1")]) := by
  rw [spec_eq, restartedSpec, genLabels]
  split <;> rfl

/-- The arguments hashed when the workload is looked at. -/
def desiredArgs (kind : PodKind) (inst : ResourceInstance) (situation : Situation) : List String :=
  (situation.unstamped inst).line inst
      (genLabels (situation.restartGen kind) ++ [(unitGenLabel, "1")]) ++
    (situation.unstamped inst).stopArgs

theorem desiredArgs_iff : now.desiredArgs kind inst = before.hashedArgs inst ↔
      now.restartGen kind = 0 ∧ now.hashedArgs inst = before.hashedArgs inst := by
  have zero : now.restartGen kind = 0 → now.desiredArgs kind inst = now.hashedArgs inst := by
    intro none
    rw [desiredArgs, hashedArgs, none]
    rfl
  constructor
  · intro same
    have none : now.restartGen kind = 0 := by
      rw [hashedArgs, podmanArgs_unstamped] at same
      obtain ⟨-, following⟩ := line_cancel same
      by_contra some
      -- the label of a restart generation faces the label of the unit's own
      rw [genLabels, if_pos (Nat.pos_of_ne_zero some)] at following
      exact restartGenLabel_ne_unitGenLabel
        (labelArgs_cancel restartGenLabel_plain unitGenLabel_plain following).1
    exact ⟨none, (zero none).symm.trans same⟩
  · rintro ⟨none, same⟩
    rw [zero none, same]

/-- No argument has a NUL in it: one that has cannot be passed to a process. -/
def NulFree (args : List String) : Prop := ∀ arg ∈ args, Char.ofNat 0 ∉ arg.toList

instance : DecidablePred NulFree := fun args =>
  inferInstanceAs (Decidable (∀ arg ∈ args, Char.ofNat 0 ∉ arg.toList))

theorem stampedHash_spec (sha256 : String → String) (kind : PodKind) (inst : ResourceInstance)
    (situation : Situation) :
    (situation.spec sha256 kind inst).stampedHash =
      some (sha256 (joinText (Char.ofNat 0) (situation.hashedArgs inst))) := by
  rw [spec_eq, restartedSpec]
  split <;> rfl

theorem specHash_spec (sha256 : String → String) (kind : PodKind) (inst : ResourceInstance)
    (situation : Situation) :
    specHash sha256 (situation.spec sha256 kind inst) =
      sha256 (joinText (Char.ofNat 0) (situation.desiredArgs kind inst)) := by
  rw [specHash, desiredArgs, genLabels, spec_eq, restartedSpec]
  split <;> rfl

/-- **The hashes agree** exactly if the restart generation is zero now and the arguments
hashed are the same. -/
theorem specHash_iff (collisionFree : Function.Injective sha256)
    (plain : NulFree (before.hashedArgs inst)) (plainNow : NulFree (now.desiredArgs kind inst)) :
    some (specHash sha256 (now.spec sha256 kind inst)) =
        (before.spec sha256 kind inst).stampedHash ↔
      now.restartGen kind = 0 ∧ now.hashedArgs inst = before.hashedArgs inst := by
  have some_desired : now.desiredArgs kind inst ≠ [] := by
    exact cons_ne_nil _ _
  have some_hashed : before.hashedArgs inst ≠ [] := by
    exact cons_ne_nil _ _
  rw [stampedHash_spec, specHash_spec, ← desiredArgs_iff, Option.some.injEq, collisionFree.eq_iff]
  constructor
  · intro joined
    exact joinText_injective plainNow plain some_desired some_hashed joined
  · intro same
    rw [same]

/-- The command and the stop settings have not changed. -/
structure Unaltered (inst : ResourceInstance) (before now : Situation) : Prop where
  argv : podmanArgs (now.unstamped inst) = podmanArgs (before.unstamped inst)
  killSignal : now.container.stopSignal = before.container.stopSignal
  timeoutStopSecs : now.container.stopTimeoutSecs = before.container.stopTimeoutSecs

/-- Nothing a workload is started with has changed. -/
structure Same (kind : PodKind) (inst : ResourceInstance) (before now : Situation) : Prop extends
    Unaltered inst before now where
  restart : now.restart kind = before.restart kind
  restartGen : now.restartGen kind = before.restartGen kind

/-- The command line of the one ends, behind that of the other, with stop settings of the
other. -/
def Traded (inst : ResourceInstance) (longer stopped : Situation) : Prop :=
  ∃ moved, moved ≠ [] ∧
    podmanArgs (longer.unstamped inst) = podmanArgs (stopped.unstamped inst) ++ moved ∧
    (stopped.unstamped inst).stopArgs = moved ++ (longer.unstamped inst).stopArgs

theorem stopArgs_inj {spec other : ContainerSpec} (same : spec.stopArgs = other.stopArgs) :
    spec.stopSignal = other.stopSignal ∧ spec.stopTimeoutSecs = other.stopTimeoutSecs := by
  have apart : ∀ signal timeout,
      "--seedling-stop-signal=" ++ signal ≠ "--seedling-stop-timeout=" ++ timeout := by
    intro signal timeout texts
    have spelled : "--seedling-stop-signal=" = "--seedling-stop-signal" ++ String.singleton '=' ∧
        "--seedling-stop-timeout=" = "--seedling-stop-timeout" ++ String.singleton '=' := by decide
    have pieces := congrArg (splitText '=') texts
    rw [spelled.1, spelled.2, splitText_append (by decide), splitText_append (by decide)] at pieces
    exact absurd (cons.inj pieces).1 (by decide)
  revert same
  unfold stopArgs
  cases spec.stopSignal <;> cases spec.stopTimeoutSecs <;> cases other.stopSignal <;>
    cases other.stopTimeoutSecs <;> simp [apart, (apart _ _).symm, repr_inj]

/-- What is hashed is the same exactly if nothing of it was altered, or arguments behind a
command took the place of stop settings. -/
theorem hashedArgs_iff : now.hashedArgs inst = before.hashedArgs inst ↔
      Unaltered inst before now ∨ Traded inst now before ∨ Traded inst before now := by
  constructor
  · intro same
    rcases append_eq_append_iff.mp same with ⟨moved, argv, stops⟩ | ⟨moved, argv, stops⟩
    · by_cases none : moved = []
      · subst none
        obtain ⟨signal, timeout⟩ := stopArgs_inj (stops.trans (nil_append _))
        exact .inl ⟨(argv.trans (append_nil _)).symm, signal, timeout⟩
      · exact .inr (.inr ⟨moved, none, argv, stops⟩)
    · by_cases none : moved = []
      · subst none
        obtain ⟨signal, timeout⟩ := stopArgs_inj (stops.trans (nil_append _))
        exact .inl ⟨argv.trans (append_nil _), signal.symm, timeout.symm⟩
      · exact .inr (.inl ⟨moved, none, argv, stops⟩)
  · rintro (⟨argv, killSignal, timeoutStopSecs⟩ | ⟨moved, -, argv, stops⟩ | ⟨moved, -, argv, stops⟩)
    · have stops : (now.unstamped inst).stopArgs = (before.unstamped inst).stopArgs := by
        simp only [stopArgs, unstamped, unstampedSpec, killSignal, timeoutStopSecs]
      rw [hashedArgs, hashedArgs, argv, stops]
    · rw [hashedArgs, hashedArgs, argv, stops, append_assoc]
    · rw [hashedArgs, hashedArgs, argv, stops, append_assoc]

theorem Unaltered.hashedArgs (same : Unaltered inst before now) :
    now.hashedArgs inst = before.hashedArgs inst :=
  hashedArgs_iff.mpr (.inl same)

theorem genLabels_cancel {gen other : Nat} {labels others : List (String × String)}
    {rest more : List String} {hash otherHash : String}
    (same : labelArgs (genLabels gen ++ (specHashLabel, hash) :: labels) ++ rest =
      labelArgs (genLabels other ++ (specHashLabel, otherHash) :: others) ++ more) :
    gen = other ∧ labelArgs labels ++ rest = labelArgs others ++ more := by
  rw [genLabels, genLabels] at same
  by_cases positive : 0 < gen <;> by_cases otherPositive : 0 < other
  · rw [if_pos positive, if_pos otherPositive, singleton_append] at same
    obtain ⟨-, gens, same⟩ := labelArgs_cancel restartGenLabel_plain restartGenLabel_plain same
    obtain ⟨-, -, following⟩ := labelArgs_cancel specHashLabel_plain specHashLabel_plain same
    exact ⟨repr_inj.mp gens, following⟩
  · rw [if_pos positive, if_neg otherPositive, nil_append] at same
    exact absurd (labelArgs_cancel restartGenLabel_plain specHashLabel_plain same).1
      restartGenLabel_ne_specHashLabel
  · rw [if_neg positive, if_pos otherPositive, nil_append] at same
    exact absurd (labelArgs_cancel specHashLabel_plain restartGenLabel_plain same).1.symm
      restartGenLabel_ne_specHashLabel
  · rw [if_neg positive, if_neg otherPositive, nil_append] at same
    obtain ⟨-, -, following⟩ := labelArgs_cancel specHashLabel_plain specHashLabel_plain same
    exact ⟨by omega, following⟩

/-- **Nothing changed** exactly if the unit would be started with the same settings. -/
theorem launch_iff :
    now.launch sha256 kind inst = before.launch sha256 kind inst ↔ Same kind inst before now := by
  simp only [launch, Launch.mk.injEq, podmanArgs_spec]
  constructor
  · rintro ⟨argv, killSignal, timeoutStopSecs, restart⟩
    have line := congrArg (· ++ ([] : List String)) argv
    obtain ⟨front, following⟩ := line_cancel line
    obtain ⟨restartGen, following⟩ := genLabels_cancel following
    have back : (now.unstamped inst).back = (before.unstamped inst).back := by
      simpa using following
    have core : podmanArgs (now.unstamped inst) = podmanArgs (before.unstamped inst) := by
      rw [podmanArgs_unstamped, podmanArgs_unstamped, line_iff]
      exact ⟨front, back⟩
    exact ⟨⟨core, killSignal, timeoutStopSecs⟩, restart, restartGen⟩
  · intro same
    have core := same.argv
    rw [podmanArgs_unstamped, podmanArgs_unstamped, line_iff] at core
    have stamp : specHash sha256 (now.unstamped inst) = specHash sha256 (before.unstamped inst) :=
      congrArg (fun args => sha256 (joinText (Char.ofNat 0) args)) same.hashedArgs
    rw [same.restartGen, stamp, line_iff]
    exact ⟨core, same.killSignal, same.timeoutStopSecs, same.restart⟩

/-- The mount of an external volume, given what its mapping stands for. -/
def externalMount (path name : String) : Option ResolvedExternalMount → Mount
  | some resolved => ⟨resolved.source, path, resolved.readOnly⟩
  | none => ⟨.volume name, path, false⟩

/-- Each external volume is mounted as if it were not mapped, with the site volumes there are
or with none. -/
def Bound (situation : Situation) : Prop :=
  ∀ sites ∈ [situation.around.sites, []], ∀ path name,
    (path, .externalVolume ⟨name, none⟩) ∈ situation.container.volumeMounts →
      (externalMount path name (resolveExternalVolumes situation.around.volumesDir
        situation.around.mappings sites name)).option = (externalMount path name none).option

/-- What failed reads make of the arguments hashed shows in the mounts alone. -/
theorem hashedArgs_readWith_iff (reads : Reads) :
    (now.readWith reads).hashedArgs inst = now.hashedArgs inst ↔
      ∀ entry ∈ now.container.volumeMounts,
        (resolveMount inst.app (now.readWith reads).around.context entry.1 entry.2).option =
          (resolveMount inst.app now.around.context entry.1 entry.2).option := by
  have front : ((now.readWith reads).unstamped inst).front = (now.unstamped inst).leading ++
      ((now.readWith reads).unstamped inst).mounts.map Mount.option := rfl
  have stops : ((now.readWith reads).unstamped inst).stopArgs = (now.unstamped inst).stopArgs := rfl
  rw [hashedArgs, hashedArgs, stops, append_left_inj, podmanArgs_unstamped,
    podmanArgs_unstamped, line_iff, front, ContainerSpec.front, append_right_inj]
  refine (and_iff_left rfl).trans ?_
  simp only [unstamped, unstampedSpec, map_map]
  exact map_inj_left

/-- **An unchanged workload hashes the same whichever reads fail** exactly if its external
volumes are mounted as if they were not mapped. -/
theorem hashedArgs_kept_iff : (∀ reads : Reads, reads.registry →
      (now.readWith reads).hashedArgs inst = now.hashedArgs inst) ↔ now.Bound := by
  simp only [hashedArgs_readWith_iff]
  constructor
  · intro kept sites listed path name mem
    have mapped : (externalMount path name none).option = (externalMount path name
        (now.around.context.externalVolumes name)).option :=
      kept ⟨true, true, false, true⟩ rfl _ mem
    have site : (externalMount path name (resolveExternalVolumes now.around.volumesDir
        now.around.mappings [] name)).option = (externalMount path name
          (now.around.context.externalVolumes name)).option :=
      kept ⟨true, true, true, false⟩ rfl _ mem
    rcases mem_cons.mp listed with rfl | none
    · exact mapped.symm
    · rw [mem_singleton.mp none]
      exact site.trans mapped.symm
  · intro bound reads _ entry mem
    obtain ⟨path, volume | ⟨name, binding | binding⟩⟩ := entry
    · rfl
    · have here := bound _ mem_cons_self path name mem
      have siteless := bound [] (by simp) path name mem
      obtain ⟨_, _, mappings, sites⟩ := reads
      cases mappings with
      | false => exact here.symm
      | true =>
        cases sites with
        | false => exact siteless.trans here.symm
        | true => rfl
    · rfl

end Compare

end Situation

/-! ## Drift -/

section Drift

variable (sha256 : String → String) (kind : PodKind) (inst : ResourceInstance)
  (before now : Situation)

/-- Drift is told exactly, of an instance that was started in one situation and is
looked at in another: a start that would run something else is told by the hashes, one
that would not is not, and no read that fails makes it look as if it would. -/
structure DriftExact : Prop where
  detects : ∀ launched next, before.start sha256 kind inst = .ok launched →
    now.start sha256 kind inst = .ok next → next ≠ launched →
      now.desiredSpecHash sha256 kind inst .allSucceed ≠ (before.spec sha256 kind inst).stampedHash
  agrees : ∀ launched, before.start sha256 kind inst = .ok launched →
    now.start sha256 kind inst = .ok launched → now.desiredSpecHash sha256 kind inst .allSucceed =
        (before.spec sha256 kind inst).stampedHash
  robust : ∀ launched, before.start sha256 kind inst = .ok launched →
    now.start sha256 kind inst = .ok launched → ∀ reads,
      specStale (before.spec sha256 kind inst).stampedHash
        (now.desiredSpecHash sha256 kind inst reads) = false

/-- What the hashes can tell: a workload that has been asked to restart has changed since;
of one that has not, no argument behind the command was traded for a stop setting, and if
the command and the stop settings are as they were, so is the restart policy, it had not been
asked before, and its external volumes are bound. -/
structure Tellable : Prop where
  restarted : Situation.Same kind inst before now → now.restartGen kind = 0
  untraded : now.restartGen kind = 0 →
    ¬ Situation.Traded inst now before ∧ ¬ Situation.Traded inst before now
  unaltered : now.restartGen kind = 0 → Situation.Unaltered inst before now →
    now.restart kind = before.restart kind ∧ before.restartGen kind = 0 ∧ now.Bound

end Drift

namespace Situation

variable {sha256 : String → String} {kind : PodKind} {inst : ResourceInstance}
  {before now situation : Situation} {launched : Launch}

theorem start_iff : situation.start sha256 kind inst = .ok launched ↔
      situation.unmapped = none ∧ situation.launch sha256 kind inst = launched := by
  rw [start]
  cases situation.unmapped <;> simp

theorem restartGen_readWith (reads : Reads) (zero : now.restartGen kind = 0) :
    (now.readWith reads).restartGen kind = 0 := by
  cases kind with
  | job => rfl
  | deployment =>
    have none : now.around.restartGen = 0 := zero
    simp [restartGen, readWith, Surroundings.readWith, none]

theorem desiredSpecHash_iff (collisionFree : Function.Injective sha256) {reads : Reads}
    (plain : NulFree (before.hashedArgs inst))
    (plainNow : NulFree ((now.readWith reads).desiredArgs kind inst))
    (registry : reads.registry) :
    now.desiredSpecHash sha256 kind inst reads = (before.spec sha256 kind inst).stampedHash ↔
      (now.readWith reads).restartGen kind = 0 ∧
        (now.readWith reads).hashedArgs inst = before.hashedArgs inst := by
  rw [desiredSpecHash, if_pos registry]
  exact specHash_iff collisionFree plain plainNow

theorem specStale_iff (reads : Reads) : specStale (before.spec sha256 kind inst).stampedHash
        (now.desiredSpecHash sha256 kind inst reads) = false ↔
      (reads.registry → now.desiredSpecHash sha256 kind inst reads =
        (before.spec sha256 kind inst).stampedHash) := by
  rw [desiredSpecHash, stampedHash_spec]
  cases reads.registry with
  | false =>
    exact iff_of_true rfl nofun
  | true =>
    rw [if_pos rfl, specStale, decide_eq_false_iff_not, not_not, eq_comm, Option.some.injEq]
    exact ⟨fun same _ => same, fun same => same rfl⟩

end Situation

theorem driftExact_iff_hashed {sha256 : String → String} (collisionFree : Function.Injective sha256)
    {kind : PodKind} {inst : ResourceInstance} {before now : Situation}
    (plain : Situation.NulFree (before.hashedArgs inst))
    (plainNow : ∀ reads, Situation.NulFree ((now.readWith reads).desiredArgs kind inst)) :
    DriftExact sha256 kind inst before now ↔ (before.unmapped = none → now.unmapped = none →
      (now.restartGen kind = 0 → now.hashedArgs inst = before.hashedArgs inst →
        Situation.Same kind inst before now) ∧
      (Situation.Same kind inst before now → now.restartGen kind = 0 ∧
        ∀ reads : Reads, reads.registry →
          (now.readWith reads).hashedArgs inst = now.hashedArgs inst)) := by
  have agree (reads : Reads) (registry : reads.registry) :=
    Situation.desiredSpecHash_iff collisionFree plain (plainNow reads) registry
  have started (mapped : before.unmapped = none) :
      before.start sha256 kind inst = .ok (before.launch sha256 kind inst) :=
    Situation.start_iff.mpr ⟨mapped, rfl⟩
  constructor
  · intro drift mapped nowMapped
    refine ⟨?_, ?_⟩
    · intro zero hashed
      by_contra changed
      refine drift.detects _ _ (started mapped) (Situation.start_iff.mpr ⟨nowMapped, rfl⟩) ?_
        ((agree .allSucceed rfl).mpr ⟨zero, hashed⟩)
      intro launched
      exact changed (Situation.launch_iff.mp launched)
    · intro same
      have unchanged : now.start sha256 kind inst = .ok (before.launch sha256 kind inst) :=
        Situation.start_iff.mpr ⟨nowMapped, Situation.launch_iff.mpr same⟩
      refine ⟨((agree .allSucceed rfl).mp (drift.agrees _ (started mapped) unchanged)).1, ?_⟩
      intro reads registry
      have fresh := drift.robust _ (started mapped) unchanged reads
      have hashed := ((agree reads registry).mp
        ((Situation.specStale_iff reads).mp fresh registry)).2
      exact hashed.trans same.hashedArgs.symm
  · intro tells
    -- a start that runs the same is of a situation where nothing changed
    have unchanged {launched : Launch} (first : before.start sha256 kind inst = .ok launched)
        (again : now.start sha256 kind inst = .ok launched) :
        Situation.Same kind inst before now ∧ now.restartGen kind = 0 ∧
          ∀ reads : Reads, reads.registry →
            (now.readWith reads).hashedArgs inst = now.hashedArgs inst := by
      obtain ⟨mapped, rfl⟩ := Situation.start_iff.mp first
      obtain ⟨nowMapped, same⟩ := Situation.start_iff.mp again
      have same := Situation.launch_iff.mp same
      exact ⟨same, (tells mapped nowMapped).2 same⟩
    refine ⟨?_, ?_, ?_⟩
    · intro launched next first again changed hashes
      obtain ⟨mapped, rfl⟩ := Situation.start_iff.mp first
      obtain ⟨nowMapped, rfl⟩ := Situation.start_iff.mp again
      obtain ⟨zero, hashed⟩ := (agree .allSucceed rfl).mp hashes
      exact changed (Situation.launch_iff.mpr ((tells mapped nowMapped).1 zero hashed))
    · intro launched first again
      obtain ⟨same, zero, -⟩ := unchanged first again
      exact (agree .allSucceed rfl).mpr ⟨zero, same.hashedArgs⟩
    · intro launched first again reads
      obtain ⟨same, zero, kept⟩ := unchanged first again
      rw [Situation.specStale_iff]
      intro registry
      exact (agree reads registry).mpr
        ⟨Situation.restartGen_readWith reads zero, (kept reads registry).trans same.hashedArgs⟩

/-- **Drift is told exactly** if and only if what has changed, or not, is something the
hashes can tell. -/
theorem drift_exact_iff (sha256 : String → String) (collisionFree : Function.Injective sha256)
    (kind : PodKind) (inst : ResourceInstance) (before now : Situation)
    (plain : Situation.NulFree (before.hashedArgs inst))
    (plainNow : ∀ reads, Situation.NulFree ((now.readWith reads).desiredArgs kind inst)) :
    DriftExact sha256 kind inst before now ↔
      (before.unmapped = none → now.unmapped = none → Tellable kind inst before now) := by
  rw [driftExact_iff_hashed collisionFree plain plainNow]
  refine imp_congr_right fun _ => imp_congr_right fun _ => ?_
  rw [Situation.hashedArgs_iff, Situation.hashedArgs_kept_iff]
  constructor
  · rintro ⟨told, kept⟩
    refine ⟨fun same => (kept same).1, fun zero => ⟨fun traded => ?_, fun traded => ?_⟩, ?_⟩
    · have argv := (told zero (.inr (.inl traded))).argv
      obtain ⟨moved, some', longer, -⟩ := traded
      exact some' (self_eq_append_right.mp (argv.symm.trans longer))
    · have argv := (told zero (.inr (.inr traded))).argv
      obtain ⟨moved, some', longer, -⟩ := traded
      exact some' (self_eq_append_right.mp (argv.trans longer))
    · intro zero unaltered
      have same := told zero (.inl unaltered)
      exact ⟨same.restart, same.restartGen.symm.trans zero, (kept same).2⟩
  · rintro ⟨restarted, untraded, unaltered⟩
    refine ⟨?_, fun same => ?_⟩
    · rintro zero (same | longer | shorter)
      · obtain ⟨restart, none, -⟩ := unaltered zero same
        exact ⟨same, restart, zero.trans none.symm⟩
      · exact absurd longer (untraded zero).1
      · exact absurd shorter (untraded zero).2
    · have zero := restarted same
      exact ⟨zero, (unaltered zero same.toUnaltered).2.2⟩

def nginx (tag : String) : ContainerDef :=
  { ContainerDef.empty with image := some ("docker.io/library/nginx:" ++ tag) }

def webSituation (tag : String) : Situation := ⟨nginx tag, plainSurroundings⟩

/-- A new image is told, whichever reads fail. -/
theorem newImage_drift_exact :
    DriftExact id .deployment webInstance (webSituation "1.27") (webSituation "1.28") := by
  have read (reads : Reads) : (webSituation "1.28").readWith reads = webSituation "1.28" := by
    simp [Situation.readWith, Surroundings.readWith, webSituation, plainSurroundings]
  have changed : podmanArgs ((webSituation "1.28").unstamped webInstance) ≠
      podmanArgs ((webSituation "1.27").unstamped webInstance) := by decide
  have traded : ∀ old new, ¬ Situation.Traded webInstance (webSituation old) (webSituation new) := by
    rintro old new ⟨moved, some', -, stops⟩
    exact some' (append_eq_nil_iff.mp stops.symm).1
  exact (drift_exact_iff id Function.injective_id .deployment webInstance _ _
    (by decide) (fun reads => by rw [read]; decide)).mpr fun _ _ =>
      ⟨fun _ => rfl, fun _ => ⟨traded _ _, traded _ _⟩, fun _ same => absurd same.argv changed⟩

def restartedOnce : Situation := ⟨nginx "1.27", { plainSurroundings with restartGen := 1 }⟩

def restartsOnFailure : Situation :=
  ⟨{ nginx "1.27" with onExit := some .restartOnFailure }, plainSurroundings⟩

def mapped : Situation :=
  ⟨{ nginx "1.27" with volumeMounts := [("/srv/data", .externalVolume ⟨"data", none⟩)] },
    { plainSurroundings with
      mappings := [⟨"data", .site "archive", false⟩], sites := [⟨"archive", .managed⟩] }⟩

theorem hashes_miss_drift : ¬ DriftExact id .deployment webInstance restartedOnce restartedOnce ∧
      ¬ DriftExact id .deployment webInstance (webSituation "1.27") restartsOnFailure ∧
      ¬ DriftExact id .deployment webInstance mapped mapped := by
  refine ⟨fun drift => ?_, fun drift => ?_, fun drift => ?_⟩
  · have agrees := drift.agrees _ rfl rfl
    have zero := ((Situation.desiredSpecHash_iff Function.injective_id (by decide) (by decide)
      rfl).mp agrees).1
    exact absurd zero (by decide)
  · refine drift.detects _ _ rfl rfl ?_ ?_
    · intro same
      exact absurd (congrArg Launch.restart same) (by decide)
    · exact (Situation.desiredSpecHash_iff Function.injective_id (by decide) (by decide)
        rfl).mpr ⟨rfl, rfl⟩
  · have fresh := drift.robust _ rfl rfl ⟨true, true, false, true⟩
    have hashed := ((Situation.desiredSpecHash_iff Function.injective_id (by decide) (by decide)
      rfl).mp ((Situation.specStale_iff _).mp fresh rfl)).2
    have mounts := (Situation.hashedArgs_readWith_iff _).mp hashed _ mem_cons_self
    exact absurd mounts (by decide)

end Seedling.Container
