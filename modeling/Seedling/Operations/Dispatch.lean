import Seedling.Instances.DisplayNames
import Seedling.Operations.Daemon

/-!
# What an action closure is given

Before an operation runs, each parameter of kind volume is taken out of its
parameters, the site volume it names is bound under a name made for the operation,
and that name is put in under a key of its own.  The parameters so rewritten are what
is persisted, and what the operation is dispatched with again after a restart.

`restart_gives_the_same_iff` says when every later dispatch gives the closure what the
first one did: when no volume was bound.
-/

namespace Seedling.Operations

open Apps Foundation Instances List Prod
open Barrier (Json Params)

/-! ## Parameter maps -/

def Params.remove (params : Params) (key : String) : Params := params.filter (·.1 ≠ key)

def Params.insert (params : Params) (entry : String × Json) : Params := upsert Prod.fst entry params

/-! ## Volume parameters -/

inductive ParamKind where
  | text
  | multiline
  | email
  | password
  | weakPassword
  | random
  | volume
deriving DecidableEq

abbrev ParamSchema := List (String × ParamKind)

structure VolumeParamSpec where
  hostPath : String
  readOnly : Bool
  filename : Option String

structure OperationVolumeBinding where
  hostPath : String
  readOnly : Bool
deriving DecidableEq

abbrev Bindings := List (String × OperationVolumeBinding)

def volumeName (operationId key : String) : String :=
  "seedling-op-" ++ String.ofList (operationId.toList.take 8) ++ "-" ++ key

/-- Bind one volume under the operation's name for it, and say so in the parameters. -/
def buildOperationVolumeParam (operationId : String) (built : Bindings × Params)
    (entry : String × VolumeParamSpec) : Bindings × Params :=
  let (key, spec) := entry
  let name := volumeName operationId key
  let params := Params.insert built.2 (key ++ "_volume", .string name)
  (upsert Prod.fst (name, ⟨spec.hostPath, spec.readOnly⟩) built.1,
    match spec.filename with
    | some filename => Params.insert params (key ++ "_filename", .string filename)
    | none => params)

def buildOperationVolumeParams (operationId : String) (specs : List (String × VolumeParamSpec)) :
    Bindings × Params :=
  specs.foldl (buildOperationVolumeParam operationId) ([], [])

section Resolve

variable (siteVolumes : String → Option SiteVolumeKind)

def resolveVolume (value : Json) : Option VolumeParamSpec :=
  match value with
  | .string name =>
    if validateBslName name = .ok () then
      (siteVolumes name).map fun kind =>
        { hostPath := match kind with
            | .bind hostPath => hostPath
            | _ => siteVolumeDir name
          readOnly := kind.isReadOnly
          filename := none }
    else none
  | _ => none

def volumeKeys (schema : ParamSchema) : List String := (schema.filter (·.2 = .volume)).map Prod.fst

/-- Take a volume parameter out, and note its volume if it names one. -/
def takeVolumeParam (taken : Params × List (String × VolumeParamSpec)) (key : String) :
    Params × List (String × VolumeParamSpec) :=
  (Params.remove taken.1 key, taken.2 ++
      (((taken.1.lookup key).bind (resolveVolume siteVolumes)).map fun spec => (key, spec)).toList)

/-- What the closure is given; `schema` is that of the action, if it is one of the
definition's. -/
def resolveActionVolumeParams (schema : Option ParamSchema) (params : Params)
    (operationId : String) : Params × Bindings :=
  match schema with
  | none => (params, [])
  | some schema =>
    let (params, specs) := (volumeKeys schema).foldl (takeVolumeParam siteVolumes) (params, [])
    if specs = [] then (params, [])
    else
      let (bindings, injected) := buildOperationVolumeParams operationId specs
      (injected.foldl Params.insert params, bindings)

end Resolve

/-! ## What is taken out and put in -/

section Taken

variable {siteVolumes : String → Option SiteVolumeKind} {params : Params} {keys : List String}
  {key : String}

theorem lookup_remove {other : String} (different : other ≠ key) :
    (Params.remove params key).lookup other = params.lookup other := by
  induction params with
  | nil => rfl
  | cons entry params ih =>
    simp only [Params.remove, filter_cons] at ih ⊢
    split
    · rw [lookup_cons, lookup_cons, ih]
    · rename_i same
      have isKey : entry.1 = key := by simpa using same
      rw [ih, lookup_cons, isKey, beq_false_of_ne different]

theorem lookup_remove_self : (Params.remove params key).lookup key = none := by
  rw [lookup_eq_none_iff]
  intro entry mem
  have different : entry.1 ≠ key := by simpa using (mem_filter.mp mem).2
  simpa using different.symm

variable {specs : List (String × VolumeParamSpec)}

theorem taken_params : (keys.foldl (takeVolumeParam siteVolumes) (params, specs)).1 =
      params.filter fun entry => entry.1 ∉ keys := by
  induction keys generalizing params specs with
  | nil => simp
  | cons key keys ih =>
    rw [foldl_cons, takeVolumeParam, ih, Params.remove, filter_filter]
    congr 1
    simp [Bool.and_comm]

theorem mem_taken_specs {spec : VolumeParamSpec} :
    (key, spec) ∈ (keys.foldl (takeVolumeParam siteVolumes) (params, specs)).2 ↔
      (key, spec) ∈ specs ∨
        key ∈ keys ∧ (params.lookup key).bind (resolveVolume siteVolumes) = some spec := by
  induction keys generalizing params specs with
  | nil => simp
  | cons first keys ih =>
    rw [foldl_cons, takeVolumeParam, ih]
    by_cases same : key = first
    · subst same
      rw [lookup_remove_self]
      generalize (params.lookup key).bind (resolveVolume siteVolumes) = found
      cases found <;> simp [eq_comm]
    · have other : (key, spec) ∉ (((params.lookup first).bind
          (resolveVolume siteVolumes)).map fun spec => (first, spec)).toList := by
        intro mem
        rw [Option.mem_toList, Option.map_eq_some_iff] at mem
        obtain ⟨_, _, equal⟩ := mem
        exact same (congrArg fst equal).symm
      rw [lookup_remove same, mem_append, or_iff_left other, mem_cons, or_iff_right same]

end Taken

section Built

variable {operationId : String}

theorem volumeName_injective {first second : String}
    (same : volumeName operationId first = volumeName operationId second) : first = second := by
  simpa [volumeName] using same

variable {specs : List (String × VolumeParamSpec)}

theorem mem_bindings {name : String} :
    name ∈ (buildOperationVolumeParams operationId specs).1.map fst ↔
      ∃ entry ∈ specs, name = volumeName operationId entry.1 := by
  have each : ∀ (specs : List (String × VolumeParamSpec)) (built : Bindings × Params),
      name ∈ (specs.foldl (buildOperationVolumeParam operationId) built).1.map fst ↔
        name ∈ built.1.map fst ∨ ∃ entry ∈ specs, name = volumeName operationId entry.1 := by
    intro specs
    induction specs with
    | nil => simp
    | cons entry specs ih =>
      intro built
      rw [foldl_cons, ih, buildOperationVolumeParam, mem_map_upsert]
      simp [or_assoc, or_left_comm]
  exact (each specs ([], [])).trans (by simp only [map_nil, not_mem_nil, false_or])

variable {key : String}

theorem key_of_injected (mem : key ∈ (buildOperationVolumeParams operationId specs).2.map fst) :
    ∃ entry ∈ specs, entry.1.length < key.length := by
  have each : ∀ (specs : List (String × VolumeParamSpec)) (built : Bindings × Params),
      key ∈ (specs.foldl (buildOperationVolumeParam operationId) built).2.map fst →
        key ∈ built.2.map fst ∨ ∃ entry ∈ specs, entry.1.length < key.length := by
    intro specs
    induction specs with
    | nil => exact fun _ listed => .inl listed
    | cons entry specs ih =>
      intro built listed
      rcases ih _ listed with here | ⟨later, known, longer⟩
      · have own : key ∈ built.2.map fst ∨
            key = entry.1 ++ "_volume" ∨ key = entry.1 ++ "_filename" := by
          simp only [buildOperationVolumeParam, Params.insert] at here
          split at here <;> simp only [mem_map_upsert] at here <;> tauto
        refine own.imp_right fun suffixed => ⟨entry, mem_cons_self, ?_⟩
        rcases suffixed with rfl | rfl <;> rw [String.length_append] <;>
          exact Nat.lt_add_of_pos_right (by decide)
      · exact .inr ⟨later, mem_cons_of_mem _ known, longer⟩
  rcases each specs ([], []) mem with none | found
  · cases none
  · exact found

theorem mem_foldl_insert {injected params : Params} :
    key ∈ (injected.foldl Params.insert params).map fst ↔
      key ∈ injected.map fst ∨ key ∈ params.map fst := by
  induction injected generalizing params with
  | nil => simp
  | cons entry injected ih =>
    rw [foldl_cons, ih, Params.insert, mem_map_upsert, map_cons, mem_cons, or_assoc, or_left_comm]

end Built

/-! ## Dispatching again -/

/-- The column of the operation's row that keeps its parameters. -/
structure ParamsColumn (Stored : Type) where
  save : Params → Stored
  load : Stored → Option Params
  load_save : ∀ params, load (save params) = some params

/-- An operation and what its parameters are resolved and persisted with. -/
structure Dispatcher (Stored : Type) where
  column : ParamsColumn Stored
  siteVolumes : String → Option SiteVolumeKind
  schema : Option ParamSchema
  operationId : String

namespace Dispatcher

variable {Stored : Type} (dispatcher : Dispatcher Stored)

def dispatch (params : Params) : Params × Bindings :=
  resolveActionVolumeParams dispatcher.siteVolumes dispatcher.schema params dispatcher.operationId

def saveCurrentOperation (params : Params) : Stored := dispatcher.column.save params

def loadCurrentOperationParams (stored : Stored) : Option Params := dispatcher.column.load stored

theorem load_save (params : Params) :
    dispatcher.loadCurrentOperationParams (dispatcher.saveCurrentOperation params) = some params :=
  dispatcher.column.load_save params

/-- Restarts of the daemon while the operation is in flight.  A restart dispatches it
again from the stored parameters; the label says whether this dispatch gets to store its
own before the daemon stops again. -/
def restarts : Machine Stored Bool (Option (Params × Bindings)) where
  step stored saved :=
    match dispatcher.loadCurrentOperationParams stored with
    | none => (none, stored)
    | some params =>
      let given := dispatcher.dispatch params
      (some given, if saved then dispatcher.saveCurrentOperation given.1 else stored)

variable {dispatcher}

def specs (dispatcher : Dispatcher Stored) (params : Params) : List (String × VolumeParamSpec) :=
  ((volumeKeys (dispatcher.schema.getD [])).foldl (takeVolumeParam dispatcher.siteVolumes)
    (params, [])).2

def rest (dispatcher : Dispatcher Stored) (params : Params) : Params :=
  params.filter fun entry => entry.1 ∉ volumeKeys (dispatcher.schema.getD [])

variable {params : Params} {key : String} {spec : VolumeParamSpec}

theorem mem_specs :
    (key, spec) ∈ dispatcher.specs params ↔ key ∈ volumeKeys (dispatcher.schema.getD []) ∧
      (params.lookup key).bind (resolveVolume dispatcher.siteVolumes) = some spec := by
  simp [specs, mem_taken_specs]

theorem dispatch_eq (dispatcher : Dispatcher Stored) (params : Params) :
    dispatcher.dispatch params =
      if dispatcher.specs params = [] then (dispatcher.rest params, [])
      else
        ((buildOperationVolumeParams dispatcher.operationId (dispatcher.specs params)).2.foldl
            Params.insert (dispatcher.rest params),
          (buildOperationVolumeParams dispatcher.operationId (dispatcher.specs params)).1) := by
  obtain ⟨column, siteVolumes, schema, operationId⟩ := dispatcher
  simp only [dispatch, resolveActionVolumeParams, specs, rest]
  cases schema with
  | none => simp [volumeKeys]
  | some =>
    simp only [taken_params]
    exact if_congr Iff.rfl rfl rfl

theorem not_mem_rest (isVolume : key ∈ volumeKeys (dispatcher.schema.getD [])) :
    key ∉ (dispatcher.rest params).map fst := by
  intro mem
  obtain ⟨entry, inside, rfl⟩ := mem_map.mp mem
  have other := (mem_filter.mp inside).2
  simp [isVolume] at other

theorem mem_keys_of_bind {resolve : Json → Option VolumeParamSpec}
    (named : (params.lookup key).bind resolve = some spec) :
    key ∈ params.map fst := by
  obtain ⟨value, found, -⟩ := Option.bind_eq_some_iff.mp named
  obtain ⟨before, after, rfl, -⟩ := lookup_eq_some_iff.mp found
  simp

theorem dispatch_again (unbound : dispatcher.specs params = []) :
    dispatcher.dispatch (dispatcher.dispatch params).1 = dispatcher.dispatch params := by
  have first : dispatcher.dispatch params = (dispatcher.rest params, []) := by
    rw [dispatch_eq, if_pos unbound]
  have nothing : dispatcher.specs (dispatcher.rest params) = [] := by
    refine eq_nil_iff_forall_not_mem.mpr ?_
    rintro ⟨key, spec⟩ found
    obtain ⟨isVolume, named⟩ := mem_specs.mp found
    exact not_mem_rest isVolume (mem_keys_of_bind named)
  rw [first, dispatch_eq, if_pos nothing, rest, rest]
  simp

theorem dispatch_differs (bound : dispatcher.specs params ≠ []) :
    (dispatcher.dispatch (dispatcher.dispatch params).1).2 ≠ (dispatcher.dispatch params).2 := by
  intro same
  have first := dispatch_eq dispatcher params
  rw [if_neg bound] at first
  -- a volume found again was put in by the first dispatch, so a shorter key was bound there
  have shorter : ∀ entry ∈ dispatcher.specs (dispatcher.dispatch params).1,
      ∃ earlier ∈ dispatcher.specs params, earlier.1.length < entry.1.length := by
    rintro ⟨key, spec⟩ found
    obtain ⟨isVolume, named⟩ := mem_specs.mp found
    have listed := mem_keys_of_bind named
    rw [first, mem_foldl_insert, or_iff_left (not_mem_rest isVolume)] at listed
    exact key_of_injected listed
  have again : ∀ entry ∈ dispatcher.specs params,
      ∃ later ∈ dispatcher.specs (dispatcher.dispatch params).1, later.1 = entry.1 := by
    intro entry found
    have named : volumeName dispatcher.operationId entry.1 ∈
        (dispatcher.dispatch params).2.map fst := by
      rw [first]
      exact mem_bindings.mpr ⟨entry, found, rfl⟩
    rw [← same, dispatch_eq] at named
    split at named
    · cases named
    · obtain ⟨later, known, equal⟩ := mem_bindings.mp named
      exact ⟨later, known, (volumeName_injective equal).symm⟩
  have none_bound : ∀ size, ∀ entry ∈ dispatcher.specs params, entry.1.length = size → False := by
    intro size
    induction size using Nat.strong_induction_on with
    | _ size ih =>
      intro entry found length
      obtain ⟨later, known, equal⟩ := again entry found
      obtain ⟨earlier, before, less⟩ := shorter later known
      exact ih earlier.1.length (by rw [← length, ← equal]; exact less) earlier before rfl
  obtain ⟨entry, found⟩ := exists_mem_of_ne_nil _ bound
  exact none_bound _ entry found rfl

theorem outputs_eq
    (again : dispatcher.dispatch (dispatcher.dispatch params).1 = dispatcher.dispatch params)
    (labels : List Bool) :
    ∀ given ∈ dispatcher.restarts.outputs
        (dispatcher.saveCurrentOperation (dispatcher.dispatch params).1) labels,
      given = some (dispatcher.dispatch params) := by
  induction labels with
  | nil => exact nofun
  | cons saved labels ih =>
    have step : dispatcher.restarts.step
        (dispatcher.saveCurrentOperation (dispatcher.dispatch params).1) saved =
          (some (dispatcher.dispatch params),
            dispatcher.saveCurrentOperation (dispatcher.dispatch params).1) := by
      simp [restarts, load_save, again]
    rw [Machine.outputs, Machine.next, step]
    exact forall_mem_cons.mpr ⟨rfl, ih⟩

end Dispatcher

/-- **Every restart gives the closure the parameters and volume bindings of the first
dispatch exactly when no parameter of kind volume names a site volume.** -/
theorem restart_gives_the_same_iff {Stored : Type} (dispatcher : Dispatcher Stored)
    (params : Params) :
    (∀ labels, ∀ given ∈ dispatcher.restarts.outputs
        (dispatcher.saveCurrentOperation (dispatcher.dispatch params).1) labels,
      given = some (dispatcher.dispatch params)) ↔
    ∀ key ∈ volumeKeys (dispatcher.schema.getD []),
      (params.lookup key).bind (resolveVolume dispatcher.siteVolumes) = none := by
  have unbound_iff : dispatcher.specs params = [] ↔ ∀ key ∈ volumeKeys (dispatcher.schema.getD []),
        (params.lookup key).bind (resolveVolume dispatcher.siteVolumes) = none := by
    rw [eq_nil_iff_forall_not_mem]
    constructor
    · intro nothing key isVolume
      refine Option.eq_none_iff_forall_ne_some.mpr fun spec named => ?_
      exact nothing (key, spec) (Dispatcher.mem_specs.mpr ⟨isVolume, named⟩)
    · rintro nothing ⟨key, spec⟩ found
      obtain ⟨isVolume, named⟩ := Dispatcher.mem_specs.mp found
      rw [nothing key isVolume] at named
      cases named
  rw [← unbound_iff]
  constructor
  · intro same
    by_contra bound
    have given := same [true] (some (dispatcher.dispatch (dispatcher.dispatch params).1)) (by
      simp [Machine.outputs, Dispatcher.restarts, Dispatcher.load_save])
    exact Dispatcher.dispatch_differs bound (congrArg snd (Option.some.inj given))
  · exact fun unbound => Dispatcher.outputs_eq (Dispatcher.dispatch_again unbound)

def restoreDispatcher : Dispatcher Params where
  column := ⟨id, some, fun _ => rfl⟩
  siteVolumes name := if name = "nightly" then some .managed else none
  schema := some [("data", .volume)]
  operationId := "0123456789"

/-- After a restart the restore action has no volume under the name it is given. -/
theorem restart_unbinds_the_volume : (restoreDispatcher.dispatch [("data", .string "nightly")]).2 =
        [("seedling-op-01234567-data", ⟨"site-nightly", false⟩)] ∧
      (restoreDispatcher.restarts.outputs (restoreDispatcher.saveCurrentOperation
            (restoreDispatcher.dispatch [("data", .string "nightly")]).1)
          [true]).map (·.map Prod.snd) = [some []] := by
  decide +kernel

end Seedling.Operations
