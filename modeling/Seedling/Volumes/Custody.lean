import Seedling.Apps.Definition
import Seedling.Foundation.Machine
import Seedling.Volumes.Ownership

/-!
# Volume data and the records of it

The volumes directory and the held volumes, together with the rows that say which directory
belongs to what: the recorded instances of named app volumes, and the recorded site volumes.
A held volume has a data directory and a record file, and is known by a number in the order
in which volumes were held.

Whatever moves data or deletes a row goes through calls that may fail (`Calls`).  A daemon
that stops makes no further call, so a stop is a failure of all calls from some point on.
-/

namespace Seedling.Volumes

open Function Foundation Instances Apps

/-! ## Calls -/

/-- A call that changes the volumes directory, the held volumes or the database, or
reads what decides about such a change. -/
inductive Call where
  | action (action : Action)
  | findInstances (app name : String)
  | deleteInstance (app name : String)
  | getSite (name : String)
  | createSite (name : String)
  | deleteSite (name : String)
  | listHeld
  | readRecord (id : Nat)
  | restoreData (id : Nat) (target : String)
  | removeData (id : Nat)
  | removeRecord (id : Nat)
deriving DecidableEq

/-- The error a call fails with, if it fails. -/
abbrev Calls := Call → Option String

/-- What the calls on the volumes directory come to. -/
def Calls.os (calls : Calls) : Os := fun action => calls (.action action)

/-! ## States -/

/-- A held volume, and whether its data directory and its record file are there. -/
structure HeldEntry where
  volume : HeldVolume
  data : Bool
  record : Bool

/-- The data of volumes and the rows that name it. -/
structure Custody where
  volumes : Directory
  held : List HeldEntry
  /-- The recorded instances of named volumes, by app and name. -/
  instances : String × String → Bool
  sites : String → Option SiteVolumeKind

/-- What the reconciler finds of one volume, and what is wanted of it. -/
structure DesiredVolume where
  app : String
  name : String
  desired : LifecycleState
  tmpfs : Bool
  /-- A directory that exists has another storage backend than the current one. -/
  backendDiffers : Bool
  writes : List (String × String)

namespace Custody

def exists' (state : Custody) (path : String) : Bool := (state.volumes.dir path).isSome

/-- Run what works on the volumes directory; what it holds is added to the held
volumes. -/
def onStore {α : Type} (run : Session → Except String α × Session) (state : Custody) :
    Except String α × Custody :=
  let (answer, session) := run (.start state.volumes)
  (answer,
    { state with
      volumes := session.volumes
      held := state.held ++ session.held.map fun volume => ⟨volume, true, volume.recorded⟩ })

variable (calls : Calls)

def hold (path app reason : String) (state : Custody) : Except String Unit × Custody :=
  state.onStore (·.holdInner calls.os path path path app reason)

def holdSite (name reason : String) (state : Custody) : Except String Unit × Custody :=
  state.onStore (·.holdInner calls.os (siteVolumeDir name) (siteVolumeDir name) name "_site" reason)

def startVolume (volume : DesiredVolume) (state : Custody) : Custody :=
  (state.onStore (·.startVolume calls.os volume.app volume.name volume.tmpfs volume.writes)).2

/-! ## App volumes -/

/-- One turn of the loop over the volumes an update drops.  Whatever comes of the
hold, the instance row is deleted. -/
def dropVolume (app name : String) (state : Custody) : Custody :=
  if (calls (.findInstances app name)).isNone && state.instances (app, name) then
    let state := (state.hold calls (VolumeName.forApp app name) app "removed from app definition").2
    match calls (.deleteInstance app name) with
    | some _ => state
    | none => { state with instances := update state.instances (app, name) false }
  else state

/-- The reconciler's handling of the volume of a recorded instance: one with another
storage backend is held and made anew, one that is missing is made, and one that is
to go is held.  A volume in memory has no directory here. -/
def processOneVolume (volume : DesiredVolume) (state : Custody) : Custody :=
  let path := VolumeName.forApp volume.app volume.name
  let mismatch := state.exists' path && volume.backendDiffers
  let present := state.exists' path && !volume.backendDiffers
  if volume.tmpfs || !state.instances (volume.app, volume.name) then state
  else
    match volume.desired with
    | .ready =>
      if mismatch then
        match state.hold calls path volume.app "storage backend changed" with
        | (.error _, state) => state
        | (.ok (), state) => state.startVolume calls volume
      else if present then state
      else state.startVolume calls volume
    | .unscheduled =>
      if present || mismatch then
        (state.hold calls path volume.app "removed from app definition").2
      else state
    | _ => state

/-! ## Site volumes -/

/-- Delete the row of a site volume whose storage has been dealt with. -/
def deleteSiteRow (name : String) (state : Custody) : Except OiError Unit × Custody :=
  match calls (.deleteSite name) with
  | some error => (.error ⟨.internal, s!"failed to delete site volume: {error}"⟩, state)
  | none => (.ok (), { state with sites := update state.sites name none })

def deleteSiteVolume (name : String) (state : Custody) : Except OiError Unit × Custody :=
  match calls (.getSite name) with
  | some error => (.error ⟨.internal, s!"failed to look up site volume: {error}"⟩, state)
  | none =>
    match state.sites name with
    | none => (.error ⟨.requirementsInvalid, s!"no site volume named \"{name}\""⟩, state)
    | some .managed =>
      match state.holdSite calls name "site volume deleted by operator" with
      | (.error error, state) =>
        (.error ⟨.internal, s!"failed to hold site volume for review: {error}"⟩, state)
      | (.ok (), state) => state.deleteSiteRow calls name
    | some .snapshot =>
      -- A snapshot is a copy: it is removed without being held.
      match state.onStore (·.removeDir calls.os (siteVolumeDir name)) with
      | (.error error, state) =>
        (.error ⟨.internal, s!"failed to remove site snapshot: {error}"⟩, state)
      | (.ok (), state) => state.deleteSiteRow calls name
    | some (.bind _) => state.deleteSiteRow calls name

/-! ## Held volumes -/

def heldRecord (state : Custody) (id : Nat) : Option HeldVolume :=
  state.held[id]?.bind fun entry => if entry.record then some entry.volume else none

def listHeld (state : Custody) : List (Nat × HeldVolume) :=
  (List.range state.held.length).filterMap fun id => (state.heldRecord id).map (id, ·)

def dropData (id : Nat) (state : Custody) : Custody :=
  { state with held := state.held.modify id fun entry => { entry with data := false } }

def dropRecord (id : Nat) (state : Custody) : Custody :=
  { state with held := state.held.modify id fun entry => { entry with record := false } }

/-- Move a held volume's data to the directory of a site volume, then remove its
record. -/
def restoreHeldToSite (id : Nat) (target : String) (state : Custody) :
    Except String Unit × Custody :=
  match state.held[id]? with
  | none => (.error s!"no held volume with id {id}", state)
  | some entry =>
    if !entry.record then (.error s!"no held volume with id {id}", state)
    else if !entry.data then
      (.error s!"held volume {id} has no backing data directory", state)
    else if state.exists' (siteVolumeDir target) then
      (.error s!"site volume \"{target}\" already exists on disk", state)
    else
      match calls (.readRecord id) with
      | some error => (.error error, state)
      | none =>
        match calls (.restoreData id target) with
        | some error => (.error error, state)
        | none =>
          let state :=
            { state.dropData id with
              volumes := state.volumes.put (siteVolumeDir target) entry.volume.contents }
          match calls (.removeRecord id) with
          | some error => (.error error, state)
          | none => (.ok (), state.dropRecord id)

def restoreName (held : HeldVolume) : Option BslName → Except OiError String
  | some target => .ok target.text
  | none =>
    match validateBslName held.volumeName with
    | .ok () => .ok held.volumeName
    | .error invalid =>
      let why := invalid.toText
      .error ⟨.requirementsInvalid,
        s!"held volume's recorded name \"{held.volumeName}\" is not a valid site volume " ++
          s!"name: {why}; pass target_name to override"⟩

def restoreHeld (id : Nat) (target : Option BslName) (state : Custody) :
    Except OiError Unit × Custody :=
  match calls .listHeld with
  | some error => (.error ⟨.internal, s!"failed to list held volumes: {error}"⟩, state)
  | none =>
    match state.listHeld.find? (·.1 = id) with
    | none => (.error ⟨.requirementsInvalid, s!"no held volume with id {id}"⟩, state)
    | some (_, held) =>
      match restoreName held target with
      | .error error => (.error error, state)
      | .ok name =>
        match checkSiteVolumeName name with
        | .error reserved => (.error ⟨.requirementsInvalid, reserved.toText⟩, state)
        | .ok () =>
          match calls (.getSite name) with
          | some error =>
            (.error ⟨.internal, s!"failed to look up site volume: {error}"⟩, state)
          | none =>
            if (state.sites name).isSome then
              (.error ⟨.requirementsInvalid,
                s!"site volume \"{name}\" already exists; pick a different " ++
                  "target_name"⟩, state)
            else
              match state.restoreHeldToSite calls id name with
              | (.error error, state) =>
                (.error ⟨.internal, s!"failed to restore held volume: {error}"⟩, state)
              | (.ok (), state) =>
                match calls (.createSite name) with
                | some error =>
                  (.error ⟨.internal, s!"failed to record restored site volume: {error}"⟩, state)
                | none =>
                  (.ok (),
                    { state with sites := update state.sites name (some .managed) })

/-- Delete a held volume for good, once an operator has confirmed it. -/
def confirmDeleteHeld (id : Nat) (state : Custody) : Except String Unit × Custody :=
  match state.held[id]? with
  | none => (.error s!"no held volume with id {id}", state)
  | some entry =>
    if !entry.record then (.error s!"no held volume with id {id}", state)
    else
      match if entry.data then calls (.removeData id) else none with
      | some error => (.error error, state)
      | none =>
        let state := state.dropData id
        match calls (.removeRecord id) with
        | some error => (.error error, state)
        | none => (.ok (), state.dropRecord id)

def deleteHeld (id : Nat) (state : Custody) : Except OiError Unit × Custody :=
  match state.confirmDeleteHeld calls id with
  | (.error error, state) =>
    (.error ⟨.requirementsInvalid, s!"failed to delete held volume: {error}"⟩, state)
  | (.ok (), state) => (.ok (), state)

end Custody

/-! ## Steps -/

/-- A step that moves data or deletes a row, and what its calls come to. -/
inductive Step where
  | dropVolume (app name : String) (calls : Calls)
  | processVolume (volume : DesiredVolume) (calls : Calls)
  | deleteSite (name : String) (calls : Calls)
  | restoreHeld (id : Nat) (target : Option BslName) (calls : Calls)
  | deleteHeld (id : Nat) (calls : Calls)

def Custody.step (state : Custody) : Step → Except OiError Unit × Custody
  | .dropVolume app name calls => (.ok (), state.dropVolume calls app name)
  | .processVolume volume calls => (.ok (), state.processOneVolume calls volume)
  | .deleteSite name calls => state.deleteSiteVolume calls name
  | .restoreHeld id target calls => state.restoreHeld calls id target
  | .deleteHeld id calls => state.deleteHeld calls id

def custodyMachine : Machine Custody Step (Except OiError Unit) where
  step := Custody.step

/-! ## Data in sight -/

/-- Where the data of a volume can be. -/
inductive Place where
  | volume (path : String)
  | held (id : Nat)
deriving DecidableEq

namespace Custody

def contentsAt (state : Custody) : Place → Option Contents
  | .volume path => state.volumes.dir path
  | .held id => state.held[id]?.bind fun entry =>
    if entry.data then some entry.volume.contents else none

/-- The directory is that of a recorded app volume or of a managed site volume. -/
def Owned (state : Custody) (path : String) : Prop :=
  (∃ app name, state.instances (app, name) ∧ VolumeName.forApp app name = path) ∨
    ∃ name, state.sites name = some .managed ∧ siteVolumeDir name = path

/-- A row names the directory, or the held volume is listed. -/
def Sees (state : Custody) : Place → Prop
  | .volume path => state.Owned path
  | .held id => ∃ volume, (id, volume) ∈ state.listHeld

end Custody

/-- An operator confirms the deletion of the data at the place. -/
def Step.confirms (step : Step) (place : Place) : Prop :=
  ∃ id calls, step = .deleteHeld id calls ∧ place = .held id

/-- What was in sight before the step and is not deleted on an operator's word is in
sight after it: where it was, or at a place that has newly got it. -/
def Kept (step : Step) (before after : Custody) : Prop :=
  ∀ place contents, before.contentsAt place = some contents → before.Sees place →
    ¬ step.confirms place → (after.contentsAt place = some contents ∧ after.Sees place) ∨
        ∃ there, before.contentsAt there ≠ some contents ∧
          after.contentsAt there = some contents ∧ after.Sees there

end Seedling.Volumes
