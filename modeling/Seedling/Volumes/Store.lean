import Seedling.Instances.DisplayNames

/-!
# The volume store

The directories under the daemon's volumes directory, and what is done to them
when an app volume is started and when leftover backup snapshots are swept at
startup.  Every system call that changes or reads the directories goes through
`Session.attempt`, which asks the operating system whether it fails and notes it
in the journal if it does not.
-/

namespace Seedling.Volumes

open Function Foundation Instances

/-! ## Directories -/

/-- The files of a directory, by path. -/
abbrev Contents := List (String × String)

/-- The volumes directory: what is in each subdirectory, and their listing. -/
structure Directory where
  dir : String → Option Contents
  entries : List String
  listed : ∀ path, path ∈ entries ↔ (dir path).isSome

namespace Directory

def empty : Directory := ⟨fun _ => none, [], by simp⟩

def put (volumes : Directory) (path : String) (contents : Contents) : Directory where
  dir := update volumes.dir path (some contents)
  entries := volumes.entries.filter (· ≠ path) ++ [path]
  listed other := by
    by_cases same : other = path
    · simp [same]
    · simp [same, volumes.listed]

def drop (volumes : Directory) (path : String) : Directory where
  dir := update volumes.dir path none
  entries := volumes.entries.filter (· ≠ path)
  listed other := by
    by_cases same : other = path
    · simp [same]
    · simp [same, volumes.listed]

end Directory

/-- The directory an earlier build kept an app volume in. -/
def legacyName (app name : String) : String := app ++ "-" ++ name

/-- A volume set aside for the operator; it is listed once its record is written. -/
structure HeldVolume where
  app : String
  volumeName : String
  displayName : String
  reason : String
  contents : Contents
  recorded : Bool

/-! ## Sessions -/

/-- A system call on the volumes directory. -/
inductive Action where
  | read (path : String)
  | create (path : String)
  | write (path file : String)
  | remove (path : String)
  | prepareHold
  | hold (path : String)
  | recordHold (displayName : String)
  | rename (source target : String)
deriving DecidableEq

/-- The directories that are no longer where they were after the call. -/
def Action.disturbs : Action → List String
  | .remove path | .hold path => [path]
  | .rename source _ => [source]
  | _ => []

/-- The operating system: the error a call fails with, if it fails. -/
abbrev Os := Action → Option String

structure Session where
  volumes : Directory
  held : List HeldVolume
  journal : List Action

namespace Session

def start (volumes : Directory) : Session := ⟨volumes, [], []⟩

def exists' (session : Session) (path : String) : Bool := (session.volumes.dir path).isSome

def disturbed (session : Session) : List String := session.journal.flatMap Action.disturbs

def attempt (os : Os) (action : Action) (effect : Session → Session) (session : Session) :
    Except String Unit × Session :=
  match os action with
  | some error => (.error error, session)
  | none =>
    let after := effect session
    (.ok (), { after with journal := after.journal ++ [action] })

def createDir (os : Os) (path : String) (session : Session) : Except String Unit × Session :=
  session.attempt os (.create path) fun session =>
    { session with volumes := session.volumes.put path [] }

def removeDir (os : Os) (path : String) (session : Session) : Except String Unit × Session :=
  if session.exists' path then
    session.attempt os (.remove path) fun session =>
      { session with volumes := session.volumes.drop path }
  else (.ok (), session)

/-- Move a directory to the held volumes, then write its record. -/
def holdInner (os : Os) (path displayName volumeName app reason : String) (session : Session) :
    Except String Unit × Session :=
  match session.volumes.dir path with
  | none => (.error s!"volume {displayName} does not exist", session)
  | some contents =>
    match session.attempt os .prepareHold id with
    | (.error error, session) => (.error error, session)
    | (.ok (), session) =>
      match session.attempt os (.hold path) fun session =>
        { session with
          volumes := session.volumes.drop path
          held := session.held ++ [⟨app, volumeName, displayName, reason, contents, false⟩] }
      with
      | (.error error, session) => (.error error, session)
      | (.ok (), session) =>
        session.attempt os (.recordHold displayName) fun session =>
          { session with
            held := session.held.dropLast ++
              [⟨app, volumeName, displayName, reason, contents, true⟩] }

def renameDir (os : Os) (source target : String) (session : Session) :
    Except String Unit × Session :=
  session.attempt os (.rename source target) fun session =>
    match session.volumes.dir source with
    | none => session
    | some contents =>
      { session with volumes := (session.volumes.drop source).put target contents }

def writeFile (os : Os) (path : String) (write : String × String) (session : Session) :
    Except String Unit × Session :=
  session.attempt os (.write path write.1) fun session =>
    { session with
      volumes := session.volumes.put path ((session.volumes.dir path).getD [] ++ [write]) }

/-- Write the files one after another, up to the first failure. -/
def writeFiles (os : Os) (path : String) : List (String × String) → Session →
    Except String Unit × Session
  | [], session => (.ok (), session)
  | write :: writes, session =>
    match session.writeFile os path write with
    | (.error error, session) => (.error error, session)
    | (.ok (), session) => session.writeFiles os path writes

/-! ## Starting a volume -/

/-- Make way for a directory that is to be renamed: what is in the way is removed
if it is empty and held if it is not. -/
def clearWay (os : Os) (canonical app : String) (session : Session) :
    Except String Unit × Session :=
  match session.volumes.dir canonical with
  | none => (.ok (), session)
  | some contents =>
    match session.attempt os (.read canonical) id with
    | (.error error, session) => (.error error, session)
    | (.ok (), session) =>
      if contents = [] then session.removeDir os canonical
      else
        session.holdInner os canonical canonical canonical app
          "canonical volume path pre-existed during legacy-path migration"

def migrateLegacy (os : Os) (legacy canonical app : String) (session : Session) :
    Except String Bool × Session :=
  if session.exists' legacy = false then (.ok false, session)
  else if legacy = canonical then (.ok false, session)
  else
    match session.clearWay os canonical app with
    | (.error error, session) => (.error error, session)
    | (.ok (), session) =>
      match session.renameDir os legacy canonical with
      | (.error error, session) => (.error error, session)
      | (.ok (), session) => (.ok true, session)

/-- Start an app volume.  One in memory has no directory here. -/
def startVolume (os : Os) (app name : String) (tmpfs : Bool) (writes : List (String × String))
    (session : Session) : Except String Unit × Session :=
  let canonical := VolumeName.forApp app name
  if tmpfs then (.ok (), session)
  else
    match session.migrateLegacy os (legacyName app name) canonical app with
    | (.error error, session) => (.error error, session)
    | (.ok _, session) =>
      if session.exists' canonical then (.ok (), session)
      else
        match session.createDir os canonical with
        | (.error error, session) => (.error error, session)
        | (.ok (), session) => session.writeFiles os canonical writes

/-! ## Sweeping leftover snapshots -/

/-- Why a snapshot-named path is left alone. -/
inductive Keep where
  | registered
  | unparseableName
  | ownershipUnknown (error : String)

/-- The names of the site volumes whose name has the prefix. -/
def listSitesWithPrefix (start : String) (session : Session) : List String :=
  (session.volumes.entries.filterMap fun path =>
    ("site-".toList.isPrefixOf? path.toList).map String.ofList).filter
      fun rest => start.toList.isPrefixOf rest.toList

/-- Whether the operator owns a snapshot-named path, `lookup` being the query for
a recorded site volume. -/
def keepReason (lookup : String → Except String Bool) (name : String) : Option Keep :=
  match validateBslName name with
  | .error _ => some .unparseableName
  | .ok () =>
    match lookup name with
    | .ok true => some .registered
    | .ok false => none
    | .error error => some (.ownershipUnknown error)

/-- Remove one leftover; a failure is only warned of. -/
def sweepOne (os : Os) (lookup : String → Except String Bool) (session : Session)
    (name : String) : Session :=
  if (keepReason lookup name).isSome then session
  else (session.removeDir os (siteVolumeDir name)).2

def sweep (os : Os) (lookup : String → Except String Bool) (session : Session) : Session :=
  match os (.read "") with
  | some _ => session
  | none =>
    (session.listSitesWithPrefix snapshotNamePrefix).foldl (sweepOne os lookup) session

end Session

end Seedling.Volumes
