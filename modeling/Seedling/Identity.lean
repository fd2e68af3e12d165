import Mathlib.Data.List.Basic

/-!
# Resource instances and their names

The identity of one concrete resource instance: an opaque id, the app, kind and
name it stands for, and the display name under which it appears on the host as
a unit, a container, a network or a volume directory.  The id of an instance is
drawn at random by its constructor, except for a job's, which is the nil id;
here the drawn id is an argument.
-/

namespace Seedling

/-! ## Kinds and ids -/

inductive ResourceKind where
  | parameter
  | service
  | ingress
  | deployment
  | job
  | volume
  | externalVolume
  | externalService
  | action
deriving DecidableEq

def ResourceKind.debug : ResourceKind → String
  | .parameter => "Parameter"
  | .service => "Service"
  | .ingress => "Ingress"
  | .deployment => "Deployment"
  | .job => "Job"
  | .volume => "Volume"
  | .externalVolume => "ExternalVolume"
  | .externalService => "ExternalService"
  | .action => "Action"

def kindSlug : ResourceKind → String
  | .parameter => "parameter"
  | .service => "service"
  | .ingress => "ingress"
  | .deployment => "deployment"
  | .job => "job"
  | .volume => "volume"
  | .externalVolume => "ext-volume"
  | .externalService => "ext-service"
  | .action => "action"

abbrev InstanceId := BitVec 128

namespace InstanceId

def nil : InstanceId := 0#128

def hexDigit (n : Nat) : Char := (Nat.digitChar (n % 16))

/-- The top 32 bits of the id as eight lowercase hex digits. -/
def displaySuffix (id : InstanceId) : String :=
  String.ofList ((List.range 8).map fun i => hexDigit (id.toNat >>> (124 - 4 * i)))

end InstanceId

/-! ## Instances -/

/-- Whether the instance is the only one of its resource or one of a group. -/
inductive InstanceVariant where
  | singleton
  | scaled
deriving DecidableEq

structure ResourceInstance where
  id : InstanceId
  app : String
  kind : ResourceKind
  name : Option String
  variant : InstanceVariant
  displayName : String
deriving DecidableEq

namespace ResourceInstance

/-- The id a new singleton gets: nil for a job, the drawn id otherwise. -/
def singletonId (drawn : InstanceId) : ResourceKind → InstanceId
  | .job => InstanceId.nil
  | _ => drawn

/-- A job is named by its id suffix, a deployment by app and name alone, and
every other kind carries its slug. -/
def singletonDisplayName (app : String) (kind : ResourceKind) (name : String) : String :=
  match kind with
  | .job => app ++ "-" ++ name ++ "-" ++ InstanceId.nil.displaySuffix
  | .deployment => app ++ "-" ++ name
  | kind => app ++ "-" ++ kindSlug kind ++ "-" ++ name

def newSingleton (drawn : InstanceId) (app : String) (kind : ResourceKind) (name : String) :
    ResourceInstance where
  id := singletonId drawn kind
  app := app
  kind := kind
  name := some name
  variant := .singleton
  displayName := singletonDisplayName app kind name

def newScaled (drawn : InstanceId) (app : String) (kind : ResourceKind) (name : String) :
    ResourceInstance where
  id := drawn
  app := app
  kind := kind
  name := some name
  variant := .scaled
  displayName := app ++ "-" ++ name ++ "-" ++ drawn.displaySuffix

def newAnonymous (drawn : InstanceId) (app : String) (kind : ResourceKind) : ResourceInstance where
  id := drawn
  app := app
  kind := kind
  name := none
  variant := .singleton
  displayName := app ++ "-" ++ kindSlug kind

end ResourceInstance

def VolumeName.forApp (app name : String) : String := app ++ "-" ++ kindSlug .volume ++ "-" ++ name

example : InstanceId.nil.displaySuffix = "00000000" := by decide

inductive SiteVolumeKind where
  | managed
  | bind (hostPath : String)
  | snapshot
deriving DecidableEq

def SiteVolumeKind.isReadOnly : SiteVolumeKind → Bool
  | .snapshot => true
  | _ => false

/-! ## Lifecycle -/

inductive LifecycleState where
  | pending
  | scheduled
  | running
  | ready
  | terminating
  | terminated
  | unscheduled
deriving DecidableEq

namespace LifecycleState

def ordinal : LifecycleState → Nat
  | .pending => 0
  | .scheduled => 1
  | .running => 2
  | .ready => 3
  | .terminating => 4
  | .terminated => 5
  | .unscheduled => 6

def hasReached (state required : LifecycleState) : Bool := required.ordinal ≤ state.ordinal

def debug : LifecycleState → String
  | .pending => "Pending"
  | .scheduled => "Scheduled"
  | .running => "Running"
  | .ready => "Ready"
  | .terminating => "Terminating"
  | .terminated => "Terminated"
  | .unscheduled => "Unscheduled"

end LifecycleState

end Seedling
