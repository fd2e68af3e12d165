import Mathlib.Data.List.Basic

/-!
# Names

The rule every app, resource and site-volume name obeys, the names the daemon
keeps for itself, and `BslName`, a name together with the proof that the rule
accepts it.
-/

namespace Seedling

/-! ## The rule -/

inductive InvalidName where
  | leadingUnderscore
  | malformed (name : String)
deriving DecidableEq

def InvalidName.toText : InvalidName → String
  | .leadingUnderscore => "name must not start with an underscore"
  | .malformed name =>
    s!"invalid name '{name}': must be 3 to 63 characters matching " ++
      "^[a-zA-Z][a-zA-Z0-9-]\x7b1,61\x7d[a-zA-Z0-9]$"

/-- A character allowed between the ends of a name. -/
def isNameChar (c : Char) : Bool := c.isAlphanum || c == '-'

/-- The part of the rule that is not about the underscore. -/
def isWellFormedName (s : String) : Bool :=
  3 ≤ s.utf8ByteSize && s.utf8ByteSize ≤ 63 && s.toList.head?.any Char.isAlpha &&
    s.toList.getLast?.any Char.isAlphanum &&
    s.toList.tail.dropLast.all isNameChar

def validateBslName (s : String) : Except InvalidName Unit :=
  if s.toList.head? = some '_' then .error .leadingUnderscore
  else if isWellFormedName s then .ok ()
  else .error (.malformed s)

structure BslName where
  text : String
  valid : validateBslName text = .ok ()
deriving DecidableEq

namespace BslName

theorem text_injective {first second : BslName} (same : first.text = second.text) :
    first = second := by
  cases first
  cases second
  simpa using same

end BslName

/-! ## Names the daemon keeps -/

structure ReservedName where
  name : String
  reason : String

def ReservedName.toText (reserved : ReservedName) : String :=
  reserved.name ++ " is reserved: " ++ reserved.reason

/-- What site-volume names of leftover backup snapshots begin with. -/
def snapshotNamePrefix : String := "backup-snap-"

def infraComponent : String := "infra"

def checkSiteVolumeName (name : String) : Except ReservedName Unit :=
  if snapshotNamePrefix.toList.isPrefixOf name.toList then
    .error
      { name
        reason := s!"site volume names beginning \"{snapshotNamePrefix}\" belong to leftover " ++
          "backup snapshots, which are deleted at daemon startup" }
  else .ok ()

def checkAppName (name : String) : Except ReservedName Unit :=
  if name = infraComponent then
    .error
      { name
        reason := "this app name would collide with the resource-control group the daemon " ++
          "keeps for its own infrastructure" }
  else .ok ()

end Seedling
