import Mathlib.Data.List.Basic

/-!
# Path components

How the standard library takes a path apart: separators may repeat or trail,
`.` counts only as the first component of a relative path, and `..` is kept.
-/

namespace Seedling

inductive Component where
  | rootDir
  | curDir
  | parentDir
  | normal (segment : String)
deriving DecidableEq

namespace Component

/-- The component a segment between two separators stands for.  An empty one and
a `.` after the first contribute nothing. -/
def ofSegment (segment : List Char) : Option Component :=
  if segment = [] ∨ segment = ['.'] then none
  else if segment = ['.', '.'] then some .parentDir
  else some (.normal (String.ofList segment))

end Component

def components (path : String) : List Component :=
  match path.toList.splitOn '/' with
  | [] => []
  | [] :: rest =>
    (if rest = [] then [] else [.rootDir]) ++ rest.filterMap Component.ofSegment
  | first :: rest =>
    (if first = ['.'] then [.curDir] else []) ++ (first :: rest).filterMap Component.ofSegment

example : components "/etc/../etc//conf/" =
    [.rootDir, .normal "etc", .parentDir, .normal "etc", .normal "conf"] := by decide

example : components "./a/./b" = [.curDir, .normal "a", .normal "b"] := by decide

/-! ## Write paths of a volume -/

/-- How deep inside the volume the components lead from `depth`. -/
def depthFrom (path : String) : Nat → List Component → Except String Nat
  | depth, [] => .ok depth
  | depth, .normal _ :: rest => depthFrom path (depth + 1) rest
  | depth, .parentDir :: rest =>
    match depth with
    | 0 => .error s!"volume write path must not escape the volume root: '{path}'"
    | depth + 1 => depthFrom path depth rest
  | depth, .rootDir :: rest => depthFrom path depth rest
  | depth, .curDir :: rest => depthFrom path depth rest

/-- How deep inside the volume a path resolves, or why it is not a volume path. -/
def volumePathDepth (path : String) : Except String Nat :=
  if path.toList.contains (Char.ofNat 0) then
    .error "volume write path must not contain null bytes"
  else if path.toList.head? ≠ some '/' then
    .error s!"volume write path must be absolute, got '{path}'"
  else depthFrom path 0 (components path)

/-- A path a file may be written at: absolute, inside the volume, not its root. -/
def validateVolumeWritePath (path : String) : Except String Unit :=
  match volumePathDepth path with
  | .error text => .error text
  | .ok 0 => .error "volume write path must not resolve to '/'"
  | .ok _ => .ok ()

end Seedling
