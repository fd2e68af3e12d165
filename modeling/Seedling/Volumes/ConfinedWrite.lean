import Seedling.Foundation.FileTree
import Seedling.Paths

/-!
# Confined writes

Writing a file beneath a root directory: the parent directories are made one by
one with `mkdirat`, which follows symbolic links in all but the last part of its
path, and the file is then opened with `openat2` and `RESOLVE_BENEATH`, which
follows none that leads out of the root.

`write_confined_iff` says exactly from which trees nothing outside the root is
created or changed.
-/

namespace Seedling.Volumes

open Foundation FileTree List

/-- The number of links a kernel follows in one walk. -/
def maxSymlinks : Nat := 40

/-! ## The write -/

inductive ConfinedWriteError where
  | escape (path : List String)
  | failed (path : List String) (source : Errno)
deriving DecidableEq

inductive WriteCall where
  | openRoot
  | mkdirat (path : List String)
  | openat2
  | writeAll

/-- The calls a kernel refuses for reasons of its own, such as a full disk, and how
much of the contents is on disk when writing fails. -/
structure Faults where
  refuse : WriteCall → Option String
  taken : Nat

/-- Make a directory; the last part of the path is not followed. -/
def mkdirat (faults : Faults) (tree : FileTree) (dirFd : Location) (path : List String) :
    Except Errno Unit × FileTree :=
  match faults.refuse (.mkdirat path) with
  | some text => (.error (.other text), tree)
  | none =>
    match tree.resolve none false maxSymlinks dirFd path with
    | .error error => (.error error, tree)
    | .ok location =>
      match tree.node location with
      | some _ => (.error .exist, tree)
      | none => (.ok (), tree.put location .dir)

/-- Open a file for writing beneath a directory, creating or truncating it. -/
def openat2 (faults : Faults) (tree : FileTree) (dirFd : Location) (path : String) :
    Except Errno Location × FileTree :=
  let parts := (path.toList.splitOn '/').map String.ofList
  match faults.refuse .openat2 with
  | some text => (.error (.other text), tree)
  | none =>
    if path.toList.getLast? = some '/' then
      -- a trailing slash asks for a directory, which is not created
      match tree.resolve (some dirFd) true maxSymlinks dirFd
        ((parts.filter (· ≠ "")).dropLast) with
      | .error error => (.error error, tree)
      | .ok _ => (.error .isDir, tree)
    else
      match tree.resolve (some dirFd) true maxSymlinks dirFd parts with
      | .error error => (.error error, tree)
      | .ok location =>
        match tree.node location with
        | some .dir => (.error .isDir, tree)
        | _ => (.ok location, tree.put location (.file []))

/-- The names in the parent of a relative path, without `.` and `..`. -/
def parentSegments (rel : String) : List String :=
  (components rel).dropLast.filterMap fun
    | .normal segment => some segment
    | _ => none

/-- Make the parent directories, one segment at a time. -/
def createParents (faults : Faults) (root : Location) :
    (accum segments : List String) → FileTree → Except ConfinedWriteError Unit × FileTree
  | _, [], tree => (.ok (), tree)
  | accum, segment :: rest, tree =>
    match mkdirat faults tree root (accum ++ [segment]) with
    | (.ok (), tree) | (.error .exist, tree) =>
      createParents faults root (accum ++ [segment]) rest tree
    | (.error error, tree) => (.error (.failed (root ++ accum ++ [segment]) error), tree)

/-- The path an error names; an absolute path replaces the root. -/
def joinPath (root : Location) (path : String) : List String :=
  if path.toList.head? = some '/' then [path] else root ++ [path]

def write (faults : Faults) (tree : FileTree) (root : Location) (relPath : String)
    (contents : List UInt8) : Except ConfinedWriteError Unit × FileTree :=
  let rel := String.ofList (relPath.toList.dropWhile (· = '/'))
  if rel = "" then (.error (.escape (joinPath root relPath)), tree)
  else
    match faults.refuse .openRoot with
    | some text => (.error (.failed root (.other text)), tree)
    | none =>
      match tree.node root with
      | none => (.error (.failed root .noEntry), tree)
      | some (.file _) | some (.link _) => (.error (.failed root .notDir), tree)
      | some .dir =>
        match createParents faults root [] (parentSegments rel) tree with
        | (.error error, tree) => (.error error, tree)
        | (.ok (), tree) =>
          match openat2 faults tree root rel with
          | (.error .xdev, tree) => (.error (.escape (joinPath root rel)), tree)
          | (.error error, tree) => (.error (.failed (joinPath root rel) error), tree)
          | (.ok location, tree) =>
            match faults.refuse .writeAll with
            | some text => (.error (.failed (joinPath root rel) (.other text)),
                tree.put location (.file (contents.take faults.taken)))
            | none => (.ok (), tree.put location (.file contents))

/-! ## The parent directories -/

section Parents

variable {faults : Faults} {tree : FileTree} {root : Location} {accum segments : List String}
  {location : Location}

/-- Making a directory fails and changes nothing, or makes it where its path leads. -/
theorem mkdirat_cases (faults : Faults) (tree : FileTree) (root : Location) (path : List String) :
    (∃ error, mkdirat faults tree root path = (.error error, tree) ∧
      (error = .exist → ∃ location, tree.resolve none false maxSymlinks root path = .ok location ∧
        (tree.node location).isSome)) ∨
      ∃ location, tree.resolve none false maxSymlinks root path = .ok location ∧
        tree.node location = none ∧
        mkdirat faults tree root path = (.ok (), tree.put location .dir) := by
  simp only [mkdirat]
  split
  · exact .inl ⟨_, rfl, nofun⟩
  · split
    · rename_i failed
      exact .inl ⟨_, rfl, fun same => absurd (same ▸ failed) resolve_ne_exist⟩
    · rename_i location found
      split
      · rename_i there
        exact .inl ⟨_, rfl, fun _ => ⟨location, found, by rw [there, Option.isSome_some]⟩⟩
      · rename_i missing
        exact .inr ⟨location, found, missing, rfl⟩

theorem createParents_puts (accum segments : List String) (tree : FileTree) :
    Puts (fun _ => True) tree (createParents faults root accum segments tree).2 := by
  induction segments generalizing accum tree with
  | nil => exact .refl
  | cons segment rest ih =>
    rw [createParents]
    rcases mkdirat_cases faults tree root (accum ++ [segment]) with
      ⟨error, failed, _⟩ | ⟨location, _, _, made⟩
    · rw [failed]
      split
      · rename_i stopped
        cases stopped
      · rename_i stopped
        cases stopped
        exact ih _ _
      · rename_i stopped
        cases stopped
        exact .refl
    · rw [made]
      exact (Puts.refl.put trivial _).trans (ih _ _)

/-- Once a parent has been made beneath the root, so are the others: they go inside
it. -/
theorem createParents_beneath (isDir : tree.node root = some .dir)
    (walk : Resolves tree none false maxSymlinks root accum location)
    (missing : tree.node location = none) (inside : root <+: location)
    (named : ∀ segment ∈ segments, Names segment) :
    Puts (root <+: ·) (tree.put location .dir)
      (createParents faults root accum segments (tree.put location .dir)).2 := by
  induction segments generalizing accum tree location with
  | nil => exact .refl
  | cons segment rest ih =>
    have next := walk.extend isDir missing (named segment mem_cons_self)
    have below := missing_below missing .dir segment
    have stillDir : (tree.put location .dir).node root = some .dir := by
      rwa [put_node_of_ne]
      rintro rfl
      rw [isDir] at missing
      cases missing
    have deeper : root <+: location ++ [segment] := inside.trans (prefix_append ..)
    rw [createParents]
    rcases mkdirat_cases faults (tree.put location .dir) root (accum ++ [segment]) with
      ⟨error, failed, exists'⟩ | ⟨target, found, _, made⟩
    · rw [failed]
      split
      · rename_i stopped
        cases stopped
      · rename_i stopped
        cases stopped
        obtain ⟨target, found, there⟩ := exists' rfl
        rw [resolve_eq_ok_iff.mpr next] at found
        cases found
        rw [below] at there
        cases there
      · rename_i stopped
        cases stopped
        exact .refl
    · rw [resolve_eq_ok_iff.mpr next] at found
      cases found
      rw [made]
      exact (Puts.refl.put deeper .dir).trans (ih stillDir next below deeper
        fun other mem => named other (mem_cons_of_mem _ mem))

/-- Where the first parent is made: the first one that is not there, if the walks to
it succeed. -/
def firstMissing (tree : FileTree) (root : Location) :
    (accum segments : List String) → Option Location
  | _, [] => none
  | accum, segment :: rest =>
    match tree.resolve none false maxSymlinks root (accum ++ [segment]) with
    | .error _ => none
    | .ok location =>
      match tree.node location with
      | some _ => firstMissing tree root (accum ++ [segment]) rest
      | none => some location

theorem firstMissing_node (found : firstMissing tree root accum segments = some location) :
    tree.node location = none := by
  induction segments generalizing accum with
  | nil => cases found
  | cons segment rest ih =>
    rw [firstMissing] at found
    split at found
    · cases found
    · split at found
      · exact ih found
      · cases found
        assumption

variable (isDir : tree.node root = some .dir)
include isDir

theorem createParents_confined
    (inside : ∀ location, firstMissing tree root accum segments = some location → root <+: location)
    (named : ∀ segment ∈ segments, Names segment) :
    Puts (root <+: ·) tree (createParents faults root accum segments tree).2 := by
  induction segments generalizing accum with
  | nil => exact .refl
  | cons segment rest ih =>
    have others : ∀ segment ∈ rest, Names segment :=
      fun other mem => named other (mem_cons_of_mem _ mem)
    rw [createParents]
    rcases mkdirat_cases faults tree root (accum ++ [segment]) with
      ⟨error, failed, exists'⟩ | ⟨location, found, missing, made⟩
    · rw [failed]
      split
      · rename_i stopped
        cases stopped
      · rename_i stopped
        cases stopped
        obtain ⟨target, found, there⟩ := exists' rfl
        obtain ⟨node, present⟩ := Option.isSome_iff_exists.mp there
        refine ih (fun location later => inside location ?_) others
        rw [firstMissing, found]
        dsimp only
        rw [present]
        exact later
      · rename_i stopped
        cases stopped
        exact .refl
    · have beneath : root <+: location := by
        apply inside
        rw [firstMissing, found]
        dsimp only
        rw [missing]
      rw [made]
      exact (Puts.refl.put beneath .dir).trans
        (createParents_beneath isDir (resolves_of_resolve found) missing beneath others)

def faultless : Faults := ⟨fun _ => none, 0⟩

theorem createParents_faultless (found : firstMissing tree root accum segments = some location) :
    ((createParents faultless root accum segments tree).2.node location).isSome := by
  induction segments generalizing accum with
  | nil => cases found
  | cons segment rest ih =>
    rw [firstMissing] at found
    rw [createParents]
    split at found
    · cases found
    · rename_i target walked
      split at found
      · rename_i there
        have refused : mkdirat faultless tree root (accum ++ [segment]) =
            (.error .exist, tree) := by
          simp [mkdirat, faultless, walked, there]
        rw [refused]
        exact ih found
      · rename_i missing
        cases found
        have made : mkdirat faultless tree root (accum ++ [segment]) =
            (.ok (), tree.put location .dir) := by
          simp [mkdirat, faultless, walked, missing]
        obtain ⟨proper, above⟩ := (resolves_of_resolve walked).missing isDir missing
        rw [made]
        refine (createParents_puts _ _ _).isSome ?_
        rw [put_node_self .dir proper above missing, Option.isSome_some]

end Parents

theorem parentSegments_names (rel : String) : ∀ segment ∈ parentSegments rel, Names segment := by
  have each : ∀ segments : List (List Char), ∀ segment,
      Component.normal segment ∈ segments.filterMap Component.ofSegment → Names segment := by
    intro segments segment mem
    obtain ⟨text, _, parsed⟩ := mem_filterMap.mp mem
    unfold Component.ofSegment at parsed
    split at parsed
    · cases parsed
    · split at parsed
      · cases parsed
      · rename_i notBlank notUp
        cases parsed
        refine ⟨fun blank => notBlank ?_, fun up => notUp ?_⟩
        · exact blank.imp (fun same => by simpa using congrArg String.toList same)
            (fun same => by simpa using congrArg String.toList same)
        · simpa using congrArg String.toList up
  intro segment mem
  obtain ⟨component, early, isNormal⟩ := mem_filterMap.mp mem
  split at isNormal
  · cases isNormal
    have parsed := (dropLast_sublist _).subset early
    unfold components at parsed
    split at parsed
    · cases parsed
    · refine each _ segment ((mem_append.mp parsed).resolve_left ?_)
      split <;> simp
    · refine each _ segment ((mem_append.mp parsed).resolve_left ?_)
      split <;> simp
  · cases isNormal

/-! ## The whole write -/

section Whole

variable {faults : Faults} {tree : FileTree} {root : Location}

theorem openat2_puts (rel : String) : Puts (root <+: ·) tree (openat2 faults tree root rel).2 ∧
      ∀ location, (openat2 faults tree root rel).1 = .ok location → root <+: location := by
  simp only [openat2]
  split
  · exact ⟨.refl, nofun⟩
  · split
    · split <;> exact ⟨.refl, nofun⟩
    · split
      · exact ⟨.refl, nofun⟩
      · rename_i location walked
        have beneath : root <+: location := (resolves_of_resolve walked).beneath (prefix_refl root)
        split
        · exact ⟨.refl, nofun⟩
        · refine ⟨Puts.refl.put beneath _, ?_⟩
          rintro _ ⟨⟩
          exact beneath

theorem write_puts (relPath : String) (contents : List UInt8) :
    let rel := String.ofList (relPath.toList.dropWhile (· = '/'))
    let after := (write faults tree root relPath contents).2
    (after = tree ∧ (rel = "" ∨ faults.refuse .openRoot ≠ none ∨ tree.node root ≠ some .dir)) ∨
      (tree.node root = some .dir ∧
      Puts (root <+: ·) (createParents faults root [] (parentSegments rel) tree).2 after) := by
  intro rel after
  simp only [after, write]
  split
  · rename_i blank
    exact .inl ⟨rfl, .inl blank⟩
  · split
    · rename_i refused
      exact .inl ⟨rfl, .inr (.inl (by simp [refused]))⟩
    · split
      · rename_i absent
        exact .inl ⟨rfl, .inr (.inr (by simp [absent]))⟩
      · rename_i isFile
        exact .inl ⟨rfl, .inr (.inr (by simp [isFile]))⟩
      · rename_i isLink
        exact .inl ⟨rfl, .inr (.inr (by simp [isLink]))⟩
      · rename_i isDir
        right
        refine ⟨isDir, ?_⟩
        split
        · rename_i failed
          rw [show createParents faults root [] (parentSegments rel) tree = _ from failed]
          exact .refl
        · rename_i ready made
          rw [show createParents faults root [] (parentSegments rel) tree = _ from made]
          obtain ⟨opens, beneath⟩ := @openat2_puts faults ready root rel
          split
          · rename_i failed
            rwa [show openat2 faults ready root rel = _ from failed] at opens
          · rename_i failed
            rwa [show openat2 faults ready root rel = _ from failed] at opens
          · rename_i location opened done
            rw [show openat2 faults ready root rel = _ from done] at opens beneath
            split <;> exact opens.put (beneath location rfl) _

end Whole

/-- **A confined write creates and changes nothing outside its root, whatever fails,
exactly when the first parent directory it has to make is beneath the root.** -/
theorem write_confined_iff (tree : FileTree) (root : Location) (relPath : String) :
    (∀ faults contents location, ¬ root <+: location →
      (write faults tree root relPath contents).2.node location = tree.node location) ↔
      (tree.node root = some .dir → ∀ location, firstMissing tree root []
          (parentSegments (String.ofList (relPath.toList.dropWhile (· = '/')))) = some location →
        root <+: location) := by
  constructor
  · intro confined isDir location missing
    by_contra outside
    have same := confined faultless [] location outside
    have made := createParents_faultless isDir missing
    rw [firstMissing_node missing] at same
    rcases @write_puts faultless tree root relPath [] with ⟨_, unopened⟩ | ⟨_, puts⟩
    · rcases unopened with blank | refused | notDir
      · rw [blank] at missing
        cases missing
      · exact refused rfl
      · exact notDir isDir
    · have present := puts.isSome made
      rw [same] at present
      cases present
  · intro inside faults contents location outside
    rcases @write_puts faults tree root relPath contents with ⟨unchanged, _⟩ | ⟨isDir, puts⟩
    · rw [unchanged]
    · have parents := @createParents_confined faults tree root [] _ isDir (inside isDir)
        (parentSegments_names _)
      rw [puts.node_eq outside, parents.node_eq outside]

/-- A link in the root leads to a directory outside.  The write fails in the end
because the file would be outside, but the parent directory has been made there. -/
theorem write_makes_directory_outside :
    let tree := (((FileTree.empty.put ["outside"] .dir).put ["root"] .dir).put ["root", "link"]
      (.link ⟨true, ["outside"]⟩))
    let outcome := write faultless tree ["root"] "/link/made/file" [1]
    outcome.1 = .error (.escape ["root", "link/made/file"]) ∧
      ¬ ["root"] <+: ["outside", "made"] ∧ tree.node ["outside", "made"] = none ∧
      outcome.2.node ["outside", "made"] = some .dir := by
  have trimmed : String.ofList ("/link/made/file".toList.dropWhile (· = '/')) =
      "link/made/file" := by decide
  intro tree outcome
  decide +kernel

end Seedling.Volumes
