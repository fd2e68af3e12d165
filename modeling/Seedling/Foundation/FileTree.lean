import Mathlib.Data.List.Basic

/-!
# File trees with symbolic links

A tree maps locations to directories, files and symbolic links.  `resolve` walks a
path through it as a kernel does: links are followed up to a budget, `..` goes to
the parent, and a bound, if there is one, is a directory the walk must stay
beneath.  `Resolves` is its graph, over which the inductions go.

A bounded walk stays beneath its bound (`Resolves.beneath`).
-/

namespace Foundation

open Function List

/-- Where a file is: the names on the way to it from the root, none of them a link. -/
abbrev Location := List String

/-- The text of a symbolic link, taken apart. -/
structure LinkTarget where
  absolute : Bool
  parts : List String
deriving DecidableEq

inductive Node where
  | dir
  | file (contents : List UInt8)
  | link (target : LinkTarget)
deriving DecidableEq

inductive Errno where
  | noEntry
  | notDir
  | isDir
  | exist
  | loop
  | xdev
  | other (text : String)
deriving DecidableEq

/-- What is at each location; whatever there is, is in a directory. -/
structure FileTree where
  node : Location → Option Node
  root_dir : node [] = some .dir
  closed : ∀ location, location ≠ [] → (node location).isSome →
    node location.dropLast = some .dir

namespace FileTree

def empty : FileTree where
  node := update (fun _ => none) [] (some .dir)
  root_dir := update_self ..
  closed location proper present := by simp [update_of_ne proper] at present

/-- Put a node where a directory can hold it and no directory is. -/
def put (tree : FileTree) (location : Location) (node : Node) : FileTree :=
  if free : location ≠ [] ∧ tree.node location.dropLast = some .dir ∧
      tree.node location ≠ some .dir then
    { node := update tree.node location (some node)
      root_dir := by rw [update_of_ne free.1.symm, tree.root_dir]
      closed := by
        intro other proper present
        have above : other.dropLast ≠ location := by
          intro same
          by_cases here : other = location
          · have shorter := congrArg List.length (here ▸ same)
            rw [List.length_dropLast] at shorter
            have := List.length_pos_of_ne_nil proper
            rw [← here] at shorter
            omega
          · rw [update_of_ne here] at present
            exact free.2.2 (same ▸ tree.closed other proper present)
        rw [update_of_ne above]
        by_cases here : other = location
        · rw [here]
          exact free.2.1
        · rw [update_of_ne here] at present
          exact tree.closed other proper present }
  else tree

variable {location other : Location} (tree : FileTree)

theorem put_node_of_ne (node : Node) (elsewhere : other ≠ location) :
    (tree.put location node).node other = tree.node other := by
  unfold put
  split
  · exact update_of_ne elsewhere ..
  · rfl

theorem put_isSome (location : Location) (node : Node) (present : (tree.node other).isSome) :
    ((tree.put location node).node other).isSome := by
  unfold put
  split
  · by_cases same : other = location
    · rw [same]
      simp
    · show (update tree.node location (some node) other).isSome
      rwa [update_of_ne same]
  · exact present

theorem put_dir (location : Location) (node : Node) (isDir : tree.node other = some .dir) :
    (tree.put location node).node other = some .dir := by
  unfold put
  split
  · next free =>
      show update tree.node location (some node) other = some .dir
      rwa [update_of_ne]
      rintro rfl
      exact free.2.2 isDir
  · exact isDir

theorem dir_of_put_file {contents : List UInt8}
    (isDir : (tree.put location (.file contents)).node other = some .dir) :
    tree.node other = some .dir := by
  by_cases here : other = location
  · subst here
    unfold put at isDir
    split at isDir
    · change update tree.node other _ other = _ at isDir
      rw [update_self] at isDir
      cases isDir
    · exact isDir
  · rwa [put_node_of_ne tree _ here] at isDir

theorem put_node_of_free {tree : FileTree} (node : Node) (proper : location ≠ [])
    (above : tree.node location.dropLast = some .dir) (free : tree.node location ≠ some .dir) :
    (tree.put location node).node location = some node := by
  rw [put, dif_pos ⟨proper, above, free⟩]
  exact update_self ..

/-- The second tree comes from the first by putting nodes at locations that
satisfy `P`. -/
inductive Puts (P : Location → Prop) (tree : FileTree) : FileTree → Prop
  | refl : Puts P tree tree
  | put {after : FileTree} {location : Location} (puts : Puts P tree after)
      (allowed : P location) (node : Node) : Puts P tree (after.put location node)

section Puts

variable {P : Location → Prop} {tree after : FileTree} {location : Location}

theorem Puts.trans {later : FileTree} (first : Puts P tree after) (second : Puts P after later) :
    Puts P tree later := by
  induction second with
  | refl => exact first
  | put _ allowed node ih => exact ih.put allowed node

variable (puts : Puts P tree after)
include puts

theorem Puts.node_eq (outside : ¬ P location) : after.node location = tree.node location := by
  induction puts with
  | refl => rfl
  | put _ allowed node ih =>
    rw [put_node_of_ne _ node, ih]
    rintro rfl
    exact outside allowed

theorem Puts.dir (isDir : tree.node location = some .dir) : after.node location = some .dir := by
  induction puts with
  | refl => exact isDir
  | put _ _ node ih => exact put_dir _ _ node ih

theorem Puts.isSome (present : (tree.node location).isSome) :
    (after.node location).isSome := by
  induction puts with
  | refl => exact present
  | put _ _ node ih => exact put_isSome _ _ node ih

end Puts

/-! ## Walking a path -/

section Resolve

variable (tree : FileTree) (bound : Option Location) (followLast : Bool)

/-- Walk the parts of a path from a directory; a link is handed to `follow`.  A
last part need not exist. -/
def resolveWith (follow : Location → List String → Except Errno Location) :
    Location → List String → Except Errno Location
  | location, [] => .ok location
  | location, part :: rest =>
    if part = "" ∨ part = "." then resolveWith follow location rest
    else if part = ".." then
      if bound = some location then .error .xdev
      else resolveWith follow location.dropLast rest
    else
      match tree.node (location ++ [part]) with
      | some .dir => resolveWith follow (location ++ [part]) rest
      | some (.link target) =>
        if rest = [] ∧ followLast = false then .ok (location ++ [part])
        else if target.absolute then
          if bound.isSome then .error .xdev else follow [] (target.parts ++ rest)
        else follow location (target.parts ++ rest)
      | some (.file _) => if rest = [] then .ok (location ++ [part]) else .error .notDir
      | none => if rest = [] then .ok (location ++ [part]) else .error .noEntry

/-- Where a path leads, following at most `links` links. -/
def resolve : (links : Nat) → Location → List String → Except Errno Location
  | 0 => tree.resolveWith bound followLast fun _ _ => .error .loop
  | links + 1 => tree.resolveWith bound followLast (resolve links)

def Names (part : String) : Prop := ¬ (part = "" ∨ part = ".") ∧ part ≠ ".."

/-- A walk that leads somewhere. -/
inductive Resolves : Nat → Location → List String → Location → Prop
  | done (links : Nat) (location : Location) : Resolves links location [] location
  | skip {links : Nat} {location target : Location} {part : String} {rest : List String}
      (blank : part = "" ∨ part = ".") (walk : Resolves links location rest target) :
      Resolves links location (part :: rest) target
  | up {links : Nat} {location target : Location} {rest : List String}
      (within : bound ≠ some location) (walk : Resolves links location.dropLast rest target) :
      Resolves links location (".." :: rest) target
  | enter {links : Nat} {location target : Location} {part : String} {rest : List String}
      (named : Names part) (isDir : tree.node (location ++ [part]) = some .dir)
      (walk : Resolves links (location ++ [part]) rest target) :
      Resolves links location (part :: rest) target
  | stop {links : Nat} {location : Location} {part : String} (named : Names part)
      (last : tree.node (location ++ [part]) ≠ some .dir)
      (unfollowed : followLast →
        ∀ link, tree.node (location ++ [part]) ≠ some (.link link)) :
      Resolves links location [part] (location ++ [part])
  | follow {links : Nat} {location target : Location} {part : String} {rest : List String}
      {link : LinkTarget} (named : Names part)
      (isLink : tree.node (location ++ [part]) = some (.link link))
      (followed : ¬ (rest = [] ∧ followLast = false))
      (within : link.absolute → bound = none)
      (walk : Resolves links (if link.absolute then [] else location) (link.parts ++ rest) target) :
      Resolves (links + 1) location (part :: rest) target

end Resolve

section Graph

variable {tree : FileTree} {bound : Option Location} {followLast : Bool} {links : Nat}
  {location target : Location} {parts : List String}
  {follow : Location → List String → Except Errno Location}

theorem resolves_of_resolveWith
    (sound : ∀ base parts target, follow base parts = .ok target → ∃ fewer, links = fewer + 1 ∧
      Resolves tree bound followLast fewer base parts target)
    (walked : tree.resolveWith bound followLast follow location parts = .ok target) :
    Resolves tree bound followLast links location parts target := by
  induction parts generalizing location with
  | nil =>
    cases walked
    exact .done links _
  | cons part rest ih =>
    rw [resolveWith] at walked
    split at walked
    · exact .skip (by assumption) (ih walked)
    · rename_i notBlank
      split at walked
      · rename_i isUp
        subst isUp
        split at walked
        · cases walked
        · exact .up (by assumption) (ih walked)
      · rename_i notUp
        have named : Names part := ⟨notBlank, notUp⟩
        split at walked
        · exact .enter named (by assumption) (ih walked)
        · rename_i link isLink
          split at walked
          · rename_i last
            obtain ⟨rfl, unfollowed⟩ := last
            cases walked
            exact .stop named (by simp [isLink]) (by simp [unfollowed])
          · rename_i followed
            split at walked
            · rename_i isAbsolute
              split at walked
              · cases walked
              · rename_i unbounded
                obtain ⟨fewer, rfl, walk⟩ := sound _ _ _ walked
                exact .follow named isLink followed (fun _ => by simpa using unbounded)
                  (by simpa [isAbsolute] using walk)
            · rename_i isRelative
              obtain ⟨fewer, rfl, walk⟩ := sound _ _ _ walked
              exact .follow named isLink followed (fun isAbsolute => absurd isAbsolute isRelative)
                (by simpa [isRelative] using walk)
        · rename_i isFile
          split at walked
          · rename_i last
            cases walked
            subst last
            exact .stop named (by simp [isFile]) (by simp [isFile])
          · cases walked
        · rename_i isMissing
          split at walked
          · rename_i last
            cases walked
            subst last
            exact .stop named (by simp [isMissing]) (by simp [isMissing])
          · cases walked

theorem resolves_of_resolve (walked : tree.resolve bound followLast links location parts =
    .ok target) : Resolves tree bound followLast links location parts target := by
  induction links generalizing location parts target with
  | zero => exact resolves_of_resolveWith (fun _ _ _ walk => by cases walk) walked
  | succ links ih =>
    exact resolves_of_resolveWith (fun _ _ _ walk => ⟨links, rfl, ih walk⟩) walked

theorem resolveWith_ne_exist (sound : ∀ base parts, follow base parts ≠ .error .exist) :
    tree.resolveWith bound followLast follow location parts ≠ .error .exist := by
  induction parts generalizing location with
  | nil => exact nofun
  | cons part rest ih =>
    rw [resolveWith]
    split
    · exact ih
    · split
      · split
        · exact nofun
        · exact ih
      · split
        · exact ih
        · split
          · exact nofun
          · split
            · split
              · exact nofun
              · exact sound _ _
            · exact sound _ _
        · split <;> exact nofun
        · split <;> exact nofun

theorem resolve_ne_exist : tree.resolve bound followLast links location parts ≠ .error .exist := by
  induction links generalizing location parts with
  | zero => exact resolveWith_ne_exist fun _ _ => nofun
  | succ links ih => exact resolveWith_ne_exist fun _ _ => ih

/-- What becomes of a link, by the number of links that may be followed. -/
theorem resolve_eq : tree.resolve bound followLast links =
    tree.resolveWith bound followLast (links.casesOn (fun _ _ => .error .loop)
      (tree.resolve bound followLast)) := by
  cases links <;> rfl

/-- **`Resolves` is the graph of `resolve`.** -/
theorem resolve_eq_ok_iff : tree.resolve bound followLast links location parts = .ok target ↔
    Resolves tree bound followLast links location parts target := by
  refine ⟨resolves_of_resolve, fun walk => ?_⟩
  induction walk with
  | done links => cases links <;> rfl
  | skip blank _ ih => rw [resolve_eq, resolveWith, if_pos blank, ← resolve_eq, ih]
  | up within _ ih =>
    rw [resolve_eq, resolveWith, if_neg (by decide), if_pos rfl, if_neg within, ← resolve_eq, ih]
  | enter named isDir _ ih =>
    rw [resolve_eq, resolveWith, if_neg named.1, if_neg named.2, isDir, ← resolve_eq]
    exact ih
  | @stop _ location part named last unfollowed =>
    rw [resolve_eq, resolveWith, if_neg named.1, if_neg named.2]
    rcases found : tree.node (location ++ [part]) with _ | (_ | _ | link)
    · rfl
    · exact absurd found last
    · rfl
    · cases followLast with
      | false => rfl
      | true => exact absurd found (unfollowed rfl link)
  | @follow _ _ _ _ _ link named isLink followed within _ ih =>
    rw [resolve_eq, resolveWith, if_neg named.1, if_neg named.2, isLink]
    dsimp only
    rw [if_neg followed]
    split at ih
    · rename_i isAbsolute
      rwa [if_pos isAbsolute, if_neg (by simp [within isAbsolute])]
    · rename_i isRelative
      rwa [if_neg isRelative]

/-! ## Where walks lead -/

/-- **A bounded walk stays beneath its bound.** -/
theorem Resolves.beneath {top : Location}
    (walk : Resolves tree (some top) followLast links location parts target)
    (start : top <+: location) : top <+: target := by
  induction walk with
  | done => exact start
  | skip _ _ ih => exact ih start
  | @up _ location _ _ within _ ih =>
    refine ih ?_
    obtain ⟨below, rfl⟩ := start
    have proper : below ≠ [] := by
      rintro rfl
      exact within (by rw [append_nil])
    rw [dropLast_append_of_ne_nil proper]
    exact prefix_append ..
  | enter _ _ _ ih =>
    exact ih (start.trans (prefix_append ..))
  | stop => exact start.trans (prefix_append ..)
  | @follow _ _ _ _ _ link _ _ _ within _ ih =>
    cases isAbsolute : link.absolute with
    | true => cases within isAbsolute
    | false => exact ih (by simpa [isAbsolute] using start)

theorem parent_dir (isDir : tree.node location = some .dir) :
    tree.node location.dropLast = some .dir := by
  by_cases atRoot : location = []
  · rw [atRoot]
    exact tree.root_dir
  · exact tree.closed location atRoot (by rw [isDir, Option.isSome_some])

theorem Resolves.missing (walk : Resolves tree bound followLast links location parts target)
    (start : tree.node location = some .dir) (missing : tree.node target = none) :
    target ≠ [] ∧ tree.node target.dropLast = some .dir := by
  induction walk with
  | done =>
    rw [start] at missing
    cases missing
  | skip _ _ ih => exact ih start missing
  | up _ _ ih => exact ih (parent_dir start) missing
  | enter _ isDir _ ih => exact ih isDir missing
  | stop =>
    rw [dropLast_concat]
    exact ⟨by simp, start⟩
  | @follow _ _ _ _ _ link _ _ _ _ _ ih =>
    refine ih ?_ missing
    split
    · exact tree.root_dir
    · exact start

variable {part : String}

theorem Resolves.of_missing (named : Names part) (missing : tree.node (location ++ [part]) = none) :
    Resolves tree bound followLast links location [part] (location ++ [part]) := by
  apply Resolves.stop named
  · simp [missing]
  · simp [missing]

theorem put_node_self (node : Node) (proper : location ≠ [])
    (above : tree.node location.dropLast = some .dir) (missing : tree.node location = none) :
    (tree.put location node).node location = some node :=
  put_node_of_free node proper above (by simp [missing])

theorem missing_beneath (missing : tree.node location = none) (more : List String) :
    tree.node (location ++ more) = none := by
  induction more generalizing location with
  | nil => rwa [append_nil]
  | cons part more ih =>
    have below : tree.node (location ++ [part]) = none := by
      by_contra present
      have above := tree.closed (location ++ [part]) (by simp)
        (Option.isSome_iff_ne_none.mpr present)
      rw [dropLast_concat, missing] at above
      cases above
    rw [append_cons]
    exact ih below

theorem missing_below (missing : tree.node location = none) (node : Node) (part : String) :
    (tree.put location node).node (location ++ [part]) = none := by
  rw [put_node_of_ne tree node (by simp)]
  exact missing_beneath missing [part]

/-- **A directory made where a walk ended is where a longer walk goes on from.** -/
theorem Resolves.extend (walk : Resolves tree bound followLast links location parts target)
    (start : tree.node location = some .dir) (missing : tree.node target = none)
    (named : Names part) :
    Resolves (tree.put target .dir) bound followLast links location (parts ++ [part])
      (target ++ [part]) := by
  obtain ⟨proper, above⟩ := walk.missing start missing
  -- what the walk met before its end is still there
  have kept : ∀ {other : Location} {node : Node}, tree.node other = some node →
      (tree.put target .dir).node other = some node := by
    intro other node found
    rwa [put_node_of_ne tree .dir]
    rintro rfl
    rw [missing] at found
    cases found
  induction walk with
  | done =>
    rw [start] at missing
    cases missing
  | skip blank _ ih =>
    exact .skip blank (ih start missing proper above kept)
  | up within _ ih =>
    exact .up within (ih (parent_dir start) missing proper above kept)
  | enter named' isDir _ ih =>
    exact .enter named' (kept isDir) (ih isDir missing proper above kept)
  | @stop _ location last named' =>
    exact .enter named' (put_node_self .dir proper above missing)
      (.of_missing named (missing_below missing .dir part))
  | @follow _ location _ _ rest link named' isLink followed within _ ih =>
    have base : tree.node (if link.absolute then [] else location) = some .dir := by
      split
      · exact tree.root_dir
      · exact start
    refine .follow named' (kept isLink) (by simp) within ?_
    show Resolves _ _ _ _ _ (link.parts ++ (rest ++ [part])) _
    rw [← append_assoc]
    exact ih base missing proper above kept

/-- The parts that a walk goes into. -/
def entered (parts : List String) : List String :=
  parts.filter fun part => ¬ (part = "" ∨ part = ".")

/-- **A walk through directories leads to what its last part names**, when that is not
there. -/
theorem Resolves.through {front : List String} {last : String} (plain : ".." ∉ front)
    (dirs : ∀ start, start <+: entered front → tree.node (location ++ start) = some .dir)
    (named : Names last) (missing : tree.node (location ++ entered front ++ [last]) = none) :
    Resolves tree bound followLast links location (front ++ [last])
      (location ++ entered front ++ [last]) := by
  induction front generalizing location with
  | nil =>
    rw [entered, filter_nil, append_nil] at missing ⊢
    exact .of_missing named missing
  | cons part front ih =>
    have plainLater : ".." ∉ front := fun up => plain (mem_cons_of_mem _ up)
    by_cases blank : part = "" ∨ part = "."
    · have skipped : entered (part :: front) = entered front :=
        filter_cons_of_neg (by rwa [decide_eq_true_eq, not_not])
      rw [skipped] at dirs missing ⊢
      exact .skip blank (ih plainLater dirs missing)
    · have kept : entered (part :: front) = part :: entered front :=
        filter_cons_of_pos (by simpa using blank)
      have shift : ∀ rest, location ++ part :: rest = (location ++ [part]) ++ rest := by simp
      rw [kept] at dirs missing ⊢
      rw [shift] at missing ⊢
      refine .enter ⟨blank, fun up => plain (up ▸ mem_cons_self)⟩ ?_
        (ih plainLater (fun start begins => ?_) missing)
      · exact dirs [part] ⟨entered front, rfl⟩
      · rw [← shift]
        exact dirs (part :: start) ((prefix_cons_inj part).mpr begins)

theorem Resolves.dir_of_blank_last
    (walk : Resolves tree bound followLast links location parts target)
    (start : tree.node location = some .dir)
    (last : ∃ part, parts.getLast? = some part ∧ (part = "" ∨ part = ".")) :
    tree.node target = some .dir := by
  induction walk with
  | done =>
    obtain ⟨part, nothing, -⟩ := last
    cases nothing
  | @skip _ _ _ part rest blank walk ih =>
    cases rest with
    | nil =>
      cases walk
      exact start
    | cons => exact ih start (by simpa using last)
  | @up _ location _ rest within walk ih =>
    cases rest with
    | nil =>
      cases walk
      exact parent_dir start
    | cons => exact ih (parent_dir start) (by simpa using last)
  | @enter _ _ _ part rest named isDir walk ih =>
    cases rest with
    | nil =>
      cases walk
      exact isDir
    | cons => exact ih isDir (by simpa using last)
  | @stop _ _ part named =>
    obtain ⟨only, same, blank⟩ := last
    rw [getLast?_singleton, Option.some.injEq] at same
    exact absurd (same ▸ blank) named.1
  | @follow _ location _ part rest link named _ _ _ walk ih =>
    have base : tree.node (if link.absolute then [] else location) = some .dir := by
      split
      · exact tree.root_dir
      · exact start
    cases rest with
    | nil =>
      obtain ⟨only, same, blank⟩ := last
      rw [getLast?_singleton, Option.some.injEq] at same
      exact absurd (same ▸ blank) named.1
    | cons next rest =>
      refine ih base ?_
      simpa using last

end Graph

end FileTree

end Foundation
