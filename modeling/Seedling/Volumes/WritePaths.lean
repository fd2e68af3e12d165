import Seedling.Foundation.Separated
import Seedling.Volumes.ConfinedWrite

/-!
# Where accepted write paths lead

A path that a definition writes is checked by counting how deep it leads, with `..` taking
one back; the write makes the parent directories from the names of the path, with `..`
left out, and hands the path to the kernel as it is.

`accepted_writes_iff` says for which accepted paths the two agree: those with no `..`,
whose last segment is a name.
-/

namespace Seedling.Volumes

open Foundation FileTree List Component

/-! ## Where a path says -/

/-- Where components lead, with `..` taking back the one before. -/
def lexicalFrom : List String → List Component → List String
  | location, [] => location
  | location, .normal segment :: rest => lexicalFrom (location ++ [segment]) rest
  | location, .parentDir :: rest => lexicalFrom location.dropLast rest
  | location, .rootDir :: rest => lexicalFrom location rest
  | location, .curDir :: rest => lexicalFrom location rest

/-- The lexically resolved location of a path in its volume. -/
def lexicalLocation (path : String) : List String := lexicalFrom [] (components path)

/-- The write puts the contents where the path says, and makes no directory but the parents
of that place. -/
structure WritesThere (tree : FileTree) (root : Location) (path : String)
    (contents : List UInt8) : Prop where
  done : (write faultless tree root path contents).1 = .ok ()
  placed : (write faultless tree root path contents).2.node (root ++ lexicalLocation path) =
    some (.file contents)
  parents : ∀ location, (write faultless tree root path contents).2.node location = some .dir →
    tree.node location = some .dir ∨ ∃ above, above <+: lexicalLocation path ∧
      above ≠ lexicalLocation path ∧ location = root ++ above

/-- No segment of the path is `..`, and the last is a name. -/
structure Straight (path : String) : Prop where
  noUp : ".." ∉ splitText '/' path
  last : ∀ segment, (splitText '/' path).getLast? = some segment → ¬ (segment = "" ∨ segment = ".")

/-! ## Segments and components -/

def moves (segments : List String) : List Component :=
  segments.filterMap fun segment => Component.ofSegment segment.toList

def normals (parts : List Component) : List String :=
  parts.filterMap fun
    | .normal segment => some segment
    | _ => none

variable {segment : String}

theorem ofSegment_name (named : Names segment) :
    ofSegment segment.toList = some (.normal segment) := by
  have notBlank : ¬ (segment.toList = [] ∨ segment.toList = ['.']) := by
    rintro (empty | dot)
    · exact named.1 (Or.inl (String.toList_eq_nil_iff.mp empty))
    · exact named.1 (Or.inr (String.toList_inj.mp dot))
  have notUp : segment.toList ≠ ['.', '.'] := fun up => named.2 (String.toList_inj.mp up)
  rw [ofSegment, if_neg notBlank, if_neg notUp, String.ofList_toList]

theorem segment_cases (segment : String) :
    (segment = "" ∨ segment = ".") ∨ segment = ".." ∨ Names segment := by
  by_cases blank : segment = "" ∨ segment = "."
  · exact Or.inl blank
  · by_cases up : segment = ".."
    · exact Or.inr (Or.inl up)
    · exact Or.inr (Or.inr ⟨blank, up⟩)

theorem entered_cons_blank (blank : segment = "" ∨ segment = ".") (segments : List String) :
    entered (segment :: segments) = entered segments :=
  filter_cons_of_neg (by rwa [decide_eq_true_eq, not_not])

theorem entered_cons_name (named : Names segment) (segments : List String) :
    entered (segment :: segments) = segment :: entered segments :=
  filter_cons_of_pos (by rw [decide_eq_true_eq]; exact named.1)

theorem moves_cons_blank (blank : segment = "" ∨ segment = ".") (segments : List String) :
    moves (segment :: segments) = moves segments := by
  rcases blank with rfl | rfl <;> rfl

theorem moves_cons_name (named : Names segment) (segments : List String) :
    moves (segment :: segments) = .normal segment :: moves segments := by
  simp [moves, ofSegment_name named]

variable (first second : List String)

theorem moves_append : moves (first ++ second) = moves first ++ moves second := filterMap_append

variable {segments : List String}

theorem moves_of_plain (plain : ".." ∉ segments) :
    moves segments = (entered segments).map normal := by
  induction segments with
  | nil => rfl
  | cons segment segments ih =>
    have later := ih fun up => plain (mem_cons_of_mem _ up)
    rcases segment_cases segment with blank | up | named
    · rw [entered_cons_blank blank, moves_cons_blank blank, later]
    · exact absurd (up ▸ mem_cons_self) plain
    · rw [entered_cons_name named, moves_cons_name named, later, map_cons]

theorem moves_splitText (text : String) :
    moves (splitText '/' text) = (text.toList.splitOn '/').filterMap ofSegment := by
  simp [moves, splitText]

variable {path : String}

theorem components_absolute (absolute : path.toList.head? = some '/') :
    components path = .rootDir :: moves (splitText '/' path) := by
  obtain ⟨chars, shape⟩ := head?_eq_some_iff.mp absolute
  have plain : '/' ∉ ([] : List Char) := not_mem_nil
  have split : path.toList.splitOn '/' = [] :: chars.splitOn '/' := by
    rw [shape]
    exact splitOn_append_cons_self_of_not_mem plain chars
  rw [moves_splitText, components, split]
  dsimp only
  rw [if_neg (splitOn_ne_nil _ _)]
  rfl

variable {rel : String}

/-- Of a relative path, at most a `.` comes before the components of its segments. -/
theorem components_relative (relative : rel.toList.head? ≠ some '/') (named : rel ≠ "") :
    ∃ dot, (dot = [] ∨ dot = [curDir]) ∧
      components rel = dot ++ moves (splitText '/' rel) := by
  have whole : ['/'].intercalate (rel.toList.splitOn '/') = rel.toList := intercalate_splitOn '/'
  rw [moves_splitText, components]
  split
  · next nothing => exact absurd nothing (splitOn_ne_nil _ _)
  · next rest split =>
      rw [split] at whole
      cases rest with
      | nil => exact absurd (String.toList_eq_nil_iff.mp whole.symm) named
      | cons =>
        exact absurd (congrArg head? whole).symm relative
  · next first rest notEmpty split =>
      refine ⟨if first = ['.'] then [curDir] else [], ?_, by rw [split]⟩
      split
      · exact Or.inr rfl
      · exact Or.inl rfl

/-! ## Depth -/

theorem normals_append (first second : List Component) :
    normals (first ++ second) = normals first ++ normals second :=
  filterMap_append

theorem depthFrom_count {start depth : Nat} {parts : List Component}
    (counted : depthFrom path start parts = .ok depth) :
    depth + parts.count .parentDir = start + (normals parts).length := by
  induction parts generalizing start with
  | nil => exact congrArg (· + 0) (Except.ok.inj counted).symm
  | cons part parts ih =>
    cases part with
    | normal =>
      have later := ih counted
      simp only [normals, filterMap_cons, length_cons] at later ⊢
      rw [count_cons_of_ne (by simp)]
      omega
    | parentDir =>
      cases start with
      | zero => cases counted
      | succ =>
        have later := ih counted
        simp only [normals, filterMap_cons] at later ⊢
        rw [count_cons_self]
        omega
    | rootDir | curDir =>
      exact ih counted

/-- The depth that is counted is that of the place the path says. -/
theorem length_lexicalFrom {location : List String} {depth : Nat} {parts : List Component}
    (counted : depthFrom path location.length parts = .ok depth) :
    (lexicalFrom location parts).length = depth := by
  induction parts generalizing location with
  | nil => exact Except.ok.inj counted
  | cons part parts ih =>
    cases part with
    | normal =>
      refine ih ?_
      rw [length_append]
      exact counted
    | parentDir =>
      cases empty : location.length with
      | zero =>
        rw [empty] at counted
        cases counted
      | succ =>
        refine ih ?_
        rw [empty] at counted
        rw [length_dropLast, empty]
        exact counted
    | rootDir | curDir => exact ih counted

theorem lexicalFrom_normals (location names : List String) :
    lexicalFrom location (names.map normal) = location ++ names := by
  induction names generalizing location with
  | nil => rw [map_nil, lexicalFrom, append_nil]
  | cons segment names ih =>
    rw [map_cons, lexicalFrom, ih, append_assoc, singleton_append]

theorem accepted_cases (accepted : validateVolumeWritePath path = .ok ()) :
    path.toList.head? = some '/' ∧
      ∃ depth, depthFrom path 0 (components path) = .ok (depth + 1) := by
  rw [validateVolumeWritePath] at accepted
  split at accepted
  · cases accepted
  · cases accepted
  · next depth notZero counted =>
      rw [volumePathDepth] at counted
      split at counted
      · cases counted
      · split at counted
        · cases counted
        · next absolute =>
            obtain ⟨shallower, rfl⟩ := Nat.exists_eq_succ_of_ne_zero notZero
            exact ⟨not_not.mp absolute, shallower, counted⟩

/-! ## Making the parents -/

/-- The tree after the parents down to `deepest` have been made in an empty root. -/
structure Built (tree : FileTree) (root : Location) (deepest : List String)
    (now : FileTree) : Prop where
  dirs : ∀ start, start <+: deepest → now.node (root ++ start) = some .dir
  below : ∀ segment, now.node (root ++ deepest ++ [segment]) = none
  made : ∀ location, now.node location = some .dir →
    tree.node location = some .dir ∨ ∃ start, start <+: deepest ∧ location = root ++ start

theorem entered_of_names (named : ∀ segment ∈ segments, Names segment) :
    entered segments = segments :=
  filter_eq_self.mpr fun segment listed => decide_eq_true (named segment listed).1

section Parents

variable {tree now : FileTree} {root : Location} {deepest : List String} {segment : String}

theorem Built.start (isDir : tree.node root = some .dir)
    (empty : ∀ segment, tree.node (root ++ [segment]) = none) : Built tree root [] tree where
  dirs start begins := by rwa [prefix_nil.mp begins, append_nil]
  below segment := by rw [append_nil, empty]
  made _ found := Or.inl found

variable (built : Built tree root deepest now)
include built

theorem Built.mkdirat (names : ∀ segment ∈ deepest, Names segment) (named : Names segment) :
    Volumes.mkdirat faultless now root (deepest ++ [segment]) =
      (.ok (), now.put (root ++ deepest ++ [segment]) .dir) := by
  have missing := built.below segment
  have plain : ".." ∉ deepest := fun up => (names ".." up).2 rfl
  have walk : Resolves now none false maxSymlinks root (deepest ++ [segment])
      (root ++ deepest ++ [segment]) := by
    have through := @Resolves.through now none false maxSymlinks root deepest segment plain
    rw [entered_of_names names] at through
    exact through built.dirs named missing
  simp only [Volumes.mkdirat, faultless, resolve_eq_ok_iff.mpr walk, missing]

theorem Built.put (segment : String) :
    Built tree root (deepest ++ [segment]) (now.put (root ++ deepest ++ [segment]) .dir) where
  dirs start begins := by
    rcases prefix_concat_iff.mp begins with rfl | shorter
    · rw [← append_assoc]
      refine put_node_self .dir (by simp) ?_ (built.below segment)
      rw [dropLast_concat]
      exact built.dirs deepest (prefix_refl deepest)
    · exact put_dir _ _ _ (built.dirs start shorter)
  below other := by
    rw [← append_assoc]
    exact missing_below (built.below segment) .dir other
  made location found := by
    by_cases here : location = root ++ deepest ++ [segment]
    · exact Or.inr ⟨deepest ++ [segment], prefix_refl _, by rw [here, append_assoc]⟩
    · rw [put_node_of_ne _ _ here] at found
      refine (built.made location found).imp_right ?_
      rintro ⟨start, begins, rfl⟩
      exact ⟨start, begins.trans (prefix_append ..), rfl⟩

/-- **All parents are made, and nothing else.** -/
theorem createParents_built {segments : List String} (names : ∀ segment ∈ deepest, Names segment)
    (named : ∀ segment ∈ segments, Names segment) :
    ∃ after, createParents faultless root deepest segments now = (.ok (), after) ∧
      Built tree root (deepest ++ segments) after := by
  induction segments generalizing deepest now with
  | nil =>
    rw [append_nil]
    exact ⟨now, rfl, built⟩
  | cons segment segments ih =>
    have first := named segment mem_cons_self
    have deeper : ∀ other ∈ deepest ++ [segment], Names other := by
      intro other listed
      rcases mem_append.mp listed with before | last
      · exact names other before
      · exact mem_singleton.mp last ▸ first
    obtain ⟨after, done, whole⟩ := ih (built.put segment) deeper
      fun other listed => named other (mem_cons_of_mem _ listed)
    refine ⟨after, ?_, ?_⟩
    · rw [createParents, built.mkdirat names first]
      exact done
    · rwa [append_assoc, singleton_append] at whole

end Parents

/-! ## Opening and writing -/

variable {tree : FileTree} {root : Location} {faults : Faults}

theorem openat2_ok_cases {location : Location}
    (opened : (openat2 faults tree root rel).1 = .ok location) :
    Resolves tree (some root) true maxSymlinks root (splitText '/' rel) location ∧
      tree.node location ≠ some .dir := by
  simp only [openat2] at opened
  split at opened
  · cases opened
  · split at opened
    · split at opened <;> cases opened
    · split at opened
      · cases opened
      · next found walked =>
          split at opened
          · cases opened
          · next notDir =>
              cases opened
              exact ⟨resolves_of_resolve walked, notDir⟩

theorem write_ok_cases {contents : List UInt8}
    (done : (write faults tree root path contents).1 = .ok ()) :
    let rel := String.ofList (path.toList.dropWhile (· = '/'))
    tree.node root = some .dir ∧ ∃ location,
      (openat2 faults (createParents faults root [] (parentSegments rel) tree).2 root rel).1 =
        .ok location := by
  intro rel
  simp only [write] at done
  split at done
  · cases done
  · split at done
    · cases done
    · split at done
      · cases done
      · cases done
      · cases done
      · next isDir =>
          refine ⟨isDir, ?_⟩
          split at done
          · cases done
          · next ready made =>
              rw [show createParents faults root [] (parentSegments rel) tree = _ from made]
              split at done
              · cases done
              · cases done
              · next location opened found =>
                  exact ⟨location, congrArg Prod.fst found⟩

/-! ## Straight paths -/

theorem normals_map (names : List String) : normals (names.map normal) = names := by
  simp [normals]

theorem entered_append : entered (first ++ second) = entered first ++ entered second :=
  filter_append ..

variable {blanks : List String}

theorem entered_of_blank (allBlank : ∀ blank ∈ blanks, blank = "") : entered blanks = [] :=
  filter_eq_nil_iff.mpr fun blank listed => by simp [allBlank blank listed]

theorem moves_of_blank (allBlank : ∀ blank ∈ blanks, blank = "") : moves blanks = [] :=
  filterMap_eq_nil_iff.mpr fun blank listed => by
    rw [allBlank blank listed]
    rfl

/-- A straight path, taken apart: what the write walks, and what the path says. -/
theorem Straight.parts (straight : Straight path) :
    ∃ front last, splitText '/' (String.ofList (path.toList.dropWhile (· = '/'))) =
        front ++ [last] ∧ ".." ∉ front ∧ Names last ∧
      entered (splitText '/' path) = entered front ++ [last] := by
  obtain ⟨blanks, allBlank, whole⟩ := @splitText_dropWhile '/' path
  generalize String.ofList (path.toList.dropWhile (· = '/')) = rel at whole ⊢
  have split := dropLast_concat_getLast (@splitText_ne_nil '/' rel)
  generalize (splitText '/' rel).dropLast = front at split
  generalize (splitText '/' rel).getLast _ = last at split
  rw [← split, ← append_assoc] at whole
  have notUp : ∀ segment ∈ blanks ++ front ++ [last], segment ≠ ".." := by
    rintro _ listed rfl
    exact straight.noUp (whole ▸ listed)
  have named : Names last := by
    refine ⟨straight.last last ?_, notUp last (by simp)⟩
    rw [whole, getLast?_concat]
  refine ⟨front, last, split.symm, fun up => notUp ".." (by simp [up]) rfl, named, ?_⟩
  rw [whole, entered_append, entered_append, entered_of_blank allBlank, entered_cons_name named]
  rfl

variable {last : String} {front : List String}

theorem ne_empty_of_parts (split : splitText '/' rel = front ++ [last]) (named : Names last) :
    rel ≠ "" := by
  rintro rfl
  have only : some "" = (front ++ [last]).getLast? := congrArg getLast? split
  rw [getLast?_concat] at only
  exact named.1 (Or.inl (Option.some.inj only).symm)

theorem parentSegments_of_parts (relative : rel.toList.head? ≠ some '/')
    (split : splitText '/' rel = front ++ [last]) (plain : ".." ∉ front) (named : Names last) :
    parentSegments rel = entered front := by
  obtain ⟨dot, isDot, parsed⟩ := components_relative relative (ne_empty_of_parts split named)
  have noName : normals dot = [] := by rcases isDot with rfl | rfl <;> rfl
  show normals (components rel).dropLast = _
  rw [parsed, split, moves_append, moves_cons_name named, moves_of_plain plain, ← append_assoc]
  show normals (_ ++ [normal last]).dropLast = _
  rw [dropLast_concat, normals_append, noName, normals_map, nil_append]

theorem Built.openat2 {now : FileTree} (built : Built tree root (entered front) now)
    (split : splitText '/' rel = front ++ [last]) (plain : ".." ∉ front) (named : Names last) :
    Volumes.openat2 faultless now root rel = (.ok (root ++ entered front ++ [last]),
      now.put (root ++ entered front ++ [last]) (.file [])) := by
  have missing := built.below last
  have walk : Resolves now (some root) true maxSymlinks root (splitText '/' rel)
      (root ++ entered front ++ [last]) :=
    split ▸ Resolves.through plain built.dirs named missing
  have noSlash : rel.toList.getLast? ≠ some '/' := by
    intro slash
    have blank := (getLast?_splitText (ne_empty_of_parts split named)).mpr slash
    rw [split, getLast?_concat] at blank
    exact named.1 (Or.inl (Option.some.inj blank))
  have walked := resolve_eq_ok_iff.mpr walk
  rw [splitText] at walked
  simp only [Volumes.openat2, faultless, if_neg noSlash, walked, missing]

theorem head?_dropWhile_slash (path : String) :
    (String.ofList (path.toList.dropWhile (· = '/'))).toList.head? ≠ some '/' := by
  intro slash
  have stopped := head?_dropWhile_not (· = '/') path.toList
  rw [String.toList_ofList] at slash
  simp [slash] at stopped

theorem lexicalLocation_of_plain (absolute : path.toList.head? = some '/')
    (plain : ".." ∉ splitText '/' path) :
    lexicalLocation path = entered (splitText '/' path) := by
  rw [lexicalLocation, components_absolute absolute, lexicalFrom, moves_of_plain plain,
    lexicalFrom_normals, nil_append]

section Write

variable {tree : FileTree} {root : Location} {path : String}

/-- **A straight path is written where it says.** -/
theorem Straight.writesThere (straight : Straight path)
    (absolute : path.toList.head? = some '/') (isDir : tree.node root = some .dir)
    (empty : ∀ segment, tree.node (root ++ [segment]) = none) (contents : List UInt8) :
    WritesThere tree root path contents := by
  obtain ⟨front, last, split, plain, named, whole⟩ := straight.parts
  rw [← lexicalLocation_of_plain absolute straight.noUp] at whole
  have parents := parentSegments_of_parts (head?_dropWhile_slash path) split plain named
  obtain ⟨ready, made, built⟩ := createParents_built (Built.start isDir empty) (by simp)
    (parentSegments_names (String.ofList (path.toList.dropWhile (· = '/'))))
  rw [nil_append, parents] at built
  have opened := built.openat2 split plain named
  have location : root ++ lexicalLocation path = root ++ entered front ++ [last] := by
    rw [whole, append_assoc]
  have written : write faultless tree root path contents = (.ok (),
      (ready.put (root ++ lexicalLocation path) (.file [])).put (root ++ lexicalLocation path)
        (.file contents)) := by
    simp only [write, if_neg (ne_empty_of_parts split named), isDir, made, opened, location]
    rfl
  have above : ready.node (root ++ lexicalLocation path).dropLast = some .dir := by
    rw [location, dropLast_concat]
    exact built.dirs _ (prefix_refl _)
  have proper : root ++ lexicalLocation path ≠ [] := by simp [location]
  have missing : ready.node (root ++ lexicalLocation path) = none := by
    rw [location, built.below]
  refine ⟨by rw [written], ?_, fun other found => ?_⟩
  · rw [written]
    refine put_node_of_free _ proper (put_dir _ _ _ above) ?_
    rw [put_node_self _ proper above missing]
    rintro ⟨⟩
  · rw [written] at found
    refine (built.made other (dir_of_put_file _ (dir_of_put_file _ found))).imp_right ?_
    rintro ⟨start, begins, rfl⟩
    refine ⟨start, whole ▸ begins.trans (prefix_append ..), ?_, rfl⟩
    rintro rfl
    have shorter := begins.length_le
    rw [whole, length_append, length_singleton] at shorter
    omega

variable {contents : List UInt8}

theorem WritesThere.last_named (written : WritesThere tree root path contents) :
    ∀ segment, (splitText '/' path).getLast? = some segment →
      ¬ (segment = "" ∨ segment = ".") := by
  intro segment last blank
  obtain ⟨isDir, location, opened⟩ := write_ok_cases written.done
  obtain ⟨blanks, -, whole⟩ := @splitText_dropWhile '/' path
  generalize String.ofList (path.toList.dropWhile (· = '/')) = rel at opened whole
  obtain ⟨walk, notDir⟩ := openat2_ok_cases opened
  rw [whole, getLast?_append_of_ne_nil _ (splitText_ne_nil rel)] at last
  exact notDir (walk.dir_of_blank_last ((createParents_puts ..).dir isDir) ⟨segment, last, blank⟩)

theorem normals_components_rel (some_rel : String.ofList (path.toList.dropWhile (· = '/')) ≠ "") :
    normals (components (String.ofList (path.toList.dropWhile (· = '/')))) =
      normals (moves (splitText '/' path)) := by
  obtain ⟨blanks, allBlank, whole⟩ := @splitText_dropWhile '/' path
  obtain ⟨dot, isDot, parsed⟩ := components_relative (head?_dropWhile_slash path) some_rel
  have noName : normals dot = [] := by rcases isDot with rfl | rfl <;> rfl
  rw [parsed, whole, moves_append, moves_of_blank allBlank, normals_append, noName,
    nil_append, nil_append]

theorem length_normals_le (parts : List Component) :
    (normals parts).length ≤ (normals parts.dropLast).length + 1 := by
  rcases eq_nil_or_concat' parts with rfl | ⟨front, last, rfl⟩
  · exact Nat.zero_le _
  · cases last <;> simp [normals]

/-- **A `..` makes the parents that the write makes reach as deep as the path says, or
deeper**: it is counted, and is not taken back. -/
theorem length_lexicalLocation_le (accepted : validateVolumeWritePath path = .ok ())
    (up : ".." ∈ splitText '/' path) :
    0 < (lexicalLocation path).length ∧ (lexicalLocation path).length ≤
      (parentSegments (String.ofList (path.toList.dropWhile (· = '/')))).length := by
  obtain ⟨absolute, depth, counted⟩ := accepted_cases accepted
  have some_rel : String.ofList (path.toList.dropWhile (· = '/')) ≠ "" := by
    intro nothing
    obtain ⟨blanks, allBlank, whole⟩ := @splitText_dropWhile '/' path
    rw [nothing] at whole
    rcases mem_append.mp (whole ▸ up) with early | late
    · exact absurd (allBlank ".." early) (by decide)
    · exact absurd late (by decide)
  have deep : (lexicalLocation path).length = depth + 1 := length_lexicalFrom counted
  rw [components_absolute absolute] at counted
  have taken := depthFrom_count counted
  have went : 0 < (moves (splitText '/' path)).count .parentDir :=
    count_pos_iff.mpr (mem_filterMap.mpr ⟨"..", up, rfl⟩)
  have made := length_normals_le (components (String.ofList (path.toList.dropWhile (· = '/'))))
  rw [normals_components_rel some_rel] at made
  rw [count_cons_of_ne (by simp)] at taken
  change _ = 0 + (normals (moves (splitText '/' path))).length at taken
  change _ ≤ (parentSegments _).length + 1 at made
  omega

/-- A path that goes up has a directory made that is no parent of its place. -/
theorem WritesThere.noUp (written : WritesThere tree root path contents)
    (accepted : validateVolumeWritePath path = .ok ()) (isDir : tree.node root = some .dir)
    (empty : ∀ segment, tree.node (root ++ [segment]) = none) : ".." ∉ splitText '/' path := by
  intro up
  obtain ⟨positive, deep⟩ := length_lexicalLocation_le accepted up
  have some_parents := Nat.lt_of_lt_of_le positive deep
  obtain ⟨ready, made, built⟩ := createParents_built (Built.start isDir empty) (by simp)
    (parentSegments_names (String.ofList (path.toList.dropWhile (· = '/'))))
  have deepest : (write faultless tree root path contents).2.node
      (root ++ parentSegments (String.ofList (path.toList.dropWhile (· = '/')))) = some .dir := by
    rcases @write_puts faultless tree root path contents with ⟨_, blank | refused | notDir⟩ | puts
    · rw [blank] at some_parents
      exact absurd some_parents (by decide)
    · exact absurd rfl refused
    · exact absurd isDir notDir
    · rw [made] at puts
      exact puts.2.dir (built.dirs _ (prefix_refl _))
  generalize parentSegments _ = parents at deep some_parents deepest
  rcases written.parents _ deepest with before | ⟨above, begins, short, same⟩
  · cases parents with
    | nil => exact absurd some_parents (by decide)
    | cons segment =>
      rw [append_cons, missing_beneath (empty segment)] at before
      cases before
  · rw [append_cancel_left same] at deep
    exact short (begins.eq_of_length_le deep)

end Write

/-- **An accepted path is written where it says, with no directory made but the parents of
that place, exactly when it has no `..` and its last segment is a name.** -/
theorem accepted_writes_iff {tree : FileTree} {root : Location} {path : String}
    (accepted : validateVolumeWritePath path = .ok ()) (isDir : tree.node root = some .dir)
    (empty : ∀ segment, tree.node (root ++ [segment]) = none) (contents : List UInt8) :
    WritesThere tree root path contents ↔ Straight path := by
  constructor
  · intro written
    exact ⟨written.noUp accepted isDir empty, written.last_named⟩
  · intro straight
    exact straight.writesThere (accepted_cases accepted).1 isDir empty contents

def emptyVolume : FileTree := FileTree.empty.put ["vol"] .dir

theorem emptyVolume_empty (segment : String) : emptyVolume.node (["vol"] ++ [segment]) = none :=
  missing_below rfl .dir segment

theorem plain_path_written :
    validateVolumeWritePath "/etc/conf" = .ok () ∧ emptyVolume.node ["vol"] = some .dir ∧
      WritesThere emptyVolume ["vol"] "/etc/conf" [1] :=
  ⟨rfl, rfl, (accepted_writes_iff rfl rfl emptyVolume_empty [1]).mpr
    ⟨by decide, by rintro _ ⟨⟩; decide⟩⟩

/-- `/etc/../etc/conf` says `etc/conf`, and is written there, but `etc/etc` has been made on
the way. -/
theorem stray_directory_made :
    let path := "/etc/../etc/conf"
    let outcome := write faultless emptyVolume ["vol"] path [1]
    validateVolumeWritePath path = .ok () ∧ emptyVolume.node ["vol"] = some .dir ∧
      (∀ segment, emptyVolume.node (["vol"] ++ [segment]) = none) ∧
      lexicalLocation path = ["etc", "conf"] ∧ outcome.1 = .ok () ∧
      outcome.2.node ["vol", "etc", "conf"] = some (.file [1]) ∧
      outcome.2.node ["vol", "etc", "etc"] = some .dir ∧
      ¬ WritesThere emptyVolume ["vol"] path [1] := by
  intro path outcome
  have place : lexicalLocation path = ["etc", "conf"] := by decide
  have accepted : validateVolumeWritePath path = .ok () := by decide +kernel
  have made : outcome.2.node ["vol", "etc", "etc"] = some .dir := by decide +kernel
  refine ⟨accepted, rfl, emptyVolume_empty, place, by decide +kernel, by decide +kernel, made, ?_⟩
  intro written
  rcases written.parents _ made with before | ⟨above, begins, -, same⟩
  · cases before
  · have stray : ["etc", "etc"] = above := (cons.inj same).2
    rw [← stray] at begins
    exact absurd begins (by decide)

end Seedling.Volumes
