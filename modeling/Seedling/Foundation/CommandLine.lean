import Mathlib.Data.List.Basic

/-!
# Reading a command line

The arguments of a program as its option parser takes them: options up to the
first argument that is not one, then everything else as it stands.  A table says
which options there are and which of them take a value; the value is attached with
`=` or is the next argument, whatever that looks like.

`read_render` reads back a list of options that was written out, and
`read_ends_iff` says which argument ends them.
-/

namespace Foundation.CommandLine

open List

/-- Whether an option takes a value; an option the table does not have is refused. -/
abbrev Table := String → Option Bool

structure Given where
  name : String
  value : Option String

/-- What one argument is, where options are expected. -/
inductive Argument where
  | option (given : Given)
  | awaitsValue (name : String)
  | endOfOptions
  | positional
  | refused

/-- A long option, by the characters after its two dashes. -/
def classifyLong (table : Table) (body : List Char) : Argument :=
  if body = [] then .endOfOptions
  else
    let name := String.ofList (body.takeWhile (· ≠ '='))
    match table name with
    | none => .refused
    | some takesValue =>
      if '=' ∈ body then
        .option ⟨name, some (String.ofList (body.dropWhile (· ≠ '=')).tail)⟩
      else if takesValue then .awaitsValue name
      else .option ⟨name, none⟩

/-- What an argument is.  One with a single dash is a short option with its value
attached; a lone dash is not an option. -/
def classify (table : Table) (argument : String) : Argument :=
  match argument.toList with
  | '-' :: '-' :: body => classifyLong table body
  | '-' :: _ :: _ => .option ⟨argument, none⟩
  | _ => .positional

/-- The options at the head of the arguments, and the arguments left. -/
def readOptions (table : Table) : List String → Option (List Given × List String)
  | [] => some ([], [])
  | argument :: rest =>
    match classify table argument with
    | .option given => (readOptions table rest).map fun read => (given :: read.1, read.2)
    | .awaitsValue name =>
      match rest with
      | [] => none
      | value :: rest =>
        (readOptions table rest).map fun read => (⟨name, some value⟩ :: read.1, read.2)
    | .endOfOptions => some ([], rest)
    | .positional => some ([], argument :: rest)
    | .refused => none

/-! ## Writing options out -/

/-- An option written out, as one argument or as two. -/
inductive Written where
  | bare (name : String)
  | attached (name value : String)
  | separate (name value : String)
deriving DecidableEq

namespace Written

def given : Written → Given
  | .bare name => ⟨name, none⟩
  | .attached name value | .separate name value => ⟨name, some value⟩

def render : Written → List String
  | .bare name => ["--" ++ name]
  | .attached name value => ["--" ++ name ++ "=" ++ value]
  | .separate name value => ["--" ++ name, value]

def Known (table : Table) : Written → Prop
  | .bare name => name ≠ "" ∧ '=' ∉ name.toList ∧ table name = some false
  | .attached name _ => name ≠ "" ∧ '=' ∉ name.toList ∧ (table name).isSome
  | .separate name _ => name ≠ "" ∧ '=' ∉ name.toList ∧ table name = some true

instance (table : Table) : DecidablePred (Known table)
  | .bare _ => inferInstanceAs (Decidable (_ ∧ _))
  | .attached _ _ => inferInstanceAs (Decidable (_ ∧ _))
  | .separate _ _ => inferInstanceAs (Decidable (_ ∧ _))

end Written

section Reading

variable {table : Table} {name : String}

variable (plain : '=' ∉ name.toList)
include plain

theorem all_ne_equals : ∀ c ∈ name.toList, decide (c ≠ '=') := by
  intro c mem
  simpa using fun same : c = '=' => plain (same ▸ mem)

theorem takeWhile_name (rest : List Char) :
    (name.toList ++ '=' :: rest).takeWhile (· ≠ '=') = name.toList := by
  rw [takeWhile_append_of_pos (all_ne_equals plain)]
  simp

theorem dropWhile_name (rest : List Char) :
    (name.toList ++ '=' :: rest).dropWhile (· ≠ '=') = '=' :: rest := by
  rw [dropWhile_append_of_pos (all_ne_equals plain)]
  simp

omit plain

theorem classify_plain (named : name ≠ "") (plain : '=' ∉ name.toList) {takesValue : Bool}
    (known : table name = some takesValue) :
    classify table ("--" ++ name) =
      if takesValue then .awaitsValue name else .option ⟨name, none⟩ := by
  have spelled : ("--" ++ name).toList = '-' :: '-' :: name.toList := by simp
  have whole : name.toList.takeWhile (· ≠ '=') = name.toList := by
    have kept : (name.toList ++ []).takeWhile (· ≠ '=') = name.toList ++ [].takeWhile (· ≠ '=') :=
      takeWhile_append_of_pos (all_ne_equals plain)
    simpa using kept
  have some_chars : name.toList ≠ [] := by simpa using named
  simp only [classify, spelled, classifyLong, some_chars, whole, if_false, String.ofList_toList,
    known, plain]

theorem classify_attached (plain : '=' ∉ name.toList)
    (known : (table name).isSome) (value : String) :
    classify table ("--" ++ name ++ "=" ++ value) = .option ⟨name, some value⟩ := by
  obtain ⟨takesValue, known⟩ := Option.isSome_iff_exists.mp known
  have spelled : ("--" ++ name ++ "=" ++ value).toList =
      '-' :: '-' :: (name.toList ++ '=' :: value.toList) := by simp
  simp only [classify, spelled, classifyLong, takeWhile_name plain, dropWhile_name plain,
    String.ofList_toList, known, tail_cons]
  simp

variable {written : Written}

theorem readOptions_written (known : written.Known table) (rest : List String) :
    readOptions table (written.render ++ rest) =
      (readOptions table rest).map fun read => (written.given :: read.1, read.2) := by
  cases written with
  | bare =>
    obtain ⟨named, plain, known⟩ := known
    simp [Written.render, readOptions, classify_plain named plain known, Written.given]
  | attached =>
    obtain ⟨named, plain, known⟩ := known
    simp [Written.render, readOptions, classify_attached plain known, Written.given]
  | separate =>
    obtain ⟨named, plain, known⟩ := known
    simp [Written.render, readOptions, classify_plain named plain known, Written.given]

/-- **Options are read back as written**, whatever their values and whatever follows. -/
theorem read_render {options : List Written} (known : ∀ option ∈ options, option.Known table)
    (rest : List String) :
    readOptions table (options.flatMap Written.render ++ rest) =
      (readOptions table rest).map fun read => (options.map Written.given ++ read.1, read.2) := by
  induction options with
  | nil => simp
  | cons option options ih =>
    rw [forall_mem_cons] at known
    rw [flatMap_cons, append_assoc, readOptions_written known.1, ih known.2, Option.map_map]
    rfl

def Written.argument : Written → Argument
  | .bare name => .option ⟨name, none⟩
  | .attached name value => .option ⟨name, some value⟩
  | .separate name _ => .awaitsValue name

theorem classify_render (known : written.Known table) :
    ∃ head tail, written.render = head :: tail ∧ classify table head = written.argument := by
  cases written with
  | bare | separate =>
    obtain ⟨named, plain, known⟩ := known
    exact ⟨_, _, rfl, by rw [classify_plain named plain known]; rfl⟩
  | attached name value =>
    obtain ⟨named, plain, known⟩ := known
    exact ⟨_, _, rfl, classify_attached plain known value⟩

variable {rest more : List String}

/-- The first argument tells how an option was written, and so where it ends. -/
theorem render_cancel {first second : Written} (known : first.Known table)
    (otherKnown : second.Known table) (same : first.render ++ rest = second.render ++ more) :
    first = second ∧ rest = more := by
  obtain ⟨head, tail, written, classified⟩ := classify_render known
  obtain ⟨other, others, otherWritten, otherClassified⟩ := classify_render otherKnown
  have heads : head = other := by
    rw [written, otherWritten] at same
    exact (cons.inj same).1
  have arguments : first.argument = second.argument := by
    rw [← classified, heads, otherClassified]
  cases first with
  | bare =>
    cases second with
    | bare => cases arguments; exact ⟨rfl, append_cancel_left same⟩
    | attached | separate => cases arguments
  | attached name value =>
    cases second with
    | bare | separate => cases arguments
    | attached => cases arguments; exact ⟨rfl, append_cancel_left same⟩
  | separate name value =>
    cases second with
    | bare | attached => cases arguments
    | separate =>
      cases arguments
      simp only [Written.render, cons_append, nil_append, cons.injEq, true_and] at same
      obtain ⟨rfl, rest⟩ := same
      exact ⟨rfl, rest⟩

/-- **Options in front of a marked one line up**: two command lines that agree have the
same options up to the first marked one, the same marked one, and agree from there. -/
theorem render_align {marked : Written → Bool} {before earlier : List Written}
    {mark other : Written} (known : ∀ option ∈ mark :: before, option.Known table)
    (otherKnown : ∀ option ∈ other :: earlier, option.Known table)
    (plain : ∀ option ∈ before, marked option = false)
    (otherPlain : ∀ option ∈ earlier, marked option = false) (first : marked mark)
    (otherFirst : marked other)
    (same : before.flatMap Written.render ++ (mark.render ++ rest) = earlier.flatMap Written.render
      ++ (other.render ++ more)) :
    before = earlier ∧ mark = other ∧ rest = more := by
  rw [forall_mem_cons] at known otherKnown
  obtain ⟨markKnown, known⟩ := known
  obtain ⟨otherMarkKnown, otherKnown⟩ := otherKnown
  induction before generalizing earlier with
  | nil =>
    cases earlier with
    | nil => exact ⟨rfl, render_cancel markKnown otherMarkKnown same⟩
    | cons =>
      -- a marked option faces one that is not
      rw [flatMap_cons, append_assoc] at same
      obtain ⟨rfl, -⟩ := render_cancel markKnown (otherKnown _ mem_cons_self) same
      rw [otherPlain _ mem_cons_self] at first
      cases first
  | cons option options ih =>
    rw [flatMap_cons, append_assoc] at same
    cases earlier with
    | nil =>
      obtain ⟨rfl, -⟩ := render_cancel (known _ mem_cons_self) otherMarkKnown same
      rw [plain _ mem_cons_self] at otherFirst
      cases otherFirst
    | cons =>
      rw [flatMap_cons, append_assoc] at same
      rw [forall_mem_cons] at known otherKnown plain otherPlain
      obtain ⟨rfl, following⟩ := render_cancel known.1 otherKnown.1 same
      obtain ⟨rfl, aligned⟩ := ih plain.2 otherPlain.2 following known.2 otherKnown.2
      exact ⟨rfl, aligned⟩

/-- An argument looks like an option. -/
def Dashed (argument : String) : Prop := ∃ c rest, argument.toList = '-' :: c :: rest

variable {argument : String}

theorem classify_positional_iff (table : Table) :
    classify table argument = .positional ↔ ¬ Dashed argument := by
  rw [classify]
  split
  · rename_i body spelled
    have dashed : Dashed argument := ⟨_, _, spelled⟩
    refine ⟨fun positional => ?_, fun plain => absurd dashed plain⟩
    rw [classifyLong] at positional
    split at positional
    · cases positional
    · simp only at positional
      split at positional
      · cases positional
      · split at positional
        · cases positional
        · split at positional <;> cases positional
  · rename_i spelled
    exact ⟨nofun, fun plain => absurd ⟨_, _, spelled⟩ plain⟩
  · rename_i _ other
    refine ⟨fun _ => ?_, fun _ => rfl⟩
    rintro ⟨c, rest, spelled⟩
    exact other c rest spelled

/-- **What ends the options.**  No option is read off an argument, which is then the
first of those left, exactly if it does not look like one. -/
theorem read_ends_iff {rest : List String} :
    readOptions table (argument :: rest) = some ([], argument :: rest) ↔ ¬ Dashed argument := by
  rw [← classify_positional_iff table, readOptions]
  cases classified : classify table argument with
  | option => simp
  | awaitsValue =>
    cases rest with
    | nil | cons => simp
  | endOfOptions | positional | refused => simp

end Reading

end Foundation.CommandLine
