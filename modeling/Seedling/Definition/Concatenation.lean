import Mathlib.Data.List.Induction

/-!
# Positions in a concatenated script

The script files of a bundle are evaluated as one text, in which each file starts on a line
of its own.  A table says which lines are a file's, and `locate` reads it to tell the file and
the line of an error.  `script_positions_exact` is that this undoes the concatenation.
-/

namespace Seedling.Definition

open List

def lines : List Char → List (List Char)
  | [] => []
  | '\n' :: rest => [] :: lines rest
  | c :: rest =>
    match lines rest with
    | [] => [[c]]
    | first :: others => (c :: first) :: others

structure Segment where
  file : String
  firstLine : Nat
  lines : Nat

structure ScriptText where
  text : List Char
  segments : List Segment
  nextLine : Nat

/-- End the last line, so that what comes next starts on a line of its own. -/
def separated (text : List Char) : List Char :=
  if !text.isEmpty && text.getLast? ≠ some '\n' then text ++ ['\n'] else text

def ScriptText.push (script : ScriptText) (file : String × List Char) : ScriptText where
  text := separated script.text ++ file.2
  segments := script.segments ++ [⟨file.1, script.nextLine, (lines file.2).length⟩]
  nextLine := script.nextLine + (lines file.2).length

def concatenate (files : List (String × List Char)) : ScriptText :=
  files.foldl ScriptText.push ⟨[], [], 1⟩

/-- The file and in-file line of a line of the concatenation. -/
def ScriptText.locate (script : ScriptText) (line : Nat) : Option (String × Nat) :=
  (script.segments.find? fun segment =>
    line ≥ segment.firstLine && line < segment.firstLine + segment.lines).map fun segment =>
      (segment.file, line - segment.firstLine + 1)

/-- The lines of all files in order, each with its file and its number there. -/
def numbered (files : List (String × List Char)) : List (List Char × String × Nat) :=
  files.flatMap fun file => ((lines file.2).zipIdx 1).map fun line => (line.1, file.1, line.2)

theorem lines_cons {c : Char} (other : c ≠ '\n') (rest : List Char) : lines (c :: rest) =
      match lines rest with
      | [] => [[c]]
      | first :: others => (c :: first) :: others := by
  rw [lines]
  exact other

variable (text rest : List Char)

theorem lines_append_break : lines (text ++ '\n' :: rest) = lines (text ++ ['\n']) ++ lines rest ∧
      lines (text ++ ['\n']) ≠ [] := by
  induction text with
  | nil => simp [lines]
  | cons c text ih =>
    obtain ⟨ih, some⟩ := ih
    by_cases same : c = '\n'
    · simp [same, lines, ih]
    · simp only [cons_append, lines_cons same, ih]
      cases made : lines (text ++ ['\n']) with
      | nil => exact absurd made some
      | cons => simp

theorem lines_unended {text : List Char} (nonempty : text ≠ [])
    (unended : text.getLast? ≠ some '\n') :
    lines (text ++ ['\n']) = lines text := by
  induction text with
  | nil => exact absurd rfl nonempty
  | cons c text ih =>
    cases text with
    | nil =>
      have other : c ≠ '\n' := by simpa using unended
      simp [lines]
    | cons next text =>
      have ih := ih (by simp) (by simpa using unended)
      by_cases same : c = '\n'
      · simpa [same, lines] using ih
      · rw [cons_append, lines_cons same, ih, lines_cons same]

theorem lines_separated : lines (separated text ++ rest) = lines text ++ lines rest := by
  unfold separated
  split
  · rename_i unended
    simp only [Bool.and_eq_true, Bool.not_eq_true', isEmpty_eq_false_iff, decide_eq_true_eq]
      at unended
    rw [append_assoc, singleton_append, (lines_append_break ..).1,
      lines_unended unended.1 unended.2]
  · rename_i ended
    rcases eq_nil_or_concat text with rfl | ⟨init, c, rfl⟩
    · rfl
    · obtain rfl : c = '\n' := by simpa using ended
      rw [concat_eq_append, append_assoc, singleton_append, (lines_append_break ..).1]

theorem ScriptText.locate_push (script : ScriptText) (file : String × List Char) (line : Nat) :
    (script.push file).locate line = (script.locate line).or
      (if script.nextLine ≤ line ∧ line < script.nextLine + (lines file.2).length then
        some (file.1, line - script.nextLine + 1)
      else none) := by
  simp only [locate, push, find?_append]
  cases script.segments.find? _ with
  | some => rfl
  | none =>
    split <;> rename_i inside <;> simp [inside]

/-- **Script positions map back exactly.**  The lines of the text are those of the files, in
order; each is located at its file and its line there, and no other number is located. -/
theorem script_positions_exact (files : List (String × List Char)) :
    lines (concatenate files).text = (numbered files).map Prod.fst ∧
      (concatenate files).locate 0 = none ∧
      ∀ n, (concatenate files).locate (n + 1) = (numbered files)[n]?.map Prod.snd := by
  suffices also : (concatenate files).nextLine = (numbered files).length + 1 ∧ _ from also.2
  induction files using reverseRecOn with
  | nil => simp [concatenate, ScriptText.locate, numbered, lines]
  | append_singleton files file ih =>
    obtain ⟨nextLine, text, zero, located⟩ := ih
    have more : numbered (files ++ [file]) = numbered files ++
        ((lines file.2).zipIdx 1).map fun line => (line.1, file.1, line.2) := by
      simp [numbered]
    have pushed : concatenate (files ++ [file]) = (concatenate files).push file := by
      simp [concatenate]
    simp only [pushed, more, ScriptText.locate_push, zero, located, nextLine]
    refine ⟨?_, ?_, by simp, fun n => ?_⟩
    · simp [ScriptText.push]
      omega
    · simp [ScriptText.push, lines_separated, text, Function.comp_def]
    · by_cases old : n < (numbered files).length
      · simp [getElem?_append_left old, getElem?_eq_getElem old]
      · rw [getElem?_append_right (by omega), getElem?_eq_none (by omega), getElem?_map]
        split
        · have line : n - (numbered files).length < (lines file.2).length := by omega
          simp [getElem?_eq_getElem line]
          omega
        · have none : (lines file.2).length ≤ n - (numbered files).length := by omega
          simp [getElem?_eq_none none]

end Seedling.Definition
