import Mathlib.Data.List.Basic

/-!
# Texts with separators

Texts joined by a separator, and taken apart at it.  Joining can be undone when no
text has the separator in it (`splitText_joinText`), and what a text is taken apart
into never has it (`not_mem_of_mem_splitText`).  A number put into a text can be read back
from its digits (`repr_inj`).
-/

namespace Foundation

open List

def joinText (separator : Char) (texts : List String) : String :=
  String.ofList ([separator].intercalate (texts.map String.toList))

def splitText (separator : Char) (text : String) : List String :=
  (text.toList.splitOn separator).map String.ofList

variable {separator : Char} {text : String}

theorem splitText_of_not_mem (plain : separator ∉ text.toList) :
    splitText separator text = [text] := by
  rw [splitText, splitOn_eq_singleton plain, map_singleton, String.ofList_toList]

theorem splitText_append {first : String} (plain : separator ∉ first.toList) (rest : String) :
    splitText separator (first ++ String.singleton separator ++ rest) =
      first :: splitText separator rest := by
  have spelled : (first ++ String.singleton separator ++ rest).toList =
      first.toList ++ separator :: rest.toList := by simp
  rw [splitText, spelled, splitOn_append_cons_self_of_not_mem plain, map_cons,
    String.ofList_toList, splitText]

variable {α : Type}

theorem not_mem_of_mem_splitOn [BEq α] [LawfulBEq α] {x : α} (xs : List α) :
    ∀ piece ∈ xs.splitOn x, x ∉ piece := by
  -- on the length: what follows the first separator is taken apart in the same way
  induction length : xs.length using Nat.strongRecOn generalizing xs with
  | ind n ih =>
    intro piece mem
    by_cases separated : x ∈ xs
    · obtain ⟨before, after, rfl, plain⟩ := eq_append_cons_of_mem separated
      rw [splitOn_append_cons_self_of_not_mem plain] at mem
      rcases mem_cons.mp mem with rfl | later
      · exact plain
      · refine ih after.length ?_ after rfl piece later
        rw [← length, length_append, length_cons]
        omega
    · rw [splitOn_eq_singleton separated] at mem
      exact mem_singleton.mp mem ▸ separated

theorem not_mem_of_mem_splitText {piece : String} (mem : piece ∈ splitText separator text) :
    separator ∉ piece.toList := by
  obtain ⟨chars, split, rfl⟩ := mem_map.mp mem
  rw [String.toList_ofList]
  exact not_mem_of_mem_splitOn _ chars split

variable {texts : List String}

theorem splitText_ne_nil (text : String) : splitText separator text ≠ [] := by
  simp [splitText]

theorem splitText_dropWhile (text : String) : ∃ blanks : List String,
    (∀ blank ∈ blanks, blank = "") ∧ splitText separator text =
      blanks ++ splitText separator (String.ofList (text.toList.dropWhile (· = separator))) := by
  rw [splitText, splitText, String.toList_ofList]
  induction text.toList with
  | nil => exact ⟨[], by simp, rfl⟩
  | cons c chars ih =>
    by_cases separates : c = separator
    · obtain ⟨blanks, empty, split⟩ := ih
      refine ⟨"" :: blanks, ?_, ?_⟩
      · intro blank mem
        exact (mem_cons.mp mem).elim id (empty blank)
      · have first : (c :: chars).splitOn separator = [] :: chars.splitOn separator := by
          have plain : separator ∉ ([] : List Char) := not_mem_nil
          rw [separates]
          exact splitOn_append_cons_self_of_not_mem plain chars
        rw [dropWhile_cons_of_pos (by simpa using separates), first, map_cons, split]
        rfl
    · refine ⟨[], by simp, ?_⟩
      rw [dropWhile_cons_of_neg (by simpa using separates), nil_append]

theorem getLast?_intercalate_nil {x : α} {front : List (List α)} (some_front : front ≠ []) :
    ([x].intercalate (front ++ [[]])).getLast? = some x := by
  induction front with
  | nil => exact absurd rfl some_front
  | cons piece front ih =>
    cases front with
    | nil =>
      rw [singleton_append, intercalate_cons_cons, intercalate_singleton,
        append_nil, getLast?_concat]
    | cons =>
      have later := ih (cons_ne_nil _ _)
      rw [cons_append, cons_append, intercalate_cons_cons,
        getLast?_append, ← cons_append, later, Option.some_or]

theorem getLast?_splitText (named : text ≠ "") :
    (splitText separator text).getLast? = some "" ↔ text.toList.getLast? = some separator := by
  have last : (splitText separator text).getLast? = some "" ↔
      (text.toList.splitOn separator).getLast? = some [] := by
    rw [splitText, getLast?_map, Option.map_eq_some_iff]
    constructor
    · rintro ⟨chars, found, empty⟩
      rw [found, ← String.toList_ofList (l := chars), empty]
      rfl
    · intro found
      exact ⟨[], found, rfl⟩
  rw [last]
  constructor
  · intro found
    obtain ⟨front, split⟩ := getLast?_eq_some_iff.mp found
    have whole : [separator].intercalate (text.toList.splitOn separator) = text.toList :=
      intercalate_splitOn separator
    rw [split] at whole
    have some_front : front ≠ [] := by
      rintro rfl
      exact named (String.toList_eq_nil_iff.mp whole.symm)
    rw [← whole]
    exact getLast?_intercalate_nil some_front
  · intro ends
    obtain ⟨front, split⟩ := getLast?_eq_some_iff.mp ends
    rw [split, splitOn_append_cons_self, splitOn_nil, getLast?_concat]

variable (plain : ∀ text ∈ texts, separator ∉ text.toList)
include plain

/-- **Joining can be undone** when no text has the separator in it. -/
theorem splitText_joinText (some_texts : texts ≠ []) :
    splitText separator (joinText separator texts) = texts := by
  have split : ([separator].intercalate (texts.map String.toList)).splitOn separator =
      texts.map String.toList := by
    apply splitOn_intercalate
    · intro chars mem
      obtain ⟨text, listed, rfl⟩ := mem_map.mp mem
      exact plain text listed
    · simpa using some_texts
  rw [splitText, joinText, String.toList_ofList, split, map_map]
  have back : String.ofList ∘ String.toList = id := by
    funext text
    exact String.ofList_toList
  rw [back, map_id]

theorem joinText_injective {others : List String}
    (otherPlain : ∀ text ∈ others, separator ∉ text.toList) (some_texts : texts ≠ [])
    (some_others : others ≠ []) (same : joinText separator texts = joinText separator others) :
    texts = others := by
  rw [← splitText_joinText plain some_texts, same, splitText_joinText otherPlain some_others]

omit plain

theorem repr_inj {one other : Nat} : one.repr = other.repr ↔ one = other := by
  constructor
  · intro same
    have digits := String.ofList_injective same
    rw [← Nat.ofDigitChars_ten_toDigits (n := one), digits, Nat.ofDigitChars_ten_toDigits]
  · rintro rfl
    rfl

end Foundation
