import Mathlib.Data.List.Basic

/-!
# Texts joined by a hyphen

`hyphen first second` is the text of a pair of texts.  It does not determine the
pair when the texts may themselves have hyphens in them: `hyphen_eq_hyphen` says
exactly which pairs have the same text, namely those that differ in where a
middle part belongs.
-/

namespace Foundation

open String

def hyphen (first second : String) : String := first ++ "-" ++ second

def Unhyphenated (text : String) : Prop := '-' ∉ text.toList

instance (text : String) : Decidable (Unhyphenated text) :=
  inferInstanceAs (Decidable ('-' ∉ text.toList))

variable (first second : String)

@[simp]
theorem hyphen_toList : (hyphen first second).toList = first.toList ++ '-' :: second.toList := by
  simp [hyphen]

theorem hyphen_assoc (first second third : String) :
    hyphen (hyphen first second) third = hyphen first (hyphen second third) := by
  simp [hyphen, append_assoc]

theorem not_unhyphenated_hyphen : ¬ Unhyphenated (hyphen first second) := by
  simp [Unhyphenated]

theorem append_cons_eq_append_cons {α : Type} {s : α} {a b c d : List α} :
    a ++ s :: b = c ++ s :: d ↔ (a = c ∧ b = d) ∨ (∃ m, a = c ++ s :: m ∧ d = m ++ s :: b) ∨
      ∃ m, c = a ++ s :: m ∧ b = m ++ s :: d := by
  constructor
  · intro same
    rcases List.append_eq_append_iff.mp same with ⟨rest, long, short⟩ | ⟨rest, long, short⟩
    · cases rest with
      | nil => exact .inl ⟨by simpa using long.symm, by simpa using short⟩
      | cons first rest =>
        obtain ⟨rfl, rfl⟩ : s = first ∧ b = rest ++ s :: d := by simpa using short
        exact .inr (.inr ⟨rest, long, rfl⟩)
    · cases rest with
      | nil => exact .inl ⟨by simpa using long, by simpa using short.symm⟩
      | cons first rest =>
        obtain ⟨rfl, rfl⟩ : s = first ∧ d = rest ++ s :: b := by simpa using short
        exact .inr (.inl ⟨rest, long, rfl⟩)
  · rintro (⟨rfl, rfl⟩ | ⟨m, rfl, rfl⟩ | ⟨m, rfl, rfl⟩) <;> simp

variable {a b c d : String}

/-- **Which pairs have the same text.** -/
theorem hyphen_eq_hyphen :
    hyphen a b = hyphen c d ↔ (a = c ∧ b = d) ∨ (∃ m, a = hyphen c m ∧ d = hyphen m b) ∨
      ∃ m, c = hyphen a m ∧ b = hyphen m d := by
  constructor
  · intro same
    have lists := congrArg toList same
    rw [hyphen_toList, hyphen_toList, append_cons_eq_append_cons] at lists
    rcases lists with ⟨one, two⟩ | ⟨m, one, two⟩ | ⟨m, one, two⟩
    · exact .inl ⟨toList_injective one, toList_injective two⟩
    · refine .inr (.inl ⟨ofList m, ?_, ?_⟩) <;> apply toList_injective <;> simp [*]
    · refine .inr (.inr ⟨ofList m, ?_, ?_⟩) <;> apply toList_injective <;> simp [*]
  · rintro (⟨rfl, rfl⟩ | ⟨m, rfl, rfl⟩ | ⟨m, rfl, rfl⟩)
    · rfl
    · exact hyphen_assoc ..
    · exact (hyphen_assoc ..).symm

theorem hyphen_eq_of_first (plain : Unhyphenated c) :
    hyphen a b = hyphen c d ↔ (a = c ∧ b = d) ∨ ∃ m, a = hyphen c m ∧ d = hyphen m b := by
  rw [hyphen_eq_hyphen]
  constructor
  · rintro (same | moved | ⟨m, rfl, _⟩)
    · exact .inl same
    · exact .inr moved
    · exact absurd plain (not_unhyphenated_hyphen _ _)
  · rintro (same | moved)
    · exact .inl same
    · exact .inr (.inl moved)

theorem hyphen_eq_of_second (plain : Unhyphenated d) :
    hyphen a b = hyphen c d ↔ (a = c ∧ b = d) ∨ ∃ m, c = hyphen a m ∧ b = hyphen m d := by
  rw [hyphen_eq_hyphen]
  constructor
  · rintro (same | ⟨m, _, rfl⟩ | moved)
    · exact .inl same
    · exact absurd plain (not_unhyphenated_hyphen _ _)
    · exact .inr moved
  · rintro (same | moved)
    · exact .inl same
    · exact .inr (.inr moved)

theorem hyphen_inj_of_first (one : Unhyphenated a) (two : Unhyphenated c) :
    hyphen a b = hyphen c d ↔ a = c ∧ b = d := by
  rw [hyphen_eq_of_first two]
  constructor
  · rintro (same | ⟨m, rfl, _⟩)
    · exact same
    · exact absurd one (not_unhyphenated_hyphen _ _)
  · exact .inl

theorem hyphen_inj_of_second (one : Unhyphenated b) (two : Unhyphenated d) :
    hyphen a b = hyphen c d ↔ a = c ∧ b = d := by
  rw [hyphen_eq_of_second two]
  constructor
  · rintro (same | ⟨m, _, rfl⟩)
    · exact same
    · exact absurd one (not_unhyphenated_hyphen _ _)
  · exact .inl

end Foundation
