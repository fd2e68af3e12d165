import Mathlib.Data.List.Basic
import Mathlib.Order.Lattice

/-!
# The best entry of a list

Entries are ranked by a key, and an entry may have no rank at all.  `best` goes through the
whole list and keeps an entry when its key is above that of the one held; `bestUntil` stops at
a kept entry whose key is good enough.  On a list where nothing after such an entry has a
higher key the two agree (`bestUntil_eq_best`).  Where no two entries share a key, what is
found is characterised by `IsBest` alone (`best_eq_some_iff`).
-/

namespace Foundation

open List

variable {Entry Key : Type} [LinearOrder Key]

structure IsBest (rank : Entry → Option Key) (entries : List Entry) (winner : Entry)
    (key : Key) : Prop where
  mem : winner ∈ entries
  ranked : rank winner = some key
  highest : ∀ other ∈ entries, ∀ otherKey, rank other = some otherKey → otherKey ≤ key

def improves (held : Option (Key × Entry)) (key : Key) : Bool :=
  match held with
  | none => true
  | some (kept, _) => kept < key

section Scan

variable (rank : Entry → Option Key)

def better (held : Option (Key × Entry)) (entry : Entry) : Option (Key × Entry) :=
  match rank entry with
  | none => held
  | some key => if improves held key then some (key, entry) else held

def best (entries : List Entry) : Option (Key × Entry) := entries.foldl (better rank) none

/-- As `best`, from what is held already, and ending at a kept entry that is good enough. -/
def bestUntil (enough : Key → Bool) (held : Option (Key × Entry)) :
    List Entry → Option (Key × Entry)
  | [] => held
  | entry :: rest =>
    match rank entry with
    | none => bestUntil enough held rest
    | some key =>
      if improves held key then
        if enough key then some (key, entry) else bestUntil enough (some (key, entry)) rest
      else bestUntil enough held rest

/-- What is held after the entries have been seen. -/
def Holds (seen : List Entry) : Option (Key × Entry) → Prop
  | none => ∀ entry ∈ seen, rank entry = none
  | some (key, winner) => IsBest rank seen winner key

end Scan

variable {rank : Entry → Option Key} {entries seen : List Entry} {held : Option (Key × Entry)}
  {entry : Entry}

theorem better_of_none (unranked : rank entry = none) : better rank held entry = held := by
  simp [better, unranked]

variable {key : Key}

theorem better_of_some (ranked : rank entry = some key) :
    better rank held entry = if improves held key then some (key, entry) else held := by
  simp [better, ranked]

/-! ## One entry -/

variable (holds : Holds rank seen held)
include holds

theorem Holds.pass (passed : ∀ key, rank entry = some key → ¬ improves held key) :
    Holds rank (seen ++ [entry]) held := by
  cases held with
  | none =>
    intro other member
    rcases mem_append.mp member with earlier | last
    · exact holds other earlier
    · rw [mem_singleton.mp last]
      exact Option.eq_none_iff_forall_ne_some.mpr fun key ranked => passed key ranked rfl
  | some =>
    refine ⟨mem_append_left _ holds.mem, holds.ranked, ?_⟩
    intro other member otherKey ranked
    rcases mem_append.mp member with earlier | last
    · exact holds.highest other earlier otherKey ranked
    · rw [mem_singleton.mp last] at ranked
      exact le_of_not_gt fun above => passed otherKey ranked (decide_eq_true above)

theorem Holds.take (ranked : rank entry = some key) (improving : improves held key) :
    Holds rank (seen ++ [entry]) (some (key, entry)) := by
  refine ⟨mem_append_right _ (mem_singleton_self _), ranked, ?_⟩
  intro other mem otherKey otherRanked
  rcases mem_append.mp mem with earlier | last
  · cases held with
    | none =>
      rw [holds other earlier] at otherRanked
      cases otherRanked
    | some kept =>
      have below : kept.1 < key := of_decide_eq_true improving
      exact le_trans (holds.highest other earlier otherKey otherRanked) (le_of_lt below)
  · rw [mem_singleton.mp last, ranked] at otherRanked
    exact le_of_eq (Option.some.inj otherRanked).symm

theorem Holds.better : Holds rank (seen ++ [entry]) (better rank held entry) := by
  cases ranked : rank entry with
  | none =>
    rw [better_of_none ranked]
    exact holds.pass (by simp [ranked])
  | some key =>
    rw [better_of_some ranked]
    split
    · rename_i improving
      exact holds.take ranked improving
    · refine holds.pass fun other same => ?_
      rwa [← Option.some.inj (ranked.symm.trans same)]

/-! ## The whole list -/

theorem Holds.foldl (entries : List Entry) :
    Holds rank (seen ++ entries) (entries.foldl (Foundation.better rank) held) := by
  induction entries generalizing seen held with
  | nil => rwa [append_nil]
  | cons entry rest ih =>
    rw [append_cons]
    exact ih holds.better

omit holds

theorem best_holds (entries : List Entry) : Holds rank entries (best rank entries) := by
  have none : Holds rank ([] : List Entry) none := by
    intro entry mem
    cases mem
  exact none.foldl entries

variable
  (distinct : ∀ first ∈ entries, ∀ second ∈ entries, ∀ key, rank first = some key → rank second =
  some key → first = second)
include distinct

/-- With no two entries of one key there is one best entry at most. -/
theorem IsBest.unique {first second : Entry} {firstKey secondKey : Key}
    (one : IsBest rank entries first firstKey) (two : IsBest rank entries second secondKey) :
    first = second := by
  have same : firstKey = secondKey :=
    le_antisymm (two.highest first one.mem firstKey one.ranked)
      (one.highest second two.mem secondKey two.ranked)
  rw [← same] at two
  exact distinct first one.mem second two.mem firstKey one.ranked two.ranked

variable {winner : Entry}

/-- **What a scan finds is the best entry.** -/
theorem best_eq_some_iff :
    best rank entries = some (key, winner) ↔ IsBest rank entries winner key := by
  have holds : Holds rank entries (best rank entries) := best_holds entries
  constructor
  · intro found
    rw [found] at holds
    exact holds
  · intro isBest
    cases found : best rank entries with
    | none =>
      rw [found] at holds
      have unranked := holds winner isBest.mem
      rw [isBest.ranked] at unranked
      cases unranked
    | some kept =>
      rw [found] at holds
      have same : kept.2 = winner := IsBest.unique distinct holds isBest
      have ranked := holds.ranked
      rw [same, isBest.ranked] at ranked
      rw [Option.some.inj ranked, ← same]

omit distinct

/-! ## Stopping early -/

theorem foldl_better_of_highest
    (highest : ∀ entry ∈ entries, ∀ otherKey, rank entry = some otherKey → otherKey ≤ key) :
    entries.foldl (better rank) (some (key, winner)) = some (key, winner) := by
  induction entries with
  | nil => rfl
  | cons entry rest ih =>
    have kept : better rank (some (key, winner)) entry = some (key, winner) := by
      cases ranked : rank entry with
      | none => exact better_of_none ranked
      | some otherKey =>
        have below := highest entry mem_cons_self otherKey ranked
        rw [better_of_some ranked, if_neg]
        intro improving
        exact absurd (of_decide_eq_true improving) (not_lt_of_ge below)
    rw [foldl_cons, kept]
    exact ih fun other mem => highest other (mem_cons_of_mem _ mem)

/-- **Nothing is missed by stopping**, if nothing that comes after an entry that is good
enough has a higher key. -/
theorem bestUntil_eq_best {enough : Key → Bool} (entries : List Entry)
    (ordered : entries.Pairwise fun first second => ∀ key, rank first = some key →
      enough key → ∀ otherKey, rank second = some otherKey → otherKey ≤ key) :
    bestUntil rank enough none entries = best rank entries := by
  -- from anything held, since the scan goes on with what it kept
  have from_held : ∀ held, bestUntil rank enough held entries =
      entries.foldl (better rank) held := by
    induction entries with
    | nil => exact fun _ => rfl
    | cons entry rest ih =>
      intro held
      have later := ih ordered.of_cons
      rw [foldl_cons]
      cases ranked : rank entry with
      | none =>
        rw [better_of_none ranked, ← later]
        simp [bestUntil, ranked]
      | some key =>
        rw [better_of_some ranked]
        simp only [bestUntil, ranked]
        split
        · split
          · rename_i reached
            refine (foldl_better_of_highest ?_).symm
            intro other mem
            exact (pairwise_cons.mp ordered).1 other mem key ranked reached
          · exact later _
        · exact later _
  exact from_held none

end Foundation
