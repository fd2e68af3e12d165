import Mathlib.Data.List.Basic
import Mathlib.Order.Lattice

/-!
# The newest entries of a log

A log whose entries carry a key, such as a timestamp, that several may share.  `newest`
keeps those of the greatest key, in the order of the log.  A stable sort by key puts the
last of them last (`getLast?_sortBy`): what reads the log sorted and what selects by the
greatest key agree on the last entry, and on no other.
-/

namespace Foundation

open List

variable {Entry Key : Type} [LinearOrder Key] (key : Entry → Key)

def isNewest (log : List Entry) (entry : Entry) : Bool := log.all fun other => key other ≤ key entry

def newest (log : List Entry) : List Entry := log.filter (isNewest key log)

/-- Sort by key; entries of one key stay in the order of the log. -/
def sortBy (log : List Entry) : List Entry :=
  log.mergeSort fun first second => key first ≤ key second

variable {key} {log : List Entry} {entry : Entry}

theorem isNewest_iff : isNewest key log entry ↔ ∀ other ∈ log, key other ≤ key entry := by
  simp [isNewest]

theorem sortBy_perm : (sortBy key log).Perm log := mergeSort_perm log _

theorem keyOrder_trans (first second third : Entry) (one : decide (key first ≤ key second))
    (two : decide (key second ≤ key third)) : decide (key first ≤ key third) :=
  decide_eq_true (le_trans (of_decide_eq_true one) (of_decide_eq_true two))

theorem keyOrder_total (first second : Entry) :
    (decide (key first ≤ key second) || decide (key second ≤ key first)) := by
  simpa using le_total (key first) (key second)

theorem sortBy_cons (key : Entry → Key) (entry : Entry) (log : List Entry) :
    ∃ lower upper, sortBy key (entry :: log) = lower ++ entry :: upper ∧
      sortBy key log = lower ++ upper ∧ (∀ other ∈ lower, key other < key entry) ∧
      ∀ other ∈ upper, ¬ key other < key entry := by
  obtain ⟨lower, upper, whole, rest, below⟩ :=
    @mergeSort_cons _ (fun a b => key a ≤ key b) keyOrder_trans keyOrder_total entry log
  have sorted : (lower ++ entry :: upper).Pairwise fun a b => decide (key a ≤ key b) :=
    whole ▸ pairwise_mergeSort keyOrder_trans keyOrder_total (entry :: log)
  refine ⟨lower, upper, whole, rest, by simpa using below, ?_⟩
  simpa using (pairwise_cons.mp (pairwise_append.mp sorted).2.1).1

theorem countP_smaller {lower upper : List Entry} (below : ∀ other ∈ lower, key other < key entry)
    (above : ∀ other ∈ upper, ¬ key other < key entry) :
    (lower ++ upper).countP (key · < key entry) = lower.length := by
  rw [countP_append, countP_eq_length.mpr (by simpa using below),
    countP_eq_zero.mpr (by simpa using above), Nat.add_zero]

/-- Sorting and selecting may be done in either order. -/
theorem filter_sortBy (P : Entry → Bool) :
    (sortBy key log).filter P = sortBy key (log.filter P) := by
  induction log with
  | nil => simp [sortBy]
  | cons entry log ih =>
    obtain ⟨lower, upper, whole, rest, below, above⟩ := sortBy_cons key entry log
    rw [rest, filter_append] at ih
    rw [whole, filter_append, filter_cons, filter_cons]
    split
    · obtain ⟨lower', upper', whole', rest', below', above'⟩ := sortBy_cons key entry (log.filter P)
      rw [rest'] at ih
      have sizes := congrArg (countP (key · < key entry)) ih
      rw [countP_smaller (fun other mem => below other (mem_of_mem_filter mem))
        fun other mem => above other (mem_of_mem_filter mem), countP_smaller below' above'] at sizes
      obtain ⟨first, last⟩ := append_inj ih sizes
      rw [whole', first, last]
    · exact ih

theorem filter_isNewest_sortBy : (sortBy key log).filter (isNewest key log) = newest key log := by
  have ordered : (newest key log).Pairwise fun first second =>
      decide (key first ≤ key second) := by
    apply pairwise_of_forall_mem_list
    intro first one second two
    have greatest := isNewest_iff.mp (mem_filter.mp two).2
    exact decide_eq_true (greatest first (mem_filter.mp one).1)
  have sublist : (newest key log).Sublist (sortBy key log) :=
    sublist_mergeSort keyOrder_trans keyOrder_total ordered filter_sublist
  have filtered := sublist.filter (isNewest key log)
  rw [newest, filter_filter] at filtered
  simp only [Bool.and_self] at filtered
  refine (filtered.eq_of_length ?_).symm
  exact (sortBy_perm.filter _).length_eq.symm

theorem getLast?_sortBy : (sortBy key log).getLast? = (newest key log).getLast? := by
  rw [← filter_isNewest_sortBy]
  rcases eq_nil_or_concat (sortBy key log) with empty | ⟨before, last, split⟩
  · rw [empty, filter_nil]
  · have sorted : (sortBy key log).Pairwise fun first second =>
        decide (key first ≤ key second) :=
      pairwise_mergeSort keyOrder_trans keyOrder_total log
    rw [concat_eq_append] at split
    rw [split, pairwise_append] at sorted
    have greatest : isNewest key log last := by
      rw [isNewest_iff]
      intro other mem
      have listed : other ∈ sortBy key log := sortBy_perm.mem_iff.mpr mem
      rw [split, mem_append, mem_singleton] at listed
      rcases listed with earlier | rfl
      · exact of_decide_eq_true (sorted.2.2 other earlier last (mem_singleton_self _))
      · exact le_refl _
    rw [split, filter_append, filter_singleton, greatest, cond_true,
      getLast?_concat, getLast?_concat]

end Foundation
