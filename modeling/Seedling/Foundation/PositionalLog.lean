import Mathlib.Data.List.Range
import Mathlib.Data.List.Sort

/-!
# Positional logs and keyed upserts

A log whose entries carry their own position is *positional* when entry `i` says it is
entry `i`.  A writer hands back a batch of amendments of its entries and of entries for the
positions after its end, which the store folds in with `upsert`.

`fill` reads off the keys of a batch whether the log stays positional and how long it
becomes (`positional_commit`, `length_commit`); `commit_forall` is the pointwise rule.  In a
table whose rows are sorted when they are read, replacing a row is an upsert of what is read
(`Positional.sortByKey_replace`).
-/

namespace Foundation

open List

variable {α κ : Type}

/-! ## Upserts by key -/

/-- Replace the first row with the key of `x` by `x`, or append `x`. -/
def upsert [DecidableEq κ] (key : α → κ) (x : α) : List α → List α
  | [] => [x]
  | y :: rows => if key y = key x then x :: rows else y :: upsert key x rows

variable {x : α} {rows : List α}

theorem upsert_of_absent [DecidableEq κ] {key : α → κ} (absent : ∀ y ∈ rows, key y ≠ key x) :
    upsert key x rows = rows ++ [x] := by
  induction rows with
  | nil => rfl
  | cons y rows ih =>
    rw [upsert, if_neg (absent y mem_cons_self), ih fun z mem => absent z (mem_cons_of_mem _ mem)]
    rfl

theorem forall_mem_upsert [DecidableEq κ] {key : α → κ} {P : α → Prop} (old : ∀ y ∈ rows, P y)
    (new : P x) :
    ∀ y ∈ upsert key x rows, P y := by
  induction rows with
  | nil => simpa [upsert] using new
  | cons z rows ih =>
    rw [forall_mem_cons] at old
    rw [upsert]
    split
    · exact forall_mem_cons.mpr ⟨new, old.2⟩
    · exact forall_mem_cons.mpr ⟨old.1, ih old.2⟩

theorem mem_upsert_self [DecidableEq κ] {key : α → κ} (x : α) (rows : List α) :
    x ∈ upsert key x rows := by
  induction rows with
  | nil => exact mem_singleton_self x
  | cons y rows ih =>
    rw [upsert]
    split
    · exact mem_cons_self
    · exact mem_cons_of_mem _ ih

theorem mem_upsert_other [DecidableEq κ] {key : α → κ} {y : α} (mem : y ∈ rows)
    (different : key y ≠ key x) : y ∈ upsert key x rows := by
  induction rows with
  | nil => cases mem
  | cons z rows ih =>
    rw [upsert]
    rcases mem_cons.mp mem with rfl | later
    · rw [if_neg different]
      exact mem_cons_self
    · split
      · exact mem_cons_of_mem _ later
      · exact mem_cons_of_mem _ (ih later)

/-- An upsert keeps the keys it finds, so a column the key determines is
unchanged. -/
theorem map_upsert_of_mem [DecidableEq κ] {key : α → κ} (present : ∃ y ∈ rows, key y = key x) :
    (upsert key x rows).map key = rows.map key := by
  induction rows with
  | nil => simp at present
  | cons y rows ih =>
    rw [upsert]
    split
    · rename_i same
      simp [same]
    · rename_i different
      obtain ⟨z, mem, same⟩ := present
      rcases mem_cons.mp mem with rfl | tailMember
      · exact absurd same different
      · simp [ih ⟨z, tailMember, same⟩]

theorem mem_map_upsert [DecidableEq κ] {key : α → κ} {k : κ} :
    k ∈ (upsert key x rows).map key ↔ k = key x ∨ k ∈ rows.map key := by
  by_cases present : ∃ y ∈ rows, key y = key x
  · rw [map_upsert_of_mem present]
    refine ⟨.inr, ?_⟩
    rintro (rfl | mem)
    · exact mem_map.mpr present
    · exact mem
  · rw [upsert_of_absent fun y mem same => present ⟨y, mem, same⟩, map_append,
      mem_append, map_singleton, mem_singleton, or_comm]

/-! ## Positional logs -/

/-- Entry `i` carries key `i`: no gap, no duplicate, nothing out of place. -/
def Positional (key : α → Nat) (log : List α) : Prop := log.map key = List.range log.length

variable {key : α → Nat} {log : List α}

theorem Positional.key_eq (positional : Positional key log) {i : Nat} (found : log[i]? = some x) :
    key x = i := by
  have inBounds : i < log.length := (List.getElem?_eq_some_iff.mp found).1
  have column : (log.map key)[i]? = some i := by
    rw [positional, getElem?_range inBounds]
  simpa [found] using column

theorem positional_nil (key : α → Nat) : Positional key [] := rfl

theorem upsert_eq_set (offset : Nat) (column : log.map key = range' offset log.length)
    (low : offset ≤ key x) (high : key x < offset + log.length) :
    upsert key x log = log.set (key x - offset) x := by
  induction log generalizing offset with
  | nil => simp at high; omega
  | cons y log ih =>
    simp only [map_cons, length_cons, range'_succ, cons.injEq] at column
    rw [upsert]
    split
    · rw [show key x - offset = 0 by omega]
      rfl
    · have later : offset + 1 ≤ key x := by omega
      have within : key x < offset + 1 + log.length := by
        simp only [length_cons] at high
        omega
      rw [ih (offset + 1) column.2 later within,
        show key x - offset = (key x - (offset + 1)) + 1 by omega]
      rfl

theorem Positional.upsert_inside (positional : Positional key log) (inside : key x < log.length) :
    upsert key x log = log.set (key x) x := by
  have column : log.map key = range' 0 log.length := by
    rw [positional, range_eq_range']
  simpa using upsert_eq_set 0 column (Nat.zero_le _) (by omega)

theorem Positional.upsert_end (positional : Positional key log) (atEnd : key x = log.length) :
    upsert key x log = log ++ [x] := by
  refine upsert_of_absent fun y mem same => ?_
  obtain ⟨i, at_i⟩ := getElem?_of_mem mem
  have inBounds : i < log.length := (List.getElem?_eq_some_iff.mp at_i).1
  have := positional.key_eq at_i
  omega

theorem length_le_of_counterparts {R : α → α → Prop} {other : List α}
    (counterpart : ∀ (i : Nat) x, log[i]? = some x → ∃ y, other[i]? = some y ∧ R x y) :
    log.length ≤ other.length := by
  by_contra shorter
  have inside : other.length < log.length := by omega
  obtain ⟨y, at_end, _⟩ := counterpart _ _ (List.getElem?_eq_getElem inside)
  exact absurd (List.getElem?_eq_some_iff.mp at_end).1 (lt_irrefl _)

/-! ## Batches -/

/-- The length a log of length `n` reaches when a batch with these keys is
folded in, if every key amends an entry or claims the next free position. -/
def fill : Nat → List Nat → Option Nat
  | n, [] => some n
  | n, k :: keys => if k < n then fill n keys else if k = n then fill (n + 1) keys else none

theorem fill_append (n : Nat) (keys more : List Nat) :
    fill n (keys ++ more) = (fill n keys).bind fun m => fill m more := by
  induction keys generalizing n with
  | nil => rfl
  | cons k keys ih =>
    simp only [cons_append, fill]
    split
    · exact ih n
    · split
      · exact ih (n + 1)
      · rfl

variable {n m k : Nat} {keys : List Nat}

theorem fill_append_amend (filled : fill n keys = some m) (amends : k < m) :
    fill n (keys ++ [k]) = some m := by
  simp [fill_append, filled, fill, amends]

theorem fill_append_claim (filled : fill n keys = some m) :
    fill n (keys ++ [m]) = some (m + 1) := by
  simp [fill_append, filled, fill]

theorem fill_le (filled : fill n keys = some m) : n ≤ m := by
  induction keys generalizing n with
  | nil => simp only [fill, Option.some.injEq] at filled; omega
  | cons k keys ih =>
    simp only [fill] at filled
    split at filled
    · exact ih filled
    · split at filled
      · exact Nat.le_of_succ_le (ih filled)
      · cases filled

theorem fill_mem_lt (filled : fill n keys = some m) (mem : k ∈ keys) : k < m := by
  induction keys generalizing n with
  | nil => cases mem
  | cons k' keys ih =>
    simp only [fill] at filled
    split at filled
    · rcases mem_cons.mp mem with rfl | tailMember
      · exact Nat.lt_of_lt_of_le (by assumption) (fill_le filled)
      · exact ih filled tailMember
    · split at filled
      · rcases mem_cons.mp mem with rfl | tailMember
        · have := fill_le filled
          omega
        · exact ih filled tailMember
      · cases filled

theorem fill_claims (filled : fill n keys = some m) (low : n ≤ k) (high : k < m) : k ∈ keys := by
  induction keys generalizing n with
  | nil => simp only [fill, Option.some.injEq] at filled; omega
  | cons k' keys ih =>
    simp only [fill] at filled
    split at filled
    · exact mem_cons_of_mem _ (ih filled low)
    · split at filled
      · rename_i same
        by_cases here : k = n
        · simp [here, same]
        · exact mem_cons_of_mem _ (ih filled (by omega))
      · cases filled

/-- Fold a batch into a log, one upsert per entry. -/
def commit [DecidableEq κ] (key : α → κ) (log batch : List α) : List α :=
  batch.foldl (fun log x => upsert key x log) log

theorem commit_cons [DecidableEq κ] (key : α → κ) (log : List α) (x : α) (batch : List α) :
    commit key log (x :: batch) = commit key (upsert key x log) batch := rfl

variable {batch : List α} (positional : Positional key log)
  (filled : fill log.length (batch.map key) = some m)
include positional filled

variable {P : Nat → α → Prop}

/-- One induction for everything about a committed batch: it is positional, as
long as `fill` says, and whatever holds pointwise of the old entries and of the
batch's entries holds pointwise of the result. -/
theorem commit_spec (old : ∀ i x, log[i]? = some x → P i x) (new : ∀ x ∈ batch, P (key x) x) :
    Positional key (commit key log batch) ∧ (commit key log batch).length = m ∧
      ∀ i x, (commit key log batch)[i]? = some x → P i x := by
  induction batch generalizing log with
  | nil =>
    simp only [map_nil, fill, Option.some.injEq] at filled
    exact ⟨positional, filled, old⟩
  | cons x batch ih =>
    rw [forall_mem_cons] at new
    simp only [map_cons, fill] at filled
    rw [commit_cons]
    split at filled
    · rename_i inside
      rw [positional.upsert_inside inside]
      refine ih ?_ (by simpa using filled) ?_ new.2
      · have unchanged : (log.set (key x) x).map key = log.map key := by
          rw [← positional.upsert_inside inside]
          exact map_upsert_of_mem ⟨log[key x], getElem_mem inside,
            positional.key_eq (getElem?_eq_getElem inside)⟩
        rw [Positional, unchanged, positional, length_set]
      · intro i y found
        by_cases here : key x = i
        · subst here
          rw [getElem?_set_self inside, Option.some.injEq] at found
          exact found ▸ new.1
        · rw [getElem?_set_ne here] at found
          exact old i y found
    · split at filled
      · rename_i atEnd
        rw [positional.upsert_end atEnd]
        refine ih ?_ (by simpa using filled) ?_ new.2
        · rw [Positional, map_append, positional]
          simp [range_succ, atEnd]
        · intro i y found
          rcases Nat.lt_trichotomy i log.length with before | here | after
          · rw [getElem?_append_left before] at found
            exact old i y found
          · subst here
            rw [getElem?_concat_length, Option.some.injEq] at found
            exact found ▸ atEnd ▸ new.1
          · rw [getElem?_eq_none_iff.mpr (by simp; omega)] at found
            cases found
      · cases filled

theorem positional_commit : Positional key (commit key log batch) :=
  (commit_spec (P := fun _ _ => True) positional filled (by simp) (by simp)).1

theorem length_commit : (commit key log batch).length = m :=
  (commit_spec (P := fun _ _ => True) positional filled (by simp) (by simp)).2.1

theorem commit_forall (old : ∀ i x, log[i]? = some x → P i x) (new : ∀ x ∈ batch, P (key x) x) :
    ∀ i x, (commit key log batch)[i]? = some x → P i x :=
  (commit_spec positional filled old new).2.2

omit filled

/-! ## Rows kept out of order -/

def sortByKey (key : α → Nat) (rows : List α) : List α :=
  rows.insertionSort fun x y => key x ≤ key y

omit positional in
theorem sortByKey_perm (key : α → Nat) (rows : List α) : (sortByKey key rows).Perm rows :=
  perm_insertionSort _ rows

omit positional in
theorem sortByKey_pairwise (key : α → Nat) (rows : List α) :
    (sortByKey key rows).Pairwise fun x y => key x ≤ key y := by
  have : IsTrans α fun x y => key x ≤ key y := ⟨fun _ _ _ => Nat.le_trans⟩
  exact pairwise_insertionSort _ rows

theorem Positional.pairwise : log.Pairwise fun x y => key x < key y := by
  have column : (log.map key).Pairwise (· < ·) := by
    rw [positional]
    exact pairwise_lt_range
  exact pairwise_map.mp column

omit positional in
/-- Up to order, an upsert drops the row of the same key and adds the new one. -/
theorem upsert_perm [DecidableEq κ] {key : α → κ}
    (distinct : rows.Pairwise fun y z => key y ≠ key z) :
    (upsert key x rows).Perm (rows.filter (fun y => key y ≠ key x) ++ [x]) := by
  induction rows with
  | nil => exact .refl _
  | cons y rows ih =>
    obtain ⟨apart, distinct⟩ := pairwise_cons.mp distinct
    by_cases same : key y = key x
    · have others : rows.filter (fun z => key z ≠ key x) = rows := by
        rw [filter_eq_self]
        intro z mem
        simpa [← same] using (apart z mem).symm
      rw [upsert, if_pos same, filter_cons_of_neg (by simpa using same), others]
      exact (perm_append_singleton x rows).symm
    · rw [upsert, if_neg same, filter_cons_of_pos (by simpa using same)]
      exact (ih distinct).cons y

/-- An upsert that amends an entry or claims the next position keeps a log
positional. -/
theorem Positional.upsert (claims : key x ≤ log.length) : Positional key (upsert key x log) := by
  have filled : ∃ m, fill log.length ([x].map key) = some m := by
    rcases Nat.lt_or_eq_of_le claims with inside | atEnd
    · exact ⟨log.length, by simp [fill, inside]⟩
    · exact ⟨log.length + 1, by simp [fill, atEnd]⟩
  exact positional_commit positional filled.choose_spec

/-- The first key of a batch amends an entry or claims the next position, and the
rest of the batch fills the log from there. -/
theorem Positional.fill_cons (filled : fill log.length (key x :: keys) = some m) :
    key x ≤ log.length ∧ fill (Foundation.upsert key x log).length keys = some m := by
  rw [fill] at filled
  split at filled
  · rename_i inside
    rw [positional.upsert_inside inside, length_set]
    exact ⟨inside.le, filled⟩
  · split at filled
    · rename_i atEnd
      rw [positional.upsert_end atEnd, length_append]
      exact ⟨atEnd.le, filled⟩
    · cases filled

omit positional

/-- **Replacing a row out of order is an upsert of what is read in order.** -/
theorem Positional.sortByKey_replace (positional : Positional key (sortByKey key rows))
    (claims : key x ≤ (sortByKey key rows).length) :
    sortByKey key (rows.filter (fun y => key y ≠ key x) ++ [x]) =
      Foundation.upsert key x (sortByKey key rows) := by
  have after := positional.upsert claims
  have distinct := positional.pairwise.imp fun {_ _} less => Nat.ne_of_lt less
  have kept : ((sortByKey key rows).filter (fun y => key y ≠ key x) ++ [x]).Perm
      (rows.filter (fun y => key y ≠ key x) ++ [x]) :=
    ((sortByKey_perm key rows).filter _).append_right [x]
  have sameRows := (sortByKey_perm key (rows.filter (fun y => key y ≠ key x) ++ [x])).trans
    (kept.symm.trans (upsert_perm distinct).symm)
  refine List.Perm.eq_of_pairwise ?_ (sortByKey_pairwise key _)
    (after.pairwise.imp fun {_ _} => Nat.le_of_lt) sameRows
  -- rows of one key are one row: the upserted log has each key once
  intro y z inSorted inAfter below above
  have once : ((Foundation.upsert key x (sortByKey key rows)).map key).Nodup := by
    rw [after]
    exact nodup_range
  exact inj_on_of_nodup_map once (sameRows.subset inSorted) inAfter (Nat.le_antisymm below above)

/-- Upserts respect a relation under which rows have the same keys. -/
theorem forall₂_upsert {β : Type} [DecidableEq κ] {R : α → β → Prop} {key : α → κ} {key' : β → κ}
    (sameKey : ∀ x y, R x y → key x = key' y) {log : List β} {y : β}
    (related : List.Forall₂ R rows log) (new : R x y) :
    List.Forall₂ R (upsert key x rows) (upsert key' y log) := by
  induction related with
  | nil => exact .cons new .nil
  | @cons x' y' rows log head tail ih =>
    rw [upsert, upsert, sameKey x' y' head, sameKey x y new]
    split
    · exact .cons new tail
    · exact .cons head ih

end Foundation
