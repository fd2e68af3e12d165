import Mathlib.Data.List.Pairwise

/-!
# Tables with uniqueness constraints

A table is a list of rows no two of which clash; two rows clash if together they
break a uniqueness constraint, such as a primary key or a partial unique index.
`insertOrIgnore` adds a row unless it clashes with one that is there, and
`insertOrReplace` adds it in place of the rows it clashes with.
-/

namespace Foundation

structure Table {Row : Type} (clash : Row → Row → Bool) where
  rows : List Row
  distinct : rows.Pairwise fun first second => clash first second = false

namespace Table

variable {Row : Type} {clash : Row → Row → Bool}

def empty : Table clash := ⟨[], .nil⟩

variable (table : Table clash)

def Admits (row : Row) : Prop := ∀ old ∈ table.rows, clash old row = false

instance (table : Table clash) (row : Row) : Decidable (table.Admits row) :=
  inferInstanceAs (Decidable (∀ old ∈ table.rows, clash old row = false))

def insertOrIgnore (row : Row) : Table clash :=
  if admitted : table.Admits row then
    { rows := table.rows ++ [row]
      distinct := List.pairwise_append.mpr ⟨table.distinct, List.pairwise_singleton _ _,
        fun old present _ added => List.mem_singleton.mp added ▸ admitted old present⟩ }
  else table

def insertOrReplace (row : Row) : Table clash where
  rows := table.rows.filter (fun old => !clash old row) ++ [row]
  distinct := List.pairwise_append.mpr ⟨table.distinct.filter _, List.pairwise_singleton _ _, by
    intro old kept _ added
    rw [List.mem_singleton.mp added]
    simpa using (List.mem_filter.mp kept).2⟩

def keepOnly (keep : Row → Bool) : Table clash where
  rows := table.rows.filter keep
  distinct := table.distinct.filter keep

/-- Change rows in place, where a change makes no rows clash that did not. -/
def mapRows (change : Row → Row)
    (keeps : ∀ first second, clash (change first) (change second) = clash first second) :
    Table clash where
  rows := table.rows.map change
  distinct := List.pairwise_map.mpr <|
    table.distinct.imp fun {first second} free => (keeps first second).trans free

def alter (change : Row → Row)
    (keeps : ∀ first second, clash first second = false → clash (change first) (change second) =
      false) : Table clash where
  rows := table.rows.map change
  distinct := List.pairwise_map.mpr (table.distinct.imp (keeps _ _))

variable {table : Table clash} {row : Row}

theorem rows_insertOrIgnore (admitted : table.Admits row) :
    (table.insertOrIgnore row).rows = table.rows ++ [row] := by
  rw [insertOrIgnore, dif_pos admitted]

theorem insertOrIgnore_of_not_admits (refused : ¬ table.Admits row) :
    table.insertOrIgnore row = table := dif_neg refused

theorem mem_insertOrIgnore {other : Row} : other ∈ (table.insertOrIgnore row).rows ↔
      other ∈ table.rows ∨ table.Admits row ∧ other = row := by
  unfold insertOrIgnore
  split
  · rename_i admitted
    simp [admitted]
  · rename_i refused
    simp [refused]

theorem mem_insertOrReplace {other : Row} : other ∈ (table.insertOrReplace row).rows ↔
      other = row ∨ other ∈ table.rows ∧ clash other row = false := by
  simp [insertOrReplace, or_comm]

theorem eq_of_clash (symmetric : ∀ first second, clash first second = clash second first)
    {first second : Row} (one : first ∈ table.rows) (two : second ∈ table.rows)
    (clashes : clash first second) : first = second := by
  by_contra different
  have : Std.Symm fun first second => clash first second = false :=
    ⟨fun _ _ free => (symmetric _ _).trans free⟩
  have apart := table.distinct.forall one two different
  rw [clashes] at apart
  cases apart

end Table

end Foundation
