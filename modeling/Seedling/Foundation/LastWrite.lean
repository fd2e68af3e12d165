import Mathlib.Data.List.Induction
import Mathlib.Data.List.Sort

/-!
# The last write to each key

A history of writes, each to a key and with a position.  The value of a key is what
the last write to it gave (`lastWrites`).  A database reads it off another way: it
sorts the writes by key, the latest of each key first, and takes the first write of
every key it comes to (`firstOfEach`).  `firstOfEach_sorted` says that the two agree
on every history whose positions increase.
-/

namespace Foundation

open Function List

variable {Write Key Value : Type} [LinearOrder Key] (key : Write → Key) (position : Write → Nat)
  (value : Write → Option Value)

/-- The values after a history, write after write.  A write may clear its key. -/
def lastWrites (writes : List Write) : Key → Option Value :=
  writes.foldl (fun values write => update values (key write) (value write)) fun _ => none

def latestFirst (first second : Write) : Bool :=
  key first < key second || (key first = key second && position second ≤ position first)

/-- One round: a write counts unless the write before it was to the same key. -/
def takeFirst (taken : Option Key × (Key → Option Value)) (write : Write) :
    Option Key × (Key → Option Value) :=
  if taken.1 = some (key write) then taken
  else
    (some (key write),
      match value write with
      | some written => update taken.2 (key write) (some written)
      | none => taken.2)

/-- The first write of every key, in a list that has the writes to a key together. -/
def firstOfEach (writes : List Write) : Key → Option Value :=
  (writes.foldl (takeFirst key value) (none, fun _ => none)).2

variable {key position value} (writes : List Write)

theorem lastWrites_apply (name : Key) : lastWrites key value writes name =
      (writes.reverse.find? fun write => key write = name).bind value := by
  induction writes using reverseRecOn with
  | nil => rfl
  | append_singleton writes write ih =>
    rw [lastWrites, foldl_append, foldl_cons, foldl_nil, reverse_append,
      reverse_singleton, singleton_append]
    by_cases same : key write = name
    · subst same
      rw [update_self, find?_cons_of_pos (by simp), Option.bind_some]
    · rw [update_of_ne (Ne.symm same), find?_cons_of_neg (by simpa using same)]
      exact ih

/-- What the loop leaves for a key: the first write to it, unless the loop was on
that key already. -/
theorem foldl_takeFirst (last : Option Key) (values : Key → Option Value) (name : Key)
    (sorted : writes.Pairwise fun first second => key first ≤ key second)
    (above : ∀ before, last = some before → ∀ write ∈ writes, before ≤ key write) :
    (writes.foldl (takeFirst key value) (last, values)).2 name =
      if last = some name then values name
      else ((writes.find? fun write => key write = name).bind value).or (values name) := by
  induction writes generalizing last values with
  | nil => simp
  | cons write writes ih =>
    obtain ⟨first, sorted⟩ := pairwise_cons.mp sorted
    rw [foldl_cons, takeFirst]
    by_cases again : last = some (key write)
    · rw [if_pos again, ih last values sorted fun before held other mem =>
        above before held other (mem_cons_of_mem _ mem)]
      by_cases same : key write = name
      · rw [if_pos (again.trans (congrArg some same)), if_pos (again.trans (congrArg some same))]
      · rw [find?_cons_of_neg (by simpa using same)]
    · rw [if_neg again, ih _ _ sorted fun before held other mem =>
        Option.some.inj held ▸ first other mem]
      by_cases same : key write = name
      · subst same
        rw [if_neg again, find?_cons_of_pos (by simp), Option.bind_some]
        cases value write with
        | some | none => simp
      · have kept : (match value write with
            | some written => update values (key write) (some written)
            | none => values) name = values name := by
          cases value write with
          | some => exact update_of_ne (Ne.symm same) ..
          | none => rfl
        rw [if_neg (by simpa using same), kept, find?_cons_of_neg (by simpa using same)]
        by_cases left : last = some name
        · -- the loop has left this key behind, and does not come back to it
          have below : name < key write :=
            lt_of_le_of_ne (above name left write mem_cons_self) (Ne.symm same)
          have absent : writes.find? (fun write => key write = name) = none := by
            rw [find?_eq_none]
            intro other mem found
            have : name < key other := lt_of_lt_of_le below (first other mem)
            exact absurd (of_decide_eq_true found) (ne_of_gt this)
          rw [if_pos left, absent, Option.bind_none, Option.none_or]
        · rw [if_neg left]

theorem latestFirst_trans (first second third : Write)
    (left : latestFirst key position first second)
    (right : latestFirst key position second third) :
    latestFirst key position first third := by
  simp only [latestFirst, Bool.or_eq_true, Bool.and_eq_true, decide_eq_true_eq] at *
  rcases left with below | ⟨same, older⟩
  · rcases right with below' | ⟨same', -⟩
    · exact .inl (below.trans below')
    · exact .inl (same' ▸ below)
  · rcases right with below' | ⟨same', older'⟩
    · exact .inl (same ▸ below')
    · exact .inr ⟨same.trans same', older'.trans older⟩

theorem latestFirst_total (first second : Write) :
    (latestFirst key position first second || latestFirst key position second first) := by
  simp only [latestFirst, Bool.or_eq_true, Bool.and_eq_true, decide_eq_true_eq]
  rcases lt_trichotomy (key first) (key second) with below | same | above
  · exact .inl (.inl below)
  · rcases Nat.le_total (position second) (position first) with older | newer
    · exact .inl (.inr ⟨same, older⟩)
    · exact .inr (.inr ⟨same.symm, newer⟩)
  · exact .inr (.inl above)

theorem sorted_latestFirst :
    (writes.mergeSort (latestFirst key position)).Pairwise fun first second =>
      latestFirst key position first second :=
  pairwise_mergeSort latestFirst_trans latestFirst_total writes

variable {writes : List Write}
  (increasing : writes.Pairwise fun first second => position first < position second)
include increasing

/-- A write at the position of which no later write to its key stands is the last one. -/
theorem find?_reverse_of_latest {latest : Write} (mem : latest ∈ writes)
    (newest : ∀ other ∈ writes, key other = key latest → position other ≤ position latest) :
    writes.reverse.find? (fun write => key write = key latest) = some latest := by
  obtain ⟨before, after, rfl⟩ := append_of_mem mem
  have later : ∀ other ∈ after, position latest < position other :=
    (pairwise_cons.mp (pairwise_append.mp increasing).2.1).1
  rw [reverse_append, reverse_cons, append_assoc, find?_append,
    find?_eq_none.mpr, Option.none_or, singleton_append,
    find?_cons_of_pos (by simp)]
  intro other listed found
  have listed := mem_reverse.mp listed
  have older := newest other (by simp [listed]) (of_decide_eq_true found)
  exact absurd (later other listed) (Nat.not_lt.mpr older)

/-- The first write to a key in the sorted history is the last one in the history. -/
theorem find?_sorted (name : Key) :
    (writes.mergeSort (latestFirst key position)).find? (fun write => key write = name) =
      writes.reverse.find? fun write => key write = name := by
  have permuted := mergeSort_perm writes (latestFirst key position)
  have ordered : (writes.mergeSort (latestFirst key position)).Pairwise _ :=
    sorted_latestFirst writes
  cases found : (writes.mergeSort (latestFirst key position)).find?
    (fun write => key write = name) with
  | none =>
    rw [find?_eq_none] at found
    rw [eq_comm, find?_eq_none]
    intro write mem
    exact found write (permuted.mem_iff.mpr (mem_reverse.mp mem))
  | some latest =>
    obtain ⟨named, front, back, split, skipped⟩ := find?_eq_some_iff_append.mp found
    obtain rfl : key latest = name := of_decide_eq_true named
    rw [split] at ordered
    have newer := (pairwise_cons.mp (pairwise_append.mp ordered).2.1).1
    have listed : ∀ other, other ∈ writes ↔ other ∈ front ++ latest :: back := fun other => by
      rw [← split, permuted.mem_iff]
    symm
    apply find?_reverse_of_latest increasing ((listed latest).mpr (by simp))
    intro other mem same
    rcases mem_append.mp ((listed other).mp mem) with early | late
    · have other_key := skipped other early
      simp [same] at other_key
    · rcases mem_cons.mp late with rfl | late
      · exact Nat.le_refl _
      · have precedes := newer other late
        simp only [latestFirst, Bool.or_eq_true, Bool.and_eq_true, decide_eq_true_eq] at precedes
        rcases precedes with below | ⟨_, older⟩
        · exact absurd same (ne_of_gt below)
        · exact older

/-- **Sorting by key and taking the first of each gives the last writes.** -/
theorem firstOfEach_sorted : firstOfEach key value (writes.mergeSort (latestFirst key position)) =
      lastWrites key value writes := by
  funext name
  have ordered : (writes.mergeSort (latestFirst key position)).Pairwise _ :=
    sorted_latestFirst writes
  rw [firstOfEach, foldl_takeFirst _ _ _ _ ?_ nofun, lastWrites_apply, if_neg nofun,
    find?_sorted increasing, Option.or_none]
  refine ordered.imp fun {first second} precedes => ?_
  simp only [latestFirst, Bool.or_eq_true, Bool.and_eq_true, decide_eq_true_eq] at precedes
  rcases precedes with below | ⟨same, -⟩
  · exact below.le
  · exact same.le

end Foundation
