import Seedling.Foundation.Table

/-!
# The fault table

A fault is a row that is active until it is cleared.  A partial unique index lets one
active fault hold a key, so that filing a fault whose key is held files nothing.
`syncFaults` clears what is no longer so in its scope and files what is
(`syncFaults_converges`).
-/

namespace Seedling.Runtime

open Foundation List

/-- A fault's identity: the thing that is faulty, and in what way. -/
structure FaultKey where
  app : String
  kind : String
  subject : String
deriving DecidableEq

structure FaultMeta where
  resourceType : Option String
  resourceName : Option String
  instanceId : Option String
deriving DecidableEq

structure FaultRow where
  id : Nat
  key : FaultKey
  metadata : FaultMeta
  timestamp : Nat
  description : String
  clearedAt : Option Nat
deriving DecidableEq

/-- Two rows have the same id, or are active and have the same key. -/
def FaultRow.clash (first second : FaultRow) : Bool :=
  first.id = second.id ||
    (first.clearedAt.isNone && second.clearedAt.isNone && first.key = second.key)

theorem FaultRow.clash_comm (first second : FaultRow) : first.clash second = second.clash first := by
  simp [FaultRow.clash, eq_comm, Bool.and_comm]

abbrev FaultTable := Table FaultRow.clash

abbrev Current := List (FaultKey × FaultMeta × String)

/-- Which active faults a synchronisation owns. -/
inductive FaultScope where
  | kind (kind : String)
  | appKind (app kind : String)

def FaultScope.owns : FaultScope → FaultKey → Bool
  | .kind owned, key => key.kind = owned
  | .appKind app owned, key => key.app = app && key.kind = owned

namespace FaultTable

def newId (faults : FaultTable) : Nat := faults.rows.foldr (fun row id => max (row.id + 1) id) 0

/-- Insert the fault, unless an active one holds its key.  The clock is read for each fault
that is filed or cleared. -/
def fileKeyed (clock : FaultKey → Nat) (faults : FaultTable)
    (given : FaultKey × FaultMeta × String) : FaultTable :=
  faults.insertOrIgnore ⟨faults.newId, given.1, given.2.1, clock given.1, given.2.2, none⟩

def clearFault (clock : FaultKey → Nat) (faults : FaultTable) (id : Nat) : FaultTable :=
  faults.alter
    (fun row =>
      if row.id = id ∧ row.clearedAt = none then { row with clearedAt := clock row.key } else row)
    fun first second apart => by
      simp only [FaultRow.clash] at apart ⊢
      split <;> split <;> simp_all

variable (scope : FaultScope) (current : Current) (clock : FaultKey → Nat) (faults : FaultTable)

def activeIn : List FaultRow :=
  faults.rows.filter fun row => row.clearedAt.isNone && scope.owns row.key

def stale : List FaultRow := (faults.activeIn scope).filter (·.key ∉ current.map Prod.fst)

/-- Converge the active faults of the scope to the given ones. -/
def syncFaults : FaultTable :=
  current.foldl (fileKeyed clock)
    (((faults.stale scope current).map (·.id)).foldl (clearFault clock) faults)

def Holds (key : FaultKey) : Prop := ∃ row ∈ faults.rows, row.clearedAt = none ∧ row.key = key

variable {scope current clock faults} {row : FaultRow}

theorem mem_activeIn : row ∈ faults.activeIn scope ↔
    row ∈ faults.rows ∧ row.clearedAt = none ∧ scope.owns row.key := by
  simp [activeIn]

theorem mem_stale : row ∈ faults.stale scope current ↔
    row ∈ faults.activeIn scope ∧ row.key ∉ current.map Prod.fst := by
  simp [stale]

theorem lt_newId (mem : row ∈ faults.rows) : row.id < faults.newId := by
  unfold newId
  generalize faults.rows = rows at mem
  induction rows with
  | nil => cases mem
  | cons first rest ih =>
    rw [foldr_cons]
    rcases mem_cons.mp mem with rfl | later
    · omega
    · have := ih later
      omega

theorem mem_fileKeyed {given : FaultKey × FaultMeta × String} :
    row ∈ (faults.fileKeyed clock given).rows ↔ row ∈ faults.rows ∨
      ¬ faults.Holds given.1 ∧
        row = ⟨faults.newId, given.1, given.2.1, clock given.1, given.2.2, none⟩ := by
  rw [fileKeyed, Table.mem_insertOrIgnore]
  refine or_congr_right (and_congr_left fun _ => ?_)
  simp only [Table.Admits, Holds, FaultRow.clash, not_exists, not_and]
  refine forall₂_congr fun old mem => ?_
  simp [Nat.ne_of_lt (lt_newId mem)]

theorem rows_cleared (ids : List Nat) : (ids.foldl (clearFault clock) faults).rows =
    faults.rows.map fun row =>
      if row.id ∈ ids ∧ row.clearedAt = none then { row with clearedAt := clock row.key }
      else row := by
  induction ids generalizing faults with
  | nil => simp
  | cons id ids ih =>
    rw [foldl_cons, ih, clearFault, Table.alter, map_map]
    refine map_congr_left fun row _ => ?_
    by_cases same : row.id = id <;> by_cases active : row.clearedAt = none <;> simp [same, active]

theorem mem_filed : (∀ row ∈ faults.rows, row ∈ (current.foldl (fileKeyed clock) faults).rows) ∧
    (∀ row ∈ (current.foldl (fileKeyed clock) faults).rows, row ∈ faults.rows ∨
      row.clearedAt = none ∧ row.key ∈ current.map Prod.fst) ∧
    ∀ key ∈ current.map Prod.fst, (current.foldl (fileKeyed clock) faults).Holds key := by
  induction current generalizing faults with
  | nil => simp
  | cons given rest ih =>
    obtain ⟨kept, origin, held⟩ := @ih (faults.fileKeyed clock given)
    refine ⟨fun row mem => kept row (mem_fileKeyed.mpr (.inl mem)), fun row mem => ?_, ?_⟩
    · rcases origin row mem with early | ⟨active, later⟩
      · rcases mem_fileKeyed.mp early with old | ⟨-, rfl⟩
        · exact .inl old
        · exact .inr ⟨rfl, mem_cons_self⟩
      · exact .inr ⟨active, mem_cons_of_mem _ later⟩
    · intro key listed
      rcases mem_cons.mp listed with rfl | later
      · by_cases already : faults.Holds given.1
        · obtain ⟨row, mem, active⟩ := already
          exact ⟨row, kept row (mem_fileKeyed.mpr (.inl mem)), active⟩
        · exact ⟨_, kept _ (mem_fileKeyed.mpr (.inr ⟨already, rfl⟩)), rfl, rfl⟩
      · exact held key later

theorem filed_of_held (held : ∀ key ∈ current.map Prod.fst, faults.Holds key) :
    current.foldl (fileKeyed clock) faults = faults := by
  induction current with
  | nil => rfl
  | cons given rest ih =>
    obtain ⟨row, mem, active, same⟩ := held given.1 mem_cons_self
    have refused : faults.fileKeyed clock given = faults := by
      refine Table.insertOrIgnore_of_not_admits fun admits => ?_
      simpa [FaultRow.clash, active, same] using admits row mem
    rw [foldl_cons, refused]
    exact ih fun key later => held key (mem_cons_of_mem _ later)

theorem rows_staleCleared :
    (((faults.stale scope current).map (·.id)).foldl (clearFault clock) faults).rows =
      faults.rows.map fun row =>
        if row ∈ faults.stale scope current then { row with clearedAt := clock row.key }
        else row := by
  rw [rows_cleared]
  refine map_congr_left fun row mem => if_congr ⟨?_, fun stale => ?_⟩ rfl rfl
  · rintro ⟨listed, -⟩
    obtain ⟨old, stale, same⟩ := mem_map.mp listed
    have present := (mem_activeIn.mp (mem_stale.mp stale).1).1
    rwa [← Table.eq_of_clash FaultRow.clash_comm present mem (by simp [FaultRow.clash, same])]
  · exact ⟨mem_map_of_mem stale, (mem_activeIn.mp (mem_stale.mp stale).1).2.1⟩

theorem nodup_activeIn (scope : FaultScope) (faults : FaultTable) :
    ((faults.activeIn scope).map FaultRow.key).Nodup := by
  refine pairwise_map.mpr ((faults.distinct.filter _).imp_of_mem ?_)
  intro first second one two apart same
  simp only [mem_filter, Bool.and_eq_true] at one two
  simp [FaultRow.clash, one.2.1, two.2.1, same] at apart

theorem stale_syncFaults : (faults.syncFaults scope current clock).stale scope current = [] := by
  refine eq_nil_iff_forall_not_mem.mpr fun row stale => ?_
  obtain ⟨listed, unwanted⟩ := mem_stale.mp stale
  obtain ⟨mem, active, owned⟩ := mem_activeIn.mp listed
  rcases mem_filed.2.1 row mem with early | ⟨-, given⟩
  · obtain ⟨old, present, rfl⟩ := mem_map.mp (rows_staleCleared ▸ early)
    split at active
    · cases active
    · rename_i fresh
      rw [if_neg fresh] at owned unwanted
      exact fresh (mem_stale.mpr ⟨mem_activeIn.mpr ⟨present, active, owned⟩, unwanted⟩)
  · exact unwanted given

/-- **Synchronising converges.**  With given faults of the scope, the active faults of the
scope are the given ones, one for each key; those that were active are the rows they were;
the others of the scope are cleared, no row outside the scope comes, goes or changes, and a
second run changes nothing. -/
theorem syncFaults_converges (scope : FaultScope) (current : Current) (clock : FaultKey → Nat)
    (faults : FaultTable) (inScope : ∀ key ∈ current.map Prod.fst, scope.owns key) :
    let after := faults.syncFaults scope current clock
    (∀ key, key ∈ (after.activeIn scope).map FaultRow.key ↔ key ∈ current.map Prod.fst) ∧
      ((after.activeIn scope).map FaultRow.key).Nodup ∧
      (∀ row ∈ faults.activeIn scope, if row.key ∈ current.map Prod.fst then
        row ∈ after.activeIn scope
        else { row with clearedAt := some (clock row.key) } ∈ after.rows) ∧
      (∀ row, scope.owns row.key = false → (row ∈ after.rows ↔ row ∈ faults.rows)) ∧
      ∀ later, after.syncFaults scope current later = after := by
  intro after
  obtain ⟨kept, origin, held⟩ : _ ∧ (∀ row ∈ after.rows, _) ∧ ∀ key ∈ _, after.Holds key := mem_filed
  rw [rows_staleCleared] at kept origin
  have spared : ∀ row ∈ faults.rows, row ∉ faults.stale scope current → row ∈ after.rows :=
    fun row mem fresh => kept row (mem_map.mpr ⟨row, mem, if_neg fresh⟩)
  refine ⟨fun key => ⟨fun listed => ?_, fun given => ?_⟩, nodup_activeIn scope after, ?_, ?_, ?_⟩
  · obtain ⟨row, active, rfl⟩ := mem_map.mp listed
    by_contra unwanted
    exact not_mem_nil (stale_syncFaults ▸ mem_stale.mpr ⟨active, unwanted⟩)
  · obtain ⟨row, mem, active, rfl⟩ := held key given
    exact mem_map_of_mem (mem_activeIn.mpr ⟨mem, active, inScope _ given⟩)
  · intro row listed
    obtain ⟨mem, active⟩ := mem_activeIn.mp listed
    split
    · rename_i given
      exact mem_activeIn.mpr ⟨spared row mem fun stale => (mem_stale.mp stale).2 given, active⟩
    · rename_i unwanted
      exact kept _ (mem_map.mpr ⟨row, mem, if_pos (mem_stale.mpr ⟨listed, unwanted⟩)⟩)
  · intro row outside
    have owned : ∀ old ∈ faults.stale scope current, old.key ≠ row.key := by
      intro old stale same
      have inside := (mem_activeIn.mp (mem_stale.mp stale).1).2.2
      rw [same, outside] at inside
      cases inside
    refine ⟨fun mem => ?_, fun mem => spared row mem fun stale => owned row stale rfl⟩
    rcases origin row mem with early | ⟨-, given⟩
    · obtain ⟨old, present, rfl⟩ := mem_map.mp early
      split
      · rename_i stale
        rw [if_pos stale] at owned
        exact absurd rfl (owned old stale)
      · exact present
    · cases outside.symm.trans (inScope _ given)
  · intro later
    rw [syncFaults, stale_syncFaults]
    exact filed_of_held held

/-- A fault that is given outside the scope is filed there. -/
theorem foreign_fault_filed :
    let after := syncFaults (.kind "volume") [(⟨"web", "image", ""⟩, ⟨none, none, none⟩, "")]
      (fun _ => 1) .empty
    after.activeIn (.kind "volume") = [] ∧ after.rows.map (·.key.kind) = ["image"] := by decide

def volumeFault (id : Nat) (subject : String) : FaultRow :=
  ⟨id, ⟨"web", "volume", subject⟩, ⟨none, none, none⟩, 1, "full", none⟩

def imageFault : FaultRow := ⟨2, ⟨"web", "image", "site"⟩, ⟨none, none, none⟩, 1, "missing", none⟩

def activeFaults : FaultTable where
  rows := [volumeFault 0 "data", volumeFault 1 "logs", imageFault]
  distinct := by decide

/-- One fault is kept as it was filed, one is cleared, one is filed, and the one outside the
scope stays. -/
theorem activeFaults_converge :
    let current : Current := ["data", "cache"].map fun subject =>
      (⟨"web", "volume", subject⟩, ⟨none, none, none⟩, "still full")
    let after := activeFaults.syncFaults (.kind "volume") current fun _ => 9
    (∀ key, key ∈ (after.activeIn (.kind "volume")).map FaultRow.key ↔
        key = ⟨"web", "volume", "data"⟩ ∨ key = ⟨"web", "volume", "cache"⟩) ∧
      volumeFault 0 "data" ∈ after.activeIn (.kind "volume") ∧
      { volumeFault 1 "logs" with clearedAt := some 9 } ∈ after.rows ∧ imageFault ∈ after.rows ∧
      after.syncFaults (.kind "volume") current (fun _ => 10) = after := by
  intro current after
  obtain ⟨active, -, owned, outside, again⟩ :=
    syncFaults_converges (.kind "volume") current (fun _ => 9) activeFaults (by decide)
  exact ⟨fun key => (active key).trans (by simp [current]), owned (volumeFault 0 "data") (by decide),
    owned (volumeFault 1 "logs") (by decide), (outside imageFault rfl).mpr (by decide), again _⟩

theorem mem_syncFaults (mem : row ∈ faults.rows) :
    let after := faults.syncFaults scope current clock
    row ∈ after.rows ∨
      row.clearedAt = none ∧ { row with clearedAt := some (clock row.key) } ∈ after.rows := by
  intro after
  have kept : (if row ∈ faults.stale scope current then { row with clearedAt := clock row.key }
      else row) ∈ after.rows := mem_filed.1 _ (rows_staleCleared ▸ mem_map_of_mem mem)
  split at kept
  · rename_i old
    exact .inr ⟨(mem_activeIn.mp (mem_stale.mp old).1).2.1, kept⟩
  · exact .inl kept

/-- **No record of a fault is lost or rewritten.**  Over any synchronisations of any scopes it
stays as it is, but for an active one being cleared, once, by one of them; and no key is
active twice. -/
theorem fault_records_stay (syncs : List (FaultScope × Current × (FaultKey → Nat)))
    (faults : FaultTable) :
    let after := syncs.foldl (fun faults sync => faults.syncFaults sync.1 sync.2.1 sync.2.2) faults
    (∀ row ∈ faults.rows, row ∈ after.rows ∨ row.clearedAt = none ∧
      ∃ sync ∈ syncs, { row with clearedAt := some (sync.2.2 row.key) } ∈ after.rows) ∧
      ∀ scope, ((after.activeIn scope).map FaultRow.key).Nodup := by
  refine ⟨?_, (nodup_activeIn · _)⟩
  induction syncs generalizing faults with
  | nil => exact fun row mem => .inl mem
  | cons sync syncs ih =>
    intro row mem
    rcases mem_syncFaults mem with kept | ⟨active, cleared⟩
    · rcases ih _ row kept with stays | ⟨active, later, listed, cleared⟩
      · exact .inl stays
      · exact .inr ⟨active, later, mem_cons_of_mem _ listed, cleared⟩
    · -- what is cleared is not cleared again
      rcases ih _ _ cleared with stays | ⟨⟨⟩, -⟩
      exact .inr ⟨active, sync, mem_cons_self, stays⟩

end FaultTable

end Seedling.Runtime
