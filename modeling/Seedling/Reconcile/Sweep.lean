import Seedling.Instances.Lifecycle
import Seedling.Reconcile.Snapshot

/-!
# Sweeping unscheduled instances

The reconciler deletes the records of instances that have been gone for longer than the
retention period and are outside the desired state of their app.  An instance is a
candidate if any of the observations of its newest timestamp says that it is gone; the
instance registry goes by the last of them.

What it deletes is gone, exactly when among observations of one timestamp the last to be
recorded says so (`sweeps_only_gone_iff`).
-/

namespace Seedling.Reconcile

open Foundation Apps Instances Function

/-! ## The known desired state -/

/-- The instances of each app's desired state, for the apps where it is known. -/
abbrev KnownDesiredState := String → Option (List InstanceId)

namespace KnownDesiredState

def insertApp (known : KnownDesiredState) (app : String) (members : List InstanceId) :
    KnownDesiredState :=
  update known app (some members)

def sweepable (known : KnownDesiredState) (app : String) (id : InstanceId) : Bool :=
  (known app).any fun members => !members.contains id

theorem sweepable_iff {known : KnownDesiredState} {app : String} {id : InstanceId} :
    known.sweepable app id ↔ ∃ members, known app = some members ∧ id ∉ members := by
  rw [sweepable]
  cases known app with
  | none | some => simp

end KnownDesiredState

open List

variable (registry : List AppRecord)

def findApp (name : String) : Option AppRecord :=
  registry.find? (·.name = name)

def stillSteady (entry : AppRecord) : Bool :=
  entry.phase = .installed && entry.activeProgress.isNone

def notInstalled (entry : AppRecord) : Bool :=
  entry.phase = .notInstalled && entry.activeProgress.isNone

/-- The instances that a snapshot wants, whether to run or, of a stopped singleton, not. -/
def AppSnapshot.members (snapshot : AppSnapshot) : List InstanceId :=
  (snapshot.desired.filter (!·.demoted)).map (·.instance'.id)

/-- A snapshot is of use if it was steady when taken and its app still is. -/
def knowSteady (known : KnownDesiredState) (taken : AppSnapshot × Bool) : KnownDesiredState :=
  if taken.2 && (findApp registry taken.1.name).any stillSteady then
    known.insertApp taken.1.name taken.1.members
  else known

def knowNotInstalled (known : KnownDesiredState) (entry : AppRecord) : KnownDesiredState :=
  if (findApp registry entry.name).any notInstalled then known.insertApp entry.name [] else known

/-- The desired states known from the snapshots, each with whether it was steady, and
from the registry as it stands at the sweep. -/
def knownDesiredState (snapshots : List (AppSnapshot × Bool)) (registry : List AppRecord) :
    KnownDesiredState :=
  registry.foldl (knowNotInstalled registry) (snapshots.foldl (knowSteady registry) fun _ => none)

/-- The desired state of an app is known, and is `members`. -/
inductive Knows (snapshots : List (AppSnapshot × Bool)) (registry : List AppRecord)
    (app : String) : List InstanceId → Prop where
  | steady {snapshot : AppSnapshot} (taken : (snapshot, true) ∈ snapshots)
      (named : snapshot.name = app)
      (still : (findApp registry app).any stillSteady) :
      Knows snapshots registry app snapshot.members
  | notInstalled (gone : (findApp registry app).any notInstalled) :
      Knows snapshots registry app []

variable {app : String} {members : List InstanceId} {registry : List AppRecord}
  {known : KnownDesiredState}

theorem knowSteady_cases {taken : AppSnapshot × Bool}
    (found : knowSteady registry known taken app = some members) :
    known app = some members ∨
      taken.2 ∧ taken.1.name = app ∧ (findApp registry app).any stillSteady ∧
        members = taken.1.members := by
  rw [knowSteady] at found
  split at found
  case isFalse => exact .inl found
  case isTrue useful =>
    rw [KnownDesiredState.insertApp] at found
    by_cases same : app = taken.1.name
    · subst same
      rw [update_self, Option.some.injEq] at found
      rw [Bool.and_eq_true] at useful
      exact .inr ⟨useful.1, rfl, useful.2, found.symm⟩
    · rw [update_of_ne same] at found
      exact .inl found

theorem knowNotInstalled_cases {entry : AppRecord}
    (found : knowNotInstalled registry known entry app = some members) :
    known app = some members ∨
      (findApp registry app).any notInstalled ∧ members = [] := by
  rw [knowNotInstalled] at found
  split at found
  case isFalse => exact .inl found
  case isTrue gone =>
    rw [KnownDesiredState.insertApp] at found
    by_cases same : app = entry.name
    · subst same
      rw [update_self, Option.some.injEq] at found
      exact .inr ⟨gone, found.symm⟩
    · rw [update_of_ne same] at found
      exact .inl found

theorem known_foldl {Entry : Type} {step : KnownDesiredState → Entry → KnownDesiredState}
    {Tells : Entry → Prop} {entries : List Entry}
    (found : entries.foldl step known app = some members)
    (cases : ∀ known entry, step known entry app = some members → known app = some members ∨ Tells
      entry) :
    known app = some members ∨ ∃ entry ∈ entries, Tells entry := by
  induction entries generalizing known with
  | nil => exact .inl found
  | cons entry entries ih =>
    rcases ih found with here | ⟨later, mem, tells⟩
    · rcases cases _ _ here with before | tells
      · exact .inl before
      · exact .inr ⟨entry, mem_cons_self .., tells⟩
    · exact .inr ⟨later, mem_cons_of_mem _ mem, tells⟩

/-- **What is known.** The desired state of an app is known from a snapshot taken while
it was steady, if it still is, or because it is not installed. -/
theorem knownDesiredState_cases {snapshots : List (AppSnapshot × Bool)}
    (found : knownDesiredState snapshots registry app = some members) :
    Knows snapshots registry app members := by
  rcases known_foldl found fun _ _ => knowNotInstalled_cases with found | ⟨_, -, gone, rfl⟩
  · rcases known_foldl found fun _ _ => knowSteady_cases with
      nothing | ⟨⟨snapshot, steady⟩, taken, isSteady, named, still, rfl⟩
    · cases nothing
    · obtain rfl : steady := isSteady
      exact .steady taken named still
  · exact .notInstalled gone

/-! ## The sweep -/

/-- The tables that the sweep reads and deletes from; of a fault, the instance it names. -/
structure Records where
  instances : Table clash
  observations : Observations
  faults : List (Option InstanceId)

variable (observations : Observations)

/-- The observations of an instance's newest timestamp, in the order of insertion. -/
def newestAbout (id : InstanceId) : List WorldObservation :=
  newest WorldObservation.recordedAt (observations.about id)

/-- Some observation of the newest timestamp says that the instance is gone, and it is
older than the cutoff. -/
def isCandidate (cutoff : Int) (id : InstanceId) : Bool :=
  (newestAbout observations id).any fun observation =>
    observation.isTerminal && observation.recordedAt < cutoff

/-- Delete the observations of an instance, its faults and its row. -/
def Records.delete (records : Records) (id : InstanceId) : Records where
  instances := records.instances.keepOnly (·.id ≠ id)
  observations := records.observations.filter (·.resource ≠ id)
  faults := records.faults.filter (· ≠ some id)

def retired (known : KnownDesiredState) (cutoff : Int) (records : Records) : List InstanceId :=
  let candidates := records.instances.rows.filter (isCandidate records.observations cutoff ·.id)
  (candidates.filter fun row => known.sweepable row.app row.id).map (·.id)

/-- Delete the candidates outside the known desired state, and list their ids. -/
def gcUnscheduledInstances (now retain : Int) (known : KnownDesiredState) (records : Records) :
    List InstanceId × Records :=
  let ids := retired known (now - retain) records
  (ids, ids.foldl Records.delete records)

theorem mem_rows_delete {ids : List InstanceId} {records : Records} {row : ResourceInstance} :
    row ∈ (ids.foldl Records.delete records).instances.rows ↔
      row ∈ records.instances.rows ∧ row.id ∉ ids := by
  induction ids generalizing records with
  | nil => simp
  | cons id ids ih =>
    rw [foldl_cons, ih, Records.delete, Table.keepOnly, mem_filter,
      mem_cons, not_or, and_assoc, decide_eq_true_eq]

variable {snapshots : List (AppSnapshot × Bool)} {registry : List AppRecord}
  {now retain : Int} {known : KnownDesiredState} {records : Records} {row : ResourceInstance}

def Deletes (now retain : Int) (known : KnownDesiredState) (records : Records)
    (row : ResourceInstance) : Prop :=
  row ∈ records.instances.rows ∧
    row ∉ (gcUnscheduledInstances now retain known records).2.instances.rows

/-- The rows deleted are the candidates outside the known desired state.  Ids being
unique, no other row goes with them. -/
theorem deletes_iff : Deletes now retain known records row ↔ row ∈ records.instances.rows ∧
      isCandidate records.observations (now - retain) row.id ∧
        known.sweepable row.app row.id := by
  rw [Deletes, gcUnscheduledInstances, mem_rows_delete]
  constructor
  · rintro ⟨present, gone⟩
    have listed : row.id ∈ (filter (fun row => known.sweepable row.app row.id)
        (records.instances.rows.filter
          (isCandidate records.observations (now - retain) ·.id))).map (·.id) := by
      by_contra absent
      exact gone ⟨present, absent⟩
    obtain ⟨other, chosen, same⟩ := mem_map.mp listed
    obtain ⟨candidate, outside⟩ := mem_filter.mp chosen
    obtain ⟨here, old⟩ := mem_filter.mp candidate
    obtain rfl : other = row :=
      Table.eq_of_clash clash_symmetric here present (clash_iff.mpr (.inl same))
    exact ⟨present, old, outside⟩
  · rintro ⟨present, old, outside⟩
    refine ⟨present, fun kept => kept.2 ?_⟩
    exact mem_map_of_mem (mem_filter.mpr ⟨mem_filter.mpr ⟨present, old⟩, outside⟩)

/-! ## What is deleted is gone -/

theorem latestIsTerminal_query (id : InstanceId) :
    latestIsTerminal (observations.queryObservations id) =
      (newestAbout observations id).getLast?.any WorldObservation.isTerminal := by
  rw [latestIsTerminal, Observations.queryObservations, getLast?_sortBy, newestAbout]

/-- Every instance that is deleted has a last observation that says it is gone, belongs
to an app whose desired state is known and does not hold it, and counts as torn down with
the instance registry. -/
def SweepsOnlyGone (now retain : Int) (snapshots : List (AppSnapshot × Bool))
    (registry : List AppRecord) (records : Records) : Prop :=
  ∀ row, Deletes now retain (knownDesiredState snapshots registry) records row →
    latestIsTerminal (records.observations.queryObservations row.id) ∧
      (∃ members, Knows snapshots registry row.app members ∧ row.id ∉ members) ∧
        records.observations.world.tornDown row

/-- Of an instance outside the known desired state, when a newest observation that is old
enough says it is gone, the last one recorded under the same timestamp says so too. -/
def TiesEndGone (now retain : Int) (snapshots : List (AppSnapshot × Bool))
    (registry : List AppRecord) (records : Records) : Prop :=
  ∀ row ∈ records.instances.rows,
    (knownDesiredState snapshots registry).sweepable row.app row.id →
      ∀ before last, newestAbout records.observations row.id = before ++ [last] →
        last.recordedAt < now - retain → before.any WorldObservation.isTerminal →
          last.isTerminal

theorem recordedAt_eq_of_newest {observations : Observations} {id : InstanceId}
    {first second : WorldObservation} (one : first ∈ newestAbout observations id)
    (two : second ∈ newestAbout observations id) : first.recordedAt = second.recordedAt := by
  obtain ⟨firstListed, firstNewest⟩ := mem_filter.mp one
  obtain ⟨secondListed, secondNewest⟩ := mem_filter.mp two
  exact Int.le_antisymm (isNewest_iff.mp secondNewest first firstListed)
    (isNewest_iff.mp firstNewest second secondListed)

/-- **The sweep deletes only what is gone**, if and only if no tie of timestamps hides
what came after. -/
theorem sweeps_only_gone_iff (now retain : Int) (snapshots : List (AppSnapshot × Bool))
    (registry : List AppRecord) (records : Records) :
    SweepsOnlyGone now retain snapshots registry records ↔
      TiesEndGone now retain snapshots registry records := by
  constructor
  · intro onlyGone row present outside before last split old earlier
    obtain ⟨gone, mem, terminal⟩ := any_eq_true.mp earlier
    have listed : gone ∈ newestAbout records.observations row.id := split ▸ mem_append_left _ mem
    have lastListed : last ∈ newestAbout records.observations row.id :=
      split ▸ mem_append_right _ (mem_singleton_self _)
    have candidate : isCandidate records.observations (now - retain) row.id := by
      refine any_eq_true.mpr ⟨gone, listed, ?_⟩
      rw [terminal, recordedAt_eq_of_newest listed lastListed]
      exact decide_eq_true old
    have latest := (onlyGone row (deletes_iff.mpr ⟨present, candidate, outside⟩)).1
    rw [latestIsTerminal_query, split, getLast?_concat] at latest
    exact latest
  · intro ties row deleted
    obtain ⟨present, candidate, outside⟩ := deletes_iff.mp deleted
    obtain ⟨gone, listed, terminal⟩ := any_eq_true.mp candidate
    rw [Bool.and_eq_true, decide_eq_true_eq] at terminal
    have latest : latestIsTerminal (records.observations.queryObservations row.id) := by
      rw [latestIsTerminal_query]
      rcases eq_nil_or_concat (newestAbout records.observations row.id) with
        empty | ⟨before, last, split⟩
      · rw [empty] at listed
        cases listed
      · rw [concat_eq_append] at split
        have lastListed : last ∈ newestAbout records.observations row.id :=
          split ▸ mem_append_right _ (mem_singleton_self _)
        have old : last.recordedAt < now - retain :=
          recordedAt_eq_of_newest listed lastListed ▸ terminal.2
        rw [split, getLast?_concat]
        have placed : gone ∈ before ++ [last] := split ▸ listed
        rcases mem_append.mp placed with earlier | here
        · exact ties row present outside before last split old
            (any_eq_true.mpr ⟨gone, earlier, terminal.1⟩)
        · rw [← mem_singleton.mp here]
          exact terminal.1
    refine ⟨latest, ?_, ?_⟩
    · obtain ⟨members, found, absent⟩ := KnownDesiredState.sweepable_iff.mp outside
      exact ⟨members, knownDesiredState_cases found, absent⟩
    · change (_ || _)
      rw [latest, Bool.or_true]

def removedRow : ResourceInstance := .newScaled 7#128 "web" .deployment "front"

def removedApp : AppRecord where
  name := "web"
  phase := .notInstalled
  appDef := ⟨[], List.nodup_nil⟩
  activeProgress := none
  effectiveScales := fun _ => none
  stopped := fun _ => false

/-- A tick found the container removed and its unit failed, and recorded both in one
millisecond. -/
def tiedRecords : Records where
  instances := Table.empty.insertOrIgnore removedRow
  observations := [⟨0, 7#128, .containerRemoved⟩, ⟨0, 7#128, .unitFailed⟩]
  faults := []

/-- The registry counts that instance as live, its last observation being of the unit,
and the sweep deletes it. -/
theorem tied_sweep_not_only_gone : ¬ SweepsOnlyGone 1000000 600000 [] [removedApp] tiedRecords := by
  intro onlyGone
  have deleted : Deletes 1000000 600000 (knownDesiredState [] [removedApp]) tiedRecords
      removedRow := by
    rw [deletes_iff]
    exact ⟨by decide, by decide, by decide⟩
  have latest := (onlyGone removedRow deleted).1
  rw [latestIsTerminal_query] at latest
  revert latest
  decide

end Seedling.Reconcile
