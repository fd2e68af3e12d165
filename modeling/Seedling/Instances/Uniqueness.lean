import Seedling.Instances.Registry

/-!
# Every named instance has an identity of its own

Whatever the registry is asked for, the singletons it answers with are rows of
its table: the same app, kind and name always give the same instance, and
different ones give different ids.  But a call can fail.  Every job is inserted
under the nil id, so the table has room for one job of one app: calls succeed
exactly as long as all jobs asked for are the same one
(`calls_answered_iff_one_job`).
-/

namespace Seedling.Instances

open Foundation ResourceInstance List

/-! ## What a call does to the table -/

section Insertions

variable (tape : Nat → InstanceId)

def Registry.insertSingleton (app : String) (kind : ResourceKind) (name : String)
    (registry : Registry) : Registry where
  table := registry.table.insertOrIgnore (newSingleton (tape registry.drawn) app kind name)
  drawn := if kind = .job then registry.drawn else registry.drawn + 1

def Registry.insertScaled (app : String) (kind : ResourceKind) (name : String)
    (registry : Registry) : Registry where
  table := registry.table.insertOrIgnore (newScaled (tape registry.drawn) app kind name)
  drawn := registry.drawn + 1

/-- One insertion: a singleton, which is one of the asked jobs if it is a job, or
a scaled instance. -/
inductive Insertion (asked : List (String × String)) (registry : Registry) : Registry → Prop
  | singleton (app : String) (kind : ResourceKind) (name : String)
      (known : kind = .job → (app, name) ∈ asked) :
      Insertion asked registry (registry.insertSingleton tape app kind name)
  | scaled (app : String) (kind : ResourceKind) (name : String) :
      Insertion asked registry (registry.insertScaled tape app kind name)

abbrev Insertions (asked : List (String × String)) : Registry → Registry → Prop :=
  Relation.ReflTransGen (Insertion tape asked)

theorem getOrCreateSingleton_cases (app : String) (kind : ResourceKind) (name : String)
    (registry : Registry) :
    (∃ row ∈ (registry.insertSingleton tape app kind name).table.rows,
        isSingletonOf app kind (some name) row ∧
          getOrCreateSingleton tape app kind (some name) registry =
            (.ok row, registry.insertSingleton tape app kind name)) ∨
      ¬ registry.table.Admits (newSingleton (tape registry.drawn) app kind name) ∧
        (∀ row ∈ registry.table.rows, isSingletonOf app kind (some name) row = false) ∧
        getOrCreateSingleton tape app kind (some name) registry =
          (.error .queryReturnedNoRows, registry.insertSingleton tape app kind name) := by
  cases found : (registry.insertSingleton tape app kind name).table.rows.find?
      (isSingletonOf app kind (some name)) with
  | some row =>
    have same := find?_some found
    refine .inl ⟨row, mem_of_find?_eq_some found, same, ?_⟩
    obtain ⟨⟨⟨rfl, rfl⟩, named⟩, single⟩ : ((row.app = app ∧ row.kind = kind) ∧
        row.name = some name) ∧ row.variant = .singleton := by simpa [isSingletonOf] using same
    simp only [Registry.insertSingleton] at found ⊢
    simp only [getOrCreateSingleton, candidate, found]
    rw [← named, ← single]
  | none =>
    have missing := find?_eq_none.mp found
    have refused : ¬ registry.table.Admits (newSingleton (tape registry.drawn) app kind name) :=
      fun admitted => missing _ (Table.mem_insertOrIgnore.mpr (.inr ⟨admitted, rfl⟩))
        (by simp [isSingletonOf, newSingleton])
    refine .inr ⟨refused, fun row present => ?_, ?_⟩
    · exact Bool.of_not_eq_true (missing row (Table.mem_insertOrIgnore.mpr (.inl present)))
    · simp only [Registry.insertSingleton] at found ⊢
      simp only [getOrCreateSingleton, candidate, found]
      rw [Table.insertOrIgnore_of_not_admits refused]

theorem getOrCreateSingleton_registry (app : String) (kind : ResourceKind) (name : String)
    (registry : Registry) :
    (getOrCreateSingleton tape app kind (some name) registry).2 =
      registry.insertSingleton tape app kind name := by
  rcases getOrCreateSingleton_cases tape app kind name registry with
    ⟨_, _, _, answered⟩ | ⟨_, _, failed⟩
  · rw [answered]
  · rw [failed]

variable (asked : List (String × String))

theorem mint_insertions (app : String) (kind : ResourceKind) (name : String) (count : Nat)
    (registry : Registry) :
    Insertions tape asked registry (mint tape app kind name count registry).2 := by
  induction count generalizing registry with
  | zero => exact .refl
  | succ count ih =>
    exact .head (.scaled app kind name) (ih _)

theorem ensureScaledGroup_insertions (world : World) (app : String) (kind : ResourceKind)
    (name : String) (count : Nat) (reuse : InstanceReuse) (registry : Registry) :
    Insertions tape asked registry
      (ensureScaledGroup tape world app kind (some name) count reuse registry).2 :=
  mint_insertions tape asked app kind name _ registry

def jobsOf (app : String) (resources : List (ResourceKind × String)) : List (String × String) :=
  (resources.filter (·.1 = .job)).map fun resource => (app, resource.2)

theorem mem_jobsOf {app other name : String} {resources : List (ResourceKind × String)} :
    (other, name) ∈ jobsOf app resources ↔ other = app ∧ (.job, name) ∈ resources := by
  simp [jobsOf, eq_comm, and_comm]

theorem jobsOf_cons {app : String} {resource : ResourceKind × String}
    {rest : List (ResourceKind × String)} {job : String × String} (listed : job ∈ jobsOf app rest) :
    job ∈ jobsOf app (resource :: rest) := by
  obtain ⟨declared, kept, rfl⟩ := mem_map.mp listed
  obtain ⟨mem, isJob⟩ := mem_filter.mp kept
  exact mem_map_of_mem (mem_filter.mpr ⟨mem_cons_of_mem _ mem, isJob⟩)

variable (world : World)

variable (app : String) (declared : AppResources) (resource : ResourceKind × String)
include app declared resource

/-- A resource of an app asks for a scaled group, which a job never is, or for its
singleton. -/
theorem steadyResource_cases (registry : Registry) :
    (resource.1 ≠ .job ∧ ∃ desired count, steadyResource tape world app declared resource registry =
        (.ok desired,
          (ensureScaledGroup tape world app resource.1 (some resource.2) count .any registry).2)) ∨
      ∃ state, steadyResource tape world app declared resource registry =
        ((getOrCreateSingleton tape app resource.1 (some resource.2) registry).1.map
            fun instance' => [⟨instance', state, false⟩],
          registry.insertSingleton tape app resource.1 resource.2) := by
  unfold steadyResource
  split
  · rename_i effective scaled
    refine .inl ⟨fun job => ?_, _, if declared.stopped resource then 0 else effective, rfl⟩
    simp [job] at scaled
  · refine .inr ⟨if declared.stopped resource then .unscheduled else .ready, ?_⟩
    rw [← getOrCreateSingleton_registry]
    split
    · rename_i failed
      rw [failed]
      rfl
    · rename_i answered
      rw [answered]
      rfl

variable {asked : List (String × String)}

theorem steadyResource_insertions (registry : Registry)
    (known : resource.1 = .job → (app, resource.2) ∈ asked) :
    Insertions tape asked registry
      (steadyResource tape world app declared resource registry).2 := by
  rcases steadyResource_cases tape world app declared resource registry with
    ⟨_, desired, count, grouped⟩ | ⟨state, single⟩
  · rw [grouped]
    exact ensureScaledGroup_insertions tape asked world app _ _ count .any registry
  · rw [single]
    exact .single (.singleton app resource.1 resource.2 known)

theorem steadyResources_cons (rest : List (ResourceKind × String)) (registry : Registry) :
    let first := steadyResource tape world app declared resource registry
    let later := steadyResources tape world app declared rest first.2
    let whole := steadyResources tape world app declared (resource :: rest) registry
    (first.1.isOk = false ∧ whole.1.isOk = false ∧ whole.2 = first.2) ∨
      (first.1.isOk ∧ whole.1.isOk = later.1.isOk ∧ whole.2 = later.2) := by
  rw [steadyResources]
  split
  · rename_i failed
    rw [failed]
    exact .inl ⟨rfl, rfl, rfl⟩
  · rename_i answered
    rw [answered]
    refine .inr ⟨rfl, ?_⟩
    split
    · rename_i failed
      rw [failed]
      exact ⟨rfl, rfl⟩
    · rename_i finished
      rw [finished]
      exact ⟨rfl, rfl⟩

omit resource

theorem steadyResources_insertions (resources : List (ResourceKind × String)) (registry : Registry)
    (known : ∀ job ∈ jobsOf app resources, job ∈ asked) :
    Insertions tape asked registry
      (steadyResources tape world app declared resources registry).2 := by
  induction resources generalizing registry with
  | nil => exact .refl
  | cons resource rest ih =>
    have first := steadyResource_insertions tape world app declared resource registry
      fun job => known _ (mem_jobsOf.mpr ⟨rfl, job ▸ mem_cons_self⟩)
    rcases steadyResources_cons tape world app declared resource rest registry with
      ⟨_, _, stopped⟩ | ⟨_, _, went⟩
    · rwa [stopped]
    · rw [went]
      exact first.trans (ih _ fun job listed => known job (jobsOf_cons listed))

omit declared

variable (registry : Registry)

theorem step_singleton (kind : ResourceKind) (name : String) :
    (registryMachine tape).step registry (.singleton app kind name) =
      ((getOrCreateSingleton tape app kind (some name) registry).1.map ([·]),
        registry.insertSingleton tape app kind name) :=
  Prod.ext rfl (getOrCreateSingleton_registry ..)

omit app

theorem step_steady (world : World) (app : String) (declared : AppResources) :
    (registryMachine tape).step registry (.steady world app declared) =
      ((steadyResources tape world app declared declared.resources registry).1.map
          (·.map DesiredResource.instance'),
        (steadyResources tape world app declared declared.resources registry).2) := rfl

def RegistryCall.jobs : RegistryCall → List (String × String)
  | .singleton app kind name => jobsOf app [(kind, name)]
  | .scaledGroup .. => []
  | .steady _ app declared => jobsOf app declared.resources

/-- **A call makes insertions, and the jobs among them are those it asks for.** -/
theorem step_insertions (call : RegistryCall) :
    Insertions tape call.jobs registry ((registryMachine tape).next registry call) := by
  cases call with
  | singleton app kind name =>
    rw [Machine.next, step_singleton]
    refine .single (.singleton app kind name ?_)
    rintro rfl
    exact mem_jobsOf.mpr ⟨rfl, mem_cons_self⟩
  | scaledGroup world app kind name count reuse =>
    exact ensureScaledGroup_insertions tape _ world app kind name count reuse registry
  | steady world app declared =>
    exact steadyResources_insertions tape world app declared declared.resources registry
      fun _ listed => listed

end Insertions

/-! ## What the table holds -/

section Sound

variable (tape : Nat → InstanceId)

/-- The ids drawn so far are distinct, and none is nil. -/
structure Random (drawn : Nat) : Prop where
  not_nil : ∀ i < drawn, tape i ≠ InstanceId.nil
  distinct : ∀ i < drawn, ∀ j < i, tape i ≠ tape j

/-- The singletons of jobs have the nil id, and every other id has been drawn. -/
structure Sound (registry : Registry) : Prop where
  drawn : ∀ row ∈ registry.table.rows, row.id = InstanceId.nil ∨
    ∃ i < registry.drawn, row.id = tape i
  nil_iff : ∀ row ∈ registry.table.rows,
    row.id = InstanceId.nil ↔ row.kind = .job ∧ row.variant = .singleton

theorem sound_init : Sound tape .init where
  drawn _ present := absurd present not_mem_nil
  nil_iff _ present := absurd present not_mem_nil

variable {tape} {asked : List (String × String)} {registry after : Registry}

theorem Random.mono {drawn more : Nat} (random : Random tape more) (fewer : drawn ≤ more) :
    Random tape drawn where
  not_nil i below := random.not_nil i (Nat.lt_of_lt_of_le below fewer)
  distinct i below := random.distinct i (Nat.lt_of_lt_of_le below fewer)

variable {row : ResourceInstance}

theorem Insertion.rows_mono (inserted : Insertion tape asked registry after)
    (present : row ∈ registry.table.rows) : row ∈ after.table.rows := by
  cases inserted <;> exact Table.mem_insertOrIgnore.mpr (.inl present)

theorem Insertion.drawn_mono (inserted : Insertion tape asked registry after) :
    registry.drawn ≤ after.drawn := by
  cases inserted with
  | singleton =>
    unfold Registry.insertSingleton
    split
    · exact Nat.le_refl _
    · exact Nat.le_succ _
  | scaled => exact Nat.le_succ _

/-- An insertion adds a job's singleton under the nil id, or anything else under
the id that is next on the tape. -/
theorem Insertion.added (inserted : Insertion tape asked registry after)
    (present : row ∈ after.table.rows) :
    row ∈ registry.table.rows ∨
      (∃ app name, (app, name) ∈ asked ∧ row = newSingleton (tape registry.drawn) app .job name) ∨
      (row.id = tape registry.drawn ∧ after.drawn = registry.drawn + 1 ∧
        ¬ (row.kind = .job ∧ row.variant = .singleton)) := by
  cases inserted with
  | singleton app kind name known =>
    rcases Table.mem_insertOrIgnore.mp present with old | ⟨_, rfl⟩
    · exact .inl old
    · by_cases job : kind = .job
      · subst job
        exact .inr (.inl ⟨app, name, known rfl, rfl⟩)
      · refine .inr (.inr ⟨?_, if_neg job, fun both => job both.1⟩)
        cases kind <;> first | rfl | exact absurd rfl job
  | scaled =>
    rcases Table.mem_insertOrIgnore.mp present with old | ⟨_, rfl⟩
    · exact .inl old
    · exact .inr (.inr ⟨rfl, rfl, fun both => by cases both.2⟩)

theorem Insertion.sound (inserted : Insertion tape asked registry after)
    (sound : Sound tape registry) (random : Random tape after.drawn) : Sound tape after where
  drawn row present := by
    rcases inserted.added present with old | ⟨app, name, _, rfl⟩ | ⟨id, advanced, _⟩
    · exact (sound.drawn row old).imp_right fun ⟨i, below, same⟩ =>
        ⟨i, Nat.lt_of_lt_of_le below inserted.drawn_mono, same⟩
    · exact .inl rfl
    · exact .inr ⟨registry.drawn, advanced ▸ Nat.lt_succ_self _, id⟩
  nil_iff row present := by
    rcases inserted.added present with old | ⟨app, name, _, rfl⟩ | ⟨id, advanced, other⟩
    · exact sound.nil_iff row old
    · exact ⟨fun _ => ⟨rfl, rfl⟩, fun _ => rfl⟩
    · have drawn := random.not_nil registry.drawn (advanced ▸ Nat.lt_succ_self _)
      exact ⟨fun nil => absurd (id.symm.trans nil) drawn, fun both => absurd both other⟩

variable (inserted : Insertions tape asked registry after)
include inserted

theorem Insertions.rows_mono (present : row ∈ registry.table.rows) : row ∈ after.table.rows := by
  induction inserted with
  | refl => exact present
  | tail _ last ih => exact last.rows_mono ih

theorem Insertions.drawn_mono : registry.drawn ≤ after.drawn := by
  induction inserted with
  | refl => exact Nat.le_refl _
  | tail _ last ih => exact Nat.le_trans ih last.drawn_mono

theorem Insertions.sound (sound : Sound tape registry) (random : Random tape after.drawn) :
    Sound tape after := by
  induction inserted with
  | refl => exact sound
  | tail _ last ih =>
    exact last.sound (ih (random.mono last.drawn_mono)) random

/-- The nil id belongs to one job at most. -/
def OnlyJob (job : String × String) (registry : Registry) : Prop :=
  ∀ row ∈ registry.table.rows, row.id = InstanceId.nil → row.app = job.1 ∧ row.name = some job.2

theorem Insertions.onlyJob {job : String × String} (asks : ∀ other ∈ asked, other = job)
    (random : Random tape after.drawn) (only : OnlyJob job registry) : OnlyJob job after := by
  induction inserted with
  | refl => exact only
  | tail _ last ih =>
    intro row present nil
    rcases last.added present with old | ⟨app, name, known, rfl⟩ | ⟨id, advanced, _⟩
    · exact ih (random.mono last.drawn_mono) row old nil
    · obtain rfl := asks _ known
      exact ⟨rfl, rfl⟩
    · exact absurd (id.symm.trans nil) (random.not_nil _ (advanced ▸ Nat.lt_succ_self _))

end Sound

/-! ## When a call succeeds -/

theorem isOk_map {α β : Type} (f : α → β) (answer : Except RegistryError α) :
    (answer.map f).isOk = answer.isOk := by
  cases answer <;> rfl

theorem isOk_iff_exists {α : Type} {answer : Except RegistryError α} :
    answer.isOk ↔ ∃ value, answer = .ok value := by
  cases answer <;> simp [Except.toBool]

section Success

variable (tape : Nat → InstanceId) {registry : Registry} {app : String}
  (sound : Sound tape registry)
include sound

theorem getOrCreateSingleton_ok {kind : ResourceKind} {name : String}
    (random : Random tape (registry.insertSingleton tape app kind name).drawn)
    (only : kind = .job → OnlyJob (app, name) registry) :
    (getOrCreateSingleton tape app kind (some name) registry).1.isOk := by
  rcases getOrCreateSingleton_cases tape app kind name registry with
    ⟨_, _, _, answered⟩ | ⟨refused, missing, _⟩
  · rw [answered]
    rfl
  · -- The row that is in the way has the same id, or is the singleton itself.
    exfalso
    unfold Table.Admits at refused
    push Not at refused
    obtain ⟨row, present, clashes⟩ := refused
    have absent := missing row present
    rcases clash_iff.mp (Bool.of_not_eq_false clashes) with id | ⟨single, _, app, kind, _, name⟩
    · by_cases job : kind = .job
      · subst job
        obtain ⟨sameApp, sameName⟩ := only rfl row present id
        obtain ⟨isJob, single⟩ := (sound.nil_iff row present).mp id
        simp [isSingletonOf, sameApp, sameName, isJob, single] at absent
      · have drawing : registry.drawn < (registry.insertSingleton tape app kind name).drawn := by
          simp [Registry.insertSingleton, job]
        have own : row.id = tape registry.drawn := by
          rw [id]
          cases kind <;> first | rfl | exact absurd rfl job
        rcases sound.drawn row present with nil | ⟨i, below, same⟩
        · exact random.not_nil _ drawing (own.symm.trans nil)
        · exact random.distinct _ drawing i below (own.symm.trans same)
    · have sameApp : row.app = _ := app
      have sameKind : row.kind = _ := kind
      have sameName : row.name = _ := name
      simp [isSingletonOf, newSingleton, sameApp, sameKind, sameName, single] at absent

theorem steadyResource_ok (world : World) (declared : AppResources)
    (resource : ResourceKind × String)
    (random : Random tape (steadyResource tape world app declared resource registry).2.drawn)
    (only : resource.1 = .job → OnlyJob (app, resource.2) registry) :
    (steadyResource tape world app declared resource registry).1.isOk := by
  rcases steadyResource_cases tape world app declared resource registry with
    ⟨_, desired, count, grouped⟩ | ⟨state, single⟩
  · rw [grouped]
    rfl
  · rw [single] at random ⊢
    rw [isOk_map]
    exact getOrCreateSingleton_ok tape sound random only

variable {job : String × String}

theorem steadyResources_ok (world : World) (declared : AppResources)
    (resources : List (ResourceKind × String))
    (random : Random tape (steadyResources tape world app declared resources registry).2.drawn)
    (asks : ∀ other ∈ jobsOf app resources, other = job) (only : OnlyJob job registry) :
    (steadyResources tape world app declared resources registry).1.isOk := by
  induction resources generalizing registry with
  | nil => rfl
  | cons resource rest ih =>
    have asks_first : resource.1 = .job → (app, resource.2) = job := fun isJob =>
      asks _ (mem_jobsOf.mpr ⟨rfl, isJob ▸ mem_cons_self⟩)
    have first : Insertions tape [job] registry _ := steadyResource_insertions tape world app
      declared resource registry fun isJob => asks_first isJob ▸ mem_cons_self
    have only_first : resource.1 = .job → OnlyJob (app, resource.2) registry := fun isJob =>
      asks_first isJob ▸ only
    rcases steadyResources_cons tape world app declared resource rest registry with
      ⟨failed, _, stopped⟩ | ⟨_, same, went⟩
    · rw [stopped] at random
      rw [steadyResource_ok tape sound world declared resource random only_first] at failed
      cases failed
    · rw [went] at random
      have rest_asks := fun other listed => asks other (jobsOf_cons listed)
      have later := steadyResources_insertions tape world app declared rest
        (steadyResource tape world app declared resource registry).2 fun _ listed => listed
      have random_first := random.mono later.drawn_mono
      rw [same]
      exact ih (first.sound sound random_first) random rest_asks
        (first.onlyJob (by simp) random_first only)

/-- **A call succeeds if the jobs it asks for are the one that has the nil id.** -/
theorem step_ok (call : RegistryCall)
    (random : Random tape ((registryMachine tape).next registry call).drawn)
    (asks : ∀ other ∈ call.jobs, other = job) (only : OnlyJob job registry) :
    ((registryMachine tape).step registry call).1.isOk := by
  cases call with
  | singleton =>
    rw [Machine.next, step_singleton] at random
    rw [step_singleton, isOk_map]
    refine getOrCreateSingleton_ok tape sound random ?_
    · rintro rfl
      rwa [asks _ (mem_jobsOf.mpr ⟨rfl, mem_cons_self⟩)]
  | scaledGroup => rfl
  | steady world app declared =>
    rw [step_steady, isOk_map]
    exact steadyResources_ok tape sound world declared declared.resources random asks only

end Success

/-! ## What an answer stands for -/

section Answers

variable (tape : Nat → InstanceId) {registry : Registry} {app name : String}

theorem singleton_of_ok {kind : ResourceKind} {instance' : ResourceInstance}
    (answered : (getOrCreateSingleton tape app kind (some name) registry).1 = .ok instance') :
    instance' ∈ (registry.insertSingleton tape app kind name).table.rows ∧
      isSingletonOf app kind (some name) instance' := by
  rcases getOrCreateSingleton_cases tape app kind name registry with
    ⟨row, present, same, succeeded⟩ | ⟨_, _, failed⟩
  · rw [succeeded] at answered
    cases answered
    exact ⟨present, same⟩
  · rw [failed] at answered
    cases answered

theorem steadyResources_jobs {world : World} {declared : AppResources}
    {resources : List (ResourceKind × String)}
    (succeeded : (steadyResources tape world app declared resources registry).1.isOk)
    (asked : (.job, name) ∈ resources) :
    ∃ row ∈ (steadyResources tape world app declared resources registry).2.table.rows,
      isSingletonOf app .job (some name) row := by
  induction resources generalizing registry with
  | nil => cases asked
  | cons resource rest ih =>
    rcases steadyResources_cons tape world app declared resource rest registry with
      ⟨_, failed, _⟩ | ⟨first, same, went⟩
    · rw [succeeded] at failed
      cases failed
    · rw [went]
      rcases mem_cons.mp asked with rfl | later
      · rcases steadyResource_cases tape world app declared (.job, name) registry with
          ⟨other, _⟩ | ⟨state, single⟩
        · exact absurd rfl other
        · have insertions := steadyResources_insertions tape world app declared rest
            (steadyResource tape world app declared (.job, name) registry).2
            fun _ listed => listed
          rw [single] at first insertions ⊢
          rw [isOk_map] at first
          obtain ⟨instance', answered⟩ := isOk_iff_exists.mp first
          obtain ⟨present, matched⟩ := singleton_of_ok tape answered
          exact ⟨instance', insertions.rows_mono present, matched⟩
      · exact ih (same ▸ succeeded) later

/-- What a call and its answer say of the table from then on: a singleton that
was given is a row of it, and so is each job of a call that succeeded. -/
structure Witnessed (call : RegistryCall) (answer : Except RegistryError (List ResourceInstance))
    (registry : Registry) : Prop where
  given : ∀ app kind name instance', call = .singleton app kind name → answer = .ok [instance'] →
    instance' ∈ registry.table.rows ∧ isSingletonOf app kind (some name) instance'
  jobs : answer.isOk → ∀ app name, (app, name) ∈ call.jobs →
    ∃ row ∈ registry.table.rows, isSingletonOf app .job (some name) row

theorem step_witnessed (registry : Registry) (call : RegistryCall) :
    Witnessed call ((registryMachine tape).step registry call).1
      ((registryMachine tape).next registry call) := by
  cases call with
  | singleton app kind name =>
    rw [Machine.next, step_singleton]
    refine ⟨fun _ _ _ instance' same answered => ?_, fun succeeded other job asked => ?_⟩
    · cases same
      cases answer : (getOrCreateSingleton tape app kind (some name) registry).1 with
      | error => simp [answer, Except.map] at answered
      | ok found =>
        obtain rfl : found = instance' := by simpa [answer, Except.map] using answered
        exact singleton_of_ok tape answer
    · obtain ⟨rfl, listed⟩ := mem_jobsOf.mp asked
      obtain ⟨rfl, rfl⟩ : ResourceKind.job = kind ∧ job = name := by simpa using listed
      rw [isOk_map] at succeeded
      obtain ⟨found, answer⟩ := isOk_iff_exists.mp succeeded
      exact ⟨found, singleton_of_ok tape answer⟩
  | scaledGroup =>
    refine ⟨fun _ _ _ _ same => ?_, fun _ _ _ asked => ?_⟩
    · cases same
    · cases asked
  | steady =>
    rw [step_steady]
    refine ⟨fun _ _ _ _ same => ?_, fun succeeded other name asked => ?_⟩
    · cases same
    · obtain ⟨rfl, listed⟩ := mem_jobsOf.mp asked
      rw [isOk_map] at succeeded
      exact steadyResources_jobs tape succeeded listed

end Answers

/-! ## The law -/

section Law

variable (tape : Nat → InstanceId)

theorem Witnessed.next {call other : RegistryCall}
    {answer : Except RegistryError (List ResourceInstance)} {registry : Registry}
    (witnessed : Witnessed call answer registry) :
    Witnessed call answer ((registryMachine tape).next registry other) where
  given app kind name instance' same answered :=
    (witnessed.given app kind name instance' same answered).imp_left
      ((step_insertions tape registry other).rows_mono)
  jobs succeeded app name asked := by
    obtain ⟨row, present, matched⟩ := witnessed.jobs succeeded app name asked
    exact ⟨row, (step_insertions tape registry other).rows_mono present, matched⟩

variable (calls : List RegistryCall)

theorem run_sound (random : Random tape ((registryMachine tape).run .init calls).drawn) :
    Sound tape ((registryMachine tape).run .init calls) := by
  refine (registryMachine tape).run_invariant
    (I := fun registry => Random tape registry.drawn → Sound tape registry) ?_ .init calls
    (fun _ => sound_init tape) random
  intro registry call sound random
  have insertions := step_insertions tape registry call
  exact insertions.sound (sound (random.mono insertions.drawn_mono)) random

/-- Every call succeeds; the same app, kind and name always give the same
instance, and different ones give different ids. -/
structure Answered (calls : List RegistryCall) : Prop where
  succeeds : ∀ answer ∈ (registryMachine tape).outputs .init calls, answer.isOk
  same : ∀ app kind name first second, (.singleton app kind name, .ok [first]) ∈
        calls.zip ((registryMachine tape).outputs .init calls) →
      (.singleton app kind name, .ok [second]) ∈
        calls.zip ((registryMachine tape).outputs .init calls) →
      first = second
  different : ∀ app kind name other otherKind otherName first second,
    (.singleton app kind name, .ok [first]) ∈
        calls.zip ((registryMachine tape).outputs .init calls) →
      (.singleton other otherKind otherName, .ok [second]) ∈
        calls.zip ((registryMachine tape).outputs .init calls) →
      (app, kind, name) ≠ (other, otherKind, otherName) → first.id ≠ second.id

def OneJob (calls : List RegistryCall) : Prop :=
  ∀ first ∈ calls.flatMap RegistryCall.jobs, ∀ second ∈ calls.flatMap RegistryCall.jobs,
    first = second

theorem run_drawn_mono (registry : Registry) (calls : List RegistryCall) :
    registry.drawn ≤ ((registryMachine tape).run registry calls).drawn :=
  (registryMachine tape).run_invariant (I := fun after => registry.drawn ≤ after.drawn)
    (fun after call fewer => Nat.le_trans fewer (step_insertions tape after call).drawn_mono)
    registry calls (Nat.le_refl _)

theorem outputs_ok {job : String × String} (registry : Registry)
    (random : Random tape ((registryMachine tape).run registry calls).drawn)
    (sound : Sound tape registry) (asks : ∀ other ∈ calls.flatMap RegistryCall.jobs, other = job)
    (only : OnlyJob job registry) :
    ∀ answer ∈ (registryMachine tape).outputs registry calls, answer.isOk := by
  induction calls generalizing registry with
  | nil => exact nofun
  | cons call calls ih =>
    have asks_now := fun other listed => asks other (mem_append_left _ listed)
    have asks_later := fun other listed => asks other (mem_append_right _ listed)
    have insertions := step_insertions tape registry call
    have random_now := random.mono (run_drawn_mono tape _ calls)
    intro answer shown
    rcases mem_cons.mp shown with rfl | later
    · exact step_ok tape sound call random_now asks_now only
    · exact ih _ random (insertions.sound sound random_now) asks_later
        (insertions.onlyJob asks_now random_now only) answer later

variable {tape} {table : Table clash} {first second : ResourceInstance}

theorem singleton_unique {app name : String} {kind : ResourceKind}
    (one : first ∈ table.rows) (two : second ∈ table.rows)
    (matches_one : isSingletonOf app kind (some name) first)
    (matches_two : isSingletonOf app kind (some name) second) : first = second := by
  simp only [isSingletonOf, Bool.and_eq_true, decide_eq_true_eq] at matches_one matches_two
  obtain ⟨⟨⟨sameApp, sameKind⟩, sameName⟩, single⟩ := matches_one
  obtain ⟨⟨⟨otherApp, otherKind⟩, otherName⟩, otherSingle⟩ := matches_two
  refine Table.eq_of_clash clash_symmetric one two (clash_iff.mpr (.inr ⟨single, otherSingle, ?_⟩))
  simp [sameApp, otherApp, sameKind, otherKind, sameName, otherName]

theorem id_unique (one : first ∈ table.rows) (two : second ∈ table.rows)
    (same : first.id = second.id) : first = second :=
  Table.eq_of_clash clash_symmetric one two (clash_iff.mpr (.inl same))

variable (tape)

/-- **Calls on the registry are answered, each with an instance of its own,
exactly if all jobs that are asked for, by any app, are one and the same.** -/
theorem calls_answered_iff_one_job (calls : List RegistryCall)
    (random : Random tape ((registryMachine tape).run .init calls).drawn) :
    Answered tape calls ↔ OneJob calls := by
  have sound := run_sound tape calls random
  have witnessed : ∀ {call : RegistryCall} {answer : Except RegistryError (List ResourceInstance)},
      (call, answer) ∈ calls.zip ((registryMachine tape).outputs .init calls) →
        Witnessed call answer ((registryMachine tape).run .init calls) := fun paired =>
    (registryMachine tape).outputs_persist (R := Witnessed) (step_witnessed tape)
      (fun _ _ _ _ holds => holds.next tape) .init calls paired
  constructor
  · -- Every job that was asked for has its row, and they all have the nil id.
    intro answered
    have rows : ∀ job ∈ calls.flatMap RegistryCall.jobs,
        ∃ row ∈ ((registryMachine tape).run .init calls).table.rows,
          isSingletonOf job.1 .job (some job.2) row ∧ row.id = InstanceId.nil := by
      intro job asked
      obtain ⟨call, taken, listed⟩ := mem_flatMap.mp asked
      obtain ⟨answer, shown, paired⟩ := (registryMachine tape).exists_output .init taken
      obtain ⟨row, present, matched⟩ :=
        (witnessed paired).jobs (answered.succeeds answer shown) job.1 job.2 listed
      refine ⟨row, present, matched, (sound.nil_iff row present).mpr ?_⟩
      simp only [isSingletonOf, Bool.and_eq_true, decide_eq_true_eq] at matched
      exact ⟨matched.1.1.2, matched.2⟩
    intro first one second two
    obtain ⟨row, present, matched, nil⟩ := rows first one
    obtain ⟨other, otherPresent, otherMatched, otherNil⟩ := rows second two
    obtain rfl := id_unique present otherPresent (nil.trans otherNil.symm)
    simp only [isSingletonOf, Bool.and_eq_true, decide_eq_true_eq] at matched otherMatched
    refine Prod.ext (matched.1.1.1.symm.trans otherMatched.1.1.1) ?_
    exact Option.some.inj (matched.1.2.symm.trans otherMatched.1.2)
  · intro one
    refine ⟨?_, fun app kind name first second gives again => ?_,
      fun app kind name other otherKind otherName first second gives again distinct same => ?_⟩
    · obtain ⟨job, asks⟩ : ∃ job, ∀ other ∈ calls.flatMap RegistryCall.jobs, other = job := by
        cases asked : calls.flatMap RegistryCall.jobs with
        | nil => exact ⟨("", ""), nofun⟩
        | cons job =>
          refine ⟨job, fun other listed => one other (asked ▸ listed) job ?_⟩
          exact asked ▸ mem_cons_self
      exact outputs_ok tape calls .init random (sound_init tape) asks
        fun _ present => absurd present not_mem_nil
    · obtain ⟨present, matched⟩ := (witnessed gives).given app kind name first rfl rfl
      obtain ⟨otherPresent, otherMatched⟩ := (witnessed again).given app kind name second rfl rfl
      exact singleton_unique present otherPresent matched otherMatched
    · obtain ⟨present, matched⟩ := (witnessed gives).given app kind name first rfl rfl
      obtain ⟨otherPresent, otherMatched⟩ :=
        (witnessed again).given other otherKind otherName second rfl rfl
      obtain rfl := id_unique present otherPresent same
      simp only [isSingletonOf, Bool.and_eq_true, decide_eq_true_eq] at matched otherMatched
      obtain ⟨⟨⟨rfl, rfl⟩, named⟩, _⟩ := matched
      obtain ⟨⟨⟨rfl, rfl⟩, otherNamed⟩, _⟩ := otherMatched
      exact distinct (by rw [Option.some.inj (named.symm.trans otherNamed)])

/-- **An instance keeps its id and its name**, whatever is asked of the registry and whatever
ids are drawn: its row stays as it is, and no other comes to have either. -/
theorem identities_stay (registry : Registry) (calls : List RegistryCall) :
    let after := ((registryMachine tape).run registry calls).table
    registry.table.rows ⊆ after.rows ∧ ∀ row ∈ registry.table.rows, ∀ other ∈ after.rows,
      clash other row → other = row := by
  intro after
  have stay : registry.table.rows ⊆ after.rows := fun row mem =>
    (registryMachine tape).run_invariant (I := (row ∈ ·.table.rows))
      (fun current call present => (step_insertions tape current call).rows_mono present)
      registry calls mem
  exact ⟨stay, fun row mem other present => Table.eq_of_clash clash_symmetric present (stay mem)⟩

end Law

/-! ## Two jobs -/

def countingTape (i : Nat) : InstanceId := BitVec.ofNat 128 (i + 1)

def shop : AppResources where
  resources := [(.job, "migrate"), (.deployment, "site"), (.volume, "data")]
  effectiveScales _ := some 2
  stopped _ := false

def unobserved : World := ⟨fun _ => false, fun _ => false⟩

theorem one_job_answered :
    let calls : List RegistryCall :=
      [.singleton "web" .volume "data", .steady unobserved "shop" shop,
        .singleton "shop" .job "migrate", .steady unobserved "shop" shop]
    Random countingTape ((registryMachine countingTape).run .init calls).drawn ∧
      Answered countingTape calls :=
  ⟨⟨by decide, by decide⟩, (calls_answered_iff_one_job countingTape _ ⟨by decide, by decide⟩).mpr
      (by unfold OneJob; decide)⟩

/-- **The job of a second app fails**, and so does computing its desired state,
although it declares nothing but what any app may declare. -/
theorem second_job_fails :
    let calls : List RegistryCall :=
      [.singleton "web" .job "migrate", .singleton "shop" .job "migrate",
        .steady unobserved "shop" shop]
    ((registryMachine countingTape).outputs .init calls).map Except.isOk =
      [true, false, false] := by
  decide

end Seedling.Instances
