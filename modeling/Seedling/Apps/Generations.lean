import Seedling.Apps.Bundles

/-!
# Generations in their tables

The tables against the states of the apps.  The rows of `generations` are those of the
app states with hashes in place of bundles (`Represents`), and what a request writes is
what it did to the history (`Represents.record`).  Reading the parameters of a
generation back is then replaying the history up to it (`paramMapAt_eq`).

Every bundle that a row names is stored, and every stored bundle is what its hash says
(`Stocked`); garbage collection keeps that (`Stocked.gcBundles`).
-/

namespace Seedling.Apps

open Function Foundation AppState List Tables

/-! ## Reading a history -/

section Rows

variable {Bundle : Type}

def GenerationRow.stored (codec : BundleCodec Bundle) (row : GenerationRow Bundle) :
    GenerationRow String where
  generation := row.generation
  kind := row.kind
  bundle := codec.hash row.bundle
  change := row.change

variable (rows : List (GenerationRow Bundle))

theorem latestRow_concat (row : GenerationRow Bundle) : latestRow (rows ++ [row]) =
      if (latestRow rows).all (·.generation ≤ row.generation) then some row
      else latestRow rows := by
  rw [latestRow, foldl_append]
  rfl

variable {rows : List (GenerationRow Bundle)}

theorem mem_of_latestRow {latest : GenerationRow Bundle} (found : latestRow rows = some latest) :
    latest ∈ rows := by
  induction rows using reverseRecOn with
  | nil => cases found
  | append_singleton rows row ih =>
    rw [latestRow_concat] at found
    split at found
    · simp [Option.some.inj found]
    · exact mem_append_left _ (ih found)

theorem latestRow_append (row : GenerationRow Bundle)
    (above : ∀ older ∈ rows, older.generation ≤ row.generation) :
    latestRow (rows ++ [row]) = some row := by
  rw [latestRow_concat]
  apply if_pos
  cases found : latestRow rows with
  | none => rfl
  | some latest => exact decide_eq_true (above latest (mem_of_latestRow found))

theorem latestRow_stored (codec : BundleCodec Bundle) (rows : List (GenerationRow Bundle)) :
    latestRow (rows.map (·.stored codec)) = (latestRow rows).map (·.stored codec) := by
  induction rows using reverseRecOn with
  | nil => rfl
  | append_singleton rows row ih =>
    rw [map_append, map_cons, map_nil, latestRow_concat, latestRow_concat, ih, Option.all_map]
    by_cases newer : (latestRow rows).all (·.generation ≤ row.generation)
    · rw [if_pos newer]
      exact if_pos newer
    · rw [if_neg newer]
      exact if_neg newer

/-- The recorded change is that of a parameter change of the row's kind. -/
def GenerationRow.Tells (cipher : Cipher) (row : GenerationRow Bundle) : Prop :=
  ∀ change, row.change = some change → row.kind ≠ .register ∧
    ∃ told : ParamChange, change = told.record cipher ∧
      (row.kind = .paramSet → told.newValue.isSome) ∧
      (row.kind = .paramUnset → told.newValue = none)

variable {cipher : Cipher} {row : GenerationRow Bundle}

theorem newValue_eq_value (tells : row.Tells cipher) {change : RecordedChange}
    (recorded : row.change = some change) :
    Tables.ChangeRow.newValue cipher ⟨row.generation, row.kind, change⟩ = change.value cipher := by
  obtain ⟨notRegister, told, rfl, sets, unsets⟩ := tells change recorded
  rw [value_record]
  cases kind : row.kind with
  | register => exact absurd kind notRegister
  | paramSet =>
    obtain ⟨value, new⟩ := Option.isSome_iff_exists.mp (sets kind)
    cases secret : told.isSecret <;>
      simp [Tables.ChangeRow.newValue, ParamChange.record, new, secret, cipher.decrypt_encrypt]
  | paramUnset => simp [Tables.ChangeRow.newValue, unsets kind]
  | scriptUpdate =>
    cases secret : told.isSecret <;> cases new : told.newValue <;>
      simp [Tables.ChangeRow.newValue, ParamChange.record, new, secret, cipher.decrypt_encrypt]

theorem foldl_replayChange (tells : ∀ row ∈ rows, row.Tells cipher) :
    rows.foldl (replayChange cipher) (fun _ => none) =
      lastWrites Tables.ChangeRow.name (Tables.ChangeRow.newValue cipher)
        (rows.filterMap changeRow?) := by
  induction rows using reverseRecOn with
  | nil => rfl
  | append_singleton rows row ih =>
    rw [foldl_append, foldl_cons, filterMap_append,
      ih fun older mem => tells older (mem_append_left _ mem)]
    have own : row.Tells cipher := tells row (by simp)
    cases recorded : row.change with
    | none => simp [replayChange, changeRow?, recorded]
    | some change =>
      obtain ⟨notRegister, _⟩ := own change recorded
      have selected : filterMap changeRow? [row] = [⟨row.generation, row.kind, change⟩] := by
        simp [changeRow?, recorded, notRegister]
      rw [selected]
      simp only [lastWrites, foldl_append, foldl_cons, replayChange, recorded]
      rw [newValue_eq_value own recorded]
      rfl

def Numbered (rows : List (GenerationRow Bundle)) : Prop :=
  rows.map GenerationRow.generation = List.range' 1 rows.length

theorem Numbered.increasing (numbered : Numbered rows) :
    rows.Pairwise fun first second => first.generation < second.generation := by
  rw [← pairwise_map (R := (· < ·)), numbered]
  exact pairwise_lt_range'

theorem Numbered.append (numbered : Numbered rows) (row : GenerationRow Bundle)
    (next : row.generation = rows.length + 1) :
    Numbered (rows ++ [row]) := by
  rw [Numbered, map_append, numbered, length_append, length_singleton,
    range'_concat, map_cons, map_nil, next, Nat.one_mul, Nat.add_comm]

theorem Numbered.later {more : List (GenerationRow Bundle)} (numbered : Numbered (rows ++ more)) :
    ∀ row ∈ more, rows.length < row.generation := by
  intro row mem
  rw [Numbered, map_append, length_append, ← range'_append_1] at numbered
  have rest := (append_inj numbered (by simp)).2
  have listed : row.generation ∈ more.map GenerationRow.generation := mem_map_of_mem mem
  rw [rest, mem_range'_1] at listed
  omega

theorem Numbered.last (numbered : Numbered (rows ++ [row])) : row.generation = rows.length + 1 := by
  rw [Numbered, map_append, length_append, length_singleton, range'_concat] at numbered
  have last := (append_inj' numbered rfl).2
  simp only [map_cons, cons.injEq] at last
  omega

variable {state : AppState Bundle}

theorem Numbered.maxGeneration (numbered : Numbered state.generations) :
    state.maxGeneration = state.generations.length := by
  have bound : ∀ count start : Nat, (range' 1 count).foldl max start = max start count := by
    intro count
    induction count with
    | zero => simp
    | succ count ih =>
      intro start
      rw [range'_concat, foldl_append, ih]
      simp
      omega
  rw [AppState.maxGeneration, numbered, bound, Nat.zero_max]

variable {codec : BundleCodec Bundle} {tables : Tables} {app : String}

variable (represents : tables.rowsOf app = state.generations.map (·.stored codec))
include represents

/-- **Reading the parameters back from the table replays the history.** -/
theorem paramMapAt_eq (numbered : Numbered state.generations)
    (tells : ∀ row ∈ state.generations, row.Tells cipher) (generation : Nat) :
    tables.paramMapAt cipher app generation = state.valuesAt cipher generation := by
  have selected : ((tables.rowsOf app).filter (·.generation ≤ generation)).filterMap changeRow? =
      (state.generations.filter (·.generation ≤ generation)).filterMap changeRow? := by
    rw [represents, filter_map, filterMap_map]
    rfl
  have increasing : ((state.generations.filter (·.generation ≤ generation)).filterMap
      changeRow?).Pairwise fun first second => first.generation < second.generation := by
    refine List.Pairwise.filterMap _ ?_ (numbered.increasing.filter _)
    intro first second earlier one oneSelected other otherSelected
    have kept : ∀ {row : GenerationRow Bundle} {change},
        changeRow? row = some change → change.generation = row.generation := by
      intro row change chosen
      unfold changeRow? at chosen
      split at chosen
      · cases chosen
      · obtain ⟨_, _, rfl⟩ := Option.map_eq_some_iff.mp chosen
        rfl
    rw [kept oneSelected, kept otherSelected]
    exact earlier
  rw [paramMapAt, selected, firstOfEach_sorted increasing, AppState.valuesAt, foldl_replayChange]
  intro row mem
  exact tells row (mem_filter.mp mem).1

theorem definitionAt_eq {generation : Nat} {bundle : Bundle}
    (defined : state.definitionAt generation = some bundle) :
    tables.definitionAt app generation = .ok (codec.hash bundle) := by
  obtain ⟨row, found, rfl⟩ := Option.map_eq_some_iff.mp defined
  have filtered : (tables.rowsOf app).filter
      (fun row => row.generation ≤ generation && row.installs) =
      (state.generations.filter fun row => row.generation ≤ generation && row.installs).map
        (·.stored codec) := by
    rw [represents, filter_map]
    rfl
  rw [Tables.definitionAt, filtered, latestRow_stored, found]
  rfl

end Rows

/-! ## The bundles that are stored -/

section Stocked

variable {Bundle : Type} (codec : BundleCodec Bundle)

def Tables.Holds (tables : Tables) (hash : String) : Prop :=
  ∃ row ∈ tables.bundles.rows, row.hash = hash

/-- Every stored bundle is what its hash says, and every hash that a generation or a
template names is that of a stored bundle. -/
structure Stocked (tables : Tables) : Prop where
  genuine : ∀ row ∈ tables.bundles.rows,
    ∃ bundle, row = ⟨codec.hash bundle, codec.canonicalBytes bundle⟩
  held : ∀ hash, tables.refersTo hash → tables.Holds hash

variable {codec} {tables : Tables} (stocked : Stocked codec tables)
include stocked

variable {hash : String}

theorem Stocked.loadBundle (named : tables.refersTo hash) :
    ∃ bundle, codec.hash bundle = hash ∧ tables.loadBundle codec hash = .ok bundle := by
  obtain ⟨row, present, keyed⟩ := stocked.held hash named
  have isSome : (tables.bundles.rows.find? (·.hash = hash)).isSome :=
    find?_isSome.mpr ⟨row, present, decide_eq_true keyed⟩
  obtain ⟨first, found⟩ := Option.isSome_iff_exists.mp isSome
  obtain ⟨bundle, rfl⟩ := stocked.genuine first (mem_of_find?_eq_some found)
  have same : codec.hash bundle = hash := by simpa using find?_some found
  refine ⟨bundle, same, ?_⟩
  simp only [Tables.loadBundle, found, codec.fromCanonicalBytes_canonicalBytes, same, ne_eq,
    not_true_eq_false, if_false]

theorem Stocked.loadBundle_hash {bundle : Bundle}
    (named : tables.refersTo (codec.hash bundle)) :
    tables.loadBundle codec (codec.hash bundle) = .ok bundle := by
  obtain ⟨other, same, loaded⟩ := stocked.loadBundle named
  rw [loaded, codec.hash_injective same]

omit stocked in
theorem refersTo_iff : tables.refersTo hash ↔
    (∃ row ∈ tables.generations, row.2.bundle = hash) ∨
      ∃ row ∈ tables.templates.rows, row.bundleHash = hash := by
  simp [refersTo]

theorem Stocked.refer {after : Tables} (bundles : after.bundles = tables.bundles)
    (named : ∀ hash, after.refersTo hash →
      tables.refersTo hash ∨ tables.Holds hash) : Stocked codec after where
  genuine := by rw [bundles]; exact stocked.genuine
  held hash refers := by
    rw [Tables.Holds, bundles]
    exact (named hash refers).elim (stocked.held hash) id

omit stocked in
theorem holds_storeBundle (bundle : Bundle) :
    (tables.storeBundle codec bundle).Holds (codec.hash bundle) := by
  let row : StoredBundle := ⟨codec.hash bundle, codec.canonicalBytes bundle⟩
  by_cases admitted : tables.bundles.Admits row
  · exact ⟨row, Table.mem_insertOrIgnore.mpr (.inr ⟨admitted, rfl⟩), rfl⟩
  · obtain ⟨old, present, clashes⟩ : ∃ old ∈ tables.bundles.rows, old.clash row ≠ false := by
      simpa [Table.Admits] using admitted
    exact ⟨old, Table.mem_insertOrIgnore.mpr (.inl present), by simpa [StoredBundle.clash] using
      clashes⟩

theorem Stocked.storeBundle (bundle : Bundle) :
    Stocked codec (tables.storeBundle codec bundle) where
  genuine row present := by
    rcases Table.mem_insertOrIgnore.mp present with old | ⟨-, rfl⟩
    · exact stocked.genuine row old
    · exact ⟨bundle, rfl⟩
  held hash named := by
    obtain ⟨row, present, keyed⟩ := stocked.held hash named
    exact ⟨row, Table.mem_insertOrIgnore.mpr (.inl present), keyed⟩

omit stocked in
/-- **Garbage collection keeps every bundle that is named.** -/
theorem mem_gcBundles {row : StoredBundle} (present : row ∈ tables.bundles.rows)
    (named : tables.refersTo row.hash) : row ∈ tables.gcBundles.bundles.rows :=
  mem_filter.mpr ⟨present, named⟩

theorem Stocked.gcBundles : Stocked codec tables.gcBundles where
  genuine row present := stocked.genuine row (mem_filter.mp present).1
  held hash named := by
    obtain ⟨row, present, rfl⟩ := stocked.held hash named
    exact ⟨row, mem_gcBundles present named, rfl⟩

variable {row : GenerationRow String}

theorem Stocked.appendRow (app : String) (held : tables.Holds row.bundle) :
    Stocked codec (tables.appendRow app row) := by
  refine stocked.refer rfl fun hash refers => ?_
  rcases refersTo_iff.mp refers with ⟨other, mem, rfl⟩ | template
  · rcases mem_append.mp mem with old | new
    · exact .inl (refersTo_iff.mpr (.inl ⟨other, old, rfl⟩))
    · rw [mem_singleton.mp new]
      exact .inr held
  · exact .inl (refersTo_iff.mpr (.inr template))

theorem Stocked.insertRegisterOrUpdate (cipher : Cipher) (app : String) (kind : GenerationKind)
    (bundle : Bundle) (param : Option ParamChange) :
    Stocked codec (tables.insertRegisterOrUpdate codec cipher app kind bundle param) :=
  (stocked.storeBundle bundle).appendRow app (holds_storeBundle bundle)

omit stocked in
theorem mem_rowsOf {app : String} : row ∈ tables.rowsOf app ↔ (app, row) ∈ tables.generations := by
  simp only [rowsOf, mem_map, mem_filter, decide_eq_true_eq, Prod.exists]
  constructor
  · rintro ⟨_, _, ⟨mem, rfl⟩, rfl⟩
    exact mem
  · intro mem
    exact ⟨app, row, ⟨mem, rfl⟩, rfl⟩

theorem Stocked.bumpParamChange (cipher : Cipher) (app : String) (change : ParamChange) :
    Stocked codec (tables.bumpParamChange cipher app change) := by
  unfold Tables.bumpParamChange
  split
  · exact stocked
  · rename_i hash current
    obtain ⟨row, latest, rfl⟩ := Option.map_eq_some_iff.mp current
    refine stocked.appendRow app (stocked.held _ (refersTo_iff.mpr (.inl ⟨(app, row), ?_, rfl⟩)))
    exact mem_rowsOf.mp (mem_of_latestRow latest)

theorem Stocked.deleteForApp (app : String) : Stocked codec (tables.deleteForApp app) := by
  refine Stocked.gcBundles (stocked.refer rfl fun hash refers => .inl ?_)
  rcases refersTo_iff.mp refers with ⟨row, mem, rfl⟩ | template
  · exact refersTo_iff.mpr (.inl ⟨row, (mem_filter.mp mem).1, rfl⟩)
  · exact refersTo_iff.mpr (.inr template)

theorem Stocked.createTemplate (template : Template Bundle) :
    Stocked codec (tables.createTemplate codec template).2 := by
  unfold Tables.createTemplate
  dsimp only
  split
  · refine (stocked.storeBundle template.bundle).refer rfl fun hash refers => ?_
    rcases refersTo_iff.mp refers with generation | ⟨row, mem, rfl⟩
    · exact .inl (refersTo_iff.mpr (.inl generation))
    · rcases Table.mem_insertOrIgnore.mp mem with old | ⟨-, rfl⟩
      · exact .inl (refersTo_iff.mpr (.inr ⟨row, old, rfl⟩))
      · exact .inr (holds_storeBundle template.bundle)
  · exact stocked

omit stocked in
theorem setFields_bundleHash (fields : UpdateFields Bundle) (row : TemplateRow) :
    (setFields codec fields row).bundleHash =
      (fields.definition.map fun definition => codec.hash definition.1).getD row.bundleHash := by
  obtain ⟨definition, description⟩ := fields
  cases definition <;> cases description <;> rfl

variable (name : String)

theorem Stocked.updateRows {fields : UpdateFields Bundle}
    (held : ∀ definition, fields.definition = some definition → tables.Holds (codec.hash
      definition.1)) :
    Stocked codec
      { tables with templates := updateRows codec name fields tables.templates } := by
  refine stocked.refer rfl fun hash refers => ?_
  rcases refersTo_iff.mp refers with generation | ⟨row, mem, rfl⟩
  · exact .inl (refersTo_iff.mpr (.inl generation))
  · obtain ⟨old, present, rfl⟩ := mem_map.mp mem
    have kept : tables.refersTo old.bundleHash := refersTo_iff.mpr (.inr ⟨old, present, rfl⟩)
    split
    · rw [setFields_bundleHash]
      cases set : fields.definition with
      | none => exact .inl kept
      | some definition => exact .inr (held definition set)
    · exact .inl kept

theorem Stocked.updateTemplate (fields : UpdateFields Bundle) :
    Stocked codec (tables.updateTemplate codec name fields).2 := by
  unfold Tables.updateTemplate
  split
  · exact stocked
  · refine Stocked.gcBundles ?_
    cases set : fields.definition with
    | none => exact stocked.updateRows name fun definition other => by simp [set] at other
    | some definition =>
      refine (stocked.storeBundle definition.1).updateRows name fun other same => ?_
      obtain rfl : definition = other := Option.some.inj (set.symm.trans same)
      exact holds_storeBundle definition.1

theorem Stocked.deleteTemplate : Stocked codec (tables.deleteTemplate name).2 := by
  refine Stocked.gcBundles (stocked.refer rfl fun hash refers => .inl ?_)
  rcases refersTo_iff.mp refers with generation | ⟨row, mem, rfl⟩
  · exact refersTo_iff.mpr (.inl generation)
  · exact refersTo_iff.mpr (.inr ⟨row, (mem_filter.mp mem).1, rfl⟩)

end Stocked

/-! ## The rows of the tables -/

section Represents

variable {Bundle : Type} {codec : BundleCodec Bundle} {tables : Tables} {host : Host Bundle}
  {app : String} {state : AppState Bundle}

def Represents (codec : BundleCodec Bundle) (tables : Tables) (app : String)
    (state : AppState Bundle) : Prop :=
  tables.rowsOf app = state.generations.map (·.stored codec)

theorem rowsOf_appendRow_self (row : GenerationRow String) :
    (tables.appendRow app row).rowsOf app = tables.rowsOf app ++ [row] := by
  simp [rowsOf, appendRow]

variable {other : String}

theorem rowsOf_appendRow_of_ne (different : other ≠ app) (row : GenerationRow String) :
    (tables.appendRow app row).rowsOf other = tables.rowsOf other := by
  simp [rowsOf, appendRow, Ne.symm different]

theorem rowsOf_deleteForApp_self : (tables.deleteForApp app).rowsOf app = [] := by
  simp [rowsOf, deleteForApp, gcBundles]

theorem rowsOf_deleteForApp_of_ne (different : other ≠ app) :
    (tables.deleteForApp app).rowsOf other = tables.rowsOf other := by
  simp only [rowsOf, deleteForApp, gcBundles, filter_filter]
  congr 2
  funext row
  by_cases same : row.1 = other
  · simp [same, different]
  · simp [same]

theorem rowsOf_createTemplate (template : Template Bundle) :
    (tables.createTemplate codec template).2.rowsOf app = tables.rowsOf app := by
  unfold createTemplate
  dsimp only
  split <;> rfl

theorem rowsOf_updateTemplate (name : String) (fields : UpdateFields Bundle) :
    (tables.updateTemplate codec name fields).2.rowsOf app = tables.rowsOf app := by
  unfold updateTemplate
  split
  · rfl
  · cases fields.definition <;> rfl

variable (represents : Represents codec tables app state)
include represents

theorem Represents.nextGenerationFor : tables.nextGenerationFor app = state.maxGeneration + 1 := by
  rw [Tables.nextGenerationFor, represents, map_map]
  rfl

variable {after : AppState Bundle}

theorem Represents.append {row : GenerationRow Bundle}
    (appended : after.generations = state.generations ++ [row]) {stored : GenerationRow String}
    (same : stored = row.stored codec) :
    Represents codec (tables.appendRow app stored) app after := by
  rw [Represents, rowsOf_appendRow_self, represents, appended, same, map_append, map_singleton]

variable {bundle : Bundle} {cipher : Cipher}

theorem Represents.insertRegisterOrUpdate {kind : GenerationKind} {param : Option ParamChange}
    (appended : after.generations = state.generations ++ [⟨state.maxGeneration + 1, kind, bundle,
      param.map (·.record cipher)⟩]) :
    Represents codec (tables.insertRegisterOrUpdate codec cipher app kind bundle param) app
      after := by
  have stored : Represents codec (tables.storeBundle codec bundle) app state := represents
  refine stored.append appended ?_
  rw [stored.nextGenerationFor]
  rfl

theorem Represents.bumpParamChange {change : ParamChange}
    (current : state.currentBundle = some bundle)
    (appended : after.generations = state.generations ++ [⟨state.maxGeneration + 1, change.kind,
      bundle, some (change.record cipher)⟩]) :
    Represents codec (tables.bumpParamChange cipher app change) app after := by
  have hash : tables.currentBundleHash app = some (codec.hash bundle) := by
    obtain ⟨row, latest, rfl⟩ := Option.map_eq_some_iff.mp current
    rw [currentBundleHash, represents, latestRow_stored, latest]
    rfl
  rw [Tables.bumpParamChange, hash]
  refine represents.append appended ?_
  rw [represents.nextGenerationFor]
  rfl

omit represents

theorem rowsOf_record_of_ne (different : other ≠ app) (request : AppRequest Bundle)
    (served : Outcome × AppState Bundle) :
    (record host codec app request state served tables).rowsOf other = tables.rowsOf other := by
  have bumped : ∀ change, (tables.bumpParamChange host.cipher app change).rowsOf other =
      tables.rowsOf other := by
    intro change
    unfold bumpParamChange
    split
    · rfl
    · exact rowsOf_appendRow_of_ne different _
  have inserted : ∀ kind bundle param,
      (tables.insertRegisterOrUpdate codec host.cipher app kind bundle param).rowsOf other =
        tables.rowsOf other :=
    fun kind bundle param => rowsOf_appendRow_of_ne different _
  cases request with
  | register bundle | update busy bundle param =>
    simp only [record]
    split
    · exact inserted _ _ _
    · rfl
  | setParam busy name value | unsetParam busy name =>
    simp only [record]
    split
    · rfl
    · exact bumped _
  | deregister =>
    simp only [record]
    split
    · exact rowsOf_deleteForApp_of_ne different
    · rfl
  | _ => rfl

def AppRequest.silent : AppRequest Bundle → Bool
  | .register _ | .setParam .. | .unsetParam .. | .update .. | .deregister _ => false
  | _ => true

theorem AppEffect.silent_generations {request : AppRequest Bundle}
    {result : Outcome × AppState Bundle} (effect : AppEffect host app state request result)
    (silent : request.silent) : result.2.generations = state.generations := by
  cases effect with
  | unchanged | adjusted | transitioned | skipped => rfl
  | registered | updated | deregistered => cases silent
  | unrecorded _ _ _ _ _ _ _ _ asked | paramChanged _ _ _ _ _ _ _ _ _ _ _ asked =>
    cases asked <;> cases silent
  | rephased =>
    unfold setPhaseAndPersist
    split <;> rfl
  | loaded row entry =>
    obtain ⟨params, secretParams, moved⟩ :=
      migrateNewlySecretParams_frame host.cipher state entry.appDef
    rw [moved]

variable {name : String} {value : Option String} {entry : AppEntry Bundle}

/-- A parameter request that goes on stores the value and records it under the
definition in force. -/
theorem changeParam_recorded {busy : Bool} (announce : Announcement)
    (goes : admitted host app busy name value state = some entry)
    (current : state.currentBundle = some bundle) :
    let change := recordedBy host entry name value state
    (changeParam host.engine host.cipher host.allowed app busy name value announce state).2 =
      reloadAndPersist host.engine host.cipher host.allowed app entry (state.maxGeneration + 1)
        ((state.storeChange host.cipher (some change)).bump host.cipher change.kind bundle
          (some change)).2 := by
  rcases changeParam_cases busy name value announce state with ⟨refused, _⟩ | ⟨_, _, _, _, served⟩
  · rw [goes] at refused
    cases refused
  · rw [served, changeParamCommits, goes]
    simp only [current, perform_append, perform_storeParamCommits]
    rw [← storeParamValue_maxGeneration host.cipher state name value
      (entry.appDef.isSecret name), perform_bumpParamChangeCommits]
    rfl

theorem reloadAndPersist_generations (entry : AppEntry Bundle) (generation : Nat)
    (bumped : AppState Bundle) :
    (reloadAndPersist host.engine host.cipher host.allowed app entry generation
      bumped).generations = bumped.generations := by
  rw [reloadAndPersist_eq]

theorem bump_generations (cipher : Cipher) (kind : GenerationKind) (bundle : Bundle)
    (change : Option ParamChange) :
    ((state.storeChange cipher change).bump cipher kind bundle change).2.generations =
      state.generations ++
        [⟨state.maxGeneration + 1, kind, bundle, change.map (·.record cipher)⟩] := by
  obtain ⟨-, generations⟩ := storeChange_frame cipher state change
  simp only [bump, maxGeneration, generations]

theorem Kempt.of_admitted (kempt : Kempt state) {busy : Bool}
    (goes : admitted host app busy name value state = some entry) :
    state.entry = some entry ∧ ∃ bundle, state.currentBundle = some bundle := by
  have found : state.entry = some entry := by
    unfold admitted at goes
    split at goes
    · cases goes
    · rename_i other held
      split at goes
      · cases goes
      · split at goes
        · cases goes
        · split at goes
          · cases goes
          · split at goes
            · cases goes
            · rw [held, Option.some.inj goes]
  refine ⟨found, ?_⟩
  obtain ⟨row, mem, -⟩ := (kempt.known entry found).installed
  obtain ⟨latest, isLatest⟩ := Option.isSome_iff_exists.mp (latestRow_isSome (ne_nil_of_mem mem))
  exact ⟨latest.bundle, by rw [currentBundle, isLatest, Option.map_some]⟩

theorem Represents.recordParam (represents : Represents codec tables app state)
    (kempt : Kempt state) (busy : Bool) (name : String) (value : Option String)
    (announce : Announcement) :
    Represents codec
      (match admitted host app busy name value state with
        | none => tables
        | some entry =>
          tables.bumpParamChange host.cipher app (recordedBy host entry name value state))
      app
      (changeParam host.engine host.cipher host.allowed app busy name value announce state).2 := by
  cases goes : admitted host app busy name value state with
  | none =>
    rcases changeParam_cases busy name value announce state with
      ⟨-, same⟩ | ⟨_, going, _⟩
    · rw [same]
      exact represents
    · rw [goes] at going
      cases going
  | some =>
    obtain ⟨-, bundle, current⟩ := kempt.of_admitted goes
    refine represents.bumpParamChange current ?_
    rw [changeParam_recorded announce goes current, reloadAndPersist_generations, bump_generations]
    rfl

theorem deregisterApp_cases (app : String) (state : AppState Bundle) (busy : Bool) :
    (∃ error, deregisterApp app busy state = (.refused error, state)) ∨
      (deregisterApp app busy state).1.answer.isOk ∧
        (deregisterApp app busy state).2.generations = [] := by
  unfold deregisterApp
  split
  · exact .inl ⟨_, rfl⟩
  · split
    · exact .inl ⟨_, rfl⟩
    · split
      · exact .inl ⟨_, rfl⟩
      · exact .inl ⟨_, rfl⟩
      · exact .inl ⟨_, rfl⟩
      · exact .inr ⟨rfl, rfl⟩

theorem commitUpdate_generation (cipher : Cipher) (bundle : Bundle) (appDef : AppDef)
    (previousIsSecret : Bool) (change : Option (String × Option String × Option String)) :
    (commitUpdate cipher bundle appDef previousIsSecret change state).1 =
      state.maxGeneration + 1 := by
  cases change with
  | none => rfl
  | some => exact congrArg (· + 1) (storeParamValue_maxGeneration ..)

theorem commitUpdate_appended {appDef : AppDef} {previousIsSecret : Bool}
    {change : Option (String × Option String × Option String)} {generation : Nat}
    {committed : AppState Bundle}
    (recorded : (generation, committed) =
      commitUpdate host.cipher bundle appDef previousIsSecret change state) :
    committed.generations = state.generations ++ [⟨state.maxGeneration + 1, .scriptUpdate, bundle,
        change.map fun changed => ParamChange.record host.cipher
          ⟨changed.1, changed.2.1, changed.2.2, appDef.isSecret changed.1, previousIsSecret⟩⟩] := by
  rw [show committed = (_ : Nat × AppState Bundle).2 from congrArg Prod.snd recorded,
    commitUpdate_generations, commitUpdate_generation]

variable (represents : Represents codec tables app state)
include represents

theorem Represents.recordUpdate (busy : Bool) (bundle : Bundle)
    (param : Option (String × Option String)) :
    Represents codec (Apps.record host codec app (.update busy bundle param) state
        (serve host app (.update busy bundle param) state) tables)
      app (serve host app (.update busy bundle param) state).2 := by
  have effect : AppEffect host app state (.update busy bundle param) _ := serve_effect _
  generalize serve host app (.update busy bundle param) state = served at effect ⊢
  cases effect with
  | unchanged _ outcome _ settled =>
    simp only [Apps.record, settled rfl]
    exact represents
  | updated _ entry _ appDef _ change previousIsSecret values _ _ _ generation committed _ carried
      held recorded =>
    have appended := commitUpdate_appended recorded
    rw [publishUpdate_eq]
    refine represents.insertRegisterOrUpdate ?_
    rw [← carried]
    refine appended.trans ?_
    cases change with
    | none => rfl
    | some =>
      obtain ⟨rfl, -⟩ := updateChange_eq_some carried.symm
      rw [held]
      rfl
  | unrecorded _ _ _ _ _ _ _ _ asked => cases asked
  | paramChanged _ _ _ _ _ _ _ _ _ _ _ asked => cases asked
  | adjusted _ _ _ _ _ _ _ _ other => cases other
  | transitioned _ _ _ _ _ _ _ other => cases other

/-- **What a request writes to the tables is what it did to the history.** -/
theorem Represents.record (kempt : Kempt state) (request : AppRequest Bundle) :
    Represents codec (record host codec app request state (serve host app request state) tables) app
      (serve host app request state).2 := by
  have quiet : request.silent →
      Represents codec tables app (serve host app request state).2 :=
    fun silent => by rwa [Represents, (serve_effect request).silent_generations silent]
  cases request with
  | setParam busy name value => exact represents.recordParam kempt busy name (some value) _
  | unsetParam busy name => exact represents.recordParam kempt busy name none _
  | register bundle =>
    rcases registerApp_cases host.engine host.cipher host.allowed app state bundle with
      ⟨error, refused⟩ | ⟨-, -, accepted⟩
    · simp only [serve, refused]
      exact represents
    · obtain ⟨faults, schedules, resolved⟩ :=
        registerResolved_eq host.engine host.cipher host.allowed app state bundle
      simp only [serve, accepted, resolved]
      exact represents.insertRegisterOrUpdate rfl
  | update busy bundle param => exact represents.recordUpdate busy bundle param
  | deregister busy =>
    rcases deregisterApp_cases app state busy with
      ⟨error, refused⟩ | ⟨completed, forgotten⟩
    · simp only [serve, refused]
      exact represents
    · simp only [Apps.record, serve, completed]
      rw [Represents, forgotten]
      exact rowsOf_deleteForApp_self
  | uninstall | scale | stop | unstop | enterPhase | transition | fired | fault | load =>
    exact quiet rfl

end Represents

end Seedling.Apps
