import Seedling.Volumes.Phases

/-!
# When a volume is used with its declared files in it

A container that starts on a newly made volume, and a record that the volume is
ready, should find every declared write applied.  `starts_find_writes` says when
that holds of a whole run of ticks: a pod must not make the directory of a volume
with writes, and nothing may start, fail or stop while the writes are under way.
`starts_without_writes` has a run for each way it goes wrong.
-/

namespace Seedling.Volumes.Seeding

open Foundation List VolumePoint

/-! ## What a use finds -/

/-- A use of a newly made volume finds every declared write applied. -/
def Event.Seeded (writes : List (String × String)) (event : Event) : Prop :=
  event.newlyMade → ∀ files, event.files = some files → ∀ write ∈ writes, write ∈ files

/-- The step does not cut into the writes: a pod does not make the directory of a
volume that has any, and while the volume phase has writes left to apply no call of
it fails, the daemon does not stop and no pod starts. -/
def Orderly (volume : Declared) (state : State) : Step → Prop
  | .volume answer => answer = .failed → state.outstanding = []
  | .pod position ok =>
    match state.pods[position]? with
    | some ⟨_, .createVolume⟩ => ok → state.present volume ∨ volume.writes = []
    | some ⟨_, .startUnit⟩ => ok → state.outstanding = []
    | _ => True
  | .stop => state.outstanding = []
  | _ => True

/-- What an orderly run keeps: the writes a newly made directory lacks are those
still to be applied, and every use so far found all of them. -/
structure Sound (volume : Declared) (state : State) : Prop where
  covered : state.newlyMade → ∀ files, state.files volume = some files →
    ∀ write ∈ volume.writes, write ∈ files ∨ write ∈ state.outstanding
  logged : ∀ event ∈ state.log, event.Seeded volume.writes

section Steps

variable {volume : Declared} {state after : State} (sound : Sound volume state)
include sound

/-- With no writes outstanding, a step that leaves the directory alone may go
anywhere. -/
theorem Sound.settled (none : state.outstanding = [])
    (newlyMade : after.newlyMade = state.newlyMade)
    (files : after.files volume = state.files volume) (log : after.log = state.log) :
    Sound volume after where
  covered made found there write declared := by
    have applied := sound.covered (newlyMade ▸ made) found (files ▸ there) write declared
    rw [none] at applied
    exact .inl (applied.resolve_right (not_mem_nil))
  logged := log ▸ sound.logged

theorem Sound.aside (newlyMade : after.newlyMade = state.newlyMade)
    (files : after.files volume = state.files volume) (task : after.task = state.task)
    (log : after.log = state.log) : Sound volume after where
  covered made found there write declared := by
    have applied := sound.covered (newlyMade ▸ made) found (files ▸ there) write declared
    rwa [State.outstanding, task]
  logged := log ▸ sound.logged

theorem Sound.absent (files : after.files volume = none) (log : after.log = state.log) :
    Sound volume after where
  covered _ found there := by rw [files] at there; cases there
  logged := log ▸ sound.logged

theorem Sound.note (none : state.outstanding = []) (use : Use) :
    Sound volume (state.note volume use) where
  covered := sound.covered
  logged event mem := by
    rcases mem_append.mp mem with before | now
    · exact sound.logged event before
    · cases mem_singleton.mp now
      intro made files there write declared
      have applied := sound.covered made files there write declared
      rw [none] at applied
      exact applied.resolve_right not_mem_nil

variable {task : VolumeTask}

omit sound in
theorem outstanding_of_task (here : state.task = some task) :
    state.outstanding = task.point.rest := by
  rw [State.outstanding, here]

theorem Sound.create (task : VolumeTask) :
    Sound volume ((state.create volume).goto task (.write volume.writes)) where
  covered _ _ _ _ declared := .inr declared
  logged := by
    rw [State.create]
    split
    · exact sound.logged
    · exact sound.logged

theorem Sound.write {write : String × String} {rest : List (String × String)} {files : Contents}
    (here : state.task = some task) (point : task.point = .write (write :: rest))
    (there : state.files volume = some files) :
    Sound volume
      (({ state with
          volumes := state.volumes.put volume.canonical (files ++ [write]) } : State).goto task
        (.write rest)) where
  covered made found after other declared := by
    have now : found = files ++ [write] :=
      Option.some.inj (after.symm.trans (files_put state (files ++ [write])))
    have before := sound.covered made files there other declared
    rw [outstanding_of_task here, point, VolumePoint.rest, mem_cons] at before
    subst now
    rcases before with applied | rfl | later
    · exact .inl (mem_append_left _ applied)
    · exact .inl (mem_append_right _ mem_cons_self)
    · exact .inr later
  logged := sound.logged

theorem Sound.goto (here : state.task = some task) (away : task.point.rest = []) (next : VolumeTask)
    (point : VolumePoint) :
    Sound volume (state.goto next point) :=
  sound.settled ((outstanding_of_task here).trans away) rfl rfl rfl

omit sound in
theorem volumeCall_sound (answer : Answer) (here : state.task = some task)
    (sound : Sound volume state) : Sound volume (volumeCall volume answer task state) := by
  have goto := sound.goto here
  rw [volumeCall]
  cases point : task.point with
  | observe | recordHold | find => exact goto (by simp [point, rest]) _ _
  | hold reason =>
    have away : task.point.rest = [] := by simp [point, rest]
    simp only
    split
    · exact sound.absent (files_drop state) rfl
    · cases reason with
      | backendChanged | legacyMigration => exact goto away _ _
  | findLegacy =>
    have away : task.point.rest = [] := by simp [point, rest]
    simp only
    split
    · exact goto away _ _
    · split
      · exact goto away _ _
      · exact goto away _ _
  | readCanonical =>
    have away : task.point.rest = [] := by simp [point, rest]
    simp only
    split
    · exact goto away _ _
    · exact goto away _ _
    · exact goto away _ _
  | clearCanonical | remove => exact sound.absent (files_drop state) rfl
  | renameLegacy =>
    -- what was moved into place is not newly made
    simp only
    split
    · exact ⟨nofun, sound.logged⟩
    · exact ⟨nofun, sound.logged⟩
    · exact goto (by simp [point, rest]) _ _
  | create => exact sound.create task
  | write rest =>
    cases rest with
    | nil => exact goto (by simp [point, rest]) _ _
    | cons write rest =>
      simp only
      split
      · rename_i absent
        exact sound.absent absent rfl
      · rename_i files there
        exact sound.write here point there
  | done => exact sound

omit sound in
theorem volumeStep_sound (answer : Answer)
    (orderly : answer = .failed → state.outstanding = []) (sound : Sound volume state) :
    Sound volume (volumeStep volume answer state) := by
  rw [volumeStep]
  cases here : state.task with
  | none => exact sound
  | some task =>
    simp only
    split
    · rename_i failed
      exact sound.settled (orderly failed) rfl rfl rfl
    · exact volumeCall_sound answer here sound

theorem Sound.createBare (bare : state.present volume ∨ volume.writes = []) :
    Sound volume (state.create volume) := by
  rw [State.create]
  rcases bare with present | empty
  · rw [if_pos present]
    exact sound
  · split
    · exact sound
    · refine ⟨fun _ _ _ write declared => ?_, sound.logged⟩
      rw [empty] at declared
      cases declared

omit sound in
theorem podStep_sound (position : Nat) (ok : Bool)
    (orderly : Orderly volume state (.pod position ok)) (sound : Sound volume state) :
    Sound volume (podStep volume position ok state) := by
  have aside (other : State) (pods : List PodTask) (sound : Sound volume other) :
      Sound volume { other with pods := pods } := sound.aside rfl rfl rfl rfl
  rw [podStep]
  cases here : state.pods[position]? with
  | none => exact sound
  | some task =>
    cases ok with
    | false => exact aside _ _ sound
    | true =>
      obtain ⟨pod, point⟩ := task
      simp only [Orderly, here] at orderly
      cases point with
      | findVolume => exact aside _ _ sound
      | createVolume => exact aside _ _ (sound.createBare (orderly trivial))
      | startUnit => exact aside _ _ (sound.note (orderly trivial) _)
      | done => exact sound

theorem record_sound : Sound volume (record volume state) := by
  rw [record]
  split
  · rename_i both
    have none : state.outstanding = [] := by
      rw [State.outstanding]
      cases here : state.task with
      | none => rfl
      | some task =>
        have done : task.point = .done := by simpa [here] using both.1
        simp [done, rest]
    split
    · exact (sound.note none .recordedReady).settled none rfl rfl rfl
    · exact sound.settled none rfl rfl rfl
  · exact sound

omit sound

theorem step_sound (label : Step) (orderly : Orderly volume state label)
    (sound : Sound volume state) : Sound volume (step volume state label) := by
  cases label with
  | tick desired pods =>
    rw [step]
    split
    · rename_i idle
      have none : state.outstanding = [] := by
        rw [State.outstanding, Option.isNone_iff_eq_none.mp idle.1]
      exact sound.settled none rfl rfl rfl
    · exact sound
  | volume answer => exact volumeStep_sound answer orderly sound
  | pod position ok => exact podStep_sound position ok orderly sound
  | record => exact record_sound sound
  | stop => exact sound.settled orderly rfl rfl rfl
  | containerWrite file =>
    rw [step]
    split
    · exact sound
    · rename_i files there
      refine ⟨fun made found after write declared => ?_, sound.logged⟩
      have now : found = files ++ [file] := Option.some.inj (after.symm.trans (files_put state _))
      exact (sound.covered made files there write declared).imp_left
        fun applied => now ▸ mem_append_left _ applied
  | elsewhere path contents =>
    simp only [step]
    split
    · exact sound
    · rename_i other
      cases contents with
      | none =>
        exact sound.aside rfl (by simp [State.files, Directory.drop, Ne.symm other]) rfl rfl
      | some =>
        exact sound.aside rfl (by simp [State.files, Directory.put, Ne.symm other]) rfl rfl

end Steps

/-! ## Runs -/

/-- **Every use finds the writes.**  In a run whose steps are orderly, every
container started on a newly made volume, and every record that it is ready, found
each of the volume's declared writes applied. -/
theorem starts_find_writes (volume : Declared) (volumes : Directory) (steps : List Step)
    (orderly : (machine volume).Along (Orderly volume) (State.initial volumes) steps) :
    ∀ event ∈ ((machine volume).run (State.initial volumes) steps).log,
      event.Seeded volume.writes :=
  ((machine volume).run_preserves (I := Sound volume)
    (fun _ label sound orderly => step_sound label orderly sound) _ steps orderly
    ⟨nofun, nofun⟩).logged

def shopData : Declared := ⟨"shop", "data", [("conf", "port=80")]⟩

/-- A tick in which the volume phase runs first, and the tick after it. -/
def calmSteps : List Step :=
  [.tick (some .ready) ["web"]] ++ List.replicate 6 (.volume .ok) ++
    [.pod 0 true, .pod 0 true, .record, .tick (some .ready) [], .volume .ok, .record]

/-- Both the container and the record that the volume is ready find the file. -/
theorem calmSteps_find_writes :
    (((machine shopData).run (State.initial .empty) calmSteps).log.map Event.use =
        [.started "web", .recordedReady]) ∧
      ∀ event ∈ ((machine shopData).run (State.initial .empty) calmSteps).log,
        event.Seeded shopData.writes :=
  ⟨by decide, starts_find_writes shopData .empty calmSteps
      ⟨trivial, nofun, nofun, nofun, nofun, nofun, nofun, trivial, fun _ => rfl, trivial, trivial,
        nofun, trivial, trivial⟩⟩

/-- The pod phase runs first: the pod makes the directory and its container starts
in it, and the volume phase leaves the directory it then finds as it is. -/
def podFirstSteps : List Step :=
  [.tick (some .ready) ["web"], .pod 0 true, .pod 0 true, .pod 0 true, .volume .ok, .record]

/-- The volume phase makes the directory and fails at the write: the next tick finds
it there. -/
def failedWriteSteps : List Step :=
  [.tick (some .ready) []] ++ List.replicate 4 (.volume .ok) ++
    [.volume .failed, .record, .tick (some .ready) ["web"], .volume .ok, .pod 0 true, .pod 0 true,
      .record]

/-- Either way a container starts on the newly made volume, and the volume is
recorded ready, without the declared file. -/
theorem starts_without_writes : ((machine shopData).run (State.initial .empty) podFirstSteps).log =
        [⟨.started "web", true, some []⟩, ⟨.recordedReady, true, some []⟩] ∧
      ((machine shopData).run (State.initial .empty) failedWriteSteps).log =
        [⟨.started "web", true, some []⟩, ⟨.recordedReady, true, some []⟩] ∧
      ¬ Event.Seeded shopData.writes ⟨.started "web", true, some []⟩ ∧
      ¬ Event.Seeded shopData.writes ⟨.recordedReady, true, some []⟩ := by
  refine ⟨by decide, by decide, fun seeded => ?_, fun seeded => ?_⟩
  · exact not_mem_nil (seeded rfl [] rfl _ mem_cons_self)
  · exact not_mem_nil (seeded rfl [] rfl _ mem_cons_self)

end Seedling.Volumes.Seeding
