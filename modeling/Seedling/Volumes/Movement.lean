import Seedling.Volumes.Custody

/-!
# Moving volume data

What a hold does to the directories and the held volumes (`onStore_holdInner`), what
starting a volume does (`startVolume_starts`), and what each kind of change keeps in
sight: rows that come or go, data that goes from one place to another
(`kept_moved_iff`), a directory that is removed, and a volume that is started.
-/

namespace Seedling.Volumes

open Function Foundation Instances Apps List VolumeName Option Session

/-! ## Calls that go through -/

namespace Session

def moves (os : Os) (volumes : Directory) (path : String) : Bool :=
  (volumes.dir path).isSome && (os .prepareHold).isNone && (os (.hold path)).isNone

theorem writeFiles_frame (os : Os) (path : String) (writes : List (String × String))
    (session : Session) :
    (session.writeFiles os path writes).2.held = session.held ∧ ∀ other, other ≠ path →
        (session.writeFiles os path writes).2.volumes.dir other = session.volumes.dir other := by
  induction writes generalizing session with
  | nil => exact ⟨rfl, fun _ _ => rfl⟩
  | cons write writes ih =>
    rw [writeFiles, writeFile, attempt]
    cases os (.write path write.1) with
    | some => exact ⟨rfl, fun _ _ => rfl⟩
    | none =>
      obtain ⟨held, dirs⟩ := ih
        { volumes := session.volumes.put path ((session.volumes.dir path).getD [] ++ [write])
          held := session.held
          journal := session.journal ++ [.write path write.1] }
      exact ⟨held, fun other distinct => (dirs other distinct).trans (update_of_ne distinct ..)⟩

/-- Where its directory is free, a volume is started by making it, or by renaming its
legacy directory to it. -/
structure Starts (canonical : String) (session after : Session) : Prop where
  held : after.held = session.held
  dirs : ∀ path contents, session.volumes.dir path = some contents →
    after.volumes.dir path = some contents ∨ after.volumes.dir canonical = some contents

theorem Starts.refl (canonical : String) (session : Session) : Starts canonical session session :=
  ⟨rfl, fun _ _ found => .inl found⟩

variable {session : Session}

theorem createDir_starts (os : Os) (canonical : String) (writes : List (String × String))
    (free : session.volumes.dir canonical = none) :
    Starts canonical session
      (match session.createDir os canonical with
        | (.error error, session) => (.error error, session)
        | (.ok (), session) => session.writeFiles os canonical writes :
          Except String Unit × Session).2 := by
  rw [createDir, attempt]
  cases os (.create canonical) with
  | some => exact .refl canonical session
  | none =>
    obtain ⟨held, dirs⟩ := writeFiles_frame os canonical writes
      { session with
        volumes := session.volumes.put canonical []
        journal := session.journal ++ [.create canonical] }
    refine ⟨held, fun path contents found => .inl ?_⟩
    have distinct : path ≠ canonical := by
      rintro rfl
      rw [free] at found
      cases found
    exact (dirs path distinct).trans ((update_of_ne distinct ..).trans found)

theorem startVolume_starts (os : Os) (app name : String) (writes : List (String × String))
    (free : session.volumes.dir (forApp app name) = none) :
    Starts (forApp app name) session
      (session.startVolume os app name false writes).2 := by
  have apart := legacyName_ne_forApp app name
  simp only [startVolume, migrateLegacy, if_neg apart]
  cases legacy : session.volumes.dir (legacyName app name) with
  | none =>
    simp only [exists', legacy, free, isSome_none, if_true]
    exact createDir_starts os _ writes free
  | some =>
    simp only [exists', legacy, isSome_some, Bool.true_eq_false, if_false, clearWay, free,
      renameDir, attempt]
    cases os (.rename (legacyName app name) (forApp app name)) with
    | some => exact .refl _ session
    | none =>
      simp only [Directory.put, update_self]
      refine ⟨rfl, fun path other found => ?_⟩
      by_cases moved : path = legacyName app name
      · subst moved
        rw [legacy] at found
        exact .inr ((update_self ..).trans found)
      · have distinct : path ≠ forApp app name := by
          rintro rfl
          rw [free] at found
          cases found
        exact .inl ((update_of_ne distinct ..).trans ((update_of_ne moved ..).trans found))

end Session

/-- Only the confirmed deletion of a held volume confirms one. -/
theorem Step.unconfirmed (step : Step) (other : ∀ id calls, step ≠ .deleteHeld id calls)
    (place : Place) : ¬ step.confirms place := by
  rintro ⟨id, calls, same, _⟩
  exact other id calls same

namespace Custody

/-- The state after the directory has been moved to the held volumes. -/
def heldAway (state : Custody) (path : String) (volume : HeldVolume) : Custody :=
  { state with
    volumes := state.volumes.drop path
    held := state.held ++ [⟨volume, true, volume.recorded⟩] }

def answerOf : Option String → Except String Unit
  | some error => .error error
  | none => .ok ()

/-- A hold fails and changes nothing, or moves the directory and answers as the writing
of its record does. -/
theorem onStore_holdInner (calls : Calls) (path displayName volumeName app reason : String)
    (state : Custody) :
    let result := state.onStore (·.holdInner calls.os path displayName volumeName app reason)
    let recorded := calls.os (.recordHold displayName)
    (moves calls.os state.volumes path = false ∧ ∃ error, result = (.error error, state)) ∨
      ∃ contents, moves calls.os state.volumes path ∧
        state.volumes.dir path = some contents ∧
        result = (answerOf recorded, state.heldAway path
            ⟨app, volumeName, displayName, reason, contents, recorded.isNone⟩) := by
  cases found : state.volumes.dir path with
  | none => simp [moves, onStore, holdInner, start, found]
  | some =>
    cases prepared : calls.os .prepareHold with
    | some =>
      simp [moves, onStore, holdInner, start, attempt, found, prepared]
    | none =>
      cases held : calls.os (.hold path) with
      | some =>
        simp [moves, onStore, holdInner, start, attempt, found, prepared, held]
      | none =>
        cases recorded : calls.os (.recordHold displayName) <;>
          simp [moves, onStore, holdInner, start, attempt,
            found, prepared, held, recorded, heldAway, answerOf]

variable {state : Custody}

theorem mem_listHeld {id : Nat} {volume : HeldVolume} :
    (id, volume) ∈ state.listHeld ↔ state.heldRecord id = some volume := by
  simp only [listHeld, mem_filterMap, mem_range, map_eq_some_iff, Prod.mk.injEq]
  constructor
  · rintro ⟨_, _, _, found, rfl, rfl⟩
    exact found
  · intro found
    refine ⟨id, ?_, volume, found, rfl, rfl⟩
    by_contra beyond
    rw [heldRecord, getElem?_eq_none (Nat.le_of_not_lt beyond)] at found
    cases found

theorem sees_held {id : Nat} : state.Sees (.held id) ↔ (state.heldRecord id).isSome := by
  simp [Sees, mem_listHeld, isSome_iff_exists]

/-! ## What the changes of a step keep in sight -/

section Shapes

variable {before after : Custody} {step : Step} {id : Nat}

theorem sees_held_congr (same : after.held[id]? = before.held[id]?) :
    after.Sees (.held id) ↔ before.Sees (.held id) := by
  simp [sees_held, heldRecord, same]

variable (unconfirmed : ∀ place, ¬ step.confirms place)
include unconfirmed

theorem kept_rows_iff (volumes : after.volumes = before.volumes) (held : after.held = before.held) :
    Kept step before after ↔
      ∀ path, before.exists' path → before.Owned path → after.Owned path := by
  have same : ∀ place, after.contentsAt place = before.contentsAt place := by
    intro place
    cases place <;> simp only [contentsAt, volumes, held]
  constructor
  · intro kept path present owned
    obtain ⟨contents, found⟩ := isSome_iff_exists.mp present
    rcases kept (.volume path) contents found owned (unconfirmed _) with
      ⟨_, seen⟩ | ⟨there, without, got, _⟩
    · exact seen
    · exact absurd ((same there).symm.trans got) without
  · intro owned place contents found seen _
    refine .inl ⟨(same place).trans found, ?_⟩
    cases place with
    | volume path => exact owned path (isSome_iff_exists.mpr ⟨contents, found⟩) seen
    | held => exact (sees_held_congr (by rw [held])).mpr seen

/-- Data has gone from one place to another that had none, and all else has stayed. -/
theorem kept_moved_iff {source target : Place} {contents : Contents}
    (here : before.contentsAt source = some contents) (gone : after.contentsAt source = none)
    (free : before.contentsAt target = none) (arrived : after.contentsAt target = some contents)
    (elsewhere : ∀ place, place ≠ source → place ≠ target →
      after.contentsAt place = before.contentsAt place)
    (seen : ∀ place, place ≠ source → place ≠ target → before.Sees place → after.Sees place) :
    Kept step before after ↔ (before.Sees source → after.Sees target) := by
  constructor
  · intro kept visible
    rcases kept source contents here visible (unconfirmed _) with
      ⟨there, _⟩ | ⟨there, without, got, shown⟩
    · rw [gone] at there
      cases there
    · by_cases isTarget : there = target
      · rwa [← isTarget]
      · have notSource : there ≠ source := by
          rintro rfl
          exact without here
        exact absurd ((elsewhere there notSource isTarget).symm.trans got) without
  · intro follows place other found visible _
    by_cases isSource : place = source
    · subst isSource
      obtain rfl : contents = other := some.inj (here.symm.trans found)
      exact .inr ⟨target, by simp [free], arrived, follows visible⟩
    · have notTarget : place ≠ target := by
        rintro rfl
        rw [free] at found
        cases found
      exact .inl ⟨(elsewhere place isSource notTarget).trans found,
        seen place isSource notTarget visible⟩

variable {path : String}

theorem kept_heldAway_iff {volume : HeldVolume}
    (found : before.volumes.dir path = some volume.contents)
    (volumes : after.volumes = before.volumes.drop path)
    (held : after.held = before.held ++ [⟨volume, true, volume.recorded⟩])
    (others : ∀ other, other ≠ path → before.Owned other → after.Owned other) :
    Kept step before after ↔ (before.Owned path → volume.recorded) := by
  have newest : after.held[before.held.length]? = some ⟨volume, true, volume.recorded⟩ := by
    rw [held, getElem?_concat_length]
  have older : ∀ id, id ≠ before.held.length → after.held[id]? = before.held[id]? := by
    intro id distinct
    rw [held]
    rcases Nat.lt_or_gt_of_ne distinct with below | above
    · exact getElem?_append_left below
    · rw [getElem?_eq_none (by simp; omega), getElem?_eq_none (by omega)]
  have listed : after.Sees (.held before.held.length) ↔ volume.recorded := by
    rw [sees_held, heldRecord, newest]
    simp
  have here : before.contentsAt (.volume path) = some volume.contents := found
  rw [← listed]
  refine kept_moved_iff unconfirmed here ?_ ?_ ?_ (fun place notSource notTarget => ?_)
    fun place notSource notTarget visible => ?_
  · simp [contentsAt, volumes, Directory.drop]
  · simp [contentsAt]
  · simp [contentsAt, newest]
  · cases place with
    | volume other =>
      have distinct : other ≠ path := fun same => notSource (congrArg Place.volume same)
      simp [contentsAt, volumes, Directory.drop, update_of_ne distinct]
    | held id => simp only [contentsAt, older id fun same => notTarget (congrArg Place.held same)]
  · cases place with
    | volume other =>
      exact others other (fun same => notSource (congrArg Place.volume same)) visible
    | held id =>
      exact (sees_held_congr (older id fun same => notTarget (congrArg Place.held same))).mpr
        visible

theorem kept_restored_iff {entry : HeldEntry} (found : before.held[id]? = some entry)
    (data : entry.data) (record : entry.record)
    (free : before.volumes.dir path = none)
    (volumes : after.volumes = before.volumes.put path entry.volume.contents)
    (emptied : after.contentsAt (.held id) = none)
    (held : ∀ other, other ≠ id → after.held[other]? = before.held[other]?)
    (owned : ∀ path, before.Owned path → after.Owned path) :
    Kept step before after ↔ after.Owned path := by
  have here : before.contentsAt (.held id) = some entry.volume.contents := by
    simp [contentsAt, found, data]
  have listed : before.Sees (.held id) := by
    rw [sees_held, heldRecord, found]
    simp [record]
  have absent : before.contentsAt (.volume path) = none := free
  refine Iff.trans (kept_moved_iff unconfirmed here emptied absent ?_
    (fun place notSource notTarget => ?_) fun place notSource notTarget visible => ?_)
    ⟨fun follows => follows listed, fun named _ => named⟩
  · simp [contentsAt, volumes, Directory.put]
  · cases place with
    | volume other =>
      have distinct : other ≠ path := fun same => notTarget (congrArg Place.volume same)
      simp [contentsAt, volumes, Directory.put, update_of_ne distinct]
    | held other =>
      simp only [contentsAt, held other fun same => notSource (congrArg Place.held same)]
  · cases place with
    | volume other => exact owned other visible
    | held other =>
      exact (sees_held_congr (held other fun same => notSource (congrArg Place.held same))).mpr
        visible

theorem kept_removed_iff (volumes : after.volumes = before.volumes.drop path)
    (held : after.held = before.held) (owned : ∀ other, before.Owned other → after.Owned other) :
    Kept step before after ↔ (before.exists' path → ¬ before.Owned path) := by
  have gone : after.contentsAt (.volume path) = none := by
    simp [contentsAt, volumes, Directory.drop]
  have elsewhere : ∀ place, place ≠ .volume path →
      after.contentsAt place = before.contentsAt place := by
    intro place distinct
    cases place with
    | volume other =>
      have apart : other ≠ path := fun same => distinct (congrArg Place.volume same)
      simp [contentsAt, volumes, Directory.drop, update_of_ne apart]
    | held => simp [contentsAt, held]
  constructor
  · intro kept present named
    obtain ⟨contents, found⟩ := isSome_iff_exists.mp present
    rcases kept (.volume path) contents found named (unconfirmed _) with
      ⟨there, _⟩ | ⟨there, without, got, _⟩
    · rw [gone] at there
      cases there
    · by_cases same : there = .volume path
      · rw [same, gone] at got
        cases got
      · exact without ((elsewhere there same).symm.trans got)
  · intro disowned place contents here seen _
    by_cases same : place = .volume path
    · subst same
      exact absurd seen (disowned (isSome_iff_exists.mpr ⟨contents, here⟩))
    · refine .inl ⟨(elsewhere place same).trans here, ?_⟩
      cases place with
      | volume other => exact owned other seen
      | held => exact (sees_held_congr (by rw [held])).mpr seen

omit unconfirmed

theorem kept_confirmed {calls : Calls} (volumes : after.volumes = before.volumes)
    (held : ∀ other, other ≠ id → after.held[other]? = before.held[other]?)
    (owned : ∀ path, before.Owned path → after.Owned path) :
    Kept (.deleteHeld id calls) before after := by
  intro place contents here seen unconfirmed
  cases place with
  | volume path => exact .inl ⟨by rwa [contentsAt, volumes], owned path seen⟩
  | held other =>
    have distinct : other ≠ id := by
      rintro rfl
      exact unconfirmed ⟨other, calls, rfl, rfl⟩
    exact .inl ⟨by rwa [contentsAt, held other distinct],
      (sees_held_congr (held other distinct)).mpr seen⟩

theorem kept_refl (step : Step) (state : Custody) : Kept step state state :=
  fun _ _ here seen _ => .inl ⟨here, seen⟩

/-- Starting a volume whose directory is free keeps in sight what was; if its directory
was not free before the step, what was there is held by now. -/
theorem kept_startVolume {middle : Custody} {volume : DesiredVolume} (calls : Calls)
    (kept : Kept step before middle) (onDisk : volume.tmpfs = false)
    (recorded : middle.instances (volume.app, volume.name))
    (free : middle.volumes.dir (forApp volume.app volume.name) = none)
    (vacated : ∀ contents, before.volumes.dir (forApp volume.app volume.name) = some contents →
        ∃ id, before.contentsAt (.held id) ≠ some contents ∧
          middle.contentsAt (.held id) = some contents ∧ middle.Sees (.held id)) :
    Kept step before (middle.startVolume calls volume) := by
  have starts : Session.Starts _ (.start middle.volumes) _ :=
    startVolume_starts calls.os volume.app volume.name volume.writes free
  rw [← onDisk] at starts
  obtain ⟨held, dirs⟩ := starts
  have entries : (middle.startVolume calls volume).held = middle.held := by
    simp only [Custody.startVolume, onStore]
    rw [held, start, map_nil, append_nil]
  have heldContents : ∀ id, (middle.startVolume calls volume).contentsAt (.held id) =
      middle.contentsAt (.held id) := by
    simp [contentsAt, entries]
  have listed : ∀ id, middle.Sees (.held id) →
      (middle.startVolume calls volume).Sees (.held id) := by
    intro id seen
    exact (sees_held_congr (by rw [entries])).mpr seen
  have named : (middle.startVolume calls volume).Owned (forApp volume.app volume.name) :=
    .inl ⟨volume.app, volume.name, recorded, rfl⟩
  -- What a directory held goes to the volume's own, unless it stays.
  have settled : ∀ path contents, middle.volumes.dir path = some contents →
      (middle.startVolume calls volume).contentsAt (.volume path) = some contents ∨
        ∃ there, before.contentsAt there ≠ some contents ∧
          (middle.startVolume calls volume).contentsAt there = some contents ∧
          (middle.startVolume calls volume).Sees there := by
    intro path contents found
    rcases dirs path contents found with stays | goes
    · exact .inl stays
    · right
      by_cases had : before.volumes.dir (forApp volume.app volume.name) = some contents
      · obtain ⟨id, without, got, seen⟩ := vacated contents had
        exact ⟨.held id, without, (heldContents id).trans got, listed id seen⟩
      · exact ⟨.volume _, had, goes, named⟩
  intro place contents here seen unconfirmed
  rcases kept place contents here seen unconfirmed with
    ⟨there, visible⟩ | ⟨there, without, got, visible⟩
  · cases place with
    | volume path =>
      exact (settled path contents there).imp_left fun stays => ⟨stays, visible⟩
    | held id => exact .inl ⟨(heldContents id).trans there, listed id visible⟩
  · cases there with
    | volume path =>
      rcases settled path contents got with stays | goes
      · exact .inr ⟨.volume path, without, stays, visible⟩
      · exact .inr goes
    | held id => exact .inr ⟨.held id, without, (heldContents id).trans got, listed id visible⟩

end Shapes

/-! ## Rows -/

def withoutInstance (state : Custody) (app name : String) : Custody :=
  { state with instances := update state.instances (app, name) false }

variable {name path : String}

theorem owned_withoutInstance {app : String} (distinct : path ≠ forApp app name)
    (owned : state.Owned path) :
    (state.withoutInstance app name).Owned path := by
  rcases owned with ⟨other, volume, recorded, same⟩ | site
  · refine .inl ⟨other, volume, (update_of_ne ?_ ..).trans recorded, same⟩
    rintro ⟨⟩
    exact distinct same.symm
  · exact .inr site

theorem owned_withoutSite (spared : path ≠ siteVolumeDir name ∨ state.sites name ≠ some .managed)
    (owned : state.Owned path) :
    { state with sites := update state.sites name none }.Owned path := by
  rcases owned with instances | ⟨other, recorded, same⟩
  · exact .inl instances
  · refine .inr ⟨other, (update_of_ne ?_ ..).trans recorded, same⟩
    rintro rfl
    rcases spared with distinct | unmanaged
    · exact distinct same.symm
    · exact unmanaged recorded

theorem owned_withSite (free : state.sites name = none) (owned : state.Owned path) :
    { state with sites := update state.sites name (some .managed) }.Owned path := by
  rcases owned with instances | ⟨other, recorded, same⟩
  · exact .inl instances
  · refine .inr ⟨other, (update_of_ne ?_ ..).trans recorded, same⟩
    rintro rfl
    rw [free] at recorded
    cases recorded

end Custody

end Seedling.Volumes
