import Seedling.Volumes.Movement

/-!
# Volume data in sight

Data is in sight in the directory of a recorded volume and as a listed held volume.  It drops
out of sight when a volume is held and its record is not written, when an update deletes the
row of a volume it failed to hold, when a restored volume is moved to its directory and its
row is not written, and when a snapshot is removed whose directory is also that of a recorded
volume.  There are no other ways (`kept_iff`, `data_stays_in_sight_iff`).
-/

namespace Seedling.Volumes

open Function Foundation Instances Apps List Session VolumeName Option

namespace Custody

/-! ## When a step is safe -/

/-- The held volume's data can be moved to the site volume's directory, and is. -/
def restores (calls : Calls) (id : Nat) (name : String) (state : Custody) : Bool :=
  (state.contentsAt (.held id)).isSome && !state.exists' (siteVolumeDir name) &&
    (calls (.readRecord id)).isNone && (calls (.restoreData id name)).isNone

/-- The site volume whose directory a held volume's data is moved to, if it is moved. -/
def restoreTarget (calls : Calls) (id : Nat) (target : Option BslName) (state : Custody) :
    Option String :=
  match calls .listHeld, state.heldRecord id with
  | none, some held =>
    match restoreName held target with
    | .error _ => none
    | .ok name =>
      if (checkSiteVolumeName name).isOk && (calls (.getSite name)).isNone &&
          (state.sites name).isNone && state.restores calls id name then some name
      else none
  | _, _ => none

/-- A hold that moves the directory also writes the record. -/
def RecordsHold (state : Custody) (calls : Calls) (path : String) : Prop :=
  Session.moves calls.os state.volumes path → calls.os (.recordHold path) = none

def Holds (state : Custody) (volume : DesiredVolume) : Prop :=
  volume.tmpfs = false ∧ state.instances (volume.app, volume.name) ∧
    (volume.desired = .ready ∧ volume.backendDiffers ∨ volume.desired = .unscheduled)

/-- The step leaves no data out of sight. -/
def Safe (state : Custody) : Step → Prop
  | .dropVolume app name calls =>
    calls (.findInstances app name) = none → state.instances (app, name) →
      state.RecordsHold calls (VolumeName.forApp app name) ∧
        (Session.moves calls.os state.volumes (VolumeName.forApp app name) = false →
          state.exists' (VolumeName.forApp app name) →
          calls (.deleteInstance app name) = none →
            (state.withoutInstance app name).Owned (VolumeName.forApp app name))
  | .processVolume volume calls =>
    state.Holds volume → state.RecordsHold calls (VolumeName.forApp volume.app volume.name)
  | .deleteSite name calls =>
    calls (.getSite name) = none →
      (state.sites name = some .managed → state.RecordsHold calls (siteVolumeDir name)) ∧
        (state.sites name = some .snapshot → state.exists' (siteVolumeDir name) →
          calls.os (.remove (siteVolumeDir name)) = none → ¬ state.Owned (siteVolumeDir name))
  | .restoreHeld id target calls =>
    ∀ name, state.restoreTarget calls id target = some name →
      calls (.removeRecord id) = none ∧ calls (.createSite name) = none ∨
        state.Owned (siteVolumeDir name)
  | .deleteHeld .. => True

variable {state : Custody} {path : String}

theorem recordsHold_of_missing {calls : Calls} (missing : state.exists' path = false) :
    state.RecordsHold calls path := by
  intro moves
  have present : (state.volumes.dir path).isSome := by
    simp only [Session.moves, Bool.and_eq_true] at moves
    exact moves.1.1
  rw [exists', present] at missing
  cases missing

/-! ## Each step -/

theorem kept_hold_iff {step : Step} (unconfirmed : ∀ place, ¬ step.confirms place) (calls : Calls)
    (volumeName app reason : String) (owned : state.Owned path) :
    Kept step state (state.onStore (·.holdInner calls.os path path volumeName app reason)).2 ↔
      state.RecordsHold calls path := by
  rcases onStore_holdInner calls path path volumeName app reason state with
    ⟨stays, _, same⟩ | ⟨contents, moves, found, away⟩
  · rw [same]
    exact iff_of_true (kept_refl _ _) (by simp [RecordsHold, stays])
  · rw [away]
    refine Iff.trans (kept_heldAway_iff unconfirmed found rfl rfl fun _ _ holds => holds) ?_
    simp [RecordsHold, moves, owned]

/-- A volume is held, and once its record is written the step goes on. -/
theorem kept_holdThen_iff {Result : Type} {step : Step} (view : Result → Custody)
    (unconfirmed : ∀ place, ¬ step.confirms place) (calls : Calls) (volumeName app reason : String)
    (owned : state.Owned path) {failed : String → Custody → Result} {done : Custody → Result}
    (unchanged : ∀ error state, view (failed error state) = state)
    (goesOn : ∀ contents, state.volumes.dir path = some contents →
      Kept step state (state.heldAway path ⟨app, volumeName, path, reason, contents, true⟩) →
        Kept step state (view
          (done (state.heldAway path ⟨app, volumeName, path, reason, contents, true⟩)))) :
    Kept step state (view
        (match state.onStore (·.holdInner calls.os path path volumeName app reason) with
        | (.error error, state) => failed error state
        | (.ok (), state) => done state)) ↔
      state.RecordsHold calls path := by
  have held := kept_hold_iff unconfirmed calls volumeName app reason owned
  rcases onStore_holdInner calls path path volumeName app reason state with
    ⟨_, error, same⟩ | ⟨contents, _, found, away⟩
  · rw [same] at held ⊢
    rwa [unchanged]
  · rw [away] at held ⊢
    cases written : calls.os (.recordHold path) with
    | some =>
      rw [written] at held
      simp only [answerOf, unchanged]
      exact held
    | none =>
      rw [written] at held
      have safe : state.RecordsHold calls path := fun _ => written
      exact iff_of_true (goesOn contents found (held.mpr safe)) safe

variable (calls : Calls)
include calls

theorem kept_dropVolume_iff (app name : String) (state : Custody) :
    Kept (.dropVolume app name calls) state (state.dropVolume calls app name) ↔
      state.Safe (.dropVolume app name calls) := by
  have unconfirmed := (Step.dropVolume app name calls).unconfirmed (by simp)
  by_cases concerned : calls (.findInstances app name) = none ∧ state.instances (app, name)
  · obtain ⟨read, recorded⟩ := concerned
    have owned : state.Owned (forApp app name) := .inl ⟨app, name, recorded, rfl⟩
    simp only [Safe, read, recorded, dropVolume]
    rcases onStore_holdInner calls (forApp app name) (forApp app name)
      (forApp app name) app "removed from app definition" state with
      ⟨stays, error, same⟩ | ⟨contents, moves, found, away⟩
    · -- The directory stays, whatever becomes of its row.
      rw [hold, same]
      simp only [RecordsHold, stays, Bool.false_eq_true, false_implies, true_and]
      cases deleted : calls (.deleteInstance app name) with
      | some => exact iff_of_true (kept_refl _ _) (by simp)
      | none =>
        simp only [forall_const]
        refine Iff.trans (kept_rows_iff unconfirmed rfl rfl)
          ⟨fun kept present => ?_, fun named => ?_⟩
        · exact kept _ present owned
        · intro path present owned
          by_cases here : path = forApp app name
          · exact here ▸ named (here ▸ present)
          · exact owned_withoutInstance here owned
    · simp only [RecordsHold, moves]
      rw [hold, away]
      cases calls (.deleteInstance app name) with
      | some =>
        refine Iff.trans (kept_heldAway_iff unconfirmed found rfl rfl fun _ _ holds => holds) ?_
        simp [owned]
      | none =>
        refine Iff.trans (kept_heldAway_iff unconfirmed found rfl rfl fun _ distinct holds =>
          owned_withoutInstance distinct holds) ?_
        simp [owned]
  · have idle : state.dropVolume calls app name = state := by
      rw [dropVolume, if_neg]
      simpa using concerned
    rw [idle]
    exact iff_of_true (kept_refl _ _) fun read recorded => absurd ⟨read, recorded⟩ concerned

variable (volume : DesiredVolume)

/-- A volume whose storage backend changed is held, and made anew if that went well. -/
theorem kept_recreate_iff (onDisk : volume.tmpfs = false)
    (recorded : state.instances (volume.app, volume.name)) :
    Kept (.processVolume volume calls) state
        (match state.hold calls (forApp volume.app volume.name) volume.app
          "storage backend changed" with
        | (.error _, state) => state
        | (.ok (), state) => state.startVolume calls volume) ↔
      state.RecordsHold calls (forApp volume.app volume.name) := by
  have unconfirmed := (Step.processVolume volume calls).unconfirmed (by simp)
  refine kept_holdThen_iff id unconfirmed calls _ _ _
    (.inl ⟨volume.app, volume.name, recorded, rfl⟩) (fun _ _ => rfl) fun contents found kept => ?_
  refine kept_startVolume calls kept onDisk recorded ?_ fun other had => ?_
  · simp [heldAway, Directory.drop]
  · obtain rfl : contents = other := some.inj (found.symm.trans had)
    refine ⟨state.held.length, ?_, ?_, ?_⟩
    · simp [contentsAt]
    · simp [contentsAt, heldAway]
    · rw [sees_held]
      simp [heldRecord, heldAway]

theorem kept_processVolume_iff (state : Custody) :
    Kept (.processVolume volume calls) state (state.processOneVolume calls volume) ↔
      state.Safe (.processVolume volume calls) := by
  have unconfirmed := (Step.processVolume volume calls).unconfirmed (by simp)
  simp only [Safe]
  by_cases concerned : volume.tmpfs = false ∧ state.instances (volume.app, volume.name)
  · obtain ⟨onDisk, recorded⟩ := concerned
    have owned : state.Owned (forApp volume.app volume.name) :=
      .inl ⟨volume.app, volume.name, recorded, rfl⟩
    -- With no directory there is nothing to hold, and making one hides nothing.
    have started : state.exists' (forApp volume.app volume.name) = false →
        Kept (.processVolume volume calls) state (state.startVolume calls volume) := by
      intro missing
      have free : state.volumes.dir (forApp volume.app volume.name) = none := by
        simpa [exists'] using missing
      exact kept_startVolume calls (kept_refl _ _) onDisk recorded free fun _ found => by
        rw [free] at found
        cases found
    simp only [processOneVolume, onDisk, recorded, Holds, true_and]
    cases volume.desired with
    | ready =>
      by_cases missing : state.exists' (forApp volume.app volume.name) = false
      · simp only [missing]
        exact iff_of_true (started missing) fun _ => recordsHold_of_missing missing
      · have present := Bool.of_not_eq_false missing
        cases volume.backendDiffers with
        | false =>
          simp only [present]
          exact iff_of_true (kept_refl _ _) (by simp)
        | true =>
          simp only [present, reduceCtorEq, and_self, or_false,
            forall_const]
          exact kept_recreate_iff calls volume onDisk recorded
    | unscheduled =>
      by_cases missing : state.exists' (forApp volume.app volume.name) = false
      · simp only [missing]
        exact iff_of_true (kept_refl _ _) fun _ => recordsHold_of_missing missing
      · have present := Bool.of_not_eq_false missing
        simp only [present, Bool.true_and, Bool.not_or_self, or_true, forall_const]
        exact kept_hold_iff unconfirmed calls _ _ _ owned
    | _ => exact iff_of_true (kept_refl _ _) (by simp)
  · have idle : state.processOneVolume calls volume = state := by
      rw [processOneVolume, if_pos]
      simpa [Classical.or_iff_not_imp_left] using concerned
    rw [idle]
    exact iff_of_true (kept_refl _ _) fun holds => absurd ⟨holds.1, holds.2.1⟩ concerned

variable (name : String)

theorem deleteSiteRow_cases (state : Custody) :
    (state.deleteSiteRow calls name).2 = state ∨ (state.deleteSiteRow calls name).2 =
        { state with sites := update state.sites name none } := by
  rw [deleteSiteRow]
  cases calls (.deleteSite name) with
  | some => exact .inl rfl
  | none => exact .inr rfl

theorem deleteSiteRow_frame (state : Custody) :
    (state.deleteSiteRow calls name).2.volumes = state.volumes ∧
      (state.deleteSiteRow calls name).2.held = state.held := by
  rcases deleteSiteRow_cases calls name state with same | same <;> rw [same] <;> exact ⟨rfl, rfl⟩

theorem kept_deleteManaged_iff {name : String} (kind : state.sites name = some .managed) :
    Kept (.deleteSite name calls) state
        (match state.holdSite calls name "site volume deleted by operator" with
        | (.error error, state) =>
          (.error ⟨.internal, s!"failed to hold site volume for review: {error}"⟩, state)
        | (.ok (), state) => state.deleteSiteRow calls name : Except OiError Unit × Custody).2 ↔
      state.RecordsHold calls (siteVolumeDir name) := by
  have unconfirmed := (Step.deleteSite name calls).unconfirmed (by simp)
  refine kept_holdThen_iff Prod.snd unconfirmed calls _ _ _ (.inr ⟨name, kind, rfl⟩)
    (fun _ _ => rfl) fun contents found kept => ?_
  rcases deleteSiteRow_cases calls name (state.heldAway (siteVolumeDir name)
    ⟨"_site", name, siteVolumeDir name, "site volume deleted by operator", contents, true⟩)
    with stays | goes
  · rwa [stays]
  · rw [goes]
    refine Iff.mpr (kept_heldAway_iff unconfirmed found rfl rfl ?_) fun _ => rfl
    exact fun _ distinct holds => owned_withoutSite (.inl distinct) holds

theorem kept_deleteSnapshot_iff {name : String} (kind : state.sites name = some .snapshot) :
    Kept (.deleteSite name calls) state
        (match state.onStore (·.removeDir calls.os (siteVolumeDir name)) with
        | (.error error, state) =>
          (.error ⟨.internal, s!"failed to remove site snapshot: {error}"⟩, state)
        | (.ok (), state) => state.deleteSiteRow calls name : Except OiError Unit × Custody).2 ↔
      (state.exists' (siteVolumeDir name) →
        calls.os (.remove (siteVolumeDir name)) = none → ¬ state.Owned (siteVolumeDir name)) := by
  have unconfirmed := (Step.deleteSite name calls).unconfirmed (by simp)
  have spared : ∀ {after : Custody}, after.sites = state.sites → after.instances = state.instances →
      ∀ path, state.Owned path → (after.deleteSiteRow calls name).2.Owned path := by
    intro after sites instances path owned
    have same : after.Owned path := by simpa only [Owned, sites, instances] using owned
    rcases deleteSiteRow_cases calls name after with stays | goes
    · rwa [stays]
    · rw [goes]
      exact owned_withoutSite (.inr (by simp [sites, kind])) same
  by_cases missing : state.exists' (siteVolumeDir name) = false
  · have idle : state.onStore (·.removeDir calls.os (siteVolumeDir name)) = (.ok (), state) := by
      have absent : (start state.volumes).exists' (siteVolumeDir name) = false := missing
      simp only [onStore, removeDir, absent]
      simp [start]
    rw [idle]
    refine iff_of_true ?_ (by simp [missing])
    obtain ⟨volumes, held⟩ := deleteSiteRow_frame calls name state
    exact (kept_rows_iff unconfirmed volumes held).mpr fun path _ => spared rfl rfl path
  · have present := Bool.of_not_eq_false missing
    have there : (start state.volumes).exists' (siteVolumeDir name) := present
    simp only [onStore, removeDir, there, if_true, attempt]
    cases removed : calls.os (.remove (siteVolumeDir name)) with
    | some =>
      refine iff_of_true ?_ (by simp)
      simp only [start, map_nil, append_nil]
      exact kept_refl _ _
    | none =>
      simp only [start, map_nil, append_nil]
      obtain ⟨volumes, held⟩ := deleteSiteRow_frame calls name
        { state with volumes := state.volumes.drop (siteVolumeDir name) }
      refine Iff.trans (kept_removed_iff unconfirmed volumes held (spared rfl rfl)) ?_
      simp [present]

theorem kept_deleteSite_iff (state : Custody) :
    Kept (.deleteSite name calls) state (state.deleteSiteVolume calls name).2 ↔
      state.Safe (.deleteSite name calls) := by
  have unconfirmed := (Step.deleteSite name calls).unconfirmed (by simp)
  simp only [Safe, deleteSiteVolume]
  cases calls (.getSite name) with
  | some => exact iff_of_true (kept_refl _ _) (by simp)
  | none =>
    simp only [forall_const]
    rcases kind : state.sites name with _ | _ | _ | _
    · exact iff_of_true (kept_refl _ _) (by simp)
    · simp only [some.injEq, reduceCtorEq, false_implies, and_true, forall_const]
      exact kept_deleteManaged_iff calls kind
    · -- The data of a bind volume is not in the volumes directory.
      simp only [some.injEq, reduceCtorEq, false_implies, and_true, iff_true]
      rcases deleteSiteRow_cases calls name state with stays | goes
      · rw [stays]
        exact kept_refl _ _
      · rw [goes]
        refine Iff.mpr (kept_rows_iff unconfirmed rfl rfl) fun path _ holds => ?_
        exact owned_withoutSite (.inr (by simp [kind])) holds
    · simp only [some.injEq, reduceCtorEq, false_implies, true_and, forall_const]
      exact kept_deleteSnapshot_iff calls kind

omit calls in
/-- The directory entry of a held volume after its data, and perhaps its record, went. -/
theorem held_dropData {id other : Nat} (distinct : other ≠ id) :
    (state.dropData id).held[other]? = state.held[other]? ∧
      ((state.dropData id).dropRecord id).held[other]? = state.held[other]? := by
  simp [dropData, dropRecord, distinct.symm]

omit calls in
theorem contentsAt_dropData (state : Custody) (id : Nat) :
    (state.dropData id).contentsAt (.held id) = none ∧
      ((state.dropData id).dropRecord id).contentsAt (.held id) = none := by
  cases found : state.held[id]? <;> simp [contentsAt, dropData, dropRecord]

variable (id : Nat)

theorem kept_deleteHeld (state : Custody) :
    Kept (.deleteHeld id calls) state (state.deleteHeld calls id).2 := by
  have emptied : Kept (.deleteHeld id calls) state (state.dropData id) :=
    kept_confirmed rfl (fun _ distinct => (held_dropData distinct).1) fun _ owned => owned
  have forgotten : Kept (.deleteHeld id calls) state ((state.dropData id).dropRecord id) :=
    kept_confirmed rfl (fun _ distinct => (held_dropData distinct).2) fun _ owned => owned
  simp only [deleteHeld, confirmDeleteHeld]
  cases state.held[id]? with
  | none => exact kept_refl _ _
  | some entry =>
    obtain ⟨_, data, _ | _⟩ := entry
    · exact kept_refl _ _
    · simp only
      cases (if data = true then calls (.removeData id) else none) with
      | some => exact kept_refl _ _
      | none =>
        cases calls (.removeRecord id) with
        | some => exact emptied
        | none => exact forgotten

omit calls in
theorem find?_listHeld (state : Custody) (id : Nat) :
    state.listHeld.find? (·.1 = id) = (state.heldRecord id).map (id, ·) := by
  cases found : state.listHeld.find? (·.1 = id) with
  | none =>
    cases recorded : state.heldRecord id with
    | none => rfl
    | some volume =>
      have missed := find?_eq_none.mp found (id, volume) (mem_listHeld.mpr recorded)
      simp at missed
  | some listed =>
    obtain ⟨other, volume⟩ := listed
    obtain rfl : other = id := by simpa using find?_some found
    rw [mem_listHeld.mp (mem_of_find?_eq_some found)]
    rfl

def restored (state : Custody) (id : Nat) (name : String) (contents : Contents) : Custody :=
  { state.dropData id with volumes := state.volumes.put (siteVolumeDir name) contents }

/-- Nothing is moved, or the data is, and the answer is that of removing the record. -/
theorem restoreHeldToSite_cases (name : String) {entry : HeldEntry}
    (found : state.held[id]? = some entry) (record : entry.record) :
    (state.restores calls id name = false ∧
        ∃ error, state.restoreHeldToSite calls id name = (.error error, state)) ∨
      state.restores calls id name ∧ entry.data ∧
        state.restoreHeldToSite calls id name =
          match calls (.removeRecord id) with
          | some error => (.error error, state.restored id name entry.volume.contents)
          | none => (.ok (), (state.restored id name entry.volume.contents).dropRecord id) := by
  simp only [restores, contentsAt, restoreHeldToSite, found, record, bind_some]
  cases entry.data with
  | false => exact .inl (by simp)
  | true =>
    cases state.exists' (siteVolumeDir name) with
    | true => exact .inl (by simp)
    | false =>
      cases calls (.readRecord id) with
      | some => exact .inl (by simp)
      | none =>
        cases calls (.restoreData id name) with
        | some => exact .inl (by simp)
        | none => exact .inr ⟨rfl, rfl, rfl⟩

/-- A restoration changes nothing, or moves the data, then removes the record and then
writes the row, as far as it comes. -/
theorem restoreHeld_cases (target : Option BslName) (state : Custody) :
    (state.restoreTarget calls id target = none ∧ (state.restoreHeld calls id target).2 = state) ∨
      ∃ name entry, state.restoreTarget calls id target = some name ∧
        state.held[id]? = some entry ∧ entry.data ∧ entry.record ∧
        state.sites name = none ∧ state.exists' (siteVolumeDir name) = false ∧
        (state.restoreHeld calls id target).2 =
          match calls (.removeRecord id), calls (.createSite name) with
          | some _, _ => state.restored id name entry.volume.contents
          | none, some _ => (state.restored id name entry.volume.contents).dropRecord id
          | none, none =>
            { (state.restored id name entry.volume.contents).dropRecord id with
              sites := update state.sites name (some .managed) } := by
  simp only [restoreHeld, restoreTarget, find?_listHeld]
  cases calls .listHeld with
  | some => exact .inl ⟨rfl, rfl⟩
  | none =>
    cases recorded : state.heldRecord id with
    | none => exact .inl ⟨rfl, rfl⟩
    | some volume =>
      obtain ⟨entry, found, record⟩ : ∃ entry, state.held[id]? = some entry ∧
          entry.record := by
        obtain ⟨entry, found, shown⟩ := bind_eq_some_iff.mp recorded
        refine ⟨entry, found, ?_⟩
        by_contra unrecorded
        simp [unrecorded] at shown
      simp only [map_some]
      cases restoreName volume target with
      | error => exact .inl ⟨rfl, rfl⟩
      | ok name =>
        dsimp only
        cases checkSiteVolumeName name with
        | error => exact .inl (by simp [Except.toBool])
        | ok _ =>
          cases calls (.getSite name) with
          | some => exact .inl (by simp)
          | none =>
            cases vacant : state.sites name with
            | some => exact .inl (by simp)
            | none =>
              rcases restoreHeldToSite_cases calls id name found record with
                ⟨stays, error, failed⟩ | ⟨goes, data, moved⟩
              · exact .inl (by simp [stays, failed])
              · refine .inr ⟨name, entry, ?_, found, data, record, vacant, ?_, ?_⟩
                · simp [goes, Except.toBool]
                · simp only [restores, Bool.and_eq_true, Bool.not_eq_true'] at goes
                  exact goes.1.1.2
                · simp only [moved]
                  cases calls (.removeRecord id) with
                  | some => rfl
                  | none => cases calls (.createSite name) <;> rfl

theorem kept_restoreHeld_iff (target : Option BslName) (state : Custody) :
    Kept (.restoreHeld id target calls) state (state.restoreHeld calls id target).2 ↔
      state.Safe (.restoreHeld id target calls) := by
  have unconfirmed := (Step.restoreHeld id target calls).unconfirmed (by simp)
  simp only [Safe]
  rcases restoreHeld_cases calls id target state with
    ⟨stays, same⟩ | ⟨name, entry, goes, found, data, record, vacant, missing, after⟩
  · rw [same, stays]
    exact iff_of_true (kept_refl _ _) (by simp)
  · have free : state.volumes.dir (siteVolumeDir name) = none := by simpa [exists'] using missing
    obtain ⟨emptied, forgotten⟩ := contentsAt_dropData state id
    simp only [goes, some.injEq, forall_eq', after]
    cases calls (.removeRecord id) with
    | some =>
      refine Iff.trans (kept_restored_iff unconfirmed found data record free rfl emptied
        (fun _ distinct => (held_dropData distinct).1) fun _ owned => owned) ?_
      simp [restored, dropData, Owned]
    | none =>
      cases calls (.createSite name) with
      | some =>
        refine Iff.trans (kept_restored_iff unconfirmed found data record free rfl forgotten
          (fun _ distinct => (held_dropData distinct).2) fun _ owned => owned) ?_
        simp [restored, dropData, dropRecord, Owned]
      | none =>
        refine Iff.trans (kept_restored_iff unconfirmed found data record free rfl forgotten
          (fun _ distinct => (held_dropData distinct).2) fun _ owned =>
            owned_withSite vacant owned) ?_
        refine iff_of_true (.inr ⟨name, update_self .., rfl⟩) (.inl ⟨rfl, rfl⟩)

end Custody

/-- **Each step keeps in sight what was, exactly if it is safe.** -/
theorem kept_iff (state : Custody) (step : Step) :
    Kept step state (custodyMachine.next state step) ↔ state.Safe step := by
  cases step with
  | dropVolume app name calls => exact Custody.kept_dropVolume_iff calls app name state
  | processVolume volume calls => exact Custody.kept_processVolume_iff calls volume state
  | deleteSite name calls => exact Custody.kept_deleteSite_iff calls name state
  | restoreHeld id target calls => exact Custody.kept_restoreHeld_iff calls id target state
  | deleteHeld id calls => exact iff_of_true (Custody.kept_deleteHeld calls id state) trivial

/-- **Volume data stays in sight, whatever fails and wherever the daemon stops**, exactly
if every hold that moves a volume's directory also writes its record, no row is deleted
of a volume whose directory stays, every restoration that moves the data also writes the
row, and no snapshot shares the directory of a recorded volume. -/
theorem data_stays_in_sight_iff (start : Custody) (steps : List Step) :
    custodyMachine.Along (fun state step => Kept step state (custodyMachine.next state step)) start
        steps ↔
      custodyMachine.Along Custody.Safe start steps :=
  custodyMachine.along_congr (I := fun _ => True) (fun _ _ _ => trivial)
    (fun state step _ => kept_iff state step) start steps trivial

def mailVolume : Custody where
  volumes := Directory.empty.put (VolumeName.forApp "mail" "data") [("inbox", "letter")]
  held := []
  instances key := key = ("mail", "data")
  sites _ := none

def heldMailVolume : Custody where
  volumes := .empty
  held := [⟨⟨"mail", "mail-volume-data", "mail-volume-data", "removed from app definition",
    [("inbox", "letter")], true⟩, true, true⟩]
  instances _ := false
  sites _ := none

def failing (failed : Call) : Calls :=
  fun call => if call = failed then some "input/output error" else none

/-- Where the volume cannot be moved, its row is deleted and its directory stays; where
its record cannot be written, it is held and not listed; and where the row of a restored
volume cannot be written, the directory is nobody's. -/
theorem failed_calls_leave_data_out_of_sight :
    let path := VolumeName.forApp "mail" "data"
    let unmoved := Step.dropVolume "mail" "data" (failing (.action (.hold path)))
    let unrecorded := Step.dropVolume "mail" "data" (failing (.action (.recordHold path)))
    let unnamed := Step.restoreHeld 0 none (failing (.createSite path))
    ((custodyMachine.next mailVolume unmoved).contentsAt (.volume path) =
        some [("inbox", "letter")] ∧
      (custodyMachine.next mailVolume unmoved).instances ("mail", "data") = false ∧
      ¬ Kept unmoved mailVolume (custodyMachine.next mailVolume unmoved)) ∧
    ((custodyMachine.next mailVolume unrecorded).contentsAt (.held 0) = some [("inbox", "letter")] ∧
      (custodyMachine.next mailVolume unrecorded).listHeld = [] ∧
      ¬ Kept unrecorded mailVolume (custodyMachine.next mailVolume unrecorded)) ∧
    (custodyMachine.next heldMailVolume unnamed).contentsAt (.volume (siteVolumeDir path)) =
        some [("inbox", "letter")] ∧
      (custodyMachine.next heldMailVolume unnamed).listHeld = [] ∧
      ¬ Kept unnamed heldMailVolume (custodyMachine.next heldMailVolume unnamed) := by
  simp only [kept_iff]
  refine ⟨⟨by decide, by decide, ?_⟩, ⟨by decide, by decide, ?_⟩, by decide, by decide, ?_⟩
  · intro safe
    rcases (safe rfl rfl).2 rfl rfl rfl with ⟨app, name, recorded, _⟩ | ⟨_, recorded, _⟩
    · by_cases same : (app, name) = ("mail", "data") <;>
        simp [Custody.withoutInstance, mailVolume, same] at recorded
    · cases recorded
  · intro safe
    cases (safe rfl rfl).1 rfl
  · intro safe
    rcases safe _ rfl with ⟨_, created⟩ | ⟨_, _, recorded, _⟩ | ⟨_, recorded, _⟩
    · cases created
    · cases recorded
    · cases recorded

end Seedling.Volumes
