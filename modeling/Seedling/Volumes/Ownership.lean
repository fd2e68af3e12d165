import Seedling.Volumes.Store

/-!
# Whose directories are touched

Starting a volume may rename the directory an earlier build kept it in, and may
first remove or hold the directory that is in the way; the sweep of leftover
snapshots removes directories.  `storage_untouched_iff` says exactly when they
leave alone the storage of every other owner, whatever system calls fail.

The conditions are on names: three formats share one flat directory.
-/

namespace Seedling.Volumes

open Function Foundation Instances List VolumeName Session

/-! ## Owners -/

/-- Who keeps data in the volumes directory: the volumes of registered apps, and
recorded site volumes. -/
inductive Owner where
  | appVolume (app name : BslName)
  | siteVolume (name : BslName)

def Owner.dir : Owner → String
  | .appVolume app name => VolumeName.forApp app.text name.text
  | .siteVolume name => siteVolumeDir name.text

theorem hyphen_eq_volume {a t b u : String} : hyphen a t = hyphen b (hyphen "volume" u) ↔
      (a = b ∧ t = hyphen "volume" u) ∨ (a = hyphen b "volume" ∧ u = t) ∨
        (∃ m, a = hyphen b (hyphen "volume" m) ∧ u = hyphen m t) ∨
        ∃ m, b = hyphen a m ∧ t = hyphen m (hyphen "volume" u) := by
  have inner : ∀ m, hyphen "volume" u = hyphen m t ↔
      (m = "volume" ∧ u = t) ∨ ∃ k, m = hyphen "volume" k ∧ u = hyphen k t := by
    intro m
    rw [eq_comm, hyphen_eq_of_first (by decide), eq_comm (a := t)]
  rw [hyphen_eq_hyphen]
  constructor
  · rintro (same | ⟨m, rfl, moved⟩ | later)
    · exact .inl same
    · rcases (inner m).mp moved with ⟨rfl, rfl⟩ | ⟨k, rfl, rfl⟩
      · exact .inr (.inl ⟨rfl, rfl⟩)
      · exact .inr (.inr (.inl ⟨k, rfl, rfl⟩))
    · exact .inr (.inr (.inr later))
  · rintro (same | ⟨rfl, rfl⟩ | ⟨m, rfl, rfl⟩ | later)
    · exact .inl same
    · exact .inr (.inl ⟨"volume", rfl, rfl⟩)
    · exact .inr (.inl ⟨hyphen "volume" m, rfl, (hyphen_assoc ..).symm⟩)
    · exact .inr (.inr later)

/-- The legacy directory of an app volume is the storage of the owner. -/
def LegacyIs (app name : String) : Owner → Prop
  | .appVolume other volume =>
    (app = other.text ∧ name = hyphen "volume" volume.text) ∨
      (app = hyphen other.text "volume" ∧ volume.text = name) ∨
      (∃ m, app = hyphen other.text (hyphen "volume" m) ∧ volume.text = hyphen m name) ∨
      ∃ m, other.text = hyphen app m ∧ name = hyphen m (hyphen "volume" volume.text)
  | .siteVolume site =>
    (app = "site" ∧ name = site.text) ∨ ∃ m, app = hyphen "site" m ∧ site.text = hyphen m name

theorem legacyName_eq_dir_iff (app name : String) (owner : Owner) :
    legacyName app name = owner.dir ↔ LegacyIs app name owner := by
  cases owner with
  | appVolume =>
    rw [Owner.dir, forApp_eq_hyphen]
    exact hyphen_eq_volume
  | siteVolume site =>
    exact hyphen_eq_of_first (show Unhyphenated "site" by decide)

/-- Two app volumes are kept in one directory: the first app is called like the
second, followed by `volume` and the words that the second volume's name begins
with. -/
def Overlaps (app name other volume : String) : Prop :=
  (app = hyphen other "volume" ∧ volume = hyphen "volume" name) ∨
    ∃ m, app = hyphen other (hyphen "volume" m) ∧ volume = hyphen m (hyphen "volume" name)

/-- The directory of an app volume is the storage of the owner as well. -/
def CanonicalIs (app name : String) : Owner → Prop
  | .appVolume other volume => Overlaps app name other.text volume.text ∨
      Overlaps other.text volume.text app name
  | .siteVolume site => SharesWithSite app name site.text

theorem forApp_eq_forApp_iff {app name other volume : String} :
    forApp app name = forApp other volume ↔
      (app = other ∧ name = volume) ∨ Overlaps app name other volume ∨
        Overlaps other volume app name := by
  rw [forApp_eq_hyphen, forApp_eq_hyphen, hyphen_eq_volume]
  have inner : hyphen "volume" name = hyphen "volume" volume ↔ name = volume := by
    rw [hyphen_inj_of_first (by decide) (by decide)]
    exact ⟨And.right, fun same => ⟨rfl, same⟩⟩
  have moved : (∃ m, other = hyphen app m ∧
      hyphen "volume" name = hyphen m (hyphen "volume" volume)) ↔
      Overlaps other volume app name := by
    constructor
    · rintro ⟨m, rfl, text⟩
      rcases (hyphen_eq_of_first (by decide)).mp text.symm with ⟨rfl, same⟩ | ⟨k, rfl, same⟩
      · exact .inl ⟨rfl, same.symm⟩
      · exact .inr ⟨k, rfl, same⟩
    · rintro (⟨rfl, rfl⟩ | ⟨k, rfl, rfl⟩)
      · exact ⟨"volume", rfl, rfl⟩
      · exact ⟨hyphen "volume" k, rfl, (hyphen_assoc ..).symm⟩
  rw [inner, moved]
  simp [Overlaps, or_assoc]

theorem forApp_eq_dir_iff {app name : BslName} {owner : Owner}
    (other : owner ≠ .appVolume app name) :
    forApp app.text name.text = owner.dir ↔ CanonicalIs app.text name.text owner := by
  cases owner with
  | siteVolume => exact forApp_eq_siteVolumeDir_iff ..
  | appVolume =>
    refine forApp_eq_forApp_iff.trans ⟨?_, .inr⟩
    rintro (⟨sameApp, sameName⟩ | overlap)
    · exact absurd (by rw [BslName.text_injective sameApp, BslName.text_injective sameName]) other
    · exact overlap

/-- An app volume is never kept in its own legacy directory. -/
theorem legacyName_ne_forApp (app name : String) : legacyName app name ≠ forApp app name := by
  rw [forApp_eq_hyphen, show legacyName app name = hyphen app name from rfl]
  intro same
  have longer := congrArg (fun text => text.toList.length) same
  simp only [hyphen_toList, length_append, length_cons] at longer
  omega

/-! ## What a session does -/

namespace Session

def Does (P : Action → Prop) (session after : Session) : Prop :=
  ∃ actions, after.journal = session.journal ++ actions ∧ ∀ action ∈ actions, P action

variable {P : Action → Prop} {session after : Session} {os : Os}

theorem Does.refl (session : Session) : Does P session session := ⟨[], by simp, nofun⟩

theorem Does.trans {later : Session} (first : Does P session after) (second : Does P after later) :
    Does P session later := by
  obtain ⟨actions, journal, all⟩ := first
  obtain ⟨more, later, others⟩ := second
  refine ⟨actions ++ more, by rw [later, journal, append_assoc], fun action mem => ?_⟩
  rcases mem_append.mp mem with early | late
  · exact all action early
  · exact others action late

theorem Does.imp {Q : Action → Prop} (does : Does P session after) (weaker : ∀ action, P action →
    Q action) : Does Q session after := by
  obtain ⟨actions, journal, all⟩ := does
  exact ⟨actions, journal, fun action mem => weaker action (all action mem)⟩

variable {path : String}

theorem Does.disturbed {allowed : String → Prop}
    (does : Does (fun action => ∀ path ∈ action.disturbs, allowed path) session after)
    (touched : path ∈ after.disturbed) :
    path ∈ session.disturbed ∨ allowed path := by
  obtain ⟨actions, journal, all⟩ := does
  rw [Session.disturbed, journal, flatMap_append] at touched
  refine (mem_append.mp touched).imp_right fun late => ?_
  obtain ⟨action, mem, disturbs⟩ := mem_flatMap.mp late
  exact all action mem path disturbs

theorem attempt_cases (os : Os) (action : Action) (effect : Session → Session) (session : Session) :
    (∃ error, session.attempt os action effect = (.error error, session)) ∨
      session.attempt os action effect =
        (.ok (), { effect session with journal := (effect session).journal ++ [action] }) := by
  unfold attempt
  split
  · exact .inl ⟨_, rfl⟩
  · exact .inr rfl

theorem attempt_does {action : Action} {effect : Session → Session}
    (quiet : (effect session).journal = session.journal) (allowed : P action) :
    Does P session (session.attempt os action effect).2 := by
  rcases attempt_cases os action effect session with ⟨_, failed⟩ | done
  · rw [failed]
    exact .refl session
  · rw [done]
    refine ⟨[action], ?_, by simpa using allowed⟩
    rw [quiet]

section Allowed

variable {allowed : String → Prop}

abbrev Within (allowed : String → Prop) (action : Action) : Prop :=
  ∀ path ∈ action.disturbs, allowed path

theorem removeDir_does {path : String} (permitted : session.exists' path → allowed path) :
    Does (Within allowed) session (session.removeDir os path).2 := by
  unfold removeDir
  split
  · rename_i present
    refine attempt_does rfl fun other disturbed => ?_
    rw [mem_singleton.mp disturbed]
    exact permitted present
  · exact .refl session

variable {app : String}

theorem holdInner_does {path displayName volumeName reason : String}
    (permitted : session.exists' path → allowed path) :
    Does (Within allowed) session
      (session.holdInner os path displayName volumeName app reason).2 := by
  unfold holdInner
  split
  · exact .refl session
  · rename_i contents found
    have prepared : Does (Within allowed) session (session.attempt os .prepareHold id).2 :=
      attempt_does rfl nofun
    split
    · rename_i failed
      rwa [failed] at prepared
    · rename_i ready readied
      rw [readied] at prepared
      have moved : Does (Within allowed) ready (ready.attempt os (.hold path) fun session =>
          { session with
            volumes := session.volumes.drop path
            held := session.held ++
              [⟨app, volumeName, displayName, reason, contents, false⟩] }).2 := by
        refine attempt_does rfl fun other disturbed => ?_
        rw [mem_singleton.mp disturbed]
        exact permitted (by rw [exists', found, Option.isSome_some])
      split
      · rename_i failed
        exact prepared.trans (by rwa [failed] at moved)
      · rename_i held
        rw [held] at moved
        exact (prepared.trans moved).trans (attempt_does rfl nofun)

theorem clearWay_does {canonical : String}
    (permitted : session.exists' canonical → allowed canonical) :
    Does (Within allowed) session (session.clearWay os canonical app).2 := by
  unfold clearWay
  split
  · exact .refl session
  · rename_i contents found
    have present : session.exists' canonical := by rw [exists', found, Option.isSome_some]
    have inspected : Does (Within allowed) session (session.attempt os (.read canonical) id).2 :=
      attempt_does rfl nofun
    split
    · rename_i failed
      rwa [failed] at inspected
    · rename_i read
      rw [read] at inspected
      split
      · exact inspected.trans (removeDir_does fun _ => permitted present)
      · exact inspected.trans (holdInner_does fun _ => permitted present)

theorem migrateLegacy_does {legacy canonical : String} (permitted : session.exists' legacy →
      allowed legacy ∧ (session.exists' canonical → allowed canonical)) :
    Does (Within allowed) session (session.migrateLegacy os legacy canonical app).2 := by
  unfold migrateLegacy
  split
  · exact .refl session
  · rename_i present
    obtain ⟨source, target⟩ := permitted (Bool.of_not_eq_false present)
    split
    · exact .refl session
    · have cleared : Does (Within allowed) session (session.clearWay os canonical app).2 :=
        clearWay_does target
      split
      · rename_i failed
        rwa [failed] at cleared
      · rename_i free freed
        rw [freed] at cleared
        have renamed : Does (Within allowed) free (free.renameDir os legacy canonical).2 := by
          refine attempt_does ?_ fun other disturbed => ?_
          · split <;> rfl
          · rwa [mem_singleton.mp disturbed]
        split
        · rename_i failed
          exact cleared.trans (by rwa [failed] at renamed)
        · rename_i done
          exact cleared.trans (by rwa [done] at renamed)

theorem writeFiles_does (path : String) (writes : List (String × String)) (session : Session) :
    Does (Within allowed) session (session.writeFiles os path writes).2 := by
  induction writes generalizing session with
  | nil => exact .refl session
  | cons write writes ih =>
    have first : Does (Within allowed) session (session.writeFile os path write).2 :=
      attempt_does rfl nofun
    rw [writeFiles]
    split
    · rename_i failed
      rwa [failed] at first
    · rename_i written
      rw [written] at first
      exact first.trans (ih _)

/-- **Starting a volume disturbs its legacy directory if there is one, then also
its own, and nothing else.** -/
theorem startVolume_does {name : String} {tmpfs : Bool} {writes : List (String × String)}
    (permitted : tmpfs = false → session.exists' (legacyName app name) →
      allowed (legacyName app name) ∧
        (session.exists' (forApp app name) → allowed (forApp app name))) :
    Does (Within allowed) session (session.startVolume os app name tmpfs writes).2 := by
  unfold startVolume
  dsimp only
  split
  · exact .refl session
  · rename_i onDisk
    have migrated : Does (Within allowed) session (session.migrateLegacy os (legacyName app name)
        (forApp app name) app).2 :=
      migrateLegacy_does (permitted (Bool.of_not_eq_true onDisk))
    split
    · rename_i failed
      rwa [failed] at migrated
    · rename_i here settled
      rw [settled] at migrated
      split
      · exact migrated
      · have created : Does (Within allowed) here
            (here.createDir os (forApp app name)).2 := attempt_does rfl nofun
        split
        · rename_i failed
          exact migrated.trans (by rwa [failed] at created)
        · rename_i made
          rw [made] at created
          exact (migrated.trans created).trans (writeFiles_does _ writes _)

end Allowed

/-! ## When no system call fails -/

def reliable : Os := fun _ => none

theorem Does.mono (does : Does P session after) (touched : path ∈ session.disturbed) :
    path ∈ after.disturbed := by
  obtain ⟨actions, journal, _⟩ := does
  rw [Session.disturbed, journal, flatMap_append]
  exact mem_append_left _ touched

theorem disturbed_of_mem (action : Action) (noted : action ∈ session.journal)
    (disturbs : path ∈ action.disturbs) : path ∈ session.disturbed :=
  mem_flatMap.mpr ⟨action, noted, disturbs⟩

theorem clearWay_reliable (canonical app : String) (session : Session) :
    ∃ free, session.clearWay reliable canonical app = (.ok (), free) ∧
      (session.exists' canonical → canonical ∈ free.disturbed) := by
  unfold clearWay
  split
  · rename_i absent
    refine ⟨session, rfl, fun present => ?_⟩
    rw [exists', absent] at present
    cases present
  · rename_i contents found
    have present : (session.attempt reliable (.read canonical) id).2.exists' canonical := by
      show (session.volumes.dir canonical).isSome
      rw [found, Option.isSome_some]
    split
    · rename_i failed
      cases failed
    · rename_i read
      rw [read] at present
      split
      · rw [removeDir, if_pos present]
        exact ⟨_, rfl, fun _ => disturbed_of_mem (.remove canonical)
          (mem_append_right _ mem_cons_self) mem_cons_self⟩
      · obtain ⟨held, holds⟩ := Option.isSome_iff_exists.mp present
        rw [holdInner, holds]
        exact ⟨_, rfl, fun _ => disturbed_of_mem (.hold canonical)
          (mem_append_left _ (mem_append_right _ mem_cons_self)) mem_cons_self⟩

theorem migrateLegacy_reliable {legacy canonical : String} (app : String)
    (present : session.exists' legacy) (distinct : legacy ≠ canonical) :
    ∃ moved, session.migrateLegacy reliable legacy canonical app = (.ok true, moved) ∧
      legacy ∈ moved.disturbed ∧
        (session.exists' canonical → canonical ∈ moved.disturbed) := by
  obtain ⟨free, cleared, touched⟩ := clearWay_reliable canonical app session
  have renamed : Does (fun _ => True) free (free.renameDir reliable legacy canonical).2 := by
    refine attempt_does ?_ trivial
    split <;> rfl
  rw [migrateLegacy, if_neg (by simp [present]), if_neg distinct, cleared]
  refine ⟨_, rfl, ?_, fun there => renamed.mono (touched there)⟩
  exact disturbed_of_mem (.rename legacy canonical) (mem_append_right _ mem_cons_self) mem_cons_self

/-- Starting a volume that has a legacy directory does disturb it, and its own. -/
theorem startVolume_reliable {app name : String} (writes : List (String × String))
    (present : session.exists' (legacyName app name)) :
    let after := (session.startVolume reliable app name false writes).2
    legacyName app name ∈ after.disturbed ∧ (session.exists' (forApp app name) →
        forApp app name ∈ after.disturbed) := by
  obtain ⟨moved, migrated, legacy, canonical⟩ :=
    migrateLegacy_reliable app present (legacyName_ne_forApp app name)
  have later : Does (fun _ => True) moved
      (session.startVolume reliable app name false writes).2 := by
    unfold startVolume
    rw [if_neg Bool.false_ne_true, migrated]
    dsimp only
    split
    · exact .refl moved
    · have created : Does (fun _ => True) moved
          (moved.createDir reliable (forApp app name)).2 := attempt_does rfl trivial
      split
      · rename_i failed
        rwa [failed] at created
      · rename_i ready made
        rw [made] at created
        have written : Does (Within fun _ => True) ready
            (ready.writeFiles reliable (forApp app name) writes).2 :=
          writeFiles_does _ writes ready
        exact created.trans (written.imp fun _ _ => trivial)
  exact ⟨later.mono legacy, fun there => later.mono (canonical there)⟩

/-! ## The sweep -/

section Sweep

variable {lookup : String → Except String Bool} {name path : String}

/-- The name is that of a leftover: it has the snapshot prefix, is a name the
daemon could have given, and is known not to be recorded. -/
structure Leftover (lookup : String → Except String Bool) (name : String) : Prop where
  begins : snapshotNamePrefix.toList.isPrefixOf name.toList
  valid : validateBslName name = .ok ()
  unrecorded : lookup name = .ok false

theorem keepReason_eq_none_iff :
    keepReason lookup name = none ↔ validateBslName name = .ok () ∧ lookup name = .ok false := by
  unfold keepReason
  split
  · rename_i invalid
    simp [invalid]
  · rename_i valid
    split <;> rename_i answer <;> simp [valid, answer]

theorem mem_listSitesWithPrefix {start : String} :
    name ∈ session.listSitesWithPrefix start ↔ session.exists' (siteVolumeDir name) ∧
        start.toList.isPrefixOf name.toList := by
  rw [listSitesWithPrefix, mem_filter, mem_filterMap, exists', ← session.volumes.listed]
  refine and_congr_left fun _ => ⟨?_, fun entry => ⟨_, entry, ?_⟩⟩
  · rintro ⟨path, entry, rest⟩
    obtain ⟨text, stripped, rfl⟩ := Option.map_eq_some_iff.mp rest
    have same : siteVolumeDir (String.ofList text) = path := by
      apply String.toList_injective
      rw [← isPrefixOf?_eq_some_iff_append_eq.mp stripped]
      simp [siteVolumeDir]
    rwa [same]
  · simp [siteVolumeDir]

variable {allowed : String → Prop}

theorem sweepOne_does (permitted : keepReason lookup name = none → allowed (siteVolumeDir name)) :
    Does (Within allowed) session (sweepOne os lookup session name) := by
  unfold sweepOne
  split
  · exact .refl session
  · rename_i lost
    exact removeDir_does fun _ => permitted (Option.not_isSome_iff_eq_none.mp lost)

variable (names : List String)

theorem foldl_sweepOne_does (session : Session)
    (permitted : ∀ name ∈ names, keepReason lookup name = none → allowed (siteVolumeDir name)) :
    Does (Within allowed) session (names.foldl (sweepOne os lookup) session) := by
  induction names generalizing session with
  | nil => exact .refl session
  | cons name names ih =>
    have first : Does (Within allowed) session (sweepOne os lookup session name) :=
      sweepOne_does (permitted name mem_cons_self)
    exact first.trans (ih _ fun other mem =>
      permitted other (mem_cons_of_mem name mem))

/-- **The sweep disturbs the directories of leftovers only.** -/
theorem sweep_does
    (permitted : ∀ name, Leftover lookup name → session.exists' (siteVolumeDir name) →
      allowed (siteVolumeDir name)) :
    Does (Within allowed) session (session.sweep os lookup) := by
  unfold sweep
  split
  · exact .refl session
  · refine foldl_sweepOne_does _ session fun name mem lost => ?_
    obtain ⟨present, begins⟩ := mem_listSitesWithPrefix.mp mem
    obtain ⟨valid, unrecorded⟩ := keepReason_eq_none_iff.mp lost
    exact permitted name ⟨begins, valid, unrecorded⟩ present

theorem sweepOne_keeps (kept : session.exists' path ∨ path ∈ session.disturbed) :
    (sweepOne os lookup session name).exists' path ∨
      path ∈ (sweepOne os lookup session name).disturbed := by
  have does : Does (Within fun _ => True) session (sweepOne os lookup session name) :=
    sweepOne_does fun _ => trivial
  rcases kept with present | touched
  · unfold sweepOne removeDir
    split
    · exact .inl present
    · split
      · rcases attempt_cases os (.remove (siteVolumeDir name))
          (fun session => { session with volumes := session.volumes.drop (siteVolumeDir name) })
          session with ⟨_, failed⟩ | done
        · rw [failed]
          exact .inl present
        · rw [done]
          by_cases same : path = siteVolumeDir name
          · exact .inr (disturbed_of_mem (.remove (siteVolumeDir name))
              (mem_append_right _ mem_cons_self) (mem_singleton.mpr same))
          · left
            show (update session.volumes.dir (siteVolumeDir name) none path).isSome
            rwa [update_of_ne same]
      · exact .inl present
  · exact .inr (does.mono touched)

theorem sweepOne_reliable (lost : keepReason lookup name = none)
    (kept : session.exists' (siteVolumeDir name) ∨ siteVolumeDir name ∈ session.disturbed) :
    siteVolumeDir name ∈ (sweepOne reliable lookup session name).disturbed := by
  have does : Does (Within fun _ => True) session (sweepOne reliable lookup session name) :=
    sweepOne_does fun _ => trivial
  rcases kept with present | touched
  · rw [sweepOne, if_neg (by simp [lost]), removeDir, if_pos present]
    exact disturbed_of_mem (.remove (siteVolumeDir name))
      (mem_append_right _ mem_cons_self) mem_cons_self
  · exact does.mono touched

theorem foldl_sweepOne_reliable (session : Session) (mem : name ∈ names)
    (lost : keepReason lookup name = none)
    (kept : session.exists' (siteVolumeDir name) ∨ siteVolumeDir name ∈ session.disturbed) :
    siteVolumeDir name ∈ (names.foldl (sweepOne reliable lookup) session).disturbed := by
  induction names generalizing session with
  | nil => cases mem
  | cons other names ih =>
    rcases mem_cons.mp mem with rfl | later
    · have rest : Does (Within fun _ => True) (sweepOne reliable lookup session name)
          (names.foldl (sweepOne reliable lookup) (sweepOne reliable lookup session name)) :=
        foldl_sweepOne_does names _ fun _ _ _ => trivial
      exact rest.mono (sweepOne_reliable lost kept)
    · exact ih _ later (sweepOne_keeps kept)

theorem sweep_reliable (leftover : Leftover lookup name)
    (present : session.exists' (siteVolumeDir name)) :
    siteVolumeDir name ∈ (session.sweep reliable lookup).disturbed :=
  foldl_sweepOne_reliable _ session (mem_listSitesWithPrefix.mpr ⟨present, leftover.begins⟩)
    (keepReason_eq_none_iff.mpr ⟨leftover.valid, leftover.unrecorded⟩) (.inl present)

end Sweep

end Session

/-! ## Storage of others -/

/-- Starting the app volume puts another owner's storage at risk: it has a legacy
directory to move, and either that or the directory in its way is another's. -/
def StartEndangers (owners : List Owner) (volumes : Directory) (app name : BslName)
    (tmpfs : Bool) : Prop :=
  tmpfs = false ∧ (volumes.dir (legacyName app.text name.text)).isSome ∧
    ∃ owner ∈ owners, owner ≠ .appVolume app name ∧ (LegacyIs app.text name.text owner ∨
        ((volumes.dir (VolumeName.forApp app.text name.text)).isSome ∧
          CanonicalIs app.text name.text owner))

/-- The query for recorded site volumes answers by the owners, or fails. -/
def Consistent (owners : List Owner) (lookup : String → Except String Bool) : Prop :=
  ∀ name known, lookup name = .ok known →
    (known ↔ ∃ site : BslName, site.text = name ∧ .siteVolume site ∈ owners)

/-- The sweep puts an app volume at risk: the app is called `site` and more words,
such that what follows `site-` in the volume's directory reads as the name of an
unrecorded snapshot. -/
def SweepEndangers (owners : List Owner) (volumes : Directory) : Prop :=
  ∃ (app name : BslName) (middle : String), .appVolume app name ∈ owners ∧
    app.text = hyphen "site" middle ∧
    let rest := hyphen middle (hyphen "volume" name.text)
    snapshotNamePrefix.toList.isPrefixOf rest.toList ∧ validateBslName rest = .ok () ∧
      (¬ ∃ site : BslName, site.text = rest ∧ .siteVolume site ∈ owners) ∧
      (volumes.dir (VolumeName.forApp app.text name.text)).isSome

variable (owners : List Owner)

theorem startVolume_disturbs_iff (volumes : Directory) (app name : BslName) (tmpfs : Bool) :
    (∃ os writes, ∃ owner ∈ owners, owner ≠ .appVolume app name ∧ owner.dir ∈
      ((start volumes).startVolume os app.text name.text tmpfs writes).2.disturbed) ↔
      StartEndangers owners volumes app name tmpfs := by
  constructor
  · rintro ⟨os, writes, owner, mem, other, touched⟩
    have does : Session.Does (Session.Within fun path => tmpfs = false ∧
        (volumes.dir (legacyName app.text name.text)).isSome ∧
        (legacyName app.text name.text = path ∨
          ((volumes.dir (forApp app.text name.text)).isSome ∧
            forApp app.text name.text = path)))
        (start volumes)
        ((start volumes).startVolume os app.text name.text tmpfs writes).2 :=
      startVolume_does fun onDisk present =>
        ⟨⟨onDisk, present, .inl rfl⟩, fun there => ⟨onDisk, present, .inr ⟨there, rfl⟩⟩⟩
    rcases does.disturbed touched with before | ⟨onDisk, present, path⟩
    · cases before
    · rw [legacyName_eq_dir_iff, forApp_eq_dir_iff other] at path
      exact ⟨onDisk, present, owner, mem, other, path⟩
  · rintro ⟨rfl, present, owner, mem, other, path⟩
    obtain ⟨legacy, canonical⟩ :=
      @Session.startVolume_reliable (start volumes) app.text name.text [] present
    refine ⟨reliable, [], owner, mem, other, ?_⟩
    rcases path with isLegacy | ⟨there, isCanonical⟩
    · rwa [← (legacyName_eq_dir_iff ..).mpr isLegacy]
    · rw [← (forApp_eq_dir_iff other).mpr isCanonical]
      exact canonical there

theorem sweep_disturbs_iff (volumes : Directory) :
    (∃ os lookup, Consistent owners lookup ∧ ∃ app name, Owner.appVolume app name ∈ owners ∧
      (Owner.appVolume app name).dir ∈ ((start volumes).sweep os lookup).disturbed) ↔
      SweepEndangers owners volumes := by
  constructor
  · rintro ⟨os, lookup, consistent, app, name, mem, touched⟩
    have does : Session.Does (Session.Within fun path => ∃ rest, Session.Leftover lookup rest ∧
        (volumes.dir (siteVolumeDir rest)).isSome ∧ path = siteVolumeDir rest)
        (start volumes) ((start volumes).sweep os lookup) :=
      sweep_does fun rest leftover present => ⟨rest, leftover, present, rfl⟩
    rcases does.disturbed touched with before | ⟨rest, leftover, present, same⟩
    · cases before
    · obtain ⟨_, rfl⟩ | ⟨middle, called, rfl⟩ := (forApp_eq_siteVolumeDir_iff ..).mp same
      · -- `volume-…` is not the name of a snapshot
        have begins := leftover.begins
        simp [snapshotNamePrefix] at begins
      refine ⟨app, name, middle, mem, called, leftover.begins, leftover.valid, ?_, ?_⟩
      · intro recorded
        exact Bool.false_ne_true ((consistent _ _ leftover.unrecorded).mpr recorded)
      · rwa [show forApp app.text name.text = _ from same]
  · rintro ⟨app, name, middle, mem, called, begins, valid, unrecorded, present⟩
    have same : forApp app.text name.text =
        siteVolumeDir (hyphen middle (hyphen "volume" name.text)) :=
      (forApp_eq_siteVolumeDir_iff ..).mpr (.inr ⟨middle, called, rfl⟩)
    classical
    let lookup : String → Except String Bool := fun name =>
      .ok (decide (∃ site : BslName, site.text = name ∧ .siteVolume site ∈ owners))
    refine ⟨reliable, lookup, ?_, app, name, mem, ?_⟩
    · rintro name known ⟨⟩
      exact decide_eq_true_iff
    · rw [Owner.dir, same]
      refine sweep_reliable ⟨begins, valid, ?_⟩ (by rwa [exists', ← same])
      exact congrArg Except.ok (decide_eq_false unrecorded)

end Seedling.Volumes
