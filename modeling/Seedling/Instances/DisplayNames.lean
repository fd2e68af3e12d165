import Seedling.Identity
import Seedling.Names
import Seedling.Foundation.Hyphen

/-!
# Display names

The display name of a named instance is its app and one of three forms, joined by
hyphens: the name alone for a deployment, the name and an id suffix for a job or
a scaled instance, the kind and the name for anything else.  App names and
resource names may have hyphens in them, so instances can have the same display
name without being the same.  `display_names_differ_iff` says exactly which do, and
the same of the directories of app volumes and site volumes.
-/

namespace Seedling.Instances

open Foundation

/-! ## Forms -/

/-- What follows the app in a display name. -/
inductive Form where
  | flat (name : String)
  | slugged (kind : ResourceKind) (name : String)
  | suffixed (name suffix : String)

namespace Form

def text : Form → String
  | flat name => name
  | slugged kind name => hyphen (kindSlug kind) name
  | suffixed name suffix => hyphen name suffix

def name : Form → String
  | flat name | slugged _ name | suffixed name _ => name

def kind : Form → ResourceKind
  | flat _ => .deployment
  | slugged kind _ => kind
  | suffixed .. => .job

def Proper : Form → Prop
  | suffixed _ suffix => Unhyphenated suffix
  | _ => True

/-- Different forms with the same text. -/
inductive Clash : Form → Form → Prop
  | slugged (kind : ResourceKind) (name : String) :
      Clash (.flat (hyphen (kindSlug kind) name)) (.slugged kind name)
  | suffixed (name suffix : String) : Clash (.flat (hyphen name suffix)) (.suffixed name suffix)
  /-- A job or scaled instance is named like a kind, and a resource of that kind
  like its suffix. -/
  | whole (kind : ResourceKind) (suffix : String) :
      Clash (.suffixed (kindSlug kind) suffix) (.slugged kind suffix)
  /-- A job's or scaled instance's name begins with a kind, and the name of a
  resource of that kind goes on with the same words and the suffix. -/
  | shared (kind : ResourceKind) (middle suffix : String) :
      Clash (.suffixed (hyphen (kindSlug kind) middle) suffix)
        (.slugged kind (hyphen middle suffix))

theorem Clash.text_eq {first second : Form} (clash : Clash first second) :
    first.text = second.text := by
  cases clash with
  | slugged | suffixed | whole => rfl
  | shared => exact hyphen_assoc ..

end Form

theorem kindSlug_injective {first second : ResourceKind}
    (same : kindSlug first = kindSlug second) : first = second := by
  revert same
  cases first <;> cases second <;> decide

theorem kindSlug_ne_hyphen (kind other : ResourceKind) (rest : String) :
    kindSlug kind ≠ hyphen (kindSlug other) rest := by
  intro same
  have two_words : ∀ word, Unhyphenated word → hyphen "ext" word = hyphen (kindSlug other) rest →
      False := by
    intro word plain same
    rcases (hyphen_eq_of_first (by decide)).mp same.symm with ⟨ext, _⟩ | ⟨m, _, rfl⟩
    · revert ext
      cases other <;> decide
    · exact not_unhyphenated_hyphen _ _ plain
  cases kind with
  | externalVolume => exact two_words "volume" (by decide) same
  | externalService => exact two_words "service" (by decide) same
  | _ =>
    refine not_unhyphenated_hyphen (kindSlug other) rest ?_
    rw [← same]
    decide

theorem slugged_inj {kind other : ResourceKind} {name otherName : String}
    (same : hyphen (kindSlug kind) name = hyphen (kindSlug other) otherName) :
    kind = other ∧ name = otherName := by
  rcases hyphen_eq_hyphen.mp same with ⟨kinds, names⟩ | ⟨m, longer, _⟩ | ⟨m, longer, _⟩
  · exact ⟨kindSlug_injective kinds, names⟩
  · exact absurd longer (kindSlug_ne_hyphen _ _ _)
  · exact absurd longer (kindSlug_ne_hyphen _ _ _)

/-- **Which forms have the same text.** -/
theorem Form.text_eq_iff {first second : Form} (one : first.Proper) (two : second.Proper) :
    first.text = second.text ↔ first = second ∨ first.Clash second ∨ second.Clash first := by
  have clash_of_suffixed : ∀ {kind : ResourceKind} {name other suffix : String},
      Unhyphenated suffix → hyphen (kindSlug kind) name = hyphen other suffix →
        Clash (.suffixed other suffix) (.slugged kind name) := by
    intro kind name other suffix plain same
    rcases (hyphen_eq_of_second plain).mp same with ⟨rfl, rfl⟩ | ⟨m, rfl, rfl⟩
    · exact .whole kind name
    · exact .shared kind m suffix
  constructor
  · intro same
    cases first with
    | flat name =>
      cases second with
      | flat => exact .inl (congrArg Form.flat same)
      | slugged kind other =>
        obtain rfl : name = hyphen (kindSlug kind) other := same
        exact .inr (.inl (.slugged kind other))
      | suffixed other suffix =>
        obtain rfl : name = hyphen other suffix := same
        exact .inr (.inl (.suffixed other suffix))
    | slugged kind name =>
      cases second with
      | flat other =>
        obtain rfl : hyphen (kindSlug kind) name = other := same
        exact .inr (.inr (.slugged kind name))
      | slugged =>
        obtain ⟨rfl, rfl⟩ := slugged_inj same
        exact .inl rfl
      | suffixed => exact .inr (.inr (clash_of_suffixed two same))
    | suffixed name suffix =>
      cases second with
      | flat other =>
        obtain rfl : hyphen name suffix = other := same
        exact .inr (.inr (.suffixed name suffix))
      | slugged => exact .inr (.inl (clash_of_suffixed one same.symm))
      | suffixed =>
        obtain ⟨rfl, rfl⟩ := (hyphen_inj_of_second one two).mp same
        exact .inl rfl
  · rintro (rfl | clash | clash)
    · rfl
    · exact clash.text_eq
    · exact clash.text_eq.symm

/-! ## Instances -/

/-- A named instance: a singleton, or one of a scaled group with its id. -/
structure Named where
  app : BslName
  kind : ResourceKind
  name : String
  scaled : Option InstanceId
deriving DecidableEq

namespace Named

/-- The instance as it is constructed; a singleton's display name does not depend
on the id that is drawn for it. -/
def toInstance (drawn : InstanceId) (named : Named) : ResourceInstance :=
  match named.scaled with
  | none => .newSingleton drawn named.app.text named.kind named.name
  | some id => .newScaled id named.app.text named.kind named.name

variable (named : Named)

def form : Form :=
  match named.scaled, named.kind with
  | some id, _ => .suffixed named.name id.displaySuffix
  | none, .job => .suffixed named.name InstanceId.nil.displaySuffix
  | none, .deployment => .flat named.name
  | none, kind => .slugged kind named.name

def displayName : String := hyphen named.app.text named.form.text

theorem toInstance_displayName (drawn : InstanceId) (named : Named) :
    (named.toInstance drawn).displayName = named.displayName := by
  obtain ⟨app, kind, name, scaled⟩ := named
  cases scaled with
  | some => simp [toInstance, displayName, form, Form.text, hyphen,
      ResourceInstance.newScaled, String.append_assoc]
  | none =>
    cases kind <;> simp [toInstance, displayName, form, Form.text, hyphen,
      ResourceInstance.newSingleton, ResourceInstance.singletonDisplayName, String.append_assoc]

theorem unhyphenated_displaySuffix (id : InstanceId) : Unhyphenated id.displaySuffix := by
  have digits : ∀ n < 16, Nat.digitChar n ≠ '-' := by decide
  simp only [Unhyphenated, InstanceId.displaySuffix, String.toList_ofList, List.mem_map, not_exists,
    not_and]
  intro i _
  exact digits _ (Nat.mod_lt _ (by decide))

theorem form_proper : named.form.Proper := by
  unfold form
  split
  · exact unhyphenated_displaySuffix _
  · exact unhyphenated_displaySuffix _
  · trivial
  · trivial

def suffix : Option String :=
  match named.form with
  | .suffixed _ suffix => some suffix
  | _ => none

/-- Instances with the same suffix are one, unless both are jobs: random ids have
distinct suffixes, and none has the suffix of the nil id. -/
def SuffixesApart (first second : Named) : Prop :=
  ∀ suffix, first.suffix = some suffix → second.suffix = some suffix →
    first = second ∨ first.scaled = none ∧ second.scaled = none

/-- The app of the first is named like that of the second and more, and the form
of the second begins with what is more. -/
def Extends (first second : Named) : Prop :=
  ∃ middle, first.app.text = hyphen second.app.text middle ∧
    second.form.text = hyphen middle first.form.text

/-- How different instances come to share a display name. -/
def Collides (first second : Named) : Prop :=
  (first.app = second.app ∧ (first.form.Clash second.form ∨ second.form.Clash first.form)) ∨
    first.Extends second ∨ second.Extends first

theorem form_name : named.form.name = named.name := by
  unfold form
  split <;> rfl

variable {named : Named}

theorem form_kind (single : named.scaled = none) : named.form.kind = named.kind := by
  unfold form
  rw [single]
  cases named.kind <;> rfl

theorem scaled_of_suffix (unsuffixed : named.suffix = none) : named.scaled = none := by
  cases scaled : named.scaled with
  | none => rfl
  | some => simp [suffix, form, scaled] at unsuffixed

variable {first second : Named}

theorem eq_of_form (apart : SuffixesApart first second) (app : first.app = second.app)
    (form : first.form = second.form) : first = second := by
  have suffixes : first.suffix = second.suffix := by rw [suffix, suffix, form]
  have singletons : first.scaled = none → second.scaled = none → first = second := by
    intro one two
    have kinds : first.kind = second.kind := by rw [← form_kind one, ← form_kind two, form]
    have names : first.name = second.name := by rw [← form_name, ← form_name, form]
    cases first
    cases second
    simp_all
  cases held : first.suffix with
  | none => exact singletons (scaled_of_suffix held) (scaled_of_suffix (suffixes ▸ held))
  | some suffix =>
    rcases apart suffix held (suffixes ▸ held) with same | ⟨one, two⟩
    · exact same
    · exact singletons one two

/-- **Which instances have the same display name.** -/
theorem displayName_eq_iff (different : first ≠ second) (apart : SuffixesApart first second) :
    first.displayName = second.displayName ↔ first.Collides second := by
  have forms := Form.text_eq_iff first.form_proper second.form_proper
  rw [displayName, displayName, hyphen_eq_hyphen]
  constructor
  · rintro (⟨app, text⟩ | moved | moved)
    · have app := BslName.text_injective app
      rcases forms.mp text with same | clash
      · exact absurd (eq_of_form apart app same) different
      · exact .inl ⟨app, clash⟩
    · exact .inr (.inl moved)
    · exact .inr (.inr moved)
  · rintro (⟨app, clash⟩ | moved | moved)
    · exact .inl ⟨congrArg BslName.text app, forms.mpr (.inr clash)⟩
    · exact .inr (.inl moved)
    · exact .inr (.inr moved)

end Named

/-! ## Volume directories -/

def siteVolumeDir (site : String) : String := hyphen "site" site

theorem forApp_eq_hyphen (app name : String) :
    VolumeName.forApp app name = hyphen app (hyphen "volume" name) := by
  apply String.toList_injective
  simp [VolumeName.forApp, kindSlug]

/-- How an app volume comes to share its directory with a site volume: the app is
called `site`, or `site` and the words the site volume's name begins with. -/
def SharesWithSite (app name site : String) : Prop :=
  (app = "site" ∧ site = hyphen "volume" name) ∨
    ∃ middle, app = hyphen "site" middle ∧ site = hyphen middle (hyphen "volume" name)

theorem forApp_eq_siteVolumeDir_iff (app name site : String) :
    VolumeName.forApp app name = siteVolumeDir site ↔ SharesWithSite app name site := by
  rw [forApp_eq_hyphen, siteVolumeDir, hyphen_eq_of_first (by decide)]
  constructor
  · rintro (⟨app, site⟩ | moved)
    · exact .inl ⟨app, site.symm⟩
    · exact .inr moved
  · rintro (⟨app, site⟩ | moved)
    · exact .inl ⟨app, site.symm⟩
    · exact .inr moved

/-! ## The law -/

/-- **Different instances have different display names exactly if they do not
collide, and an app volume and a site volume have different directories exactly
if they do not share one.** -/
theorem display_names_differ_iff (drawn other : InstanceId) (first second : Named)
    (different : first ≠ second) (apart : first.SuffixesApart second)
    (app name site : BslName) :
    ((first.toInstance drawn).displayName ≠ (second.toInstance other).displayName ↔
        ¬ first.Collides second) ∧
      (VolumeName.forApp app.text name.text ≠ siteVolumeDir site.text ↔
        ¬ SharesWithSite app.text name.text site.text) := by
  constructor
  · rw [Named.toInstance_displayName, Named.toInstance_displayName, ne_eq,
      Named.displayName_eq_iff different apart]
  · rw [ne_eq, forApp_eq_siteVolumeDir_iff]

/-- The hypotheses are met by a job and a replica of a deployment of its name, which
differ in their suffixes alone. -/
theorem job_and_replica_differ :
    let foo : BslName := ⟨"foo", by decide⟩
    let bar : BslName := ⟨"bar", by decide⟩
    let job : Named := ⟨foo, .job, bar.text, none⟩
    let replica : Named := ⟨foo, .deployment, bar.text, some (1#128 <<< 96)⟩
    job ≠ replica ∧ job.SuffixesApart replica ∧ ¬ job.Collides replica := by
  intro foo bar job replica
  have apart : job.SuffixesApart replica := by
    intro suffix one two
    exact absurd (one.trans two.symm) (by decide)
  have different : job ≠ replica := by decide
  exact ⟨different, apart,
    (display_names_differ_iff 1 2 job replica different apart foo bar bar).1.mp (by decide)⟩

/-- Instances that collide: volumes of two apps, a deployment and a service of one
app, and a volume of an app and a site volume.  All the names are valid, and none
is reserved. -/
theorem display_names_collide :
    let foo : BslName := ⟨"foo", by decide⟩
    let fooVolume : BslName := ⟨"foo-volume", by decide⟩
    let bar : BslName := ⟨"bar", by decide⟩
    let volumeBar : BslName := ⟨"volume-bar", by decide⟩
    let serviceBar : BslName := ⟨"service-bar", by decide⟩
    let site : BslName := ⟨"site", by decide⟩
    ((⟨foo, .volume, volumeBar.text, none⟩ : Named).toInstance 1).displayName =
        ((⟨fooVolume, .volume, bar.text, none⟩ : Named).toInstance 2).displayName ∧
      ((⟨foo, .deployment, serviceBar.text, none⟩ : Named).toInstance 1).displayName =
        ((⟨foo, .service, bar.text, none⟩ : Named).toInstance 2).displayName ∧
      VolumeName.forApp site.text bar.text = siteVolumeDir volumeBar.text ∧
      [foo, fooVolume, site].all (checkAppName ·.text matches .ok ()) ∧
      (checkSiteVolumeName volumeBar.text matches .ok ()) := by
  decide

end Seedling.Instances
