import Mathlib.Data.String.Basic
import Seedling.Apps.CrashAtomicity
import Seedling.Foundation.LastWrite
import Seedling.Foundation.Table

/-!
# Stored definitions

A generation and a template name their definition by its content hash; the bundle
itself is one row of `definition_bundles`, shared by all that name it.  `storeBundle`
adds a bundle unless its hash is there, and `gcBundles` deletes the bundles that
neither a generation nor a template names.

`Tables` are the three tables as the database holds them.  A request about an app is
served as before, and `record` is what it writes to them.
-/

namespace Seedling.Apps

open Function Foundation AppState

/-! ## Rows -/

/-- How a bundle is hashed, stored and read back.  No two bundles have one hash, and
what is stored can be read. -/
structure BundleCodec (Bundle : Type) where
  hash : Bundle → String
  canonicalBytes : Bundle → List UInt8
  fromCanonicalBytes : List UInt8 → Except String Bundle
  hash_injective : Injective hash
  fromCanonicalBytes_canonicalBytes :
    ∀ bundle, fromCanonicalBytes (canonicalBytes bundle) = .ok bundle

structure StoredBundle where
  hash : String
  contents : List UInt8

def StoredBundle.clash (first second : StoredBundle) : Bool := first.hash = second.hash

structure TemplateRow where
  name : String
  bundleHash : String
  provenance : String
  description : Option String
  createdAt : String

def TemplateRow.clash (first second : TemplateRow) : Bool := first.name = second.name

structure Template (Bundle : Type) where
  name : String
  bundle : Bundle
  source : String
  description : Option String
  createdAt : String

structure UpdateFields (Bundle : Type) where
  definition : Option (Bundle × String)
  description : Option (Option String)

inductive GenerationsError where
  | notFound (app : String) (generation : Nat)
  | missingBundle (hash : String)
  | corruptBundle (text : String)

/-- The tables definitions are kept in.  A row of `generations` holds the hash of its
bundle. -/
structure Tables where
  generations : List (String × GenerationRow String)
  bundles : Table StoredBundle.clash
  templates : Table TemplateRow.clash

namespace Tables

def empty : Tables := ⟨[], .empty, .empty⟩

/-! ## Bundles -/

section Bundles

variable {Bundle : Type} (codec : BundleCodec Bundle)

def storeBundle (bundle : Bundle) (tables : Tables) : Tables :=
  { tables with
    bundles := tables.bundles.insertOrIgnore ⟨codec.hash bundle, codec.canonicalBytes bundle⟩ }

/-- Read a bundle back, and refuse one that is not what its key says. -/
def loadBundle (hash : String) (tables : Tables) : Except GenerationsError Bundle :=
  match tables.bundles.rows.find? (·.hash = hash) with
  | none => .error (.missingBundle hash)
  | some row =>
    match codec.fromCanonicalBytes row.contents with
    | .error text => .error (.corruptBundle text)
    | .ok bundle =>
      let actual := codec.hash bundle
      if actual ≠ hash then
        .error (.corruptBundle s!"bundle stored under {hash} hashes to {actual}")
      else .ok bundle

variable (tables : Tables)

def refersTo (hash : String) : Bool :=
  tables.generations.any (·.2.bundle = hash) || tables.templates.rows.any (·.bundleHash = hash)

def gcBundles : Tables :=
  { tables with bundles := tables.bundles.keepOnly fun row => tables.refersTo row.hash }

end Bundles

/-! ## Generations -/

section Generations

variable {Bundle : Type} (codec : BundleCodec Bundle) (cipher : Cipher) (app : String)
  (tables : Tables)

def rowsOf : List (GenerationRow String) :=
  (tables.generations.filter (·.1 = app)).map Prod.snd

def nextGenerationFor : Nat :=
  ((tables.rowsOf app).map GenerationRow.generation).foldl max 0 + 1

def appendRow (row : GenerationRow String) (tables : Tables) : Tables :=
  { tables with generations := tables.generations ++ [(app, row)] }

/-- Record a generation that installs a definition, perhaps with a parameter change. -/
def insertRegisterOrUpdate (kind : GenerationKind) (bundle : Bundle)
    (param : Option ParamChange) (tables : Tables) : Tables :=
  let tables := tables.storeBundle codec bundle
  tables.appendRow app
    { generation := tables.nextGenerationFor app
      kind
      bundle := codec.hash bundle
      change := param.map (·.record cipher) }

def currentBundleHash : Option String :=
  (latestRow (tables.rowsOf app)).map GenerationRow.bundle

def bumpParamChange (change : ParamChange) (tables : Tables) : Tables :=
  match tables.currentBundleHash app with
  | none => tables
  | some hash =>
    tables.appendRow app
      { generation := tables.nextGenerationFor app
        kind := change.kind
        bundle := hash
        change := some (change.record cipher) }

def definitionAt (generation : Nat) (tables : Tables) : Except GenerationsError String :=
  match latestRow ((tables.rowsOf app).filter fun row =>
    row.generation ≤ generation && row.installs) with
  | none => .error (.notFound app generation)
  | some row => .ok row.bundle

/-- A recorded change as `paramMapAt` selects it. -/
structure ChangeRow where
  generation : Nat
  kind : GenerationKind
  change : RecordedChange

def changeRow? {Name : Type} (row : GenerationRow Name) : Option ChangeRow :=
  if row.kind = .register then none
  else row.change.map fun change => ⟨row.generation, row.kind, change⟩

def ChangeRow.name (row : ChangeRow) : String := row.change.name

/-- The value a change sets its parameter to.  An update that recorded no new value
unset it. -/
def ChangeRow.newValue (row : ChangeRow) : Option String :=
  let change := row.change
  let sets := row.kind = .paramSet ||
    (row.kind = .scriptUpdate && (change.newValue.isSome || change.newCiphertext.isSome))
  if sets then
    match change.newCiphertext with
    | some ciphertext => cipher.decrypt ciphertext
    | none => change.newValue
  else none

/-- The parameters in force at a generation, from the history: the changes are read by
name with the latest first, and only the first of a name counts. -/
def paramMapAt (generation : Nat) (tables : Tables) : Values :=
  let selected := ((tables.rowsOf app).filter (·.generation ≤ generation)).filterMap changeRow?
  firstOfEach ChangeRow.name (ChangeRow.newValue cipher)
    (selected.mergeSort (latestFirst ChangeRow.name ChangeRow.generation))

/-- Delete the generations of an app, and the bundles that nothing names any more. -/
def deleteForApp : Tables :=
  { tables with generations := tables.generations.filter (·.1 ≠ app) }.gcBundles

end Generations

/-! ## Templates -/

section Templates

variable {Bundle : Type} (codec : BundleCodec Bundle)

/-- Store a template.  A name that is taken fails the transaction. -/
def createTemplate (template : Template Bundle) (tables : Tables) : Bool × Tables :=
  let row : TemplateRow :=
    { name := template.name
      bundleHash := codec.hash template.bundle
      provenance := template.source
      description := template.description
      createdAt := template.createdAt }
  if tables.templates.Admits row then
    let tables := tables.storeBundle codec template.bundle
    (true, { tables with templates := tables.templates.insertOrIgnore row })
  else (false, tables)

def setFields (fields : UpdateFields Bundle) (row : TemplateRow) : TemplateRow :=
  let row :=
    match fields.definition with
    | some (bundle, source) => { row with bundleHash := codec.hash bundle, provenance := source }
    | none => row
  match fields.description with
  | some description => { row with description }
  | none => row

theorem setFields_name (fields : UpdateFields Bundle) (row : TemplateRow) :
    (setFields codec fields row).name = row.name := by
  unfold setFields
  split <;> split <;> rfl

def updateRows (name : String) (fields : UpdateFields Bundle)
    (templates : Table TemplateRow.clash) : Table TemplateRow.clash where
  rows := templates.rows.map fun row => if row.name = name then setFields codec fields row else row
  distinct := by
    rw [List.pairwise_map]
    refine templates.distinct.imp fun {first second} apart => ?_
    have named : ∀ row : TemplateRow,
        (if row.name = name then setFields codec fields row else row).name = row.name := by
      intro row
      split
      · exact setFields_name codec fields row
      · rfl
    rw [TemplateRow.clash, named, named]
    exact apart

def templateExists (name : String) (tables : Tables) : Bool :=
  tables.templates.rows.any (·.name = name)

def updateTemplate (name : String) (fields : UpdateFields Bundle) (tables : Tables) :
    Bool × Tables :=
  if fields.definition.isNone && fields.description.isNone then
    (tables.templateExists name, tables)
  else
    let stored :=
      match fields.definition with
      | some (bundle, _) => tables.storeBundle codec bundle
      | none => tables
    (tables.templateExists name,
      { stored with templates := updateRows codec name fields stored.templates }.gcBundles)

def deleteTemplate (name : String) (tables : Tables) : Bool × Tables :=
  (tables.templateExists name,
    { tables with templates := tables.templates.keepOnly (·.name ≠ name) }.gcBundles)

end Templates

end Tables

/-! ## Requests -/

section Requests

variable {Bundle : Type} (host : Host Bundle) (codec : BundleCodec Bundle)

/-- What a request about an app writes to the tables, from the app's state before and
after it. -/
def record (app : String) (request : AppRequest Bundle) (before : AppState Bundle)
    (served : Outcome × AppState Bundle) (tables : Tables) : Tables :=
  let recordParam (busy : Bool) (name : String) (value : Option String) : Tables :=
    match admitted host app busy name value before with
    | none => tables
    | some entry => tables.bumpParamChange host.cipher app (recordedBy host entry name value before)
  match request with
  | .setParam busy name value => recordParam busy name (some value)
  | .unsetParam busy name => recordParam busy name none
  | .register bundle =>
    if served.1.answer.isOk then
      tables.insertRegisterOrUpdate codec host.cipher app .register bundle none
    else tables
  | .update _ bundle param =>
    if served.1.answer.isOk then
      let change := (updateChange host.cipher before param).map fun (name, previous, value) =>
        { name
          previous
          newValue := value
          -- the new definition decides whether the parameter is secret
          isSecret := served.2.entry.any (·.appDef.isSecret name)
          previousIsSecret := before.isStoredSecret name }
      tables.insertRegisterOrUpdate codec host.cipher app .scriptUpdate bundle change
    else tables
  | .deregister _ => if served.1.answer.isOk then tables.deleteForApp app else tables
  | _ => tables

structure Definitions (Bundle : Type) where
  apps : Store Bundle
  tables : Tables

def Definitions.blank : Definitions Bundle := ⟨fun _ => .blank, .empty⟩

inductive DefinitionRequest (Bundle : Type) where
  | store (request : StoreRequest Bundle)
  | createTemplate (template : Template Bundle)
  | updateTemplate (name : String) (fields : UpdateFields Bundle)
  | deleteTemplate (name : String)

/-- What comes of a request: what an app's caller is told, or whether the template
was created or found. -/
inductive DefinitionAnswer where
  | apps (outcomes : String → Option Outcome)
  | template (done : Bool)

def definitionStep (definitions : Definitions Bundle) :
    DefinitionRequest Bundle → DefinitionAnswer × Definitions Bundle
  | .store request =>
    let (outcomes, apps) := storeStep host definitions.apps request
    let tables :=
      match request with
      | .about app request =>
        let before := definitions.apps app
        record host codec app request before (serve host app request before) definitions.tables
      | .restart => definitions.tables
    (.apps outcomes, ⟨apps, tables⟩)
  | .createTemplate template =>
    let (done, tables) := definitions.tables.createTemplate codec template
    (.template done, { definitions with tables })
  | .updateTemplate name fields =>
    let (done, tables) := definitions.tables.updateTemplate codec name fields
    (.template done, { definitions with tables })
  | .deleteTemplate name =>
    let (done, tables) := definitions.tables.deleteTemplate name
    (.template done, { definitions with tables })

def definitionMachine :
    Machine (Definitions Bundle) (DefinitionRequest Bundle) DefinitionAnswer where
  step := definitionStep host codec

end Requests

end Seedling.Apps
