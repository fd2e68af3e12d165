import Mathlib.Data.List.Dedup
import Seedling.Apps.Definition
import Seedling.Barrier.Resolve
import Seedling.Foundation.Machine
import Seedling.Foundation.Separated
import Seedling.Foundation.Table

/-!
# The keys of clients

The fingerprints that the client verifier trusts are kept in memory and in a table.  They
are added and removed through the interface, and at every start those of the bootstrap
file that are not in the table are imported.

`keys_follow_events` says that the two always agree, and that a client is let in only if
the last thing to happen to its key was not a revocation, every import counting;
`revoked_key_returns` is a key that comes back with the next start.
-/

namespace Seedling.Interface

open Foundation List
open Apps (OiError)
open Barrier (trimChars isWhiteSpace)

/-! ## Fingerprints -/

def hexDigits : List Char := "0123456789abcdefABCDEF".toList

def invalidFingerprint : String :=
  "fingerprint must be a SHA-256 digest: 64 hex characters, optionally prefixed `sha256:`"

def stripSha256 (trimmed : List Char) : List Char :=
  if ['s', 'h', 'a', '2', '5', '6', ':'].isPrefixOf trimmed ∨
      ['S', 'H', 'A', '2', '5', '6', ':'].isPrefixOf trimmed then trimmed.drop 7
  else trimmed

/-- The form in which the verifier compares.  What is all hexadecimal digits has as many
bytes as characters. -/
def parseFingerprint (text : String) : Except String String :=
  let body := stripSha256 (trimChars text.toList)
  if body.length ≠ 64 ∨ body.any (· ∉ hexDigits) then .error invalidFingerprint
  else .ok (String.ofList (body.map Char.toLower))

def Canonical (fingerprint : String) : Prop := parseFingerprint fingerprint = .ok fingerprint

/-! ## The table and the set -/

structure AuthorizedKey where
  fingerprint : String
  label : String
  addedAt : Int

def AuthorizedKey.clash (first second : AuthorizedKey) : Bool :=
  first.fingerprint = second.fingerprint

/-- The stored keys, and the fingerprints that the verifier trusts. -/
structure Keys where
  table : Table AuthorizedKey.clash
  trusted : List String

def Keys.Stored (keys : Keys) (fingerprint : String) : Prop :=
  ∃ row ∈ keys.table.rows, row.fingerprint = fingerprint

instance (keys : Keys) (fingerprint : String) : Decidable (keys.Stored fingerprint) :=
  inferInstanceAs (Decidable (∃ row ∈ keys.table.rows, row.fingerprint = fingerprint))

/-- How the database takes the count and the write for a fingerprint: done, or why not. -/
structure Database where
  counts : String → Bool
  refuses : String → Option String

def loadFromDb (table : Table AuthorizedKey.clash) (trusted : List String) : List String :=
  table.rows.foldl (fun set row => set.insert row.fingerprint) trusted

/-- The fingerprint and the label on a line of the bootstrap file. -/
def bootstrapEntry (line : String) : Option (String × String) :=
  let line := trimChars line.toList
  if line = [] ∨ line.head? = some '#' then none
  else
    match line.takeWhile (· ≠ ' '), line.dropWhile (· ≠ ' ') with
    | [], _ => none
    | fingerprint, [] => some (String.ofList fingerprint, "bootstrap")
    | fingerprint, _ :: label =>
      some (String.ofList fingerprint, String.ofList (trimChars label))

/-- The entries of the bootstrap file, if there is one.  Lines are trimmed, so that how
they end makes no difference. -/
def bootstrapEntries (file : Option String) : List (String × String) :=
  match file with
  | none => []
  | some content => (splitText '\n' content).filterMap bootstrapEntry

inductive KeyEvent where
  | authorized
  | imported
  | revoked
deriving DecidableEq

structure Running where
  keys : Keys
  history : List (KeyEvent × String)

def Running.fresh : Running := ⟨⟨.empty, []⟩, []⟩

/-- Imports an entry that is not stored.  A count that fails is taken for none. -/
def importEntry (db : Database) (now : Int) (state : Running) (entry : String × String) : Running :=
  let row : AuthorizedKey := ⟨entry.1, entry.2, now⟩
  if db.counts entry.1 ∧ state.keys.Stored entry.1 then state
  else if db.refuses entry.1 = none ∧ state.keys.table.Admits row then
    { keys := ⟨state.keys.table.insertOrIgnore row, state.keys.trusted.insert entry.1⟩
      history := state.history ++ [(.imported, entry.1)] }
  else state

/-- The daemon starts: the set is filled from the table, and the file is imported. -/
def start (db : Database) (now : Int) (file : Option String) (state : Running) : Running :=
  (bootstrapEntries file).foldl (importEntry db now)
    { state with keys := ⟨state.keys.table, loadFromDb state.keys.table []⟩ }

theorem clash_relabel (fingerprint label : String) (first second : AuthorizedKey) :
    AuthorizedKey.clash (if first.fingerprint = fingerprint then { first with label } else first)
      (if second.fingerprint = fingerprint then { second with label } else second) =
      AuthorizedKey.clash first second := by
  split <;> split <;> rfl

/-- Inserts a key, or changes the label of one that is there. -/
def upsertKey (row : AuthorizedKey) (table : Table AuthorizedKey.clash) :
    Table AuthorizedKey.clash :=
  (table.mapRows
    (fun old => if old.fingerprint = row.fingerprint then { old with label := row.label } else old)
    (clash_relabel row.fingerprint row.label)).insertOrIgnore row

def dbError (problem : String) : OiError := .notFound s!"db error: {problem}"

def authorizeKey (db : Database) (now : Int) (given label : String) (state : Running) :
    Except OiError Unit × Running :=
  match parseFingerprint given with
  | .error problem => (.error ⟨.requirementsInvalid, problem⟩, state)
  | .ok fingerprint =>
    match db.refuses fingerprint with
    | some problem => (.error (dbError problem), state)
    | none =>
      (.ok (),
        { keys := ⟨upsertKey ⟨fingerprint, label, now⟩ state.keys.table,
            state.keys.trusted.insert fingerprint⟩
          history := state.history ++ [(.authorized, fingerprint)] })

def revokeKey (db : Database) (given : String) (state : Running) : Except OiError Unit × Running :=
  match parseFingerprint given with
  | .error problem => (.error ⟨.requirementsInvalid, problem⟩, state)
  | .ok fingerprint =>
    match db.refuses fingerprint with
    | some problem => (.error (dbError problem), state)
    | none =>
      if state.keys.Stored fingerprint then
        (.ok (),
          { keys := ⟨state.keys.table.keepOnly (·.fingerprint ≠ fingerprint),
              state.keys.trusted.filter (· ≠ fingerprint)⟩
            history := state.history ++ [(.revoked, fingerprint)] })
      else (.error (.notFound s!"key not found: {fingerprint}"), state)

def listKeys (keys : Keys) : List AuthorizedKey :=
  keys.table.rows.mergeSort fun first second => first.addedAt ≤ second.addedAt

def verifyClientCert (keys : Keys) (fingerprint : String) : Bool :=
  keys.trusted.any (· = fingerprint)

/-! ## Runs -/

inductive Event where
  | authorize (db : Database) (now : Int) (given label : String)
  | revoke (db : Database) (given : String)
  | restart (db : Database) (now : Int)

def handle (file : Option String) (state : Running) : Event → Running
  | .authorize db now given label => (authorizeKey db now given label state).2
  | .revoke db given => (revokeKey db given state).2
  | .restart db now => start db now file state

def machine (file : Option String) : Machine Running Event Unit where
  step state event := ((), handle file state event)

def lastOf (fingerprint : String) (history : List (KeyEvent × String)) : Option KeyEvent :=
  ((history.filter (·.2 = fingerprint)).getLast?).map Prod.fst

def Database.working : Database := ⟨fun _ => true, fun _ => none⟩

/-- The verifier trusts what is stored, a client is let in only if its key was last
authorised or imported, and a key that is listed can be revoked as it is shown, if it was
not imported in another form. -/
structure KeysFollow (file : Option String) (state : Running) : Prop where
  same : ∀ fingerprint, fingerprint ∈ state.keys.trusted ↔ state.keys.Stored fingerprint
  accepted : ∀ fingerprint, verifyClientCert state.keys fingerprint →
    ∃ event, lastOf fingerprint state.history = some event ∧ event ≠ .revoked
  revocable : ∀ row ∈ listKeys state.keys,
    (row.fingerprint ∈ (bootstrapEntries file).map Prod.fst → Canonical row.fingerprint) →
    (revokeKey .working row.fingerprint state).1 = .ok () ∧
      ∀ left ∈ listKeys (revokeKey .working row.fingerprint state).2.keys,
        left.fingerprint ≠ row.fingerprint

/-! ## Parsed fingerprints -/

theorem lower_hexDigit : ∀ c ∈ hexDigits, c.toLower ∈ hexDigits ∧ c.toLower.toLower = c.toLower ∧
    isWhiteSpace c.toLower = false ∧ c.toLower ≠ 's' ∧ c.toLower ≠ 'S' := by
  have all : hexDigits.all fun c => c.toLower ∈ hexDigits ∧ c.toLower.toLower = c.toLower ∧
      isWhiteSpace c.toLower = false ∧ c.toLower ≠ 's' ∧ c.toLower ≠ 'S' := by decide
  exact fun c listed => of_decide_eq_true (all_eq_true.mp all c listed)

variable {chars : List Char}

theorem trimChars_of_clean (clean : ∀ c ∈ chars, isWhiteSpace c = false) :
    trimChars chars = chars := by
  have kept : ∀ {rest : List Char}, (∀ c ∈ rest, isWhiteSpace c = false) →
      rest.dropWhile isWhiteSpace = rest := by
    intro rest clean
    cases rest with
    | nil => rfl
    | cons c => exact dropWhile_cons_of_neg (by simp [clean c mem_cons_self])
  rw [trimChars, kept clean, kept fun c listed => clean c (mem_reverse.mp listed), reverse_reverse]

theorem stripSha256_of_head (start : ∀ c ∈ chars, c ≠ 's' ∧ c ≠ 'S') :
    stripSha256 chars = chars := by
  cases chars with
  | nil => rfl
  | cons c =>
    obtain ⟨notLower, notUpper⟩ := start c mem_cons_self
    simp [stripSha256, notLower.symm, notUpper.symm]

theorem canonical_of_parse {text fingerprint : String}
    (parsed : parseFingerprint text = .ok fingerprint) : Canonical fingerprint := by
  simp only [parseFingerprint] at parsed
  split at parsed
  · cases parsed
  · next valid =>
    obtain ⟨long, hex⟩ := not_or.mp valid
    push Not at long
    simp only [any_eq_true, decide_eq_true_eq, not_exists, not_and, not_not] at hex
    cases parsed
    generalize stripSha256 (trimChars text.toList) = body at long hex
    have lowered : ∀ c ∈ body.map Char.toLower, c ∈ hexDigits ∧ c.toLower = c ∧
        isWhiteSpace c = false ∧ c ≠ 's' ∧ c ≠ 'S' := by
      intro c listed
      obtain ⟨upper, within, rfl⟩ := mem_map.mp listed
      exact lower_hexDigit upper (hex upper within)
    have same : (body.map Char.toLower).map Char.toLower = body.map Char.toLower := by
      rw [map_congr_left fun c listed => (lowered c listed).2.1, map_id']
    rw [Canonical, parseFingerprint, String.toList_ofList,
      trimChars_of_clean fun c listed => (lowered c listed).2.2.1,
      stripSha256_of_head fun c listed => (lowered c listed).2.2.2]
    rw [if_neg, same]
    simp only [any_eq_true, decide_eq_true_eq]
    rintro (short | ⟨c, listed, notHex⟩)
    · exact short (by rw [length_map, long])
    · exact notHex (lowered c listed).1

/-! ## One step -/

theorem lastOf_append (fingerprint : String) (history : List (KeyEvent × String))
    (event : KeyEvent) (other : String) :
    lastOf fingerprint (history ++ [(event, other)]) =
      if other = fingerprint then some event else lastOf fingerprint history := by
  by_cases same : other = fingerprint
  · simp [lastOf, same]
  · simp [lastOf, same]

structure Inv (file : Option String) (state : Running) : Prop where
  same : ∀ fingerprint, fingerprint ∈ state.keys.trusted ↔ state.keys.Stored fingerprint
  last : ∀ fingerprint, state.keys.Stored fingerprint →
    ∃ event, lastOf fingerprint state.history = some event ∧ event ≠ .revoked
  form : ∀ fingerprint, state.keys.Stored fingerprint →
    Canonical fingerprint ∨ fingerprint ∈ (bootstrapEntries file).map Prod.fst

section Steps

variable {file : Option String} {state : Running} {table : Table AuthorizedKey.clash}
  {fingerprint : String}

theorem Inv.added (inv : Inv file state) {event : KeyEvent} (kept : event ≠ .revoked)
    (stored : ∀ other, (∃ row ∈ table.rows, row.fingerprint = other) ↔
      state.keys.Stored other ∨ other = fingerprint)
    (form : Canonical fingerprint ∨ fingerprint ∈ (bootstrapEntries file).map Prod.fst) :
    Inv file ⟨⟨table, state.keys.trusted.insert fingerprint⟩,
      state.history ++ [(event, fingerprint)]⟩ where
  same other := by
    rw [mem_insert_iff, inv.same, or_comm]
    exact (stored other).symm
  last other held := by
    rw [lastOf_append]
    split
    · exact ⟨event, rfl, kept⟩
    · next apart =>
      exact inv.last other (((stored other).mp held).resolve_right (Ne.symm apart))
  form other held := by
    rcases (stored other).mp held with before | rfl
    · exact inv.form other before
    · exact form

variable (row : AuthorizedKey)

theorem stored_insertOrIgnore (other : String) :
    (∃ old ∈ (table.insertOrIgnore row).rows, old.fingerprint = other) ↔
      (∃ old ∈ table.rows, old.fingerprint = other) ∨ other = row.fingerprint := by
  simp only [Table.mem_insertOrIgnore]
  constructor
  · rintro ⟨old, before | ⟨-, rfl⟩, rfl⟩
    · exact Or.inl ⟨old, before, rfl⟩
    · exact Or.inr rfl
  · rintro (⟨old, before, rfl⟩ | rfl)
    · exact ⟨old, Or.inl before, rfl⟩
    · by_cases admitted : table.Admits row
      · exact ⟨row, Or.inr ⟨admitted, rfl⟩, rfl⟩
      · obtain ⟨old, before, clashes⟩ : ∃ old ∈ table.rows, old.clash row ≠ false := by
          simpa [Table.Admits] using admitted
        exact ⟨old, Or.inl before, by simpa [AuthorizedKey.clash] using clashes⟩

theorem stored_upsertKey (other : String) :
    (∃ old ∈ (upsertKey row table).rows, old.fingerprint = other) ↔
      (∃ old ∈ table.rows, old.fingerprint = other) ∨ other = row.fingerprint := by
  rw [upsertKey, stored_insertOrIgnore]
  have relabelled : ∀ old : AuthorizedKey, (if old.fingerprint = row.fingerprint then
      { old with label := row.label } else old).fingerprint = old.fingerprint := by
    intro old
    split <;> rfl
  simp [Table.mapRows, relabelled]

theorem Inv.importEntry (inv : Inv file state) (db : Database) (now : Int)
    {entry : String × String} (listed : entry ∈ bootstrapEntries file) :
    Inv file (importEntry db now state entry) := by
  unfold Interface.importEntry
  dsimp only
  split
  · exact inv
  · split
    · exact inv.added nofun (stored_insertOrIgnore _) (Or.inr (mem_map_of_mem listed))
    · exact inv

theorem mem_loadFromDb (trusted : List String) : fingerprint ∈ loadFromDb table trusted ↔
    fingerprint ∈ trusted ∨ ∃ row ∈ table.rows, row.fingerprint = fingerprint := by
  unfold loadFromDb
  induction table.rows generalizing trusted with
  | nil => simp
  | cons row rows ih =>
    rw [foldl_cons, ih, mem_insert_iff]
    simp only [mem_cons, exists_eq_or_imp]
    tauto

theorem Inv.start (inv : Inv file state) (db : Database) (now : Int) :
    Inv file (start db now file state) := by
  have loaded : Inv file { state with keys := ⟨state.keys.table, loadFromDb state.keys.table []⟩ } :=
    ⟨fun fingerprint => by simp [mem_loadFromDb, Keys.Stored], inv.last, inv.form⟩
  unfold Interface.start
  generalize Running.mk _ _ = state at loaded
  generalize all : bootstrapEntries file = entries
  have within : ∀ entry ∈ entries, entry ∈ bootstrapEntries file := fun _ listed => all ▸ listed
  clear all
  induction entries generalizing state with
  | nil => exact loaded
  | cons entry entries ih =>
    exact ih _ (loaded.importEntry db now (within entry mem_cons_self))
      fun other later => within other (mem_cons_of_mem _ later)

theorem Inv.authorizeKey (inv : Inv file state) (db : Database) (now : Int)
    (given label : String) : Inv file (authorizeKey db now given label state).2 := by
  unfold Interface.authorizeKey
  split
  · exact inv
  · next parsed =>
    split
    · exact inv
    · exact inv.added nofun (stored_upsertKey _) (Or.inl (canonical_of_parse parsed))

theorem stored_revoked (other : String) :
    (∃ row ∈ (table.keepOnly (·.fingerprint ≠ fingerprint)).rows, row.fingerprint = other) ↔
      (∃ row ∈ table.rows, row.fingerprint = other) ∧ other ≠ fingerprint := by
  simp only [Table.keepOnly, mem_filter, decide_eq_true_eq]
  constructor
  · rintro ⟨row, ⟨listed, apart⟩, rfl⟩
    exact ⟨⟨row, listed, rfl⟩, apart⟩
  · rintro ⟨⟨row, listed, rfl⟩, apart⟩
    exact ⟨row, ⟨listed, apart⟩, rfl⟩

theorem Inv.revokeKey (inv : Inv file state) (db : Database) (given : String) :
    Inv file (revokeKey db given state).2 := by
  unfold Interface.revokeKey
  split
  · exact inv
  · split
    · exact inv
    · split
      · refine ⟨fun other => ?_, fun other held => ?_, fun other held => ?_⟩
        · rw [mem_filter, inv.same, decide_eq_true_eq]
          exact (stored_revoked other).symm
        · obtain ⟨before, apart⟩ := (stored_revoked other).mp held
          rw [lastOf_append, if_neg (Ne.symm apart)]
          exact inv.last other before
        · exact inv.form other ((stored_revoked other).mp held).1
      · exact inv

theorem Inv.follow (inv : Inv file state) : KeysFollow file state where
  same := inv.same
  accepted fingerprint found := by
    obtain ⟨trusted, listed, same⟩ := any_eq_true.mp found
    exact inv.last fingerprint ((inv.same _).mp (of_decide_eq_true same ▸ listed))
  revocable row listed form := by
    have held : state.keys.Stored row.fingerprint := ⟨row, mem_mergeSort.mp listed, rfl⟩
    have canonical : Canonical row.fingerprint := (inv.form _ held).elim id form
    rw [Interface.revokeKey, show parseFingerprint row.fingerprint = _ from canonical]
    dsimp only
    rw [if_pos held]
    refine ⟨rfl, fun left remains => ?_⟩
    exact ((stored_revoked _).mp ⟨left, mem_mergeSort.mp remains, rfl⟩).2

end Steps

/-- **The set that the verifier trusts and the table always agree, and only keys that were
last authorised or imported are let in.** -/
theorem keys_follow_events (file : Option String) (events : List Event) :
    KeysFollow file ((machine file).run .fresh events) := by
  have start : Inv file .fresh :=
    ⟨fun _ => by simp [Running.fresh, Keys.Stored, Table.empty], nofun, nofun⟩
  apply Inv.follow
  apply (machine file).run_invariant _ _ events start
  intro state event inv
  cases event with
  | authorize db now given label => exact inv.authorizeKey db now given label
  | revoke db given => exact inv.revokeKey db given
  | restart db now => exact inv.start db now

/-- A key of the bootstrap file is imported, revoked, and imported again at the next start,
and its client is let in. -/
theorem revoked_key_returns :
    let fingerprint := String.ofList (List.replicate 64 'a')
    let state := (machine (some (fingerprint ++ " bestool"))).run .fresh
      [.restart .working 1, .revoke .working fingerprint, .restart .working 2]
    state.history = [(.imported, fingerprint), (.revoked, fingerprint), (.imported, fingerprint)] ∧
      verifyClientCert state.keys fingerprint := by
  decide +kernel

end Seedling.Interface
