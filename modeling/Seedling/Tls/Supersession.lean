import Seedling.Tls.Resolution

/-!
# Supersession

A certificate arrives in one of three ways: as a new row, for a pending signing request,
or as the next chain for a key that Canopy issues to.  Each stores it as active and then
retires the active certificates it replaces, in one transaction (`Arrival.store`).

A candidate is retired only if the arriving certificate covers every name it serves,
is current, lasts at least as long and is not self-issued unless the candidate is; so
what a retired certificate serves at any later time the arriving one serves too
(`Replaces.serves`), and no hostname loses its TLS (`arrival_keeps_coverage`).
-/

namespace Seedling.Tls

open Foundation List Bool Option StaleRecord

/-! ## Rows in place -/

namespace CertificateTable

variable (table : CertificateTable)

def updateRow (id : Int) (change : TlsCertificate → TlsCertificate)
    (keepsId : ∀ row, (change row).id = row.id) : CertificateTable :=
  table.mapRows (fun row => if row.id = id then change row else row) <| by
    have same : ∀ row : TlsCertificate, (if row.id = id then change row else row).id = row.id := by
      intro row
      split
      · exact keepsId row
      · rfl
    intro first second
    simp only [TlsCertificate.clash, same]

def getCertificate (id : Int) : Option TlsCertificate :=
  table.rows.find? (·.id = id)

def setState (id : Int) (state : TlsCertState) : CertificateTable :=
  table.updateRow id (fun row => { row with state }) fun _ => rfl

def freshId : Int := table.rows.foldr (fun row id => max row.id id) 0 + 1

variable {table : CertificateTable} {id : Int} {change : TlsCertificate → TlsCertificate}
  {keepsId : ∀ row, (change row).id = row.id} {row : TlsCertificate}

theorem mem_updateRow : row ∈ (table.updateRow id change keepsId).rows ↔
    ∃ old ∈ table.rows, (if old.id = id then change old else old) = row := mem_map

theorem mem_of_getCertificate (found : table.getCertificate id = some row) :
    row ∈ table.rows ∧ row.id = id := by
  have matched := find?_some (p := fun row : TlsCertificate => decide (row.id = id)) found
  exact ⟨mem_of_find?_eq_some found, of_decide_eq_true matched⟩

theorem eq_of_id {other : TlsCertificate} (one : row ∈ table.rows) (two : other ∈ table.rows)
    (same : row.id = other.id) : row = other :=
  Table.eq_of_clash TlsCertificate.clash_symm one two (decide_eq_true same)

theorem getCertificate_of_mem (mem : row ∈ table.rows) :
    table.getCertificate row.id = some row := by
  cases found : table.getCertificate row.id with
  | none =>
    have missed := find?_eq_none.mp found row mem
    exact absurd (decide_eq_true rfl) missed
  | some =>
    obtain ⟨stored, same⟩ := mem_of_getCertificate found
    rw [eq_of_id stored mem same]

theorem id_lt_freshId (mem : row ∈ table.rows) : row.id < table.freshId := by
  have bounded : ∀ rows : List TlsCertificate, row ∈ rows →
      row.id ≤ rows.foldr (fun row id => max row.id id) 0 := by
    intro rows
    induction rows with
    | nil => exact fun mem => absurd mem not_mem_nil
    | cons first rest ih =>
      intro mem
      rcases mem_cons.mp mem with rfl | later
      · exact le_max_left _ _
      · exact le_trans (ih later) (le_max_right _ _)
  exact Int.lt_add_one_of_le (bounded table.rows mem)

end CertificateTable

/-! ## Storing -/

structure CertMetadata where
  notBefore : Option Int
  notAfter : Option Int
  selfSigned : Bool

structure NewCertificate where
  hostname : String
  state : TlsCertState
  origin : TlsCertOrigin
  certPem : Option String
  metadata : CertMetadata

open CertificateTable

def NewCertificate.row (new : NewCertificate) (id now : Int) : TlsCertificate where
  id
  hostname := new.hostname
  state := new.state
  origin := new.origin
  certPem := new.certPem
  notBefore := new.metadata.notBefore
  notAfter := new.metadata.notAfter
  selfSigned := new.metadata.selfSigned
  createdAt := now

def insertCertificate (new : NewCertificate) (now : Int) (table : CertificateTable) :
    CertificateTable × Int :=
  (table.insertOrIgnore (new.row table.freshId now), table.freshId)

def TlsCertificate.activate (row : TlsCertificate) (certPem : String) (metadata : CertMetadata)
    (now : Int) : TlsCertificate :=
  { row with
    state := .active
    certPem := some certPem
    notBefore := metadata.notBefore
    notAfter := metadata.notAfter
    selfSigned := metadata.selfSigned
    createdAt := now }

/-- Activate a pending request; nothing if the row is no longer pending. -/
def activatePendingCsr (id : Int) (label certPem : String) (metadata : CertMetadata) (now : Int)
    (table : CertificateTable) : Option CertificateTable :=
  if table.rows.any fun row => row.id = id && row.state = .csrPending then
    some (table.updateRow id
      (fun row => { row.activate certPem metadata now with hostname := label }) fun _ => rfl)
  else none

/-- A key Canopy issues to that still waits for its certificate or holds one. -/
def TlsCertificate.isCanopyKey (row : TlsCertificate) : Bool :=
  row.origin = .canopy && (row.state = .csrPending || row.state = .active)

/-- Put the chain Canopy delivered in place; nothing if the key is no longer held. -/
def activateCanopyChain (id : Int) (certPem : String) (metadata : CertMetadata) (now : Int)
    (table : CertificateTable) : Option CertificateTable :=
  if table.rows.any fun row => row.id = id && row.isCanopyKey then
    some (table.updateRow id (fun row => row.activate certPem metadata now) fun _ => rfl)
  else none

/-! ## Retiring -/

section Retiring

variable (leafFacts : LeafReader)

/-- The candidates are the other active rows of the same label. -/
def isCandidate (arriving row : TlsCertificate) : Bool :=
  row.hostname = arriving.hostname && row.state = .active && row.id ≠ arriving.id

/-- Both ends are recorded, and the arriving certificate lasts as long. -/
def outlasts (arrivingEnd candidateEnd : Option Int) : Bool :=
  match candidateEnd, arrivingEnd with
  | some candidateEnd, some arrivingEnd => candidateEnd ≤ arrivingEnd
  | _, _ => false

/-- The arriving certificate takes the candidate's place. -/
def replaces (arriving : TlsCertificate) (arrivingFacts : LeafFacts) (now : Int)
    (candidate : TlsCertificate) : Bool :=
  candidate.hasBegun now && outlasts arriving.notAfter candidate.notAfter &&
    match candidate.leaf? leafFacts with
    | none => false
    | some served =>
      !(arrivingFacts.selfIssued && !served.selfIssued) && served.sanDnsNames ≠ [] &&
        served.sanDnsNames.all fun name => sanCovers arrivingFacts.sanDnsNames name

def retire (table : CertificateTable) (candidates : List TlsCertificate) : CertificateTable :=
  candidates.foldl (fun table candidate => table.setState candidate.id .superseded) table

/-- Retire what the certificate of an id replaces, and how many rows that were. -/
def supersedeOtherActiveForHostname (keepId now : Int) (table : CertificateTable) :
    Except String (CertificateTable × Nat) :=
  match table.getCertificate keepId with
  | none => .error s!"certificate {keepId} could not be read back for supersession"
  | some arriving =>
    match arriving.certPem.map leafFacts with
    | none => .error s!"certificate {keepId} has no stored PEM"
    | some (.error e) => .error s!"certificate {keepId} could not be parsed for supersession: {e}"
    | some (.ok arrivingFacts) =>
      if arriving.isCurrent now then
        let replaced := (table.rows.filter (isCandidate arriving)).filter
          (replaces leafFacts arriving arrivingFacts now)
        .ok (retire table replaced, replaced.length)
      else .ok (table, 0)

end Retiring

/-! ## The three ways to arrive -/

inductive Arrival where
  /-- A new row; every caller stores it as active. -/
  | inserted (hostname : String) (origin : TlsCertOrigin) (certPem : Option String)
      (metadata : CertMetadata)
  | forRequest (id : Int) (label certPem : String) (metadata : CertMetadata)
  | fromCanopy (id : Int) (certPem : String) (metadata : CertMetadata)

namespace Arrival

/-- The table with the certificate in it, and its id; nothing if there is no row for it. -/
def write (arrival : Arrival) (now : Int) (table : CertificateTable) :
    Option (CertificateTable × Int) :=
  match arrival with
  | inserted hostname origin certPem metadata =>
    some (insertCertificate ⟨hostname, .active, origin, certPem, metadata⟩ now table)
  | forRequest id label certPem metadata =>
    (activatePendingCsr id label certPem metadata now table).map (·, id)
  | fromCanopy id certPem metadata =>
    (activateCanopyChain id certPem metadata now table).map (·, id)

def stored (arrival : Arrival) (now : Int) (table : CertificateTable) : CertificateTable :=
  match arrival.write now table with
  | none => table
  | some (written, _) => written

/-- The table after the transaction, which a failed supersession rolls back. -/
def store (leafFacts : LeafReader) (arrival : Arrival) (now : Int) (table : CertificateTable) :
    CertificateTable :=
  match arrival.write now table with
  | none => table
  | some (written, id) =>
    match supersedeOtherActiveForHostname leafFacts id now written with
    | .error _ => table
    | .ok (after, _) => after

end Arrival

/-! ## What a write leaves -/

section Coverage

variable {leafFacts : LeafReader} {table written : CertificateTable} {arrival : Arrival}
  {id now time : Int} {hostname : String} {arriving candidate row : TlsCertificate}

/-- The row of the id is active, and every other row was there before. -/
structure Arrived (table written : CertificateTable) (id : Int) (arriving : TlsCertificate) :
    Prop where
  mem : arriving ∈ written.rows
  id_eq : arriving.id = id
  active : arriving.state = .active
  others : ∀ row ∈ written.rows, row.id ≠ id → row ∈ table.rows

theorem arrived_of_insert (new : NewCertificate) (active : new.state = .active) :
    ∃ arriving, Arrived table (insertCertificate new now table).1
      (insertCertificate new now table).2 arriving := by
  have admitted : table.Admits (new.row table.freshId now) := by
    intro old mem
    exact decide_eq_false (Int.ne_of_lt (id_lt_freshId mem))
  have rows : (insertCertificate new now table).1.rows =
      table.rows ++ [new.row table.freshId now] := Table.rows_insertOrIgnore admitted
  refine ⟨new.row table.freshId now, ?_, rfl, active, ?_⟩
  · rw [rows]
    exact mem_append_right _ (mem_singleton_self _)
  · intro row mem different
    rw [rows] at mem
    rcases mem_append.mp mem with old | added
    · exact old
    · rw [mem_singleton.mp added] at different
      exact absurd rfl different

theorem arrived_of_update {change : TlsCertificate → TlsCertificate}
    {keepsId : ∀ row, (change row).id = row.id} (active : ∀ row, (change row).state = .active)
    (present : ∃ row ∈ table.rows, row.id = id) :
    ∃ arriving, Arrived table (table.updateRow id change keepsId) id arriving := by
  obtain ⟨old, mem, same⟩ := present
  refine ⟨change old, mem_updateRow.mpr ⟨old, mem, if_pos same⟩, ?_, active old, ?_⟩
  · rw [keepsId, same]
  · intro row mem different
    obtain ⟨old, stored, rfl⟩ := mem_updateRow.mp mem
    split at different
    · rename_i updated
      exact absurd ((keepsId old).trans updated) different
    · rename_i other
      rw [if_neg other]
      exact stored

/-- Whichever way it comes, the certificate is stored as active and nothing else changes. -/
theorem arrived_of_write (wrote : arrival.write now table = some (written, id)) :
    ∃ arriving, Arrived table written id arriving := by
  have present : ∀ condition : TlsCertificate → Bool,
      (table.rows.any fun row => row.id = id && condition row) →
        ∃ row ∈ table.rows, row.id = id := by
    intro condition any
    obtain ⟨row, mem, matched⟩ := any_eq_true.mp any
    rw [and_eq_true] at matched
    exact ⟨row, mem, of_decide_eq_true matched.1⟩
  cases arrival with
  | inserted =>
    have same := some.inj wrote
    have first := congrArg Prod.fst same
    have second := congrArg Prod.snd same
    simp only at first second
    rw [← first, ← second]
    exact arrived_of_insert _ rfl
  | forRequest rowId label certPem metadata =>
    simp only [Arrival.write, activatePendingCsr, map_eq_some_iff] at wrote
    obtain ⟨after, activated, same⟩ := wrote
    obtain ⟨rfl, rfl⟩ := Prod.mk.injEq .. ▸ same
    split at activated
    · rename_i any
      rw [← some.inj activated]
      exact arrived_of_update (fun _ => rfl) (present _ any)
    · cases activated
  | fromCanopy rowId certPem metadata =>
    simp only [Arrival.write, activateCanopyChain, map_eq_some_iff] at wrote
    obtain ⟨after, activated, same⟩ := wrote
    obtain ⟨rfl, rfl⟩ := Prod.mk.injEq .. ▸ same
    split at activated
    · rename_i any
      rw [← some.inj activated]
      exact arrived_of_update (fun _ => rfl) (present _ any)
    · cases activated

/-! ## Names -/

/-- A name covers itself, and a wildcard what has one label in the place of its star. -/
theorem coversLower_cases {name host : List Char} (covers : coversLower name host) :
    name = host ∨ ∃ rest label, name = '*' :: '.' :: rest ∧
      splitOnceDot host = some (label, rest) := by
  simp only [coversLower, or_eq_true, decide_eq_true_eq] at covers
  refine covers.imp_right fun wild => ?_
  split at wild
  · rename_i rest label hostRest wildcard divided
    simp only [and_eq_true, decide_eq_true_eq] at wild
    refine ⟨rest, label, ?_, by rw [divided, wild.2]⟩
    unfold wildcardRest at wildcard
    split at wildcard
    · rw [some.inj wildcard]
    · cases wildcard
  · cases wild

theorem coversLower_trans {wide name host : List Char} (outer : coversLower wide name)
    (inner : coversLower name host) : coversLower wide host := by
  rcases coversLower_cases inner with rfl | ⟨rest, label, rfl, -⟩
  · exact outer
  · rcases coversLower_cases outer with rfl | ⟨rest', label', rfl, divided⟩
    · exact inner
    · -- a wildcard is covered by itself alone: its star is its first label
      have same : rest = rest' := by
        simp [splitOnceDot] at divided
        exact divided.2
      rwa [← same]

theorem sanCovers_trans {wide names : List String}
    (all : (names.all fun name => sanCovers wide name))
    (covers : sanCovers names hostname) : sanCovers wide hostname := by
  obtain ⟨name, mem, inner⟩ := any_eq_true.mp covers
  obtain ⟨widest, listed, outer⟩ := any_eq_true.mp (all_eq_true.mp all name mem)
  exact any_eq_true.mpr ⟨widest, listed, coversLower_trans outer inner⟩

/-! ## What is retired -/

structure Replaces (leafFacts : LeafReader) (arriving : TlsCertificate) (arrivingFacts : LeafFacts)
    (candidate : TlsCertificate) (served : LeafFacts) : Prop where
  read : candidate.leaf? leafFacts = some served
  outlasts : outlasts arriving.notAfter candidate.notAfter
  issuer : served.selfIssued = false → arrivingFacts.selfIssued = false
  names : (served.sanDnsNames.all fun name => sanCovers arrivingFacts.sanDnsNames name)

theorem replaces_spec {arrivingFacts : LeafFacts}
    (replaced : replaces leafFacts arriving arrivingFacts now candidate) :
    ∃ served, Replaces leafFacts arriving arrivingFacts candidate served := by
  simp only [replaces, and_eq_true] at replaced
  obtain ⟨⟨-, lasts⟩, decided⟩ := replaced
  cases read : candidate.leaf? leafFacts with
  | none =>
    rw [read] at decided
    cases decided
  | some served =>
    rw [read] at decided
    simp only [and_eq_true, not_eq_true', and_eq_false_iff] at decided
    refine ⟨served, read, lasts, ?_, decided.2⟩
    intro issued
    rcases decided.1.1 with clear | own
    · exact clear
    · rw [issued] at own
      cases own

/-- A certificate that is current and lasts as long is current whenever the other is, from
then on. -/
theorem isCurrent_of_outlasts (current : arriving.isCurrent now)
    (lasts : outlasts arriving.notAfter candidate.notAfter) (later : now ≤ time)
    (candidateCurrent : candidate.isCurrent time) : arriving.isCurrent time := by
  simp only [TlsCertificate.isCurrent, and_eq_true, not_eq_true'] at *
  refine ⟨?_, ?_⟩
  · have begun := current.1
    cases start : arriving.notBefore with
    | none => simp [TlsCertificate.hasBegun, start]
    | some =>
      simp only [TlsCertificate.hasBegun, start, any_some, not_eq_true',
        decide_eq_false_iff_not] at begun ⊢
      omega
  · have unexpired := candidateCurrent.2
    unfold outlasts at lasts
    split at lasts
    · rename_i candidateEnd arrivingEnd candidateAfter arrivingAfter
      simp only [TlsCertificate.hasExpired, candidateAfter, arrivingAfter, any_some,
        decide_eq_false_iff_not, decide_eq_true_eq] at unexpired lasts ⊢
      omega
    · cases lasts

/-- **What is retired is not missed**: where it would be served, the arriving certificate is
as good. -/
theorem Replaces.serves {arrivingFacts served : LeafFacts}
    (replaced : Replaces leafFacts arriving arrivingFacts candidate served)
    (read : arriving.leaf? leafFacts = some arrivingFacts)
    (current : arriving.isCurrent now) (later : now ≤ time)
    (candidateCurrent : candidate.isCurrent time)
    (covers : candidate.covers leafFacts hostname) :
    arriving.isCurrent time ∧ arriving.covers leafFacts hostname ∧
      (leafFlag leafFacts candidate = false → leafFlag leafFacts arriving = false) := by
  simp only [TlsCertificate.covers, leafFlag, read, replaced.read] at covers ⊢
  exact ⟨isCurrent_of_outlasts current replaced.outlasts later candidateCurrent,
    sanCovers_trans replaced.names covers, replaced.issuer⟩

theorem mem_retire {candidates : List TlsCertificate} (mem : row ∈ table.rows)
    (spared : ∀ candidate ∈ candidates, candidate.id ≠ row.id) :
    row ∈ (retire table candidates).rows := by
  induction candidates generalizing table with
  | nil => exact mem
  | cons candidate rest ih =>
    have different := (spared candidate mem_cons_self).symm
    have kept : row ∈ (table.setState candidate.id .superseded).rows :=
      mem_updateRow.mpr ⟨row, mem, if_neg different⟩
    exact ih kept fun other later => spared other (mem_cons_of_mem _ later)

variable (leafFacts now) in
/-- How a supersession ends: without the certificate having been read, with nothing retired,
or with those retired that the certificate, which is current, replaces. -/
theorem supersede_cases (arrived : Arrived table written id arriving) :
    (∃ error, supersedeOtherActiveForHostname leafFacts id now written = .error error ∧
      arriving.leaf? leafFacts = none) ∨
    (supersedeOtherActiveForHostname leafFacts id now written = .ok (written, 0)) ∨
    ∃ arrivingFacts replaced,
      arriving.leaf? leafFacts = some arrivingFacts ∧ arriving.isCurrent now ∧
      replaced = (written.rows.filter (isCandidate arriving)).filter
        (replaces leafFacts arriving arrivingFacts now) ∧
      supersedeOtherActiveForHostname leafFacts id now written =
        .ok (retire written replaced, replaced.length) := by
  have found : written.getCertificate id = some arriving := by
    rw [← arrived.id_eq]
    exact getCertificate_of_mem arrived.mem
  simp only [supersedeOtherActiveForHostname, found, TlsCertificate.leaf?]
  cases pem : arriving.certPem with
  | none => exact Or.inl ⟨_, rfl, rfl⟩
  | some text =>
    cases read : leafFacts text with
    | error =>
      simp only [map_some, read, bind_some]
      exact Or.inl ⟨_, rfl, rfl⟩
    | ok arrivingFacts =>
      simp only [map_some, read, bind_some]
      split
      · rename_i current
        exact Or.inr (Or.inr ⟨arrivingFacts, _, rfl, current, rfl, rfl⟩)
      · exact Or.inr (Or.inl rfl)

theorem Servable.of_mem {other : CertificateTable}
    (servable : Servable leafFacts table hostname time row) (mem : row ∈ other.rows) :
    Servable leafFacts other hostname time row :=
  ⟨mem, servable.active, servable.current, servable.covers⟩

/-- Each certificate that serves before supersession has one after it that serves as well. -/
theorem exists_servable_store (later : now ≤ time)
    (servable : Servable leafFacts (arrival.stored now table) hostname time row) :
    ∃ other, Servable leafFacts (arrival.store leafFacts now table) hostname time other ∧
      (leafFlag leafFacts row = false → leafFlag leafFacts other = false) := by
  unfold Arrival.stored at servable
  unfold Arrival.store
  cases wrote : arrival.write now table with
  | none =>
    rw [wrote] at servable
    exact ⟨row, servable, id⟩
  | some result =>
    obtain ⟨written, keepId⟩ := result
    rw [wrote] at servable
    simp only at servable ⊢
    obtain ⟨arriving, arrived⟩ := arrived_of_write wrote
    rcases supersede_cases leafFacts now arrived with
      ⟨error, failed, unread⟩ | nothing | ⟨arrivingFacts, replaced, read, current, rfl, done⟩
    · -- rolled back, and what could not be read served nothing
      rw [failed]
      have different : row.id ≠ keepId := by
        intro same
        have isArriving : row = arriving :=
          eq_of_id servable.stored arrived.mem (same.trans arrived.id_eq.symm)
        have covers := servable.covers
        rw [isArriving, TlsCertificate.covers, unread] at covers
        cases covers
      exact ⟨row, servable.of_mem (arrived.others row servable.stored different), id⟩
    · rw [nothing]
      exact ⟨row, servable, id⟩
    · rw [done]
      by_cases retired : row ∈ (written.rows.filter (isCandidate arriving)).filter
          (replaces leafFacts arriving arrivingFacts now)
      · have decided := (mem_filter.mp retired).2
        obtain ⟨served, replaces⟩ := replaces_spec decided
        obtain ⟨stillCurrent, covers, issuer⟩ :=
          replaces.serves read current later servable.current servable.covers
        have kept : arriving ∈ (retire written ((written.rows.filter (isCandidate arriving)).filter
            (Tls.replaces leafFacts arriving arrivingFacts now))).rows := by
          refine mem_retire arrived.mem ?_
          intro candidate member
          have isCandidate := (mem_filter.mp (mem_filter.mp member).1).2
          simp only [Tls.isCandidate, and_eq_true, decide_eq_true_eq] at isCandidate
          exact isCandidate.2
        exact ⟨arriving, ⟨kept, arrived.active, stillCurrent, covers⟩, issuer⟩
      · refine ⟨row, servable.of_mem (mem_retire servable.stored ?_), id⟩
        intro candidate member same
        have stored := (mem_filter.mp (mem_filter.mp member).1).1
        exact retired (eq_of_id stored servable.stored same ▸ member)

end Coverage

/-- **Storing a certificate costs no hostname its TLS.**  Where a certificate serves a
hostname at some later time before supersession, one does after it, and one that is not
self-issued if there was one. -/
theorem arrival_keeps_coverage (leafFacts : LeafReader) (table : CertificateTable)
    (arrival : Arrival) (now : Int) (hostname : String) (time : Int) (later : now ≤ time) :
    ((∃ certificate, Servable leafFacts (arrival.stored now table) hostname time certificate) →
      ∃ certificate, Servable leafFacts (arrival.store leafFacts now table) hostname time
        certificate) ∧
    ((∃ certificate, Servable leafFacts (arrival.stored now table) hostname time certificate ∧
        leafFlag leafFacts certificate = false) →
      ∃ certificate, Servable leafFacts (arrival.store leafFacts now table) hostname time
        certificate ∧ leafFlag leafFacts certificate = false) := by
  constructor
  · rintro ⟨certificate, servable⟩
    obtain ⟨other, serves, -⟩ := exists_servable_store later servable
    exact ⟨other, serves⟩
  · rintro ⟨certificate, servable, issued⟩
    obtain ⟨other, serves, asGood⟩ := exists_servable_store later servable
    exact ⟨other, serves, asGood issued⟩

def renewal : Arrival :=
  .inserted "shop.example.com" .acmeDns (some "issued again") ⟨some 40, some 200, false⟩

theorem retired_by_renewal :
    StaleRecord.issued ∉ (renewal.store StaleRecord.leafFacts 50 StaleRecord.table).rows ∧
      ∃ certificate, Servable StaleRecord.leafFacts
        (renewal.store StaleRecord.leafFacts 50 StaleRecord.table) "shop.example.com" 90
        certificate ∧ leafFlag StaleRecord.leafFacts certificate = false := by
  have issued : Servable leafFacts (renewal.stored 50 table) "shop.example.com" 90 issued :=
    ⟨by decide, rfl, by decide, by decide⟩
  have kept := arrival_keeps_coverage leafFacts table renewal 50 "shop.example.com" 90 (by decide)
  exact ⟨by decide, kept.2 ⟨StaleRecord.issued, issued, by decide⟩⟩

end Seedling.Tls
