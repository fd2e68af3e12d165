import Seedling.Tls.Certificates

/-!
# Which certificate answers for a hostname

The serving lookup ranks a certificate by whether its leaf is self-issued, the lookup of
the control plane by the flag that was recorded for it.  Both choose among the servable
certificates, the active ones that cover the hostname inside their window
(`find_iff_choice`, `snapshot_find_iff_choice`).  `lookups_agree_iff` says when they agree;
where a record says otherwise than the leaf they can part (`lookups_part`).
-/

namespace Seedling.Tls

open Foundation Option TlsCertificate

section Resolution

variable (leafFacts : LeafReader) (table : CertificateTable) (hostname : String) (now : Int)

/-- Active, inside its window, read, and covering the hostname. -/
structure Servable (certificate : TlsCertificate) : Prop where
  stored : certificate ∈ table.rows
  active : certificate.state = .active
  current : certificate.isCurrent now
  covers : certificate.covers leafFacts hostname

def leafFlag (certificate : TlsCertificate) : Bool :=
  (certificate.leaf? leafFacts).any LeafFacts.selfIssued

def TlsCertificate.exact (certificate : TlsCertificate) : Bool :=
  (certificate.leaf? leafFacts).any fun leaf => namesExactly leaf.sanDnsNames hostname

/-- Among certificates of one class, the more precise and then the newer one. -/
def precedence (certificate : TlsCertificate) : Bool ×ₗ Int ×ₗ Int :=
  toLex (certificate.exact leafFacts hostname, toLex (certificate.createdAt, certificate.id))

/-- The flag clears the certificate of being self-signed, or clears none of the servable
ones. -/
def Preferred (flag : TlsCertificate → Bool) (certificate : TlsCertificate) : Prop :=
  flag certificate = false ∨
    ∀ other, Servable leafFacts table hostname now other → flag other

/-- The class by a flag first, then precedence. -/
def standing (flag : TlsCertificate → Bool) (certificate : TlsCertificate) :
    Bool ×ₗ Bool ×ₗ Int ×ₗ Int :=
  toLex (!flag certificate, precedence leafFacts hostname certificate)

/-- The servable certificate of the highest standing. -/
structure Choice (flag : TlsCertificate → Bool) (certificate : TlsCertificate) : Prop where
  servable : Servable leafFacts table hostname now certificate
  highest : ∀ other, Servable leafFacts table hostname now other →
    standing leafFacts hostname flag other ≤ standing leafFacts hostname flag certificate

def rankBy (flag : TlsCertificate → Bool) (certificate : TlsCertificate) : Option Rank :=
  (certificate.leaf? leafFacts).bind fun leaf =>
    rank leaf.sanDnsNames hostname (flag certificate) certificate.notAfter certificate.createdAt
      certificate.id now

variable {leafFacts table hostname now} {flag : TlsCertificate → Bool}
  {certificate other : TlsCertificate}

/-! ## Ranks -/

theorem servingRank_eq : servingRank leafFacts hostname now =
    rankBy leafFacts hostname now (leafFlag leafFacts) := by
  funext certificate
  cases read : certificate.leaf? leafFacts with
  | none => simp [servingRank, rankBy, read]
  | some => simp [servingRank, rankBy, leafFlag, read]

def TlsCertificate.rankOf (leafFacts : LeafReader) (hostname : String) (now : Int)
    (flag : TlsCertificate → Bool) (certificate : TlsCertificate) : Rank where
  unexpired := !certificate.hasExpired now
  notSelfIssued := !flag certificate
  exact := certificate.exact leafFacts hostname
  createdAt := certificate.createdAt
  id := certificate.id

variable {found : Rank}

theorem rankBy_eq_some_iff : rankBy leafFacts hostname now flag certificate = some found ↔
      certificate.covers leafFacts hostname ∧
        found = certificate.rankOf leafFacts hostname now flag := by
  cases read : certificate.leaf? leafFacts with
  | none => simp [rankBy, covers, read]
  | some leaf =>
    simp only [rankBy, covers, rankOf, exact, hasExpired, read, bind_some, rank]
    split
    · rename_i covered
      simp [covered, eq_comm]
    · rename_i uncovered
      simp [uncovered]

theorem rankOf_le_iff : certificate.rankOf leafFacts hostname now flag ≤
      other.rankOf leafFacts hostname now flag ↔
    (!certificate.hasExpired now) < (!other.hasExpired now) ∨
      (!certificate.hasExpired now) = (!other.hasExpired now) ∧
        standing leafFacts hostname flag certificate ≤ standing leafFacts hostname flag other :=
  Prod.Lex.toLex_le_toLex

theorem rankBy_distinct (one : certificate ∈ table.rows) (two : other ∈ table.rows)
    (first : rankBy leafFacts hostname now flag certificate = some found)
    (second : rankBy leafFacts hostname now flag other = some found) : certificate = other := by
  have same : certificate.id = other.id := by
    have shared := (rankBy_eq_some_iff.mp first).2.symm.trans (rankBy_eq_some_iff.mp second).2
    exact congrArg Rank.id shared
  exact Table.eq_of_clash clash_symm one two (decide_eq_true same)

theorem Rank.le_of_isBestPossible {first second : Rank} (unbeatable : first.isBestPossible)
    (older : toLex (second.createdAt, second.id) ≤ toLex (first.createdAt, first.id)) :
    second ≤ first := by
  simp only [isBestPossible, Bool.and_eq_true] at unbeatable
  obtain ⟨⟨unexpired, notSelfIssued⟩, exact⟩ := unbeatable
  have top : ∀ flag : Bool, flag < true ∨ flag := by decide
  -- field by field: below at the first that differs, and older if none does
  refine Prod.Lex.toLex_le_toLex.mpr ?_
  rw [unexpired]
  refine (top _).imp_right fun sameEnd => ⟨sameEnd, Prod.Lex.toLex_le_toLex.mpr ?_⟩
  rw [notSelfIssued]
  refine (top _).imp_right fun sameIssuer => ⟨sameIssuer, Prod.Lex.toLex_le_toLex.mpr ?_⟩
  rw [exact]
  exact (top _).imp_right fun sameName => ⟨sameName, older⟩

/-! ## The serving lookup -/

theorem mem_servableRows : certificate ∈ servableRows table now ↔
    certificate ∈ table.rows ∧ certificate.state = .active ∧ certificate.isCurrent now := by
  simp [servableRows]

variable (servable : Servable leafFacts table hostname now certificate)
include servable

theorem Servable.unexpired : certificate.hasExpired now = false := by
  have current := servable.current
  simp only [isCurrent, Bool.and_eq_true, Bool.not_eq_true'] at current
  exact current.2

theorem Servable.begun : certificate.hasBegun now := by
  have current := servable.current
  simp only [isCurrent, Bool.and_eq_true] at current
  exact current.1

omit servable

theorem rankOf_le_iff_standing (one : Servable leafFacts table hostname now certificate)
    (two : Servable leafFacts table hostname now other) :
    certificate.rankOf leafFacts hostname now flag ≤ other.rankOf leafFacts hostname now flag ↔
      standing leafFacts hostname flag certificate ≤ standing leafFacts hostname flag other := by
  rw [rankOf_le_iff, one.unexpired, two.unexpired]
  simp

theorem servableRows_newestFirst : (servableRows table now).Pairwise newestFirst := by
  have total : Std.Total newestFirst := ⟨fun first second => le_total _ _⟩
  have transitive : IsTrans TlsCertificate newestFirst := ⟨fun _ _ _ one two => le_trans two one⟩
  exact List.pairwise_insertionSort _ _

/-- The scan that stops at an unbeatable certificate misses nothing. -/
theorem find_eq_best : findActiveForHostname leafFacts table hostname now =
    (best (rankBy leafFacts hostname now (leafFlag leafFacts)) (servableRows table now)).map
      Prod.snd := by
  rw [findActiveForHostname, servingRank_eq, bestUntil_eq_best]
  refine servableRows_newestFirst.imp ?_
  intro first second newer key ranked unbeatable otherKey otherRanked
  rw [(rankBy_eq_some_iff.mp ranked).2] at unbeatable ⊢
  rw [(rankBy_eq_some_iff.mp otherRanked).2]
  exact Rank.le_of_isBestPossible unbeatable newer

variable {rows : List TlsCertificate}

variable (stored : ∀ row ∈ rows, row ∈ table.rows ∧ row.state = .active ∧ row.hasBegun now)
  (complete : ∀ row, Servable leafFacts table hostname now row → row ∈ rows)
include stored complete

/-- A best row of a list that holds every servable certificate, and in which no other row
is ranked as high, is the choice. -/
theorem isBest_iff_choice (some : ∃ row, Servable leafFacts table hostname now row) :
    IsBest (rankBy leafFacts hostname now flag) rows certificate
        (certificate.rankOf leafFacts hostname now flag) ↔
      Choice leafFacts table hostname now flag certificate := by
  constructor
  · intro isBest
    obtain ⟨row, servable⟩ := some
    have covers := (rankBy_eq_some_iff.mp isBest.ranked).1
    have below : ∀ row, Servable leafFacts table hostname now row →
        row.rankOf leafFacts hostname now flag ≤
          certificate.rankOf leafFacts hostname now flag := by
      intro row servable
      exact isBest.highest row (complete row servable) _
        (rankBy_eq_some_iff.mpr ⟨servable.covers, rfl⟩)
    -- the best row has not expired, since a servable one has not
    have unexpired : certificate.hasExpired now = false := by
      have compared := rankOf_le_iff.mp (below row servable)
      rw [servable.unexpired] at compared
      revert compared
      cases certificate.hasExpired now <;> simp
    obtain ⟨inTable, active, begun⟩ := stored certificate isBest.mem
    have current : certificate.isCurrent now := by
      simp [isCurrent, begun, unexpired]
    have chosen : Servable leafFacts table hostname now certificate :=
      ⟨inTable, active, current, covers⟩
    refine ⟨chosen, ?_⟩
    intro other otherServable
    exact (rankOf_le_iff_standing otherServable chosen).mp (below other otherServable)
  · intro choice
    refine ⟨complete certificate choice.servable,
      rankBy_eq_some_iff.mpr ⟨choice.servable.covers, rfl⟩, ?_⟩
    intro other member key ranked
    obtain ⟨covers, rfl⟩ := rankBy_eq_some_iff.mp ranked
    obtain ⟨inTable, active, begun⟩ := stored other member
    cases expired : other.hasExpired now with
    | true =>
      rw [rankOf_le_iff, choice.servable.unexpired, expired]
      exact Or.inl (by decide)
    | false =>
      have current : other.isCurrent now := by
        simp [isCurrent, begun, expired]
      have otherServable : Servable leafFacts table hostname now other :=
        ⟨inTable, active, current, covers⟩
      exact (rankOf_le_iff_standing otherServable choice.servable).mpr
        (choice.highest other otherServable)

theorem best_iff_choice (some : ∃ row, Servable leafFacts table hostname now row) :
    (best (rankBy leafFacts hostname now flag) rows).map Prod.snd = Option.some certificate ↔
      Choice leafFacts table hostname now flag certificate := by
  have distinct : ∀ first ∈ rows, ∀ second ∈ rows, ∀ key,
      rankBy leafFacts hostname now flag first = Option.some key →
      rankBy leafFacts hostname now flag second = Option.some key → first = second := by
    intro first one second two key
    exact rankBy_distinct (stored first one).1 (stored second two).1
  rw [← isBest_iff_choice stored complete some, ← best_eq_some_iff distinct, map_eq_some_iff]
  constructor
  · rintro ⟨⟨key, winner⟩, found, rfl⟩
    have ranked := ((best_eq_some_iff distinct).mp found).ranked
    rw [found, (rankBy_eq_some_iff.mp ranked).2]
  · intro found
    exact ⟨_, found, rfl⟩

omit complete stored

theorem servableRows_stored : ∀ row ∈ servableRows table now,
    row ∈ table.rows ∧ row.state = .active ∧ row.hasBegun now := by
  intro row mem
  obtain ⟨inTable, active, current⟩ := mem_servableRows.mp mem
  simp only [isCurrent, Bool.and_eq_true] at current
  exact ⟨inTable, active, current.1⟩

theorem find_iff_choice (some : ∃ row, Servable leafFacts table hostname now row) :
    findActiveForHostname leafFacts table hostname now = Option.some certificate ↔
      Choice leafFacts table hostname now (leafFlag leafFacts) certificate := by
  rw [find_eq_best]
  refine best_iff_choice servableRows_stored ?_ some
  intro row servable
  exact mem_servableRows.mpr ⟨servable.stored, servable.active, servable.current⟩

theorem servable_of_find
    (found : findActiveForHostname leafFacts table hostname now = some certificate) :
    Servable leafFacts table hostname now certificate := by
  rw [find_eq_best, map_eq_some_iff] at found
  obtain ⟨⟨key, winner⟩, found, rfl⟩ := found
  have holds : Holds (rankBy leafFacts hostname now (leafFlag leafFacts)) (servableRows table now)
      (best (rankBy leafFacts hostname now (leafFlag leafFacts)) (servableRows table now)) :=
    best_holds _
  rw [found] at holds
  obtain ⟨inTable, active, current⟩ := mem_servableRows.mp holds.mem
  exact ⟨inTable, active, current, (rankBy_eq_some_iff.mp holds.ranked).1⟩

variable (some : ∃ row, Servable leafFacts table hostname now row)
include some

theorem exists_find : ∃ certificate, findActiveForHostname leafFacts table hostname now =
      Option.some certificate := by
  obtain ⟨row, servable⟩ := some
  rw [find_eq_best]
  have holds : Holds (rankBy leafFacts hostname now (leafFlag leafFacts)) (servableRows table now)
      (best (rankBy leafFacts hostname now (leafFlag leafFacts)) (servableRows table now)) :=
    best_holds _
  cases found : best (rankBy leafFacts hostname now (leafFlag leafFacts))
      (servableRows table now) with
  | none =>
    rw [found] at holds
    have unranked := holds row
      (mem_servableRows.mpr ⟨servable.stored, servable.active, servable.current⟩)
    rw [rankBy_eq_some_iff.mpr ⟨servable.covers, rfl⟩] at unranked
    cases unranked
  | some kept => exact ⟨kept.2, rfl⟩

/-! ## The lookup of the control plane -/

theorem snapshot_find_iff_choice :
    (Snapshot.load table).findActiveForHostname leafFacts hostname now = Option.some certificate ↔
      Choice leafFacts table hostname now selfSigned certificate := by
  refine best_iff_choice (fun row mem => by simpa [Snapshot.load] using mem) ?_ some
  intro row servable
  simpa [Snapshot.load] using And.intro servable.stored ⟨servable.active, servable.begun⟩

omit some

/-! ## Agreement -/

theorem standing_le_iff : standing leafFacts hostname flag other ≤
      standing leafFacts hostname flag certificate ↔
    (!flag other) < (!flag certificate) ∨ (!flag other) = (!flag certificate) ∧
      precedence leafFacts hostname other ≤ precedence leafFacts hostname certificate :=
  Prod.Lex.toLex_le_toLex

theorem choice_iff : Choice leafFacts table hostname now flag certificate ↔
    Servable leafFacts table hostname now certificate ∧
      Preferred leafFacts table hostname now flag certificate ∧
      ∀ other, Servable leafFacts table hostname now other →
        Preferred leafFacts table hostname now flag other →
        precedence leafFacts hostname other ≤ precedence leafFacts hostname certificate := by
  constructor
  · rintro ⟨servable, highest⟩
    cases cleared : flag certificate with
    | false =>
      refine ⟨servable, Or.inl cleared, ?_⟩
      intro other otherServable preferred
      have otherCleared : flag other = false := by
        rcases preferred with clear | all
        · exact clear
        · rw [all certificate servable] at cleared
          cases cleared
      have compared := standing_le_iff.mp (highest other otherServable)
      rw [cleared, otherCleared] at compared
      exact (compared.resolve_left (lt_irrefl _)).2
    | true =>
      have all : ∀ other, Servable leafFacts table hostname now other → flag other := by
        intro other otherServable
        have compared := standing_le_iff.mp (highest other otherServable)
        rw [cleared] at compared
        revert compared
        cases flag other <;> simp
      refine ⟨servable, Or.inr all, ?_⟩
      intro other otherServable _
      have compared := standing_le_iff.mp (highest other otherServable)
      rw [cleared, all other otherServable] at compared
      exact (compared.resolve_left (lt_irrefl _)).2
  · rintro ⟨servable, preferred, first⟩
    refine ⟨servable, ?_⟩
    intro other otherServable
    rw [standing_le_iff]
    rcases preferred with cleared | all
    · cases otherFlag : flag other with
      | false =>
        exact Or.inr ⟨by rw [cleared], first other otherServable (Or.inl otherFlag)⟩
      | true =>
        rw [cleared]
        exact Or.inl (by decide)
    · refine Or.inr ⟨?_, first other otherServable (Or.inr all)⟩
      rw [all other otherServable, all certificate servable]

variable (leafFacts table hostname now) in
/-- One servable certificate is of the better class both by its leaf and by its record, and
takes precedence over each that is of the better class by either. -/
def Settled (certificate : TlsCertificate) : Prop :=
  Servable leafFacts table hostname now certificate ∧
    Preferred leafFacts table hostname now (leafFlag leafFacts) certificate ∧
    Preferred leafFacts table hostname now TlsCertificate.selfSigned certificate ∧
    ∀ other, Servable leafFacts table hostname now other →
      Preferred leafFacts table hostname now (leafFlag leafFacts) other ∨
        Preferred leafFacts table hostname now TlsCertificate.selfSigned other →
      precedence leafFacts hostname other ≤ precedence leafFacts hostname certificate

theorem settled_iff : Settled leafFacts table hostname now certificate ↔
    Choice leafFacts table hostname now (leafFlag leafFacts) certificate ∧
      Choice leafFacts table hostname now selfSigned certificate := by
  rw [choice_iff, choice_iff]
  constructor
  · rintro ⟨servable, byLeaf, byRecord, first⟩
    exact ⟨⟨servable, byLeaf, fun other stands preferred => first other stands (.inl preferred)⟩,
      servable, byRecord, fun other stands preferred => first other stands (.inr preferred)⟩
  · rintro ⟨⟨servable, byLeaf, first⟩, -, byRecord, second⟩
    exact ⟨servable, byLeaf, byRecord, fun other stands preferred =>
      preferred.elim (first other stands) (second other stands)⟩

end Resolution

/-- **The serving lookup returns the choice**, and nothing only where nothing is servable. -/
theorem serving_lookup_exact (leafFacts : LeafReader) (table : CertificateTable)
    (hostname : String) (now : Int) :
    (∀ certificate, findActiveForHostname leafFacts table hostname now = some certificate ↔
      Choice leafFacts table hostname now (leafFlag leafFacts) certificate) ∧
    (findActiveForHostname leafFacts table hostname now = none ↔
      ¬ ∃ certificate, Servable leafFacts table hostname now certificate) := by
  refine ⟨fun certificate => ⟨fun found => ?_, fun choice => ?_⟩, fun missing some => ?_,
    fun unservable => ?_⟩
  · exact (find_iff_choice ⟨certificate, servable_of_find found⟩).mp found
  · exact (find_iff_choice ⟨certificate, choice.servable⟩).mpr choice
  · obtain ⟨certificate, found⟩ := exists_find some
    simp [missing] at found
  · refine eq_none_iff_forall_ne_some.mpr fun certificate found => ?_
    exact unservable ⟨certificate, servable_of_find found⟩

/-- **When the two lookups agree.**  Whatever the serving lookup returns the control plane
returns too, exactly if nothing is servable or one servable certificate is settled on by
the leaves and the records alike. -/
theorem lookups_agree_iff (leafFacts : LeafReader) (table : CertificateTable) (hostname : String)
    (now : Int) :
    (∀ certificate, findActiveForHostname leafFacts table hostname now = some certificate →
      (Snapshot.load table).findActiveForHostname leafFacts hostname now = some certificate) ↔
    ((∃ certificate, Servable leafFacts table hostname now certificate) →
      ∃ certificate, Settled leafFacts table hostname now certificate) := by
  constructor
  · intro agree some
    obtain ⟨certificate, found⟩ := exists_find some
    refine ⟨certificate, settled_iff.mpr ⟨(find_iff_choice some).mp found, ?_⟩⟩
    exact (snapshot_find_iff_choice some).mp (agree certificate found)
  · intro settles certificate found
    have some : ∃ row, Servable leafFacts table hostname now row :=
      ⟨certificate, servable_of_find found⟩
    obtain ⟨settled, isSettled⟩ := settles some
    obtain ⟨byLeaf, byRecord⟩ := settled_iff.mp isSettled
    have same : settled = certificate := by
      have first := (find_iff_choice some).mpr byLeaf
      rw [found] at first
      exact (Option.some.inj first).symm
    rw [← same]
    exact (snapshot_find_iff_choice some).mpr byRecord

/-! ## A record that says otherwise than the leaf -/

namespace StaleRecord

def leafFacts : LeafReader := fun pem =>
  .ok ⟨["shop.example.com"], pem = "self-signed"⟩

def issued : TlsCertificate where
  id := 1
  hostname := "shop.example.com"
  state := .active
  origin := .acmeDns
  certPem := some "issued by an authority"
  notBefore := some 0
  notAfter := some 100
  selfSigned := false
  createdAt := 1

/-- Uploaded for a test, and recorded as not self-signed. -/
def uploaded : TlsCertificate :=
  { issued with id := 2, origin := .manual, certPem := some "self-signed", createdAt := 2 }

def table : CertificateTable := ⟨[issued, uploaded], by decide⟩

end StaleRecord

/-- The handshake is given the certificate of the authority, and the control plane takes
the upload for it. -/
theorem lookups_part :
    findActiveForHostname StaleRecord.leafFacts StaleRecord.table "shop.example.com" 50 =
        some StaleRecord.issued ∧
      (Snapshot.load StaleRecord.table).findActiveForHostname StaleRecord.leafFacts
        "shop.example.com" 50 = some StaleRecord.uploaded := by
  constructor <;> decide

end Seedling.Tls
