import Seedling.Tls.Canopy

/-!
# One attempt for each order

An order that Canopy keeps open is one pending entry of the attempt log.  There is never more
than one for a hostname (`canopyMachine_single`), since every entry is opened on the log's own
word that none is.

Closing it when the hostname leaves its chain goes by the recorded position instead:
`TlsDb.clearChainRow` closes the attempt only if the row says that an order is open.  Two
writes take that mark away while the attempt stays pending; without these no attempt outlives
the position of its hostname (`no_attempt_left_behind`), with the first of them one does
(`retry_strands_attempt`).
-/

namespace Seedling.Tls

open Foundation List TlsChainRow Nat Except

namespace TlsDb

def pendingFor (db : TlsDb) (hostname : String) : List TlsCertAttempt :=
  db.attempts.filter (isPendingFor hostname)

/-- The recorded position says that an order is open. -/
def carries (db : TlsDb) (hostname : String) : Bool :=
  (db.getChainRow hostname).any fun recorded => recorded.row.openOrderSince.isSome

def Single (db : TlsDb) : Prop := ∀ hostname, (db.pendingFor hostname).length ≤ 1

/-- Every pending attempt is of an order that the position of its hostname carries. -/
def Carried (db : TlsDb) : Prop :=
  ∀ hostname, db.pendingFor hostname ≠ [] → db.carries hostname

variable {db : TlsDb} {hostname other : String}

/-! ## The tables -/

theorem latestPendingAttempt_eq : db.latestPendingAttempt hostname =
    (db.pendingFor hostname).head?.map TlsCertAttempt.id := by
  rw [latestPendingAttempt, pendingFor, head?_filter]

theorem pendingFor_finalizeAttempt {id : Nat} {outcome : AttemptOutcome} {certId : Option Int}
    {error : Option String} (finished : outcome ≠ .pending) :
    (db.finalizeAttempt id outcome certId error).pendingFor other =
      (db.pendingFor other).filter (·.id ≠ id) := by
  simp only [pendingFor, finalizeAttempt]
  induction db.attempts with
  | nil => rfl
  | cons attempt rest ih =>
    rw [map_cons]
    by_cases same : attempt.id = id
    · have closed : ¬ isPendingFor other { attempt with outcome, certId, error } := by
        simp [isPendingFor, finished]
      rw [if_pos same, filter_cons_of_neg closed, ih]
      cases waits : isPendingFor other attempt with
      | false => rw [filter_cons_of_neg (by simp [waits])]
      | true => rw [filter_cons_of_pos waits, filter_cons_of_neg (by simp [same])]
    · rw [if_neg same]
      cases waits : isPendingFor other attempt with
      | false =>
        rw [filter_cons_of_neg (by simp [waits]), ih, filter_cons_of_neg (by simp [waits])]
      | true =>
        rw [filter_cons_of_pos waits, filter_cons_of_pos waits,
          filter_cons_of_pos (by simpa using same), ih]

theorem pendingFor_insertAttempt {trigger : AttemptTrigger} (different : other ≠ hostname) :
    (db.insertAttempt hostname trigger).1.pendingFor other = db.pendingFor other := by
  simp [pendingFor, insertAttempt, isPendingFor, different.symm]

variable {row : Chain.Row} {lastError : Option String}

theorem getChainRow_putChainRow : (db.putChainRow hostname row lastError).getChainRow hostname =
      some ⟨hostname, row, lastError⟩ := by
  have dropped : (db.chainRows.rows.filter fun old => !clash old ⟨hostname, row, lastError⟩).find?
        (·.hostname = hostname) = none := by
    rw [find?_eq_none]
    simp [clash]
  simp only [getChainRow, putChainRow, Table.insertOrReplace, find?_append, dropped]
  simp

theorem getChainRow_putChainRow_other (different : other ≠ hostname) :
    (db.putChainRow hostname row lastError).getChainRow other = db.getChainRow other := by
  simp only [getChainRow, putChainRow, Table.insertOrReplace]
  have same : (fun old : TlsChainRow => !clash old ⟨hostname, row, lastError⟩ &&
      decide (old.hostname = other)) = fun old => decide (old.hostname = other) := by
    funext old
    by_cases matched : old.hostname = other
    · simp [matched, clash, different]
    · simp [matched]
  simp [same, different.symm]

theorem getChainRow_keepOnly_other {rows : Table clash} (different : other ≠ hostname) :
    ({ db with chainRows := rows.keepOnly (·.hostname ≠ hostname) } : TlsDb).getChainRow other =
      ({ db with chainRows := rows } : TlsDb).getChainRow other := by
  simp only [getChainRow, Table.keepOnly, find?_filter]
  congr 1
  funext old
  by_cases matched : old.hostname = other
  · simp [matched, different]
  · simp [matched]

end TlsDb

/-! ## What an operation on one hostname leaves of the others -/

open TlsDb

/-- For other hostnames nothing becomes pending and no position changes. -/
structure Concerns (hostname : String) (before after : TlsDb) : Prop where
  attempts : ∀ other, other ≠ hostname →
    (after.pendingFor other).length ≤ (before.pendingFor other).length
  rows : ∀ other, other ≠ hostname → after.getChainRow other = before.getChainRow other

/-- What an operation keeps: that no hostname has two pending attempts, and where it is taken
with care, that every one is carried by the position of its hostname. -/
def Keeps (careful : Prop) (before after : TlsDb) : Prop :=
  before.Single → after.Single ∧ (before.Carried → careful → after.Carried)

theorem Keeps.refl (careful : Prop) (db : TlsDb) : Keeps careful db db :=
  fun single => ⟨single, fun carried _ => carried⟩

theorem Keeps.trans {careful : Prop} {before between after : TlsDb}
    (one : Keeps careful before between) (two : Keeps True between after) :
    Keeps careful before after := by
  intro single
  obtain ⟨stillSingle, carries⟩ := one single
  obtain ⟨finallySingle, finallyCarries⟩ := two stillSingle
  exact ⟨finallySingle, fun carried isCareful => finallyCarries (carries carried isCareful) trivial⟩

namespace Concerns

variable {hostname : String} {before between after : TlsDb}

theorem trans (first : Concerns hostname before between)
    (second : Concerns hostname between after) : Concerns hostname before after := by
  refine ⟨fun other different => ?_, fun other different => ?_⟩
  · exact le_trans (second.attempts other different) (first.attempts other different)
  · exact (second.rows other different).trans (first.rows other different)

theorem of_eq (attempts : after.attempts = before.attempts)
    (rows : after.chainRows = before.chainRows) : Concerns hostname before after := by
  refine ⟨fun other _ => ?_, fun other _ => ?_⟩
  · rw [pendingFor, attempts, pendingFor]
  · rw [getChainRow, rows, getChainRow]

theorem finalize {id : Nat} {outcome : AttemptOutcome} {certId : Option Int}
    {error : Option String} (finished : outcome ≠ .pending) (db : TlsDb) :
    Concerns hostname db (db.finalizeAttempt id outcome certId error) := by
  refine ⟨fun other _ => ?_, fun other _ => rfl⟩
  rw [pendingFor_finalizeAttempt finished]
  exact length_filter_le _ _

theorem insert {trigger : AttemptTrigger} (db : TlsDb) :
    Concerns hostname db (db.insertAttempt hostname trigger).1 := by
  refine ⟨fun other different => ?_, fun other _ => rfl⟩
  rw [pendingFor_insertAttempt different]

theorem put {row : Chain.Row} {lastError : Option String} (db : TlsDb) :
    Concerns hostname db (db.putChainRow hostname row lastError) :=
  ⟨fun _ _ => le_refl _, fun _ different => getChainRow_putChainRow_other different⟩

variable {careful : Prop}

variable (concerns : Concerns hostname before after)
include concerns

theorem keeps (single : before.Single → (after.pendingFor hostname).length ≤ 1)
    (carried : before.Single → before.Carried → careful → after.pendingFor hostname ≠ [] →
      after.carries hostname) : Keeps careful before after := by
  intro beforeSingle
  refine ⟨?_, ?_⟩
  · intro other
    by_cases same : other = hostname
    · rw [same]
      exact single beforeSingle
    · exact le_trans (concerns.attempts other same) (beforeSingle other)
  · intro beforeCarried isCareful other pending
    by_cases same : other = hostname
    · rw [same] at pending ⊢
      exact carried beforeSingle beforeCarried isCareful pending
    · have earlier : before.pendingFor other ≠ [] := by
        intro none
        have fewer := concerns.attempts other same
        rw [none, length_nil, le_zero, length_eq_zero_iff] at fewer
        exact pending fewer
      rw [carries, concerns.rows other same]
      exact beforeCarried other earlier

/-- An operation that leaves nothing pending for the hostname needs no care. -/
theorem keeps_of_closed (closed : before.Single → after.pendingFor hostname = []) :
    Keeps careful before after := by
  refine concerns.keeps (fun single => ?_) (fun single _ _ pending => ?_)
  · rw [closed single]
    exact zero_le _
  · exact absurd (closed single) pending

end Concerns

/-! ## Closing an attempt -/

section Operations

variable {db : TlsDb} {ask : Ask} {hostname : String}

theorem pendingFor_of_latest_none (latest : db.latestPendingAttempt hostname = none) :
    db.pendingFor hostname = [] := by
  rw [latestPendingAttempt_eq, Option.map_eq_none_iff, head?_eq_none_iff] at latest
  exact latest

theorem pendingFor_finalize_latest {id : Nat} {outcome : AttemptOutcome} {certId : Option Int}
    {error : Option String} (finished : outcome ≠ .pending) (single : db.Single)
    (latest : db.latestPendingAttempt hostname = some id) :
    (db.finalizeAttempt id outcome certId error).pendingFor hostname = [] := by
  rw [pendingFor_finalizeAttempt finished]
  rw [latestPendingAttempt_eq] at latest
  have one := single hostname
  match found : db.pendingFor hostname with
  | [] => rfl
  | [attempt] =>
    rw [found] at latest
    have same : attempt.id = id := Option.some.inj latest
    simp [same]
  | first :: second :: rest =>
    rw [found] at one
    exact absurd one (by simp)

section CloseAttempt

variable {outcome : AttemptOutcome} {certId : Option Int} {error : Option String}
  {logIfNone : Bool}

theorem closeAttempt_concerns (finished : outcome ≠ .pending) :
    Concerns ask.hostname db (closeAttempt db ask outcome certId error logIfNone) := by
  unfold closeAttempt
  split
  · exact .finalize finished db
  · split
    · exact (Concerns.insert db).trans (.finalize finished _)
    · exact .of_eq rfl rfl

theorem pendingFor_closeAttempt (finished : outcome ≠ .pending) (single : db.Single) :
    (closeAttempt db ask outcome certId error logIfNone).pendingFor ask.hostname = [] := by
  unfold closeAttempt
  split
  · rename_i id latest
    exact pendingFor_finalize_latest finished single latest
  · rename_i latest
    have none := pendingFor_of_latest_none latest
    split
    · -- opened and closed at once
      rw [pendingFor_finalizeAttempt finished]
      rw [pendingFor] at none
      simp [pendingFor, insertAttempt, none, filter_cons]
    · exact none

end CloseAttempt

/-! ## Forgetting a position -/

theorem closeCarriedOrder_cases (db : TlsDb) (hostname : String) :
    db.closeCarriedOrder hostname = db ∨ ∃ id error, db.latestPendingAttempt hostname = some id ∧
        db.closeCarriedOrder hostname = db.finalizeAttempt id .failure none error := by
  unfold closeCarriedOrder
  split
  · exact .inl rfl
  · split
    · split
      · exact .inl rfl
      · rename_i id latest
        exact .inr ⟨id, _, latest, rfl⟩
    · exact .inl rfl

theorem closeCarriedOrder_concerns : Concerns hostname db (db.closeCarriedOrder hostname) := by
  rcases closeCarriedOrder_cases db hostname with same | ⟨_, _, -, same⟩ <;> rw [same]
  · exact .of_eq rfl rfl
  · exact .finalize (by decide) db

theorem closeCarriedOrder_fewer (db : TlsDb) (hostname : String) :
    ((db.closeCarriedOrder hostname).pendingFor hostname).length ≤
      (db.pendingFor hostname).length := by
  rcases closeCarriedOrder_cases db hostname with same | ⟨_, _, -, same⟩ <;> rw [same]
  rw [pendingFor_finalizeAttempt (by decide)]
  exact length_filter_le _ _

theorem closeCarriedOrder_closes (single : db.Single) (carries : db.carries hostname) :
    (db.closeCarriedOrder hostname).pendingFor hostname = [] := by
  unfold TlsDb.carries at carries
  unfold closeCarriedOrder
  cases found : db.getChainRow hostname with
  | none =>
    rw [found] at carries
    cases carries
  | some =>
    rw [found, Option.any_some] at carries
    simp only [carries]
    cases latest : db.latestPendingAttempt hostname with
    | none => exact pendingFor_of_latest_none latest
    | some => exact pendingFor_finalize_latest (by decide) single latest

theorem clearChainRow_keeps (db : TlsDb) (hostname : String) :
    Keeps True db (db.clearChainRow hostname) := by
  have concerns : Concerns hostname db (db.clearChainRow hostname) := by
    refine closeCarriedOrder_concerns.trans ⟨fun _ _ => le_refl _, fun other different => ?_⟩
    exact getChainRow_keepOnly_other different
  refine concerns.keeps (fun single => ?_) (fun single carried _ pending => ?_)
  · exact le_trans (closeCarriedOrder_fewer db hostname) (single hostname)
  · have earlier : db.pendingFor hostname ≠ [] := by
      intro none
      have fewer := closeCarriedOrder_fewer db hostname
      rw [none, length_nil, le_zero, length_eq_zero_iff] at fewer
      exact pending fewer
    exact absurd (closeCarriedOrder_closes single (carried hostname earlier)) pending

variable (hostnames : List String)

theorem clearChainRows_keeps (db : TlsDb) : Keeps True db (db.clearChainRows hostnames) := by
  induction hostnames generalizing db with
  | nil => exact .refl True db
  | cons hostname rest ih =>
    exact (clearChainRow_keeps db hostname).trans (ih _)

/-! ## The operations -/

theorem clearChainRows_keeps_of {after : TlsDb}
    (attempts : ∀ hostname, (after.pendingFor hostname).length = (db.pendingFor hostname).length)
    (rows : after.chainRows = db.chainRows) :
    Keeps True db (after.clearChainRows hostnames) := by
  refine Keeps.trans ?_ (clearChainRows_keeps hostnames after)
  intro single
  refine ⟨fun other => (attempts other).trans_le (single other), fun carried _ other pending => ?_⟩
  have earlier : db.pendingFor other ≠ [] := by
    intro none
    have same := attempts other
    rw [none, length_nil, length_eq_zero_iff] at same
    exact pending same
  rw [TlsDb.carries, getChainRow, rows]
  exact carried other earlier

theorem setPolicy_keeps (policy : TlsPolicy) : Keeps True db (db.setPolicy hostname policy) :=
  clearChainRows_keeps_of _ (fun _ => rfl) rfl

theorem clearPolicy_keeps : Keeps True db (db.clearPolicy hostname) := by
  unfold clearPolicy
  split
  · exact clearChainRows_keeps_of _ (fun _ => rfl) rfl
  · exact .refl True db

theorem deleteCertificate_keeps (id : Int) : Keeps True db (db.deleteCertificate id) := by
  refine clearChainRows_keeps_of _ (fun other => ?_) rfl
  have same : (isPendingFor other ∘ fun attempt : TlsCertAttempt =>
      if attempt.certId = some id then { attempt with certId := none } else attempt) =
      isPendingFor other := by
    funext attempt
    simp only [Function.comp_apply]
    split <;> rfl
  rw [pendingFor, filter_map, same, length_map, pendingFor]

theorem pending_keeps (row : Chain.Row) (now : Int) : Keeps True db (pending db row ask now).2 := by
  have concerns : Concerns ask.hostname db (pending db row ask now).2 := by
    refine Concerns.trans ?_ (.put _)
    split
    · exact .insert db
    · exact .of_eq rfl rfl
  refine concerns.keeps (fun single => ?_) (fun _ _ _ _ => ?_)
  · simp only [pending]
    split
    · rename_i latest
      have none := pendingFor_of_latest_none (Option.isNone_iff_eq_none.mp latest)
      rw [pendingFor] at none
      simp [pendingFor, putChainRow, insertAttempt, none, isPendingFor]
    · exact single ask.hostname
  · simp only [pending, TlsDb.carries, getChainRow_putChainRow]
    rfl

theorem closeOrder_keeps (row : Chain.Row) (reason : String) (logIfNone : Bool) (now : Int) :
    Keeps True db (closeOrder db row ask reason logIfNone now) :=
  ((closeAttempt_concerns (by decide)).trans (.put _)).keeps_of_closed
    fun single => pendingFor_closeAttempt (by decide) single

theorem applyRevocation_keeps (certId : Int) (reason : String) (now : Int) :
    Keeps True db (applyRevocation db ask certId reason now).2 := by
  have revoked : Concerns ask.hostname db (db.revokeCanopyCertificate certId) := .of_eq rfl rfl
  refine ((revoked.trans (closeAttempt_concerns (by decide))).trans (.put _)).keeps_of_closed ?_
  intro single
  have still : (db.revokeCanopyCertificate certId).Single := single
  exact pendingFor_closeAttempt (by decide) still

/-- While an order is open, the hostname is asked about for the certificate that its
position is replacing. -/
def follows (db : TlsDb) (ask : Ask) : Bool :=
  (db.getChainRow ask.hostname).all fun recorded =>
    recorded.row.openOrderSince.isNone || recorded.row.identity = ask.replacing

theorem filter_of_follows (follows : follows db ask)
    (carries : db.carries ask.hostname) :
    ∃ recorded, (db.getChainRow ask.hostname).filter (·.row.identity = ask.replacing) =
      some recorded ∧ recorded.row.openOrderSince.isSome := by
  unfold TlsDb.carries at carries
  unfold Tls.follows at follows
  cases found : db.getChainRow ask.hostname with
  | none =>
    rw [found] at carries
    cases carries
  | some recorded =>
    rw [found, Option.any_some] at carries
    rw [found, Option.all_some, Bool.or_eq_true, decide_eq_true_eq] at follows
    have same : recorded.row.identity = ask.replacing := by
      refine follows.resolve_left ?_
      rw [Option.isNone_iff_eq_none]
      intro closed
      rw [closed] at carries
      cases carries
    exact ⟨recorded, by rw [Option.filter_some, decide_eq_true same, if_pos rfl], carries⟩

theorem unavailable_keeps (reason : String) :
    Keeps (follows db ask) db (unavailable db (position db ask) ask reason).2 := by
  refine (Concerns.put db).keeps (fun single => single ask.hostname) ?_
  intro _ carried isCareful pending
  obtain ⟨recorded, found, isOpen⟩ := filter_of_follows isCareful (carried ask.hostname pending)
  rw [TlsDb.carries, getChainRow_putChainRow]
  simp only [position, found]
  exact isOpen

theorem recordEngineFailure_keeps (reason : String) (now : Int) :
    Keeps (follows db ask) db (recordEngineFailure db ask reason now) := by
  refine (Concerns.put db).keeps (fun single => single ask.hostname) ?_
  intro _ carried isCareful pending
  obtain ⟨recorded, found, isOpen⟩ := filter_of_follows isCareful (carried ask.hostname pending)
  rw [TlsDb.carries, getChainRow_putChainRow]
  simp only [found, Option.any_some]
  exact isOpen

theorem startCycleForForceRetry_keeps (replacing : Identity) (now : Int) :
    Keeps (hostname ∈ db.forceRetries → db.carries hostname = false) db
      (db.startCycleForForceRetry hostname replacing now) := by
  unfold startCycleForForceRetry
  split
  · rename_i queued
    have dequeued : Concerns hostname db
        { db with forceRetries := db.forceRetries.filter (· ≠ hostname) } := .of_eq rfl rfl
    refine (dequeued.trans (.put _)).keeps (fun single => single hostname) ?_
    intro _ carried isCareful pending
    have carries := carried hostname pending
    rw [isCareful queued] at carries
    cases carries
  · exact .refl _ db

variable {reader : ChainReader} {result : ApplyResult × TlsDb}

theorem collect_keeps {keyId : Int} {parsed : ParsedChain} {now : Int}
    (collected : collect reader db ask keyId parsed now = .ok result) :
    Keeps (follows db ask) db result.2 := by
  unfold collect at collected
  split at collected
  · rw [← ok.inj collected]
    exact unavailable_keeps _
  · split at collected
    · cases collected
    · rename_i activated certificates count _
      rw [← ok.inj collected]
      have stored : Concerns ask.hostname db { db with certificates } := .of_eq rfl rfl
      have closed : Keeps (follows db ask) db
          (closeAttempt { db with certificates } ask .success (some keyId) none true) :=
        (stored.trans (closeAttempt_concerns (by decide))).keeps_of_closed fun single =>
          pendingFor_closeAttempt (by decide) single
      exact closed.trans (clearChainRow_keeps _ _)

def leavesOrder : Answer → Bool
  | .issued _ | .unavailable _ => true
  | _ => false

theorem Keeps.mono {careful stricter : Prop} {before after : TlsDb}
    (keeps : Keeps careful before after) (implies : stricter → careful) :
    Keeps stricter before after :=
  fun single => ⟨(keeps single).1, fun carried isCareful =>
    (keeps single).2 carried (implies isCareful)⟩

theorem apply_keeps {keyId : Int} {keySpki : List UInt8} {answer : Answer} {now : Int}
    (applied : apply reader db ask keyId keySpki answer now = .ok result) :
    Keeps (leavesOrder answer → follows db ask) db result.2 := by
  have followed : ∀ {answer : Answer}, leavesOrder answer →
      Keeps (follows db ask) db result.2 →
        Keeps (leavesOrder answer → follows db ask) db result.2 :=
    fun leaves keeps => keeps.mono fun isCareful => isCareful leaves
  cases answer with
  | issued =>
    refine followed rfl ?_
    simp only [apply] at applied
    split at applied
    · rw [← ok.inj applied]
      exact unavailable_keeps _
    · split at applied
      · exact collect_keeps applied
      · rw [← ok.inj applied]
        exact (pending_keeps _ _).mono fun _ => trivial
  | unavailable =>
    refine followed rfl ?_
    rw [← ok.inj applied]
    exact unavailable_keeps _
  | pending =>
    rw [← ok.inj applied]
    exact (pending_keeps _ _).mono fun _ => trivial
  | refused reason | orderFailed reason | malformed reason =>
    rw [← ok.inj applied]
    exact (closeOrder_keeps _ _ _ _).mono fun _ => trivial
  | revoked =>
    rw [← ok.inj applied]
    exact (applyRevocation_keeps _ _ _).mono fun _ => trivial

end Operations

/-! ## Runs -/

/-- The events that take the mark of an open order away are kept from doing so. -/
def careful (db : TlsDb) : CanopyEvent → Bool
  | .answered ask _ _ answer _ => !leavesOrder answer || follows db ask
  | .notAsked ask _ _ => follows db ask
  | .retryTaken hostname _ _ => hostname ∉ db.forceRetries || !db.carries hostname
  | _ => true

theorem take_keeps (reader : ChainReader) (db : TlsDb) (event : CanopyEvent) :
    Keeps (careful db event) db (event.take reader db) := by
  cases event with
  | keyed =>
    simp only [CanopyEvent.take, keyFor]
    split
    · exact .refl _ db
    · exact fun single => ⟨single, fun carried _ => carried⟩
  | answered ask keyId keySpki answer now =>
    simp only [CanopyEvent.take]
    cases applied : apply reader db ask keyId keySpki answer now with
    | error => exact .refl _ db
    | ok =>
      refine (apply_keeps applied).mono fun isCareful leaves => ?_
      simpa [careful, leaves] using isCareful
  | notAsked ask reason now => exact recordEngineFailure_keeps reason now
  | revoked ask certId reason now =>
    exact (applyRevocation_keeps certId reason now).mono fun _ => trivial
  | withdrawn | retryRequested => exact fun single => ⟨single, fun carried _ => carried⟩
  | retryTaken hostname replacing now =>
    refine (startCycleForForceRetry_keeps replacing now).mono fun isCareful queued => ?_
    simpa [careful, queued] using isCareful
  | policySetAcmeDns hostname dnsProvider =>
    exact (setPolicy_keeps (.acmeDns dnsProvider)).mono fun _ => trivial
  | policySetCanopy => exact (setPolicy_keeps .canopy).mono fun _ => trivial
  | policyCleared => exact clearPolicy_keeps.mono fun _ => trivial
  | certificateDeleted id => exact (deleteCertificate_keeps id).mono fun _ => trivial

section Runs

variable (reader : ChainReader) (certificates : CertificateTable)
  (policies : Table TlsPolicyRow.clash) (events : List CanopyEvent)

/-- Whatever happens, a hostname has one pending attempt at most. -/
theorem canopyMachine_single :
    ((canopyMachine reader).run (TlsDb.fresh certificates policies) events).Single := by
  refine (canopyMachine reader).run_invariant ?_ _ events fun _ => zero_le _
  intro db event single
  exact (take_keeps reader db event single).1

theorem canopyMachine_carried
    (isCareful : (canopyMachine reader).Along (fun db event => careful db event)
      (TlsDb.fresh certificates policies) events) :
    ((canopyMachine reader).run (TlsDb.fresh certificates policies) events).Carried := by
  have start : (TlsDb.fresh certificates policies).Single ∧
      (TlsDb.fresh certificates policies).Carried :=
    ⟨fun _ => zero_le _, fun _ pending => absurd rfl pending⟩
  refine ((canopyMachine reader).run_preserves (I := fun db => db.Single ∧ db.Carried) ?_ _ events
    isCareful start).2
  intro db event holds eventCareful
  obtain ⟨single, carried⟩ := take_keeps reader db event holds.1
  exact ⟨single, carried holds.2 eventCareful⟩

/-- **No attempt is left behind.**  In every state of a run in which no retry is taken while
an order is open, and no question about another certificate than the recorded one goes
unanswered meanwhile, a hostname has one pending attempt at most, and none once it has no
recorded position. -/
theorem no_attempt_left_behind (events : List CanopyEvent)
    (isCareful : (canopyMachine reader).Along (fun db event => careful db event)
      (TlsDb.fresh certificates policies) events) (earlier later : List CanopyEvent)
    (reached : events = earlier ++ later) (hostname : String) :
    (((canopyMachine reader).run (TlsDb.fresh certificates policies) earlier).pendingFor
        hostname).length ≤ 1 ∧
      (((canopyMachine reader).run (TlsDb.fresh certificates policies) earlier).getChainRow
          hostname = none →
        ((canopyMachine reader).run (TlsDb.fresh certificates policies) earlier).pendingFor
          hostname = []) := by
  rw [reached] at isCareful
  have carried := canopyMachine_carried reader certificates policies earlier
    ((canopyMachine reader).along_append.mp isCareful).1
  refine ⟨canopyMachine_single reader certificates policies earlier hostname, ?_⟩
  intro forgotten
  by_contra pending
  have carries := carried hostname pending
  rw [TlsDb.carries, forgotten] at carries
  cases carries

end Runs

/-! ## A retry while an order is open -/

namespace Stranded

def reader : ChainReader where
  parseChain _ := .error "unreadable"
  leafSpkiDer _ := .error "unreadable"
  leafFacts _ := .error "unreadable"

def ask : Ask where
  hostname := "shop.example.com"
  replacing := .NONE
  step := 0
  since := 1
  chainLen := 2
  canopyResponsible := true
  trigger := .onDemand

/-- Canopy opens an order, and the operator sets a policy. -/
def ordered : List CanopyEvent := [.keyed "shop.example.com" 1, .answered ask 1 [] .pending 1]

def policySet : List CanopyEvent := [.policySetCanopy "shop.example.com"]

/-- In between the operator asks for a retry, and it is taken. -/
def retried : List CanopyEvent :=
  [.retryRequested "shop.example.com", .retryTaken "shop.example.com" .NONE 2]

def start : TlsDb := .fresh .empty .empty

end Stranded

open Stranded in
/-- The policy ends the cycle that the retry had started, and the attempt of the order stays
pending with no position recorded. -/
theorem retry_strands_attempt :
    ((canopyMachine reader).run start (ordered ++ retried ++ policySet)).getChainRow
        "shop.example.com" = none ∧
      ((canopyMachine reader).run start (ordered ++ retried ++ policySet)).pendingFor
        "shop.example.com" =
          [⟨1, "shop.example.com", .onDemand, .pending, none, none⟩] := by
  constructor <;> decide

open Stranded in
theorem order_closed_by_policy :
    (canopyMachine reader).Along (fun db event => careful db event) start
        (ordered ++ policySet) ∧
      ((canopyMachine reader).run start ordered).pendingFor "shop.example.com" ≠ [] ∧
      ((canopyMachine reader).run start (ordered ++ policySet)).pendingFor
        "shop.example.com" = [] := by
  have isCareful : (canopyMachine reader).Along (fun db event => careful db event) start
      (ordered ++ policySet) := by
    refine ⟨?_, ?_, ?_, trivial⟩ <;> decide
  refine ⟨isCareful, by decide, ?_⟩
  refine (no_attempt_left_behind reader .empty .empty (ordered ++ policySet) isCareful
    (ordered ++ policySet) [] (append_nil _).symm "shop.example.com").2 ?_
  decide

end Seedling.Tls
