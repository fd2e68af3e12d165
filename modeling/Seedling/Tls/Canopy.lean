import Seedling.Foundation.Machine
import Seedling.Tls.Chain

/-!
# Canopy as a certificate source

Canopy is asked for a hostname's certificate with a key the runtime holds.  Asking again
collects the order, and `apply` turns each answer into stored state in one transaction:
the certificate, the attempt log and the hostname's position.
-/

namespace Seedling.Tls

open Foundation

/-! ## Texts -/

/-- Control characters of the code charts. -/
def isControl (c : Char) : Bool := c.val < 0x20 || (0x7f ≤ c.val && c.val ≤ 0x9f)

def isWhiteSpace (c : Char) : Bool :=
  (0x9 ≤ c.val && c.val ≤ 0xd) || c.val ∈ [0x20, 0x85, 0xa0, 0x1680, 0x2028, 0x2029, 0x202f,
    0x205f, 0x3000] || (0x2000 ≤ c.val && c.val ≤ 0x200a)

def reasonLimit : Nat := 500

/-- A reason as it is safe to put in a fault, a log line and the operator's view. -/
def tidy (reason : String) : String :=
  let out := (reason.toList.map fun c => if isControl c then ' ' else c).take reasonLimit
  String.ofList ((out.dropWhile isWhiteSpace).reverse.dropWhile isWhiteSpace).reverse

/-! ## Answers -/

inductive Answer where
  | issued (chainPem : String)
  | pending
  | refused (reason : String)
  | orderFailed (reason : String)
  | unavailable (reason : String)
  | revoked (reason : String)
  | malformed (reason : String)

/-- Where the hostname stood when it was decided that Canopy is to be asked. -/
structure Ask where
  hostname : String
  replacing : Identity
  step : Nat
  since : Int
  chainLen : Nat
  canopyResponsible : Bool
  trigger : AttemptTrigger

inductive Outcome where
  | issued (certId : Int)
  | pending
  | refused (reason : String)
  | failed (reason : String)
  | rejected (reason : String)

/-- Where a hostname stands after its certificate was revoked. -/
structure Replacement where
  replacing : Identity
  step : Nat
  since : Int
  reason : String

inductive ApplyResult where
  | done (outcome : Outcome)
  | replaced (replacement : Replacement)

structure ParsedChain where
  metadata : CertMetadata
  chainPem : String
  sanDnsNames : List String

/-- The certificate parser. -/
structure ChainReader where
  parseChain : String → Except String ParsedChain
  leafSpkiDer : String → Except String (List UInt8)
  leafFacts : LeafReader

def autoRetryDebounceSecs : Int := 60 * 60

/-! ## Positions and attempts -/

variable (db : TlsDb)

/-- The recorded position, set to where the decision found the hostname. -/
def position (ask : Ask) : Chain.Row :=
  match (db.getChainRow ask.hostname).filter (·.row.identity = ask.replacing) with
  | some recorded => { recorded.row with step := ask.step, since := ask.since }
  | none => ⟨ask.replacing, ask.step, ask.since, none, none⟩

/-- Close the attempt that is open for a hostname; when none is and the outcome is worth an
entry, open and close one. -/
def closeAttempt (ask : Ask) (outcome : AttemptOutcome) (certId : Option Int)
    (error : Option String) (logIfNone : Bool) : TlsDb :=
  match db.latestPendingAttempt ask.hostname with
  | some id => db.finalizeAttempt id outcome certId error
  | none =>
    if logIfNone then
      let (opened, id) := db.insertAttempt ask.hostname ask.trigger
      opened.finalizeAttempt id outcome certId error
    else db

/-- The order is open: note it, once. -/
def pending (row : Chain.Row) (ask : Ask) (now : Int) : ApplyResult × TlsDb :=
  let noted :=
    if (db.latestPendingAttempt ask.hostname).isNone then
      (db.insertAttempt ask.hostname ask.trigger).1
    else db
  (.done .pending, noted.putChainRow ask.hostname
    { row with openOrderSince := some (row.openOrderSince.getD now), retryNotBefore := none } none)

/-- Nothing about the order is learnt, and nothing about it changes but the reason. -/
def unavailable (row : Chain.Row) (ask : Ask) (reason : String) : ApplyResult × TlsDb :=
  (.done (.failed reason),
    db.putChainRow ask.hostname { row with retryNotBefore := none } (some reason))

/-- An order that came to nothing: its attempt is closed, and the hostname waits. -/
def closeOrder (row : Chain.Row) (ask : Ask) (reason : String) (logIfNone : Bool) (now : Int) :
    TlsDb :=
  (closeAttempt db ask .failure none (some reason) logIfNone).putChainRow ask.hostname
    { row with
      openOrderSince := none
      retryNotBefore := some (now + autoRetryDebounceSecs) } (some reason)

/-- A refusal passes a hostname that has something to replace to the next strategy. -/
def advance (row : Chain.Row) (ask : Ask) (now : Int) : Chain.Row :=
  if ask.canopyResponsible && ask.replacing ≠ .NONE && ask.step + 1 < ask.chainLen then
    { row with step := ask.step + 1, since := now }
  else row

/-- Stop serving a revoked certificate and record where the hostname stands. -/
def applyRevocation (ask : Ask) (certId : Int) (reason : String) (now : Int) :
    Replacement × TlsDb :=
  let held := db.certificates.getCertificate certId
  let wasServing := held.any fun row => row.state = .active && row.certPem.isSome
  let closed := closeAttempt (db.revokeCanopyCertificate certId) ask .failure none (some reason)
    false
  let replacement : Replacement :=
    if wasServing then
      ⟨⟨some certId, held.bind TlsCertificate.notAfter⟩, min 1 (ask.chainLen - 1), now, reason⟩
    else ⟨ask.replacing, ask.step, ask.since, reason⟩
  (replacement, closed.putChainRow ask.hostname
    { identity := replacement.replacing
      step := replacement.step
      since := replacement.since
      openOrderSince := some now
      retryNotBefore := none } (some reason))

/-! ## Applying an answer -/

section Apply

variable (reader : ChainReader)

/-- A chain that can be stored, or why it cannot. -/
def acceptChain (ask : Ask) (keySpki : List UInt8) (chainPem : String) (now : Int) :
    Except String ParsedChain :=
  match reader.parseChain chainPem with
  | .error e => .error s!"Canopy returned a chain this runtime cannot read: {e}"
  | .ok parsed =>
    let names := parsed.sanDnsNames.map fun name => String.ofList (toAsciiLowercase name)
    let shown := if names = [] then "no names" else tidy (", ".intercalate names)
    let hostname := ask.hostname
    if names ≠ [String.ofList (toAsciiLowercase hostname)] then
      .error s!"Canopy returned a certificate for {shown}, not for exactly {hostname}"
    else if parsed.metadata.notAfter.any (· ≤ now) then
      .error "Canopy returned a certificate that has already expired"
    else if parsed.metadata.notBefore.any (now < ·) then
      .error "Canopy returned a certificate that is not valid yet"
    else
      match reader.leafSpkiDer chainPem with
      | .error e => .error s!"Canopy returned a chain this runtime cannot read: {e}"
      | .ok spki =>
        if spki = keySpki then .ok parsed
        else .error "Canopy returned a certificate for a key this runtime does not hold"

def isNewer (held : Option TlsCertificate) (metadata : CertMetadata) : Bool :=
  match held with
  | some row =>
    if row.state = .active then
      match row.notAfter, metadata.notAfter with
      | some heldEnd, some newEnd => heldEnd < newEnd
      | _, _ => false
    else true
  | none => true

/-- Store a chain and end the cycle. -/
def collect (db : TlsDb) (ask : Ask) (keyId : Int) (parsed : ParsedChain) (now : Int) :
    Except String (ApplyResult × TlsDb) :=
  match activateCanopyChain keyId parsed.chainPem parsed.metadata now db.certificates with
  | none =>
    .ok (unavailable db (position db ask) ask "the key for this certificate is no longer held")
  | some activated =>
    match supersedeOtherActiveForHostname reader.leafFacts keyId now activated with
    | .error e => .error e
    | .ok (certificates, _) =>
      let closed := closeAttempt { db with certificates } ask .success (some keyId) none true
      .ok (.done (.issued keyId), closed.clearChainRow ask.hostname)

def apply (db : TlsDb) (ask : Ask) (keyId : Int) (keySpki : List UInt8) (answer : Answer)
    (now : Int) : Except String (ApplyResult × TlsDb) :=
  let row := position db ask
  match answer with
  | .issued chainPem =>
    match acceptChain reader ask keySpki chainPem now with
    | .error reason => .ok (unavailable db row ask reason)
    | .ok parsed =>
      if isNewer (db.certificates.getCertificate keyId) parsed.metadata then
        collect reader db ask keyId parsed now
      else .ok (pending db row ask now)
  | .pending => .ok (pending db row ask now)
  | .refused reason =>
    .ok (.done (.refused reason), closeOrder db (advance row ask now) ask reason true now)
  | .orderFailed reason => .ok (.done (.failed reason), closeOrder db row ask reason false now)
  | .unavailable reason => .ok (unavailable db row ask reason)
  | .malformed reason => .ok (.done (.rejected reason), closeOrder db row ask reason false now)
  | .revoked reason =>
    let (replacement, after) := applyRevocation db ask keyId reason now
    .ok (.replaced replacement, after)

end Apply

/-- A question that could not be put: recorded at the position it was asked from. -/
def recordEngineFailure (ask : Ask) (reason : String) (now : Int) : TlsDb :=
  let openOrderSince := ((db.getChainRow ask.hostname).filter
    (·.row.identity = ask.replacing)).bind (·.row.openOrderSince)
  db.putChainRow ask.hostname
    { identity := ask.replacing
      step := ask.step
      since := ask.since
      openOrderSince
      retryNotBefore := some (now + autoRetryDebounceSecs) } (some reason)

/-- The key for a hostname, stored before it is asked about. -/
def keyFor (hostname : String) (now : Int) : TlsDb :=
  if db.certificates.rows.any fun row => row.hostname = hostname && row.isCanopyKey then db
  else
    { db with
      certificates := (insertCertificate
        ⟨hostname, .csrPending, .canopy, none, ⟨none, none, false⟩⟩ now db.certificates).1 }

/-! ## Runs -/

inductive CanopyEvent where
  | keyed (hostname : String) (now : Int)
  | answered (ask : Ask) (keyId : Int) (keySpki : List UInt8) (answer : Answer) (now : Int)
  | notAsked (ask : Ask) (reason : String) (now : Int)
  | revoked (ask : Ask) (certId : Int) (reason : String) (now : Int)
  /-- A revocation for a hostname that has left its chain. -/
  | withdrawn (certId : Int)
  | retryRequested (hostname : String)
  | retryTaken (hostname : String) (replacing : Identity) (now : Int)
  | policySetAcmeDns (hostname dnsProvider : String)
  | policySetCanopy (hostname : String)
  | policyCleared (hostname : String)
  | certificateDeleted (id : Int)

/-- One event; a transaction that fails is rolled back. -/
def CanopyEvent.take (reader : ChainReader) (db : TlsDb) : CanopyEvent → TlsDb
  | keyed hostname now => keyFor db hostname now
  | answered ask keyId keySpki answer now =>
    match apply reader db ask keyId keySpki answer now with
    | .error _ => db
    | .ok (_, after) => after
  | notAsked ask reason now => recordEngineFailure db ask reason now
  | revoked ask certId reason now => (applyRevocation db ask certId reason now).2
  | withdrawn certId => db.revokeCanopyCertificate certId
  | retryRequested hostname => db.setForceRetry hostname
  | retryTaken hostname replacing now => db.startCycleForForceRetry hostname replacing now
  | policySetAcmeDns hostname dnsProvider => db.setPolicyAcmeDns hostname dnsProvider
  | policySetCanopy hostname => db.setPolicyCanopy hostname
  | policyCleared hostname => db.clearPolicy hostname
  | certificateDeleted id => db.deleteCertificate id

def canopyMachine (reader : ChainReader) : Machine TlsDb CanopyEvent Unit where
  step db event := ((), event.take reader db)

/-- The tables before anything was tried. -/
def TlsDb.fresh (certificates : CertificateTable) (policies : Table TlsPolicyRow.clash) : TlsDb :=
  ⟨certificates, [], .empty, policies, []⟩

end Seedling.Tls
