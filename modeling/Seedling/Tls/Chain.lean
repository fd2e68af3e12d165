import Seedling.Tls.Supersession

/-!
# Chain positions and the attempt log

Where a hostname has got to in its chain of strategies is a row of `tls_chain_state`; the
row says which certificate is being replaced and whether an order is open.  What was tried
is in the attempt log, where an attempt is pending until it is closed.

A policy that is set or cleared, and the deletion of the certificate being replaced, end
the cycle and clear the row.  `TlsDb.clearChainRow` closes the order that the row carries.
-/

namespace Seedling.Tls

open Foundation

/-! ## Rows -/

inductive AttemptTrigger where
  | onDemand
  | manual
  | renewal
deriving DecidableEq

inductive AttemptOutcome where
  | pending
  | success
  | failure
deriving DecidableEq

structure TlsCertAttempt where
  id : Nat
  hostname : String
  triggeredBy : AttemptTrigger
  outcome : AttemptOutcome
  certId : Option Int
  error : Option String
deriving DecidableEq

/-- Which certificate a cycle replaces. -/
structure Identity where
  certId : Option Int
  notAfter : Option Int
deriving DecidableEq

def Identity.NONE : Identity := ⟨none, none⟩

namespace Chain

structure Row where
  identity : Identity
  /-- The index of the strategy that is responsible, and since when. -/
  step : Nat
  since : Int
  openOrderSince : Option Int
  retryNotBefore : Option Int

end Chain

structure TlsChainRow where
  hostname : String
  row : Chain.Row
  lastError : Option String

def TlsChainRow.clash (first second : TlsChainRow) : Bool := first.hostname = second.hostname

inductive TlsPolicy where
  | acmeDns (dnsProvider : String)
  | tailscale
  | canopy

structure TlsPolicyRow where
  hostname : String
  policy : TlsPolicy

def TlsPolicyRow.clash (first second : TlsPolicyRow) : Bool := first.hostname = second.hostname

/-- The tables; the attempts are the newest first. -/
structure TlsDb where
  certificates : CertificateTable
  attempts : List TlsCertAttempt
  chainRows : Table TlsChainRow.clash
  policies : Table TlsPolicyRow.clash
  forceRetries : List String

/-! ## Patterns -/

/-- A policy's pattern covers a hostname; a wildcard covers any depth. -/
def patternMatches (pattern hostname : String) : Bool :=
  if pattern = "*" then true
  else
    match wildcardRest (toAsciiLowercase pattern) with
    | some suffix =>
      ('.' :: suffix).isSuffixOf (toAsciiLowercase hostname) &&
        suffix.length + 1 < (toAsciiLowercase hostname).length
    | none => toAsciiLowercase pattern = toAsciiLowercase hostname

namespace TlsDb

/-! ## Attempts -/

variable (db : TlsDb)

def insertAttempt (hostname : String) (triggeredBy : AttemptTrigger) : TlsDb × Nat :=
  let id := db.attempts.length + 1
  ({ db with attempts := ⟨id, hostname, triggeredBy, .pending, none, none⟩ :: db.attempts }, id)

def finalizeAttempt (id : Nat) (outcome : AttemptOutcome) (certId : Option Int)
    (error : Option String) : TlsDb :=
  { db with
    attempts := db.attempts.map fun attempt =>
      if attempt.id = id then { attempt with outcome, certId, error } else attempt }

def isPendingFor (hostname : String) (attempt : TlsCertAttempt) : Bool :=
  attempt.hostname = hostname && attempt.outcome = .pending

def latestPendingAttempt (hostname : String) : Option Nat :=
  (db.attempts.find? (isPendingFor hostname)).map TlsCertAttempt.id

/-! ## Positions -/

def getChainRow (hostname : String) : Option TlsChainRow :=
  db.chainRows.rows.find? (·.hostname = hostname)

def putChainRow (hostname : String) (row : Chain.Row) (lastError : Option String) : TlsDb :=
  { db with chainRows := db.chainRows.insertOrReplace ⟨hostname, row, lastError⟩ }

def closeCarriedOrder (hostname : String) : TlsDb :=
  match db.getChainRow hostname with
  | none => db
  | some existing =>
    if existing.row.openOrderSince.isSome then
      match db.latestPendingAttempt hostname with
      | none => db
      | some id =>
        db.finalizeAttempt id .failure none
          (some "the hostname left its chain before the order was answered")
    else db

def clearChainRow (hostname : String) : TlsDb :=
  let closed := db.closeCarriedOrder hostname
  { closed with chainRows := closed.chainRows.keepOnly (·.hostname ≠ hostname) }

/-- Forget the positions of several hostnames, one after another. -/
def clearChainRows (hostnames : List String) : TlsDb :=
  hostnames.foldl clearChainRow db

/-! ## Policies -/

/-- A policy that is written or cleared ends the cycles under it. -/
def forgetChainsUnder (pattern : String) : TlsDb :=
  db.clearChainRows ((db.chainRows.rows.map TlsChainRow.hostname).filter (patternMatches pattern))

def setPolicy (hostname : String) (policy : TlsPolicy) : TlsDb :=
  forgetChainsUnder { db with policies := db.policies.insertOrReplace ⟨hostname, policy⟩ } hostname

def setPolicyAcmeDns (hostname dnsProvider : String) : TlsDb :=
  db.setPolicy hostname (.acmeDns dnsProvider)

def setPolicyCanopy (hostname : String) : TlsDb := db.setPolicy hostname .canopy

def clearPolicy (hostname : String) : TlsDb :=
  if db.policies.rows.any (·.hostname = hostname) then
    forgetChainsUnder { db with policies := db.policies.keepOnly (·.hostname ≠ hostname) } hostname
  else db

/-! ## Certificates -/

/-- Delete a certificate.  The attempts that produced it lose the reference to it, and the
positions that were replacing it are forgotten. -/
def deleteCertificate (id : Int) : TlsDb :=
  let orphaned := (db.chainRows.rows.filter (·.row.identity.certId = some id)).map
    TlsChainRow.hostname
  let attempts := db.attempts.map fun attempt =>
    if attempt.certId = some id then { attempt with certId := none } else attempt
  clearChainRows { db with certificates := db.certificates.keepOnly (·.id ≠ id), attempts } orphaned

/-- Mark a Canopy certificate revoked; one that is no longer held is left. -/
def revokeCanopyCertificate (id : Int) : TlsDb :=
  { db with
    certificates := db.certificates.updateRow id
      (fun row => if row.isCanopyKey then { row with state := .revoked } else row)
      (by intro row; split <;> rfl) }

/-! ## Operator retries -/

def setForceRetry (hostname : String) : TlsDb :=
  { db with forceRetries := db.forceRetries.insert hostname }

/-- Consume a queued retry and start the cycle it asks for. -/
def startCycleForForceRetry (hostname : String) (replacing : Identity) (now : Int) : TlsDb :=
  if hostname ∈ db.forceRetries then
    putChainRow { db with forceRetries := db.forceRetries.filter (· ≠ hostname) } hostname
      { identity := replacing, step := 0, since := now, openOrderSince := none
        retryNotBefore := none } none
  else db

end TlsDb

end Seedling.Tls
