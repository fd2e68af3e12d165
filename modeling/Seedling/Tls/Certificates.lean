import Mathlib.Data.Prod.Lex
import Mathlib.Data.List.Sort
import Seedling.Foundation.Best
import Seedling.Foundation.Table

/-!
# Stored certificates

A certificate is a row of `tls_certificates`, with the window it is valid in, the recorded flag
for a self-signed certificate, and its PEM text.  Its names, and whether its leaf is issued by
itself, are read from the text by a parser, `LeafReader`.

`rank` says how well a certificate answers for a hostname.  The lookup that serves a handshake
uses it (`findActiveForHostname`), and that of the control plane
(`Snapshot.findActiveForHostname`).
-/

namespace Seedling.Tls

open Foundation

/-! ## Rows -/

inductive TlsCertState where
  | csrPending
  | active
  | superseded
  | failed
  | revoked
deriving DecidableEq

inductive TlsCertOrigin where
  | manual
  | csr
  | acmeDns
  | tailscale
  | canopy
deriving DecidableEq

structure TlsCertificate where
  id : Int
  /-- A name the certificate covers: what supersession groups by. -/
  hostname : String
  state : TlsCertState
  origin : TlsCertOrigin
  certPem : Option String
  notBefore : Option Int
  notAfter : Option Int
  /-- The flag as it was recorded, which nothing checks against the text. -/
  selfSigned : Bool
  createdAt : Int
deriving DecidableEq

namespace TlsCertificate

/-- The id is the primary key. -/
def clash (first second : TlsCertificate) : Bool := first.id = second.id

theorem clash_symm (first second : TlsCertificate) : first.clash second = second.clash first := by
  simp [clash, eq_comm]

variable (certificate : TlsCertificate)

/-- Not staged ahead of its own window. -/
def hasBegun (now : Int) : Bool :=
  !certificate.notBefore.any (now < ·)

def hasExpired (now : Int) : Bool :=
  certificate.notAfter.any (· ≤ now)

/-- Inside its validity window; an end that is not recorded is open. -/
def isCurrent (now : Int) : Bool :=
  certificate.hasBegun now && !certificate.hasExpired now

end TlsCertificate

abbrev CertificateTable := Table TlsCertificate.clash

structure LeafFacts where
  sanDnsNames : List String
  /-- The issuer is the subject. -/
  selfIssued : Bool

abbrev LeafReader := String → Except String LeafFacts

/-- The facts of a stored certificate, if it has a text and this can be read. -/
def TlsCertificate.leaf? (leafFacts : LeafReader) (certificate : TlsCertificate) :
    Option LeafFacts :=
  certificate.certPem.bind fun pem => (leafFacts pem).toOption

/-! ## Coverage -/

def toAsciiLowercase (text : String) : List Char := text.toList.map Char.toLower

def wildcardRest (name : List Char) : Option (List Char) :=
  match name with
  | '*' :: '.' :: rest => some rest
  | _ => none

/-- The first label and what follows its dot. -/
def splitOnceDot (name : List Char) : Option (List Char × List Char) :=
  if '.' ∈ name then some (name.takeWhile (· ≠ '.'), (name.dropWhile (· ≠ '.')).tail) else none

/-- The name is the hostname, or a wildcard with exactly one label more on the left; both
are in lower case. -/
def coversLower (name hostname : List Char) : Bool :=
  name = hostname ||
    match wildcardRest name, splitOnceDot hostname with
    | some rest, some (first, hostRest) => first ≠ [] && hostRest = rest
    | _, _ => false

def sanCovers (sans : List String) (hostname : String) : Bool :=
  sans.any fun san => coversLower (toAsciiLowercase san) (toAsciiLowercase hostname)

def TlsCertificate.covers (leafFacts : LeafReader) (certificate : TlsCertificate)
    (hostname : String) : Bool :=
  (certificate.leaf? leafFacts).any fun leaf => sanCovers leaf.sanDnsNames hostname

/-! ## Ranking -/

/-- How well a certificate answers for a hostname, the first field first. -/
structure Rank where
  unexpired : Bool
  notSelfIssued : Bool
  exact : Bool
  createdAt : Int
  id : Int

namespace Rank

def key (rank : Rank) : Bool ×ₗ Bool ×ₗ Bool ×ₗ Int ×ₗ Int :=
  toLex (rank.unexpired,
    toLex (rank.notSelfIssued, toLex (rank.exact, toLex (rank.createdAt, rank.id))))

theorem key_injective : Function.Injective key := by
  intro first second same
  cases first
  obtain ⟨rfl, rfl, rfl, rfl, rfl⟩ := same
  rfl

instance : LinearOrder Rank := LinearOrder.lift' key key_injective

/-- Nothing that is ranked later, and so is older, can beat it. -/
def isBestPossible (rank : Rank) : Bool := rank.unexpired && rank.notSelfIssued && rank.exact

end Rank

/-- The name is among the certificate's own, whatever its case. -/
def namesExactly (sans : List String) (hostname : String) : Bool :=
  sans.any fun san => toAsciiLowercase san = toAsciiLowercase hostname

def rank (sans : List String) (hostname : String) (selfSigned : Bool) (notAfter : Option Int)
    (createdAt id now : Int) : Option Rank :=
  if sanCovers sans hostname then
    some
      { unexpired := !notAfter.any (· ≤ now)
        notSelfIssued := !selfSigned
        exact := namesExactly sans hostname
        createdAt
        id }
  else none

/-! ## The two lookups -/

section Lookups

variable (leafFacts : LeafReader)

/-- The rank by what the leaf says of its issuer. -/
def servingRank (hostname : String) (now : Int) (certificate : TlsCertificate) : Option Rank :=
  (certificate.leaf? leafFacts).bind fun leaf =>
    rank leaf.sanDnsNames hostname leaf.selfIssued certificate.notAfter certificate.createdAt
      certificate.id now

def controlRank (hostname : String) (now : Int) (certificate : TlsCertificate) : Option Rank :=
  (certificate.leaf? leafFacts).bind fun leaf =>
    rank leaf.sanDnsNames hostname certificate.selfSigned certificate.notAfter
      certificate.createdAt certificate.id now

/-- Newest first, as the query orders its rows. -/
def newestFirst (first second : TlsCertificate) : Prop :=
  toLex (second.createdAt, second.id) ≤ toLex (first.createdAt, first.id)

instance : DecidableRel newestFirst := fun _ _ => inferInstanceAs (Decidable (_ ≤ _))

variable (table : CertificateTable)

/-- The active rows inside their window, newest first. -/
def servableRows (now : Int) : List TlsCertificate :=
  (table.rows.filter fun certificate =>
    certificate.state = .active && certificate.isCurrent now).insertionSort newestFirst

/-- The lookup of the serving endpoint. -/
def findActiveForHostname (hostname : String) (now : Int) : Option TlsCertificate :=
  (bestUntil (servingRank leafFacts hostname now) Rank.isBestPossible none
    (servableRows table now)).map Prod.snd

/-- The rows the control plane decides on: those of the table, in the order they were
loaded in. -/
structure Snapshot where
  certificates : List TlsCertificate

/-- Loaded newest id first. -/
def Snapshot.load : Snapshot :=
  ⟨table.rows.insertionSort fun first second => second.id ≤ first.id⟩

/-- The lookup of the control plane, which does not leave out what has expired. -/
def Snapshot.findActiveForHostname (snapshot : Snapshot) (hostname : String) (now : Int) :
    Option TlsCertificate :=
  (best (controlRank leafFacts hostname now)
    (snapshot.certificates.filter fun certificate =>
      certificate.state = .active && certificate.hasBegun now)).map Prod.snd

end Lookups

end Seedling.Tls
