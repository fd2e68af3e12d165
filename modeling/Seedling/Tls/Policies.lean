import Mathlib.Data.String.Basic
import Seedling.Foundation.Best
import Seedling.Foundation.Newest
import Seedling.Tls.Attempts

/-!
# Which cycles a policy ends

The most specific policy whose pattern covers a hostname governs it (`resolvePolicy`).  A
policy that is written or cleared ends the cycles of the hostnames its pattern covers, also
of those that a more specific one governs (`specific_policy_forgotten`), and of no others
(`policy_write_frame`).
-/

namespace Seedling.Tls

open Foundation List TlsDb

def patternSpecificity (pattern : String) : Nat :=
  if pattern = "*" then 0
  else if (wildcardRest pattern.toList).isSome then 1 + (pattern.utf8ByteSize - 2)
  else 1000000 + pattern.utf8ByteSize

/-- A name that Caddy issues for with its own CA. -/
def isCaddyInternal (isIpAddr : String → Bool) (hostname : String) : Bool :=
  let lower := toAsciiLowercase hostname
  isIpAddr hostname || !lower.contains '.' || ["localhost", "local", "internal"].contains
      (String.ofList (lower.reverse.takeWhile (· ≠ '.')).reverse)

def listPolicies (db : TlsDb) : List TlsPolicyRow := sortBy TlsPolicyRow.hostname db.policies.rows

/-- The most specific policy that covers the hostname, the first of several.  A wildcard does
not bind a name that Caddy issues for. -/
def resolvePolicy (isIpAddr : String → Bool) (policies : List TlsPolicyRow) (hostname : String) :
    Option TlsPolicyRow :=
  let internal := isCaddyInternal isIpAddr hostname
  let rank (row : TlsPolicyRow) : Option Nat :=
    if patternMatches row.hostname hostname && !(internal && row.hostname.toList.contains '*') then
      some (patternSpecificity row.hostname)
    else none
  (best rank policies).map Prod.snd

variable {db : TlsDb} {hostname other pattern : String}

/-- What is recorded of a hostname stays, and attempts keep their ids. -/
structure Spares (hostname : String) (before after : TlsDb) : Prop where
  row : after.getChainRow hostname = before.getChainRow hostname
  pending : after.pendingFor hostname = before.pendingFor hostname
  ids : after.attempts.map TlsCertAttempt.id = before.attempts.map TlsCertAttempt.id

theorem closeCarriedOrder_spares (keyed : (db.attempts.map TlsCertAttempt.id).Nodup)
    (different : other ≠ hostname) : Spares other db (db.closeCarriedOrder hostname) := by
  rcases closeCarriedOrder_cases db hostname with same | ⟨id, _, latest, same⟩ <;> rw [same]
  · exact ⟨rfl, rfl, rfl⟩
  · obtain ⟨found, isFound, rfl⟩ := Option.map_eq_some_iff.mp latest
    refine ⟨rfl, ?_, ?_⟩
    · -- the attempt that is closed is of the hostname itself
      rw [pendingFor_finalizeAttempt (by decide), filter_eq_self]
      intro attempt pending
      obtain ⟨mem, waits⟩ := mem_filter.mp pending
      refine decide_eq_true fun sameId => different ?_
      obtain rfl := inj_on_of_nodup_map keyed mem (mem_of_find?_eq_some isFound) sameId
      have own := find?_some isFound
      simp only [isPendingFor, Bool.and_eq_true, decide_eq_true_eq] at waits own
      exact waits.1.symm.trans own.1
    · simp only [finalizeAttempt, map_map]
      congr 1
      funext attempt
      simp only [Function.comp_apply]
      split <;> rfl

theorem clearChainRows_spares {hostnames : List String} (outside : other ∉ hostnames)
    (keyed : (db.attempts.map TlsCertAttempt.id).Nodup) :
    Spares other db (db.clearChainRows hostnames) := by
  induction hostnames generalizing db with
  | nil => exact ⟨rfl, rfl, rfl⟩
  | cons hostname rest ih =>
    have different := ne_of_not_mem_cons outside
    obtain ⟨row, pending, ids⟩ := closeCarriedOrder_spares keyed different
    have more := @ih (db.clearChainRow hostname) (not_mem_of_not_mem_cons outside) (ids ▸ keyed)
    exact ⟨more.row.trans ((getChainRow_keepOnly_other different).trans row),
      more.pending.trans pending, more.ids.trans ids⟩

/-- **A policy that is written or cleared changes nothing of a hostname that its pattern does
not cover**: neither its position, with its refusal, nor its open order. -/
theorem policy_write_frame (db : TlsDb) (keyed : (db.attempts.map TlsCertAttempt.id).Nodup)
    (pattern dnsProvider hostname : String) (uncovered : patternMatches pattern hostname = false) :
    ∀ after ∈ [db.setPolicyAcmeDns pattern dnsProvider, db.setPolicyCanopy pattern,
        db.clearPolicy pattern],
      after.getChainRow hostname = db.getChainRow hostname ∧
        after.pendingFor hostname = db.pendingFor hostname := by
  have forgets : ∀ policies, Spares hostname { db with policies }
      (forgetChainsUnder { db with policies } pattern) := by
    intro policies
    refine clearChainRows_spares (fun listed => ?_) keyed
    rw [(mem_filter.mp listed).2] at uncovered
    cases uncovered
  have written : ∀ policy, (db.setPolicy pattern policy).getChainRow hostname =
      db.getChainRow hostname ∧
        (db.setPolicy pattern policy).pendingFor hostname = db.pendingFor hostname :=
    fun _ => ⟨(forgets _).row, (forgets _).pending⟩
  simp only [mem_cons, not_mem_nil, or_false, forall_eq_or_imp, forall_eq]
  refine ⟨written _, written _, ?_⟩
  unfold clearPolicy
  split
  · exact ⟨(forgets _).row, (forgets _).pending⟩
  · exact ⟨rfl, rfl⟩

/-- A hostname with a policy of its own, for which Canopy keeps an order open. -/
def shopDb : TlsDb where
  certificates := .empty
  attempts := [⟨1, "shop.example.com", .renewal, .pending, none, none⟩]
  chainRows := Table.empty.insertOrReplace ⟨"shop.example.com", ⟨.NONE, 0, 1, some 1, none⟩, none⟩
  policies := Table.empty.insertOrReplace ⟨"shop.example.com", .canopy⟩
  forceRetries := []

theorem policy_write_frame_shop :
    (shopDb.setPolicyCanopy "*.example.org").getChainRow "shop.example.com" =
      shopDb.getChainRow "shop.example.com" :=
  (policy_write_frame shopDb (by decide) "*.example.org" "dns" "shop.example.com" (by decide) _
    (mem_cons_of_mem _ mem_cons_self)).1

/-- **The position goes although the policy stays**: a wider policy is written, and the
hostname is governed by its own as before. -/
theorem specific_policy_forgotten :
    let after := shopDb.setPolicyCanopy "*.example.com"
    resolvePolicy (fun _ => false) (listPolicies after) "shop.example.com" =
        resolvePolicy (fun _ => false) (listPolicies shopDb) "shop.example.com" ∧
      (shopDb.getChainRow "shop.example.com").isSome ∧
      after.getChainRow "shop.example.com" = none ∧
      shopDb.pendingFor "shop.example.com" ≠ [] ∧ after.pendingFor "shop.example.com" = [] := by
  refine ⟨?_, by decide, rfl, by decide, by decide⟩
  have own : listPolicies shopDb = [⟨"shop.example.com", .canopy⟩] := by
    simp [listPolicies, sortBy, shopDb, Table.insertOrReplace, Table.empty]
  have wider : listPolicies (shopDb.setPolicyCanopy "*.example.com") =
      [⟨"*.example.com", .canopy⟩, ⟨"shop.example.com", .canopy⟩] := by
    rw [listPolicies, show (shopDb.setPolicyCanopy "*.example.com").policies.rows =
      [⟨"shop.example.com", .canopy⟩, ⟨"*.example.com", .canopy⟩] from rfl]
    simp [sortBy, mergeSort]
  rw [own, wider]
  rfl

end Seedling.Tls
