import Mathlib.Algebra.Order.BigOperators.Group.List
import Mathlib.Data.List.Dedup
import Mathlib.Data.List.Flatten
import Seedling.Reconcile.Planes

/-!
# The backends of a service port

A pod contributes one backend for each of its bindings under the name of the service and its
port.  So the pool has the addresses it should, each of them once, exactly if no pod of it binds
the port twice at one of its own ports, or a slot for an external service of that name
(`pool_is_set_iff`).
-/

namespace Seedling.Reconcile

open List

/-- The backends routed for a port of a service: none if the port has no entry. -/
def routedBackends (pods : List ServingPod) (key : ServiceKey) : List (String × Nat) :=
  ((collectServiceBackends pods).find? (·.1 = key)).elim [] (·.2.1)

def ServingPod.addresses (pod : ServingPod) (key : ServiceKey) : List (String × Nat) :=
  (pod.bindings.filter (·.key = key)).map fun bound => (pod.podIp, bound.podPort)

/-- The addresses at which the pod serves the port of the app's own service. -/
def ServingPod.ownAddresses (pod : ServingPod) (key : ServiceKey) : List (String × Nat) :=
  ((pod.bindings.filter (·.key = key)).filter (!·.external)).map fun bound =>
    (pod.podIp, bound.podPort)

/-- The pods to route the port to: the healthy ones if one of those serves it, else all. -/
def poolPods (pods : List ServingPod) (key : ServiceKey) : List ServingPod :=
  if pods.any fun pod => pod.observedHealthy && pod.addresses key ≠ [] then
    pods.filter (·.observedHealthy)
  else pods

variable (pods : List ServingPod)

variable (key : ServiceKey)
include key

theorem taggedBackends_of_key : ((taggedBackends pods).filter (·.1 = key)).map Prod.snd =
      pods.flatMap fun pod => (pod.addresses key).map (·, pod.observedHealthy) := by
  simp [taggedBackends, ServingPod.addresses, filter_flatMap, map_flatMap, filter_map,
    Function.comp_def]

theorem healthy_of_key :
    ((pods.flatMap fun pod => (pod.addresses key).map (·, pod.observedHealthy)).filter
      Prod.snd).map Prod.fst = (pods.filter (·.observedHealthy)).flatMap (·.addresses key) := by
  induction pods with
  | nil => rfl
  | cons pod pods ih =>
    rw [flatMap_cons, filter_append, map_append, ih]
    cases healthy : pod.observedHealthy <;> simp [filter_map, Function.comp_def, healthy]

theorem selectPool_of_key :
    (selectPool (pods.flatMap fun pod => (pod.addresses key).map (·, pod.observedHealthy))).1 =
      (poolPods pods key).flatMap (·.addresses key) := by
  have any : ((pods.flatMap fun pod => (pod.addresses key).map (·, pod.observedHealthy)).any
      Prod.snd) = pods.any fun pod => pod.observedHealthy && pod.addresses key ≠ [] := by
    rw [any_flatMap]
    congr 1
    funext pod
    cases pod.observedHealthy <;> cases pod.addresses key <;> simp
  unfold selectPool poolPods
  rw [any]
  split
  · exact healthy_of_key pods key
  · simp [map_flatMap, Function.comp_def]

theorem routedBackends_eq :
    routedBackends pods key = (poolPods pods key).flatMap (·.addresses key) := by
  rw [← selectPool_of_key, ← taggedBackends_of_key, routedBackends, collectServiceBackends,
    find?_map]
  cases found : ((taggedBackends pods).map Prod.fst).dedup.find?
      (((·.1 = key) : ServiceKey × List (String × Nat) × Bool → Bool) ∘ fun key =>
        (key, selectPool (((taggedBackends pods).filter (·.1 = key)).map Prod.snd))) with
  | none =>
    have absent : (taggedBackends pods).filter (·.1 = key) = [] := by
      simp only [find?_eq_none, mem_dedup, mem_map, Function.comp, decide_eq_true_eq] at found
      exact filter_eq_nil_iff.mpr fun entry mem same =>
        found entry.1 ⟨entry, mem, rfl⟩ (by simpa using same)
    rw [absent]
    rfl
  | some other =>
    obtain rfl : other = key := by simpa using find?_some found
    rfl

omit key

theorem flatMap_filter_eq_iff {α β γ : Type} (list : List α) (parts : α → List β)
    (keep : α → β → Bool) (out : α → β → γ) :
    (list.flatMap fun a => (parts a).map (out a)) =
        (list.flatMap fun a => ((parts a).filter (keep a)).map (out a)) ↔
      ∀ a ∈ list, ∀ b ∈ parts a, keep a b := by
  constructor
  · intro same a mem b inside
    by_contra dropped
    have fewer := sum_lt_sum (fun a => ((parts a).filter (keep a)).length)
      (fun a => (parts a).length) (fun _ _ => length_filter_le ..)
      ⟨a, mem, length_filter_lt_length_iff_exists.mpr ⟨b, inside, dropped⟩⟩
    have lengths := congrArg length same
    simp only [length_flatMap, length_map] at lengths
    exact absurd lengths fewer.ne'
  · intro all
    exact flatMap_congr fun a mem => by rw [filter_eq_self.mpr (all a mem)]

/-- **The pool of a port is a set of backends**: those of the pods to route it to that bind the
service, each once, exactly if no such pod binds an external service of that name, or the port
twice at one of its ports, and no two share an address. -/
theorem pool_is_set_iff (pods : List ServingPod) (key : ServiceKey) :
    ((∀ backend, backend ∈ routedBackends pods key ↔
          ∃ pod ∈ poolPods pods key, backend ∈ pod.ownAddresses key) ∧
        (routedBackends pods key).Nodup) ↔
      (∀ pod ∈ poolPods pods key, ∀ bound ∈ pod.bindings, bound.key = key →
          bound.external = false) ∧
        (∀ pod ∈ poolPods pods key,
          ((pod.bindings.filter (·.key = key)).map BoundPort.podPort).Nodup) ∧
        (poolPods pods key).Pairwise fun pod other : ServingPod =>
          (pod.addresses key).Disjoint (other.addresses key) := by
  have once : ∀ pod : ServingPod, (pod.addresses key).Nodup ↔
      ((pod.bindings.filter (·.key = key)).map BoundPort.podPort).Nodup := by
    intro pod
    have paired := (map_map (g := Prod.mk pod.podIp) (f := BoundPort.podPort)
      (l := pod.bindings.filter (·.key = key))).symm
    exact (iff_of_eq (congrArg Nodup paired)).trans
      (nodup_map_iff (Prod.mk_right_injective pod.podIp))
  have own : (poolPods pods key).flatMap (·.addresses key) =
      (poolPods pods key).flatMap (·.ownAddresses key) ↔
        ∀ pod ∈ poolPods pods key, ∀ bound ∈ pod.bindings, bound.key = key →
          bound.external = false := by
    refine (flatMap_filter_eq_iff ..).trans ?_
    simp
  have set : ((poolPods pods key).flatMap (·.addresses key)).Nodup ↔
      (∀ pod ∈ poolPods pods key,
        ((pod.bindings.filter (·.key = key)).map BoundPort.podPort).Nodup) ∧
      (poolPods pods key).Pairwise fun pod other : ServingPod =>
        (pod.addresses key).Disjoint (other.addresses key) := by
    rw [nodup_flatMap]
    simp only [once]
  rw [routedBackends_eq, ← own, ← set]
  refine and_congr_left fun unique => ⟨fun members => ?_, fun same => ?_⟩
  · have within : ((poolPods pods key).flatMap (·.ownAddresses key)).Sublist
        ((poolPods pods key).flatMap (·.addresses key)) :=
      .flatMap_right _ fun pod _ => filter_sublist.map _
    have perm := (perm_ext_iff_of_nodup (unique.sublist within) unique).mpr (by simp [members])
    exact (within.eq_of_length perm.length_eq).symm
  · rw [same]
    simp

/-- A pod that serves two routes of the port 80 of `web` at its port 8080. -/
def twoRoutes : ServingPod := ⟨"fd00::1", replicate 2 ⟨"web", false, 80, .tcp, 8080⟩, true⟩

/-- **A pod with two routes is in the pool twice.** -/
theorem two_routes_pooled_twice :
    routedBackends [twoRoutes] ("web", 80, .tcp) = [("fd00::1", 8080), ("fd00::1", 8080)] := by
  decide

end Seedling.Reconcile
