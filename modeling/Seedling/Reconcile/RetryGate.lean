import Mathlib.Algebra.GroupWithZero.Nat
import Mathlib.Data.List.Chain
import Mathlib.Order.MinMax

/-!
# The retry gate

Failures in a row double the delay up to a cap.  A failure that comes a whole cap after the
one before begins a new row, and so does every failure once the delay is the cap: then the
next attempt is made no earlier than that.  `grows_iff` says how long a row lasts.
-/

namespace Seedling.Reconcile

structure RetryGate where
  base : Nat
  cap : Nat
  failures : Nat
  lastFailure : Option Nat

namespace RetryGate

def new (base cap : Nat) : RetryGate := ⟨base, cap, 0, none⟩

/-- The greatest number of failures that is told apart. -/
def maxCount : Nat := 2 ^ 32 - 1

def delay (gate : RetryGate) : Nat :=
  if gate.failures = 0 then 0
  else min (gate.base * min (2 ^ (gate.failures - 1)) maxCount) gate.cap

def shouldAttempt (gate : RetryGate) (now : Nat) : Bool :=
  match gate.lastFailure with
  | none => true
  | some last => gate.cap ≤ now - last || gate.delay ≤ now - last

def recordFailure (gate : RetryGate) (now : Nat) : RetryGate :=
  { gate with
    failures := if gate.lastFailure.any (gate.cap ≤ now - ·) then 1
      else min (gate.failures + 1) maxCount
    lastFailure := some now }

/-- Each of the failures counts one more, and does not shorten the delay. -/
def Grows (gate : RetryGate) : List Nat → Prop
  | [] => True
  | now :: later =>
    (gate.recordFailure now).failures = gate.failures + 1 ∧
      gate.delay ≤ (gate.recordFailure now).delay ∧ (gate.recordFailure now).Grows later

variable {gate : RetryGate}

theorem delay_le_recordFailure {now : Nat}
    (more : (gate.recordFailure now).failures = gate.failures + 1) :
    gate.delay ≤ (gate.recordFailure now).delay := by
  unfold delay
  rw [more, Nat.add_sub_cancel]
  split
  · exact Nat.zero_le _
  · have doubled : 2 ^ (gate.failures - 1) ≤ 2 ^ gate.failures :=
      Nat.pow_le_pow_right (by decide) (Nat.sub_le _ _)
    exact min_le_min_right _ (Nat.mul_le_mul_left _ (min_le_min_right _ doubled))

theorem grows_from {last : Nat} (seen : gate.lastFailure = some last) (counted : 0 < gate.failures)
    (bounded : gate.failures ≤ maxCount) (times : List Nat) :
    gate.Grows times ↔ (last :: times).IsChain (fun earlier now => now - earlier < gate.cap) ∧
      gate.failures + times.length ≤ maxCount := by
  induction times generalizing gate last with
  | nil => simpa [Grows] using bounded
  | cons now later ih =>
    have step : (gate.recordFailure now).failures = gate.failures + 1 ↔
        now - last < gate.cap ∧ gate.failures + 1 ≤ maxCount := by
      simp only [recordFailure, seen, Option.any_some, decide_eq_true_eq]
      split <;> omega
    rw [List.isChain_cons_cons, List.length_cons]
    constructor
    · rintro ⟨grown, -, rest⟩
      obtain ⟨soon, room⟩ := step.mp grown
      obtain ⟨chain, total⟩ := (ih rfl (by omega) (by omega)).mp rest
      exact ⟨⟨soon, chain⟩, by omega⟩
    · rintro ⟨⟨soon, chain⟩, total⟩
      have grown := step.mpr ⟨soon, by omega⟩
      exact ⟨grown, delay_le_recordFailure grown,
        (ih rfl (by omega) (by omega)).mpr ⟨chain, by omega⟩⟩

/-- **The count grows by one with each failure in a row, and the delay never shrinks, exactly
if each comes less than a cap after the one before** and the count does not overflow. -/
theorem grows_iff (base cap : Nat) (times : List Nat) : (new base cap).Grows times ↔
      times.IsChain (fun earlier now => now - earlier < cap) ∧ times.length ≤ maxCount := by
  cases times with
  | nil => simp [Grows]
  | cons first later =>
    have begun : ((new base cap).recordFailure first).Grows later ↔ _ :=
      grows_from rfl Nat.one_pos (show 1 ≤ maxCount by decide) later
    rw [Grows, begun, List.length_cons, Nat.add_comm later.length]
    exact ⟨fun grows => grows.2.2, fun held => ⟨rfl, Nat.zero_le _, held⟩⟩

/-- **At the cap the row starts over.**  With a base of 5 and a cap of 300 the seventh
failure in a row leads to the cap.  The next attempt is allowed 300 later, and if it fails,
the count is 1 and the delay 5 again. -/
theorem row_ends_at_cap :
    let gate := [0, 5, 15, 35, 75, 155, 315].foldl recordFailure (new 5 300)
    gate.failures = 7 ∧ gate.delay = 300 ∧ gate.shouldAttempt 614 = false ∧
      gate.shouldAttempt 615 ∧ (gate.recordFailure 615).failures = 1 ∧
      (gate.recordFailure 615).delay = 5 := by
  decide

end RetryGate

end Seedling.Reconcile
