import Mathlib.Algebra.GroupWithZero.Nat
import Seedling.Barrier.Trace

/-!
# Restarts are made again

`rt.restart` neither records its call nor looks at the log.  The restart at a place
of the closure's call sequence therefore bumps the restart generation once for each
pass that makes it, and at most once in all exactly if no two passes make it
(`restarts_bump_once_iff`).
-/

namespace Seedling.Barrier

open Foundation List

/-! ## Restarts -/

/-- The effect is a bump of a restart generation that went through. -/
def Effect.bumps : Effect → Bool
  | .restartGen _ (.ok _) => true
  | _ => false

/-- How often an `rt.restart` bumps, by the effects it leaves; other calls are not
counted. -/
def restartBumps (op : Operation) (pass : Pass) : Asked → Nat
  | (.call (.restart resource), state) =>
    ((dispatch op (pass.env state.ticks) (.restart resource) state).2.effects.drop
      state.effects.length).countP fun event => event.effect.bumps
  | _ => 0

/-- What is asked for is the restart of a named deployment, and the database
accepts the bump. -/
def AsksRestart (pass : Pass) (one : Asked) : Prop :=
  ∃ name low high image, one.1 = .call (.restart (.deployment name low high image)) ∧
    name ≠ "" ∧ (pass.env one.2.ticks).bumpRestartGen name = .ok ()

/-- **A restart bumps whenever it is made**, and once. -/
theorem restartBumps_cases (op : Operation) (pass : Pass) {one : Asked}
    (live : one.2.ctx.probeMode = false) :
    AsksRestart pass one ∧ restartBumps op pass one = 1 ∨
      ¬ AsksRestart pass one ∧ restartBumps op pass one = 0 := by
  obtain ⟨ask, state⟩ := one
  match ask with
  | .enter _ | .call (.start _) | .call (.query _) | .call (.warmCerts _) | .call (.warmImages _)
  | .call (.stop _ _) | .call (.signal _ _) | .call (.write _ _ _) | .call (.exec _ _ _)
  | .call (.barrier _ _) | .call (.restart (.job _ _)) | .call (.restart (.service _))
  | .call (.restart (.ingress _ _)) | .call (.restart (.action _)) | .call (.restart .other) =>
    refine .inr ⟨?_, ?_⟩
    · rintro ⟨name, low, high, image, same, -⟩
      cases same
    · simp [restartBumps, dispatch, doRestart, PassState.fail]
  | .call (.restart (.deployment name low high image)) =>
    by_cases unnamed : name = ""
    · refine .inr ⟨?_, by simp [restartBumps, dispatch, doRestart, unnamed, PassState.fail]⟩
      rintro ⟨_, _, _, _, same, named, -⟩
      cases same
      exact named unnamed
    · have notProbing : state.ctx.probeMode = false := live
      cases outcome : (pass.env state.ticks).bumpRestartGen name with
      | ok _ =>
        refine .inl ⟨⟨name, low, high, image, rfl, unnamed, outcome⟩, ?_⟩
        simp [restartBumps, dispatch, doRestart, unnamed, notProbing, outcome, PassState.perform,
          Effect.bumps]
      | error =>
        refine .inr ⟨?_, ?_⟩
        · rintro ⟨_, _, _, _, same, -, accepted⟩
          cases same
          rw [outcome] at accepted
          cases accepted
        · simp [restartBumps, dispatch, doRestart, unnamed, notProbing, outcome, PassState.perform,
            Effect.bumps, PassState.fail]

/-- Numbers that are one where `P` holds and zero elsewhere add up to one at most
exactly if `P` holds of no two. -/
theorem sum_le_one_iff {α : Type} {P : α → Prop} {f : α → Nat} {list : List α}
    (indicates : ∀ x ∈ list, P x ∧ f x = 1 ∨ ¬ P x ∧ f x = 0) :
    (list.map f).sum ≤ 1 ↔ list.Pairwise fun x y => ¬ (P x ∧ P y) := by
  induction list with
  | nil => simp
  | cons x list ih =>
    rw [forall_mem_cons] at indicates
    have rest := ih indicates.2
    rw [map_cons, sum_cons, pairwise_cons, ← rest]
    rcases indicates.1 with ⟨holds, one⟩ | ⟨fails, zero⟩
    · constructor
      · intro small
        have none : (list.map f).sum = 0 := by omega
        refine ⟨fun y mem both => ?_, by omega⟩
        have zero := List.sum_eq_zero_iff_forall_eq_nat.mp none (f y) (List.mem_map_of_mem mem)
        rcases indicates.2 y mem with ⟨-, one⟩ | ⟨fails, -⟩
        · omega
        · exact fails both.2
      · rintro ⟨alone, -⟩
        have none : (list.map f).sum = 0 := by
          rw [List.sum_eq_zero_iff_forall_eq_nat]
          intro n mem
          obtain ⟨y, inList, rfl⟩ := mem_map.mp mem
          rcases indicates.2 y inList with ⟨holdsToo, -⟩ | ⟨-, zero⟩
          · exact absurd ⟨holds, holdsToo⟩ (alone y inList)
          · exact zero
        omega
    · rw [zero, Nat.zero_add]
      constructor
      · intro small
        exact ⟨fun y _ both => fails both.1, small⟩
      · exact And.right

namespace Invocation

variable (invocation : Invocation)

def restartBumpsAt (place : Nat) (one : Pass × List ActionLogEntry) : Nat :=
  match (invocation.asked one.1 one.2)[place]? with
  | none => 0
  | some ask => restartBumps invocation.op one.1 ask

def restartBumpsOver (passes : List Pass) (place : Nat) : Nat :=
  ((invocation.passLogs [] passes).map (invocation.restartBumpsAt place)).sum

def RestartsAt (place : Nat) (one : Pass × List ActionLogEntry) : Prop :=
  ∃ ask, (invocation.asked one.1 one.2)[place]? = some ask ∧ AsksRestart one.1 ask

theorem restartBumpsAt_cases (place : Nat) {one : Pass × List ActionLogEntry}
    (soundLog : SoundLog one.2) :
    invocation.RestartsAt place one ∧ invocation.restartBumpsAt place one = 1 ∨
      ¬ invocation.RestartsAt place one ∧ invocation.restartBumpsAt place one = 0 := by
  unfold restartBumpsAt RestartsAt
  cases here : (invocation.asked one.1 one.2)[place]? with
  | none => simp
  | some ask =>
    have sound := (invocation.asked_sound one.1 soundLog ask (mem_of_getElem? here)).1
    simpa using restartBumps_cases invocation.op one.1 sound.live

/-- **Each restart bumps at most once exactly if no two passes make it.** -/
theorem restarts_bump_once_iff (passes : List Pass) :
    (∀ place, invocation.restartBumpsOver passes place ≤ 1) ↔
      ∀ place, (invocation.passLogs [] passes).Pairwise fun first second =>
        ¬ (invocation.RestartsAt place first ∧ invocation.RestartsAt place second) := by
  refine forall_congr' fun place => sum_le_one_iff fun one mem => ?_
  exact invocation.restartBumpsAt_cases place
    (invocation.passLogs_sound soundLog_nil passes one mem)

end Invocation

/-- The action `restart-api`: `rt.restart(app.deployment("api"))`, then `rt.stop` of
the same deployment. -/
def restartApi : Invocation where
  op := stopApi.op
  action := "restart-api"
  closure := .call (.restart (.deployment "api" 1 2 none)) fun
    | .ok _ => stopApi.closure
    | .error error => .throw error

/-- **A suspended operation restarts its deployment again**: the stop after the
restart waits, and the second pass makes the restart as the first did. -/
theorem suspended_restart_bumps_again :
    ¬ ∀ (invocation : Invocation) (passes : List Pass) (place : Nat),
      invocation.restartBumpsOver passes place ≤ 1 := by
  intro once
  exact absurd (once restartApi [scaledPass 2, scaledPass 2] 0) (by decide)

end Seedling.Barrier
