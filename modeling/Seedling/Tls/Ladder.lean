import Seedling.Tls.Chain
import Mathlib.Logic.Function.Iterate

/-!
# The ladder of a chain

Where a hostname stands in its chain is computed from the certificate being replaced, the
recorded row and the clock.  Each strategy has half of the time that is left before that
certificate expires, so the turns start at the iterates of `halfway` (`turnStart`), and
`turn_come_iff` says when a turn has come.  `ladder_timeless` is that the position does not
depend on when it was recorded, and `proxyFrom_agrees` that the proxy is told the time at
which its turn comes.
-/

namespace Seedling.Tls.Chain

open Option Function

/-! ## Positions -/

inductive Strategy where
  | canopy
  | http01
  | internalCa
deriving DecidableEq

def Strategy.isProxy : Strategy → Bool
  | .canopy => false
  | .http01 | .internalCa => true

structure Serving where
  identity : Identity
  /-- When a cycle starts for the certificate. -/
  renewalPoint : Int

/-- A row of an earlier cycle is ignored. -/
def Serving.recorded (serving : Serving) (row : Option Row) : Option Row :=
  row.filter (·.identity = serving.identity)

structure Inputs where
  chain : List Strategy
  now : Int
  serving : Option Serving
  row : Option Row
  offerLive : Bool
  force : Bool

structure Running where
  identity : Identity
  step : Nat
  responsible : Strategy
  since : Int
  fallThroughAt : Option Int
  openOrder : Bool

inductive Cycle where
  | idle (nextCycleAt : Int)
  | running (position : Running)

def halfway (since expiry : Int) : Int := since + max (expiry - since) 0 / 2

def fallThroughAt (len step : Nat) (since : Int) (expiry : Option Int) : Option Int :=
  if step + 1 ≥ len then none else expiry.map (halfway since)

/-- The loop of `advance`, over the strategies that are left. -/
def descend (expiry now : Int) : Nat → Nat → Int → Nat × Int
  | 0, step, since => (step, since)
  | left + 1, step, since =>
    if halfway since expiry > now then (step, since)
    else descend expiry now left (step + 1) (halfway since expiry)

def advance (len step : Nat) (since : Int) (expiry : Option Int) (now : Int) : Nat × Int :=
  match expiry with
  | none => (step, since)
  | some expiry => descend expiry now (len - 1 - step) step since

def running (chain : List Strategy) (identity : Identity) (step : Nat) (since now : Int)
    (openOrder : Bool) : Option Cycle :=
  let (step, since) := advance chain.length step since identity.notAfter now
  chain[step]?.map fun responsible => .running
    { identity, step, responsible, since, openOrder
      fallThroughAt := fallThroughAt chain.length step since identity.notAfter }

/-- Only Canopy can be unavailable, and not where it is the whole chain. -/
def available (strategy : Strategy) (chainLen : Nat) (offerLive : Bool) : Bool :=
  match strategy with
  | .canopy => offerLive || chainLen = 1
  | .http01 | .internalCa => true

/-- Where a hostname stands in its chain; none where the source panics. -/
def resolve (inputs : Inputs) : Option Cycle :=
  let ⟨chain, now, serving, row, offerLive, force⟩ := inputs
  let last := chain.length - 1
  if chain.isEmpty then none
  else
    match serving with
    | some serving =>
      let row := serving.recorded row
      let openOrder := row.any (·.openOrderSince.isSome)
      -- an operator retry starts the cycle again
      if force then running chain serving.identity 0 now now openOrder
      else
        match row with
        | some row =>
          running chain serving.identity (min row.step last) row.since now openOrder
        | none =>
          if now ≥ serving.renewalPoint then
            running chain serving.identity 0 serving.renewalPoint now openOrder
          else some (.idle serving.renewalPoint)
    | none =>
      -- a revoked certificate is still the one being replaced, until it expires
      match row.filter fun row => row.identity ≠ .NONE && row.identity.notAfter.any (· > now) with
      | some row =>
        running chain row.identity (min row.step last) row.since now row.openOrderSince.isSome
      | none =>
        let pinned := row.filter fun row => row.identity = .NONE && row.openOrderSince.isSome
        let step := match pinned with
          | some row => min row.step last
          | none => (chain.findIdx? (available · chain.length offerLive)).getD last
        chain[step]?.map fun responsible => .running
          { identity := .NONE, step, responsible, since := pinned.elim now Row.since
            fallThroughAt := none, openOrder := pinned.isSome }

/-- When the proxy may start ordering. -/
inductive ProxyFrom where
  | always
  | at (time : Int)
  | unknown
  | never
deriving DecidableEq

/-- When the turn starts that is some turns on. -/
def turnStart (expiry : Int) (turns : Nat) (since : Int) : Int := (halfway · expiry)^[turns] since

def proxyFrom (chain : List Strategy) (serving : Option Serving) (cycle : Cycle) : ProxyFrom :=
  match chain.findIdx? Strategy.isProxy with
  | none => .never
  | some proxyAt =>
    let ladder (identity : Identity) (step : Nat) (since : Int) : ProxyFrom :=
      match identity.notAfter with
      | none => .unknown
      | some expiry => .at (turnStart expiry (proxyAt - step) since)
    if proxyAt = 0 then .always
    else
      match cycle with
      | .running position =>
        if position.step ≥ proxyAt then .always
        else ladder position.identity position.step position.since
      | .idle nextCycleAt =>
        match serving with
        | some serving => ladder serving.identity 0 nextCycleAt
        | none => .unknown

/-! ## Turns -/

section Turns

variable {expiry now since : Int} {left step : Nat}

theorem le_halfway : since ≤ halfway since expiry := by
  unfold halfway
  omega

theorem turnStart_succ {turns : Nat} :
    turnStart expiry (turns + 1) since = halfway (turnStart expiry turns since) expiry :=
  iterate_succ_apply' ..

theorem turnStart_mono {earlier later : Nat} (ordered : earlier ≤ later) :
    turnStart expiry earlier since ≤ turnStart expiry later since := by
  induction ordered with
  | refl => exact le_rfl
  | step _ ih => exact ih.trans (le_halfway.trans_eq turnStart_succ.symm)

theorem turnStart_le (before : since ≤ expiry) (turns : Nat) :
    turnStart expiry turns since ≤ expiry := by
  induction turns with
  | zero => exact before
  | succ turns ih =>
    rw [turnStart_succ, halfway]
    omega

/-- The descent passes the turns that have started. -/
theorem descend_spec : ∃ passed ≤ left,
    descend expiry now left step since = (step + passed, turnStart expiry passed since) ∧
      (passed ≠ 0 → turnStart expiry passed since ≤ now) ∧
      (passed < left → now < turnStart expiry (passed + 1) since) := by
  induction left generalizing step since with
  | zero => exact ⟨0, le_rfl, rfl, by simp, by simp⟩
  | succ left ih =>
    by_cases waits : halfway since expiry > now
    · exact ⟨0, Nat.zero_le _, by simp [descend, waits, turnStart], by simp, fun _ => waits⟩
    · obtain ⟨passed, within, reached, come, next⟩ := @ih (halfway since expiry) (step + 1)
      refine ⟨passed + 1, by omega, ?_, fun _ => ?_, fun more => next (by omega)⟩
      · rw [descend, if_neg waits, reached, Nat.add_right_comm]
        rfl
      · cases passed with
        | zero => exact not_lt.mp waits
        | succ passed => exact come (by omega)

/-- A descent that is taken up again ends where one descent does. -/
theorem descend_resume {later : Int} (after : now ≤ later) {reached : Nat × Int}
    (walked : reached = descend expiry now left step since) :
    descend expiry later (left + step - reached.1) reached.1 reached.2 =
      descend expiry later left step since := by
  subst walked
  induction left generalizing step since with
  | zero => simp [descend]
  | succ left ih =>
    by_cases waits : halfway since expiry > now
    · simp [descend, waits]
    · have come : ¬ halfway since expiry > later := by omega
      have shifted : left + 1 + step = left + (step + 1) := by omega
      rw [descend, if_neg waits, shifted, ih, descend, if_neg come]

end Turns

/-! ## Resolution -/

section Resolution

/-- The position a cycle is resolved from: the recorded one, or the first strategy's at the
renewal point. -/
def origin (chain : List Strategy) (serving : Serving) (row : Option Row) : Nat × Int :=
  match serving.recorded row with
  | some row => (min row.step (chain.length - 1), row.since)
  | none => (0, serving.renewalPoint)

/-- A position reached by some turns from the origin, in the turn it is in. -/
structure Stands (chain : List Strategy) (serving : Serving) (expiry : Int) (origin : Nat × Int)
    (now : Int) (position : Running) (passed : Nat) : Prop where
  identity : position.identity = serving.identity
  responsible : chain[position.step]? = some position.responsible
  walked : (position.step, position.since) =
    descend expiry now (chain.length - 1 - origin.1) origin.1 origin.2
  step : position.step = origin.1 + passed
  since : position.since = turnStart expiry passed origin.2
  stop : position.fallThroughAt =
    if position.step + 1 ≥ chain.length then none
    else some (turnStart expiry (passed + 1) origin.2)
  started : passed ≠ 0 → position.since ≤ now
  lasts : ∀ time, position.fallThroughAt = some time → now < time

variable {chain : List Strategy} {serving : Serving} {expiry now : Int} {row : Option Row}
  {offerLive : Bool} (nonempty : chain ≠ [])
  (expires : serving.identity.notAfter = some expiry)

include expires in
theorem running_stands {start : Nat × Int} (within : start.1 < chain.length) (openOrder : Bool) :
    ∃ position passed, running chain serving.identity start.1 start.2 now openOrder =
        some (.running position) ∧ Stands chain serving expiry start now position passed := by
  obtain ⟨passed, bounded, reached, started, lasts⟩ :=
    @descend_spec expiry now start.2 (chain.length - 1 - start.1) start.1
  have inside : start.1 + passed < chain.length := by omega
  have stop : fallThroughAt chain.length (start.1 + passed) (turnStart expiry passed start.2)
      (some expiry) = if start.1 + passed + 1 ≥ chain.length then none
        else some (turnStart expiry (passed + 1) start.2) := by
    rw [fallThroughAt, map_some, turnStart_succ]
  simp only [running, advance, expires, reached, List.getElem?_eq_getElem inside, stop]
  refine ⟨_, passed, rfl, rfl, List.getElem?_eq_getElem inside, reached.symm, rfl, rfl, rfl,
    started, fun time falls => ?_⟩
  simp only [ite_eq_iff] at falls
  obtain ⟨-, ⟨⟩⟩ | ⟨more, ⟨⟩⟩ := falls
  exact lasts (by omega)

include nonempty expires

/-- A certificate that is served waits for its renewal point unless a position is recorded. -/
theorem resolve_spec (row : Option Row) (now : Int) (offerLive : Bool) :
    (origin chain serving row = (0, serving.renewalPoint) ∧ now < serving.renewalPoint ∧
      resolve ⟨chain, now, some serving, row, offerLive, false⟩ =
        some (.idle serving.renewalPoint)) ∨
    ((serving.recorded row = none → serving.renewalPoint ≤ now) ∧
      ∃ position passed, resolve ⟨chain, now, some serving, row, offerLive, false⟩ =
          some (.running position) ∧
        Stands chain serving expiry (origin chain serving row) now position passed) := by
  have positive := List.length_pos_iff.mpr nonempty
  cases recorded : serving.recorded row with
  | some found =>
    have within : (origin chain serving row).1 < chain.length := by
      simp only [origin, recorded]
      omega
    obtain ⟨position, passed, stood, stands⟩ :=
      @running_stands chain serving expiry now expires _ within found.openOrderSince.isSome
    refine Or.inr ⟨by simp, position, passed, ?_, stands⟩
    simpa [resolve, nonempty, recorded, origin] using stood
  | none =>
    have start : origin chain serving row = (0, serving.renewalPoint) := by
      simp [origin, recorded]
    by_cases waits : now < serving.renewalPoint
    · exact Or.inl ⟨start, waits, by simp [resolve, nonempty, recorded, waits]⟩
    · obtain ⟨position, passed, stood, stands⟩ :=
        @running_stands chain serving expiry now expires (0, serving.renewalPoint) positive false
      refine Or.inr ⟨fun _ => not_lt.mp waits, position, passed, ?_, start ▸ stands⟩
      simpa [resolve, nonempty, recorded, not_lt.mp waits] using stood

/-- The turn of a strategy below the origin has come once it has started. -/
theorem turn_come_iff {target : Nat} (below : (origin chain serving row).1 < target)
    (within : target < chain.length) :
    (∃ position, resolve ⟨chain, now, some serving, row, offerLive, false⟩ =
        some (.running position) ∧ target ≤ position.step) ↔
      turnStart expiry (target - (origin chain serving row).1) (origin chain serving row).2 ≤
        now := by
  rcases resolve_spec nonempty expires row now offerLive with
    ⟨start, waits, idle⟩ | ⟨-, position, passed, found, stands⟩
  · -- before the cycle no turn has started
    have later : serving.renewalPoint ≤ turnStart expiry target serving.renewalPoint :=
      turnStart_mono (Nat.zero_le target)
    simpa [idle, start] using lt_of_lt_of_le waits later
  · simp only [found, some.injEq, Cycle.running.injEq, exists_eq_left']
    constructor
    · intro come
      refine le_trans ?_ (stands.started (by have := stands.step; omega))
      rw [stands.since]
      exact turnStart_mono (by have := stands.step; omega)
    · intro started
      by_contra above
      have stop := stands.stop
      rw [if_neg (by omega)] at stop
      have later : turnStart expiry (passed + 1) (origin chain serving row).2 ≤
          turnStart expiry (target - (origin chain serving row).1) (origin chain serving row).2 :=
        turnStart_mono (by have := stands.step; omega)
      exact absurd (stands.lasts _ stop) (not_lt.mpr (later.trans started))

theorem proxyFrom_cases {proxyAt : Nat}
    (first : chain.findIdx? Strategy.isProxy = some proxyAt) (ahead : proxyAt ≠ 0) {cycle : Cycle}
    (resolved : resolve ⟨chain, now, some serving, row, offerLive, false⟩ = some cycle) :
    ((∃ position, cycle = .running position ∧ proxyAt ≤ position.step) ∧
      proxyFrom chain (some serving) cycle = .always) ∨
    ((¬ ∃ position, cycle = .running position ∧ proxyAt ≤ position.step) ∧
      (origin chain serving row).1 < proxyAt ∧ proxyFrom chain (some serving) cycle =
        .at (turnStart expiry (proxyAt - (origin chain serving row).1)
          (origin chain serving row).2)) := by
  rcases resolve_spec nonempty expires row now offerLive with
    ⟨start, -, idle⟩ | ⟨-, position, passed, found, stands⟩
  · cases resolved.symm.trans idle
    exact Or.inr ⟨by simp, by simpa [start, Nat.pos_iff_ne_zero] using ahead,
      by simp [proxyFrom, first, ahead, expires, start]⟩
  · cases resolved.symm.trans found
    by_cases come : proxyAt ≤ position.step
    · exact Or.inl ⟨⟨position, rfl, come⟩, by simp [proxyFrom, first, come]⟩
    · have atStep := stands.step
      refine Or.inr ⟨by simpa using come, by omega, ?_⟩
      have turns : proxyAt - (origin chain serving row).1 = proxyAt - position.step + passed := by
        omega
      simp [proxyFrom, first, ahead, come, stands.identity, expires, stands.since, turns,
        turnStart, iterate_add_apply]

end Resolution

/-- **The position does not depend on when it is asked for.**  A position that was recorded
leads to the same strategy, since the same time, as the clock alone; no strategy is gone back
to, and each has its turn where that of the one before stops. -/
theorem ladder_timeless {chain : List Strategy} (nonempty : chain ≠ []) {serving : Serving}
    {expiry : Int} (expires : serving.identity.notAfter = some expiry) {earlier later : Int}
    (after : earlier ≤ later) (offerLive offerLater : Bool) {position : Running}
    (resolved : resolve ⟨chain, earlier, some serving, none, offerLive, false⟩ =
      some (.running position)) :
    ∃ next, resolve ⟨chain, later, some serving, none, offerLater, false⟩ = some (.running next) ∧
      position.step ≤ next.step ∧
      Stands chain serving expiry (0, serving.renewalPoint) later next next.step ∧
      (serving.renewalPoint ≤ expiry → next.since ≤ expiry) ∧
      ∀ row : Row, row.identity = position.identity → row.step = position.step →
        row.since = position.since →
        ∃ resumed, resolve ⟨chain, later, some serving, some row, offerLater, false⟩ =
            some (.running resumed) ∧
          resumed.responsible = next.responsible ∧ resumed.since = next.since := by
  rcases resolve_spec nonempty expires none earlier offerLive with
    ⟨-, -, idle⟩ | ⟨begun, stood, passed, found, stands⟩
  · cases resolved.symm.trans idle
  cases resolved.symm.trans found
  have renewing : serving.renewalPoint ≤ later := (begun rfl).trans after
  rcases resolve_spec nonempty expires none later offerLater with
    ⟨-, waits, -⟩ | ⟨-, next, turns, isNext, nextStands⟩
  · omega
  obtain rfl : next.step = turns := nextStands.step.trans (Nat.zero_add _)
  -- the walk from the recorded position ends where the walk from the renewal point does
  have resumes := (descend_resume after stands.walked).trans nextStands.walked.symm
  refine ⟨next, isNext, ?_, nextStands, fun inTime => ?_, fun row ofCycle atStep atTime => ?_⟩
  · obtain ⟨more, -, reached, -⟩ := @descend_spec expiry later position.since
      (chain.length - 1 - position.step) position.step
    have onward : next.step = position.step + more := congrArg Prod.fst (resumes.symm.trans reached)
    omega
  · rw [nextStands.since]
    exact turnStart_le inTime _
  · have kept : serving.recorded (some row) = some row := by
      simp [Serving.recorded, ofCycle, stands.identity]
    have bounded := (List.getElem?_eq_some_iff.mp stands.responsible).1
    have start : origin chain serving (some row) = (position.step, position.since) := by
      simp [origin, kept, atStep, atTime, Nat.le_sub_one_of_lt bounded]
    rcases resolve_spec nonempty expires (some row) later offerLater with
      ⟨sameStart, waits, -⟩ | ⟨-, resumed, _, isResumed, resumedStands⟩
    · omega
    · rw [start] at resumedStands
      obtain ⟨sameStep, sameTime⟩ := Prod.mk.inj (resumedStands.walked.trans resumes)
      refine ⟨resumed, isResumed, some.inj ?_, sameTime⟩
      rw [← resumedStands.responsible, sameStep, nextStands.responsible]

/-- A certificate that expires at 90 is renewed from 60 on: Canopy has its turn to 75. -/
theorem ladder_timeless_two : ∃ next, resolve ⟨[.canopy, .http01], 80,
    some ⟨⟨some 1, some 90⟩, 60⟩, none, true, false⟩ = some (.running next) ∧ next.since ≤ 90 := by
  obtain ⟨next, found, -, -, inTime, -⟩ := @ladder_timeless [.canopy, .http01] (by simp)
    ⟨⟨some 1, some 90⟩, 60⟩ 90 rfl 70 80 (by decide) true true
    ⟨⟨some 1, some 90⟩, 0, .canopy, 60, some 75, false⟩ rfl
  exact ⟨next, found, inTime (by decide)⟩

/-- **The proxy is told the time at which its turn comes.** -/
theorem proxyFrom_agrees {chain : List Strategy} {serving : Serving} {expiry : Int}
    (expires : serving.identity.notAfter = some expiry) {row : Option Row} {now : Int}
    {offerLive : Bool} {cycle : Cycle}
    (resolved : resolve ⟨chain, now, some serving, row, offerLive, false⟩ = some cycle) :
    (proxyFrom chain (some serving) cycle = .never ↔ ∀ strategy ∈ chain, strategy.isProxy = false) ∧
    (proxyFrom chain (some serving) cycle = .always ↔
      ∃ proxyAt, chain.findIdx? Strategy.isProxy = some proxyAt ∧
        (proxyAt = 0 ∨ ∃ position, cycle = .running position ∧ proxyAt ≤ position.step)) ∧
    ∀ time, proxyFrom chain (some serving) cycle = .at time →
      ∃ proxyAt, chain.findIdx? Strategy.isProxy = some proxyAt ∧ ∀ later offerLater,
        (∃ position, resolve ⟨chain, later, some serving, row, offerLater, false⟩ =
            some (.running position) ∧ proxyAt ≤ position.step) ↔ time ≤ later := by
  have nonempty : chain ≠ [] := by
    rintro rfl
    cases resolved
  cases first : chain.findIdx? Strategy.isProxy with
  | none =>
    have all := List.findIdx?_eq_none_iff.mp first
    exact ⟨by simpa [proxyFrom, first] using all, by simp [proxyFrom, first],
      by simp [proxyFrom, first]⟩
  | some proxyAt =>
    obtain ⟨within, isProxy, -⟩ := List.findIdx?_eq_some_iff_getElem.mp first
    have some : ¬ ∀ strategy ∈ chain, strategy.isProxy = false := by
      intro all
      simp [all _ (List.getElem_mem within)] at isProxy
    by_cases zero : proxyAt = 0
    · simp [proxyFrom, first, zero, some]
    · rcases proxyFrom_cases nonempty expires first zero resolved with
        ⟨come, told⟩ | ⟨ahead, below, told⟩
      · simp [told, some, come]
      · refine ⟨by simp [told, some], by simp [told, ahead, zero], ?_⟩
        intro time isTime
        obtain rfl := ProxyFrom.at.inj (told.symm.trans isTime)
        exact ⟨proxyAt, rfl, fun later offerLater => turn_come_iff nonempty expires below within⟩

/-- The same certificate, asked about before its renewal point. -/
theorem proxyFrom_agrees_idle :
    proxyFrom [.canopy, .http01] (some ⟨⟨some 1, some 90⟩, 60⟩) (.idle 60) = .at 75 ∧
      ∃ proxyAt, [Strategy.canopy, .http01].findIdx? Strategy.isProxy = some proxyAt ∧
        ∀ later offerLater, (∃ position, resolve ⟨[.canopy, .http01], later,
            some ⟨⟨some 1, some 90⟩, 60⟩, none, offerLater, false⟩ = some (.running position) ∧
          proxyAt ≤ position.step) ↔ 75 ≤ later :=
  ⟨rfl, (@proxyFrom_agrees _ _ 90 rfl none 50 true (.idle 60) rfl).2.2 75 rfl⟩

end Seedling.Tls.Chain
