import Seedling.Foundation.Machine
import Seedling.Operations.Scheduler

/-!
# Whose turn it is

The scheduler as a machine over requests, completions and cancellations.

* `Disciplined.step`: one operation per app, and none waits while the slot is free;
* `started_append_queue`: the operations that have become active, in order, followed by
  those still queued, are the operations that have been admitted, in order;
* `queue_prefix_started`: what is queued has become active once the slot has been freed
  as often as there are operations in the queue;
* `scheduler_takes_turns`: all of this along every endless run.
-/

namespace Seedling.Operations.Scheduler

open Foundation List

/-! ## The machine -/

inductive Event where
  | request (op : QueuedOperation)
  | complete
  | cancel (app : String)

inductive Reply where
  | scheduled (op : QueuedOperation) (result : ScheduleResult)
  | completed (next : Option QueuedOperation)
  | cancelled (outcome : CancelOutcome)

def react (scheduler : Scheduler) : Event → Reply × Scheduler
  | .request op =>
    let answer := scheduler.requestWithId op
    (.scheduled op answer.1, answer.2)
  | .complete =>
    let answer := scheduler.completeCurrent
    (.completed answer.1, answer.2)
  | .cancel app =>
    let answer := scheduler.requestCancel app
    (.cancelled answer.1, answer.2)

def machine : Machine Scheduler Event Reply where
  step := react

theorem next_eq (scheduler : Scheduler) (event : Event) :
    machine.next scheduler event = (scheduler.react event).2 := rfl

def Reply.admitted : Reply → List QueuedOperation
  | .scheduled op .accepted | .scheduled op .queued => [op]
  | _ => []

def Reply.started : Reply → List QueuedOperation
  | .scheduled op .accepted => [op]
  | .completed (some op) => [op]
  | _ => []

/-- The operations a run takes in, in order. -/
def admitted (scheduler : Scheduler) (events : List Event) : List QueuedOperation :=
  (machine.outputs scheduler events).flatMap Reply.admitted

/-- The operations a run makes active, in order. -/
def started (scheduler : Scheduler) (events : List Event) : List QueuedOperation :=
  (machine.outputs scheduler events).flatMap Reply.started

/-! ## What a step can do -/

variable {scheduler : Scheduler}

/-- Everything a step can do: take the free slot, join the queue, hand the slot on, free
it, or leave all but a cancel flag as it is. -/
theorem react_cases (scheduler : Scheduler) (event : Event) :
    (∃ op, event = .request op ∧ scheduler.active = none ∧ scheduler.react event =
        (.scheduled op .accepted, ⟨some op.activate, scheduler.queue⟩)) ∨
    (∃ op, event = .request op ∧ scheduler.active.isSome ∧
      scheduler.hasOperationFor op.app = false ∧
      scheduler.react event =
        (.scheduled op .queued, ⟨scheduler.active, scheduler.queue ++ [op]⟩)) ∨
    (∃ op rest, event = .complete ∧ scheduler.queue = op :: rest ∧
      scheduler.react event = (.completed (some op), ⟨some op.activate, rest⟩)) ∨
    (event = .complete ∧ scheduler.queue = [] ∧
      scheduler.react event = (.completed none, ⟨none, []⟩)) ∨
    (event ≠ .complete ∧ (scheduler.react event).1.admitted = [] ∧
      (scheduler.react event).1.started = [] ∧
      (scheduler.react event).2.queue = scheduler.queue ∧
      ((scheduler.react event).2.active = scheduler.active ∨
        ∃ active, scheduler.active = some active ∧
          (scheduler.react event).2.active = some { active with cancelRequested := true })) := by
  cases event with
  | request op =>
    rcases scheduler.request_cases op with
      ⟨free, accepted⟩ | ⟨taken, fresh, queued⟩ | ⟨_, reason, rejected⟩
    · refine .inl ⟨op, rfl, free, ?_⟩
      simp only [react, accepted]
    · refine .inr (.inl ⟨op, rfl, taken, fresh, ?_⟩)
      simp only [react, queued]
    · refine .inr (.inr (.inr (.inr ⟨nofun, ?_⟩)))
      have replied : scheduler.react (.request op) =
          (.scheduled op (.rejected reason), scheduler) := by
        simp only [react, rejected]
      rw [replied]
      exact ⟨rfl, rfl, rfl, .inl rfl⟩
  | complete =>
    cases waiting : scheduler.queue with
    | nil =>
      refine .inr (.inr (.inr (.inl ⟨rfl, rfl, ?_⟩)))
      simp only [react, completeCurrent, waiting]
    | cons op rest =>
      refine .inr (.inr (.inl ⟨op, rest, rfl, rfl, ?_⟩))
      simp only [react, completeCurrent, waiting]
  | cancel app =>
    refine .inr (.inr (.inr (.inr ⟨nofun, rfl, rfl, ?_⟩)))
    rcases scheduler.requestCancel_cases app with same | ⟨active, holds, flagged⟩
    · have left : (scheduler.react (.cancel app)).2 = scheduler := same
      rw [left]
      exact ⟨rfl, .inl rfl⟩
    · have left : (scheduler.react (.cancel app)).2 = _ := flagged
      rw [left]
      exact ⟨rfl, .inr ⟨active, holds, rfl⟩⟩

/-! ## Discipline -/

/-- One operation per app, active or queued, and none waits while the slot is free. -/
structure Disciplined (scheduler : Scheduler) : Prop where
  onePerApp : (scheduler.queue.map QueuedOperation.app).Nodup
  activeNotQueued : ∀ active, scheduler.active = some active →
    ∀ op ∈ scheduler.queue, op.app ≠ active.app
  noneWaits : scheduler.active = none → scheduler.queue = []

theorem Disciplined.new : Disciplined Scheduler.new where
  onePerApp := nodup_nil
  activeNotQueued := fun _ _ _ mem => absurd mem not_mem_nil
  noneWaits := fun _ => rfl

theorem hasOperationFor_eq_false_iff (scheduler : Scheduler) (app : String) :
    scheduler.hasOperationFor app = false ↔
      (∀ active, scheduler.active = some active → active.app ≠ app) ∧
        ∀ op ∈ scheduler.queue, op.app ≠ app := by
  rw [hasOperationFor, Bool.or_eq_false_iff]
  cases scheduler.active <;> simp

theorem Disciplined.step (disciplined : Disciplined scheduler) (event : Event) :
    Disciplined (machine.next scheduler event) := by
  rcases react_cases scheduler event with
    ⟨op, -, free, taken⟩ | ⟨op, -, held, fresh, joined⟩ | ⟨op, rest, -, waiting, handed⟩ |
    ⟨-, -, freed⟩ | ⟨-, -, -, queue, active⟩
  · -- the queue is empty when the slot is free
    have empty := disciplined.noneWaits free
    rw [next_eq, taken, empty]
    exact ⟨nodup_nil, fun _ _ _ mem => absurd mem not_mem_nil, nofun⟩
  · obtain ⟨otherActive, otherQueued⟩ := (hasOperationFor_eq_false_iff _ _).mp fresh
    rw [next_eq, joined]
    refine ⟨?_, ?_, ?_⟩
    · rw [map_append, nodup_append]
      refine ⟨disciplined.onePerApp, nodup_singleton _, ?_⟩
      intro app mem other added
      obtain ⟨queued, listed, rfl⟩ := mem_map.mp mem
      rw [map_singleton, mem_singleton] at added
      exact added ▸ otherQueued queued listed
    · intro active holds queued mem
      rcases mem_append.mp mem with already | added
      · exact disciplined.activeNotQueued active holds queued already
      · rw [mem_singleton.mp added]
        exact (otherActive active holds).symm
    · intro free
      rw [free] at held
      cases held
  · have onePerApp := disciplined.onePerApp
    rw [waiting, map_cons, nodup_cons] at onePerApp
    rw [next_eq, handed]
    refine ⟨onePerApp.2, ?_, nofun⟩
    intro active holds queued mem same
    obtain rfl : op.activate = active := Option.some.inj holds
    exact onePerApp.1 (mem_map.mpr ⟨queued, mem, same⟩)
  · rw [next_eq, freed]
    exact ⟨nodup_nil, fun _ _ _ mem => absurd mem not_mem_nil, fun _ => rfl⟩
  · rw [next_eq]
    refine ⟨by rw [queue]; exact disciplined.onePerApp, ?_, ?_⟩
    · intro now holds op mem
      rw [queue] at mem
      rcases active with same | ⟨before, held, flagged⟩
      · exact disciplined.activeNotQueued now (same ▸ holds) op mem
      · obtain rfl := Option.some.inj (flagged.symm.trans holds)
        exact disciplined.activeNotQueued before held op mem
    · intro free
      rw [queue]
      rcases active with same | ⟨before, held, flagged⟩
      · exact disciplined.noneWaits (same ▸ free)
      · rw [flagged] at free
        cases free

/-! ## Turns -/

theorem admitted_cons (scheduler : Scheduler) (event : Event) (events : List Event) :
    scheduler.admitted (event :: events) =
      (scheduler.react event).1.admitted ++ (machine.next scheduler event).admitted events :=
  flatMap_cons

theorem started_cons (scheduler : Scheduler) (event : Event) (events : List Event) :
    scheduler.started (event :: events) =
      (scheduler.react event).1.started ++ (machine.next scheduler event).started events :=
  flatMap_cons

theorem started_append_queue_step (disciplined : Disciplined scheduler) (event : Event) :
    (scheduler.react event).1.started ++ (machine.next scheduler event).queue =
      scheduler.queue ++ (scheduler.react event).1.admitted := by
  rcases react_cases scheduler event with
    ⟨op, -, free, taken⟩ | ⟨op, -, -, -, joined⟩ | ⟨op, rest, -, waiting, handed⟩ |
    ⟨-, waiting, freed⟩ | ⟨-, admitted, started, queue, -⟩
  · rw [next_eq, taken, disciplined.noneWaits free]
    rfl
  · rw [next_eq, joined]
    rfl
  · rw [next_eq, handed, waiting]
    simp [Reply.started, Reply.admitted]
  · rw [next_eq, freed, waiting]
    rfl
  · rw [next_eq, admitted, started, queue, nil_append, append_nil]

/-- **Turns are taken in order**: what a run makes active, and what it leaves in the queue,
is what was in the queue and what it took in. -/
theorem started_append_queue (disciplined : Disciplined scheduler) (events : List Event) :
    scheduler.started events ++ (machine.run scheduler events).queue =
      scheduler.queue ++ scheduler.admitted events := by
  induction events generalizing scheduler with
  | nil => simp [started, admitted, Machine.outputs]
  | cons event events ih =>
    rw [started_cons, admitted_cons, Machine.run_cons, append_assoc,
      ih (disciplined.step event), ← append_assoc,
      started_append_queue_step disciplined, append_assoc]

def completions : List Event → Nat
  | [] => 0
  | .complete :: events => completions events + 1
  | .request _ :: events | .cancel _ :: events => completions events

theorem completions_cons_of_ne {event : Event} (other : event ≠ .complete)
    (events : List Event) : completions (event :: events) = completions events := by
  cases event with
  | complete => exact absurd rfl other
  | request | cancel => rfl

/-- Each completion makes an operation active while there is one in the queue. -/
theorem min_completions_le (scheduler : Scheduler) (events : List Event) :
    min scheduler.queue.length (completions events) ≤ (scheduler.started events).length := by
  induction events generalizing scheduler with
  | nil => simp [completions]
  | cons event events ih =>
    have rest := ih (machine.next scheduler event)
    rw [started_cons, length_append]
    rcases react_cases scheduler event with
      ⟨op, rfl, -, taken⟩ | ⟨op, rfl, -, -, joined⟩ | ⟨op, waiting, rfl, queue, handed⟩ |
      ⟨rfl, queue, freed⟩ | ⟨other, -, -, queue, -⟩
    · rw [next_eq, taken] at rest
      rw [next_eq, taken, completions]
      exact rest.trans (Nat.le_add_left _ _)
    · rw [next_eq, joined] at rest
      rw [next_eq, joined, completions]
      rw [length_append] at rest
      omega
    · rw [next_eq, handed] at rest
      rw [next_eq, handed, queue, completions]
      simp only [length_cons, Reply.started, length_nil] at rest ⊢
      omega
    · simp [queue]
    · rw [next_eq, queue] at rest
      rw [next_eq, completions_cons_of_ne other]
      omega

/-- **What is queued becomes active** once the slot has been freed as often as there are
operations in the queue. -/
theorem queue_prefix_started (disciplined : Disciplined scheduler) {events : List Event}
    (freed : scheduler.queue.length ≤ completions events) :
    scheduler.queue <+: scheduler.started events := by
  have enough := min_completions_le scheduler events
  rw [Nat.min_eq_left freed] at enough
  have turns := started_append_queue disciplined events
  exact prefix_of_prefix_length_le ⟨_, rfl⟩ ⟨_, turns⟩ enough

/-! ## Endless runs -/

def upTo (events : Nat → Event) (n : Nat) : List Event := (List.range n).map events

theorem completions_append (events more : List Event) :
    completions (events ++ more) = completions events + completions more := by
  induction events with
  | nil => rw [nil_append, completions, Nat.zero_add]
  | cons event events ih =>
    cases event with
    | complete => rw [cons_append, completions, completions, ih]; omega
    | request | cancel => exact ih

variable (events : Nat → Event)

theorem upTo_add (n more : Nat) : upTo events (n + more) =
      upTo events n ++ (range more).map fun i => events (n + i) := by
  rw [upTo, range_add, map_append, map_map]
  rfl

theorem upTo_succ (n : Nat) : upTo events (n + 1) = upTo events n ++ [events n] := by
  rw [upTo, range_succ, map_append]
  rfl

/-- An endless run in which completions keep occurring has, after any event, a stretch with
as many of them as one likes. -/
theorem exists_completions {events : Nat → Event}
    (completing : ∀ n, ∃ m, n ≤ m ∧ events m = .complete) (n count : Nat) :
    ∃ m later, n ≤ m ∧ upTo events m = upTo events n ++ later ∧ count ≤ completions later := by
  induction count with
  | zero => exact ⟨n, [], Nat.le_refl n, (append_nil _).symm, Nat.zero_le _⟩
  | succ count ih =>
    obtain ⟨m, later, after, split, enough⟩ := ih
    obtain ⟨k, beyond, completes⟩ := completing m
    obtain ⟨more, rfl⟩ := Nat.exists_eq_add_of_le beyond
    refine ⟨m + more + 1, later ++ ((range more).map fun i => events (m + i)) ++
      [.complete], by omega, ?_, ?_⟩
    · rw [upTo_succ, completes, upTo_add, split, append_assoc, append_assoc, append_assoc]
    · rw [completions_append, completions_append, completions]
      omega

/-- The operation that holds the slot, whatever its cancel flag. -/
def holder (scheduler : Scheduler) : Option ActiveOperation :=
  scheduler.active.map fun active => { active with cancelRequested := false }

/-- What a step does with the slot: a request is accepted only while it is free, what the
step makes active holds it afterwards, and a step that makes nothing active leaves it to its
holder, unless it is a completion. -/
structure Seats (scheduler : Scheduler) (event : Event) : Prop where
  free : ∀ op, (scheduler.react event).1 = .scheduled op .accepted → scheduler.active = none
  seated : ∀ op ∈ (scheduler.react event).1.started,
    (machine.next scheduler event).active = some op.activate
  left : (scheduler.react event).1.started = [] → (machine.next scheduler event).holder =
    match event with
    | .complete => none
    | _ => scheduler.holder

theorem seats (scheduler : Scheduler) (event : Event) : Seats scheduler event := by
  rcases react_cases scheduler event with
    ⟨op, -, free, taken⟩ | ⟨op, rfl, -, -, joined⟩ | ⟨op, rest, rfl, -, handed⟩ |
    ⟨rfl, -, freed⟩ | ⟨other, -, started, -, unchanged⟩
  · refine ⟨fun _ _ => free, by simp [next_eq, taken, Reply.started], fun none => ?_⟩
    rw [taken] at none
    cases none
  · constructor <;> simp [next_eq, joined, Reply.started, holder]
  · constructor <;> simp [next_eq, handed, Reply.started]
  · constructor <;> simp [next_eq, freed, Reply.started, holder]
  · refine ⟨fun op accepted => ?_, by simp [started], fun _ => ?_⟩
    · rw [accepted] at started
      cases started
    · have kept : (machine.next scheduler event).holder = scheduler.holder := by
        rcases unchanged with same | ⟨before, taken, flagged⟩
        · rw [holder, next_eq, same, holder]
        · rw [holder, next_eq, flagged, holder, taken]
          rfl
      cases event with
      | complete => exact absurd rfl other
      | request | cancel => exact kept

/-- The active operation is the last of `previous`, but for its cancel flag. -/
def LastStarted (previous : List QueuedOperation) (scheduler : Scheduler) : Prop :=
  ∀ active, scheduler.holder = some active → ∃ op ∈ previous.getLast?, active = op.activate

variable {previous : List QueuedOperation}

theorem LastStarted.step (last : LastStarted previous scheduler) (event : Event) :
    LastStarted (previous ++ (scheduler.react event).1.started)
      (machine.next scheduler event) := by
  intro active holds
  have seats := seats scheduler event
  rcases eq_nil_or_concat (scheduler.react event).1.started with started | ⟨_, op, started⟩
  · rw [seats.left started] at holds
    rw [started, append_nil]
    cases event with
    | complete => cases holds
    | request | cancel => exact last active holds
  · rw [holder, seats.seated op (by simp [started])] at holds
    refine ⟨op, ?_, (Option.some.inj holds).symm⟩
    rw [started, concat_eq_append, ← append_assoc, getLast?_concat]
    rfl

theorem LastStarted.run (last : LastStarted previous scheduler) (events : List Event) :
    LastStarted (previous ++ scheduler.started events) (machine.run scheduler events) := by
  induction events generalizing scheduler previous with
  | nil =>
    rw [started, Machine.outputs, flatMap_nil, append_nil]
    exact last
  | cons event events ih =>
    rw [started_cons, ← append_assoc]
    exact ih (last.step event)

theorem started_append (scheduler : Scheduler) (events more : List Event) :
    scheduler.started (events ++ more) =
      scheduler.started events ++ (machine.run scheduler events).started more := by
  induction events generalizing scheduler with
  | nil => rfl
  | cons event events ih =>
    rw [cons_append, started_cons, started_cons, ih, append_assoc, Machine.run_cons]

/-- **The scheduler takes turns.**  Along every endless run: the discipline is kept; what has
become active, followed by what waits, is what was taken in, in order; the active operation
became active last, and holds the slot from that step on; and if completions keep occurring,
every operation taken in becomes active. -/
theorem scheduler_takes_turns (events : Nat → Event) :
    (∀ n, Disciplined (machine.run new (upTo events n)) ∧
      new.started (upTo events n) ++ (machine.run new (upTo events n)).queue =
        new.admitted (upTo events n) ∧
      LastStarted (new.started (upTo events n)) (machine.run new (upTo events n)) ∧
      Seats (machine.run new (upTo events n)) (events n)) ∧
    ((∀ n, ∃ m, n ≤ m ∧ events m = .complete) →
      ∀ n, ∃ m, n ≤ m ∧ new.admitted (upTo events n) <+: new.started (upTo events m)) := by
  have disciplined (n : Nat) : Disciplined (machine.run new (upTo events n)) :=
    machine.run_invariant (fun _ event kept => kept.step event) new _ .new
  have turns (n : Nat) : new.started (upTo events n) ++ (machine.run new (upTo events n)).queue =
      new.admitted (upTo events n) :=
    started_append_queue .new (upTo events n)
  refine ⟨fun n => ⟨disciplined n, turns n, ?_, seats _ _⟩, ?_⟩
  · have none : LastStarted [] new := by
      intro active holds
      cases holds
    exact none.run (upTo events n)
  · intro completing n
    obtain ⟨m, later, after, split, enough⟩ :=
      exists_completions completing n (machine.run new (upTo events n)).queue.length
    refine ⟨m, after, ?_⟩
    rw [split, started_append, ← turns n]
    exact (prefix_append_right_inj _).mpr (queue_prefix_started (disciplined n) enough)

/-- Two apps that ask for an operation over and over, with completions in between. -/
def alternating (n : Nat) : Event :=
  if n % 3 = 0 then .request ⟨"shop", "backup", n, [], 1, 1, "operator"⟩
  else if n % 3 = 1 then .request ⟨"blog", "backup", n, [], 1, 1, "operator"⟩
  else .complete

theorem alternating_takes_turns :
    ∃ m, 2 ≤ m ∧ new.admitted (upTo alternating 2) <+: new.started (upTo alternating m) :=
  (scheduler_takes_turns alternating).2
    (fun n => ⟨3 * n + 2, by omega, by simp [alternating, Nat.add_mod]⟩) 2

end Seedling.Operations.Scheduler
