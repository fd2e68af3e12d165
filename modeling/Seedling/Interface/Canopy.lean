import Mathlib.Data.List.Induction
import Mathlib.Data.List.Perm.Basic
import Seedling.Foundation.Machine

/-!
# Canopy offers

The offers of clients to carry Canopy requests are in one map, and their ids by connection
in another, each behind a lock of its own; whether access is enabled is a flag of its own.
A call takes these one after the other, and other calls may come in between: a step here
is one of them.

`offers_sound` is what holds in every run in which no connection ends and no disabling begins
while an offer is being made, and offers are registered in the order of their numbers;
`offer_outlives_its_connection` shows what happens otherwise.
-/

namespace Seedling.Interface

open Foundation Function List

namespace Canopy

/-! ## The state -/

/-- An offer.  Its id is drawn together with its number, and stands for no other offer, so
that the number is taken for the id. -/
structure Offer where
  seq : Nat
  conn : Nat
deriving DecidableEq

/-- The maps, the next number and the flag.  The offers are kept in the order in which they
were registered, and a connection without ids is one that is not in the map. -/
structure CanopyState where
  offers : List Offer
  connToIds : Nat → List Nat
  nextSeq : Nat
  enabled : Bool

/-- A call under way, by what it has done so far. -/
inductive Task where
  | admitted (conn : Nat)
  | numbered (offer : Offer)
  | indexed (offer : Offer)
  | withdrawn (offer : Offer)
  | closing (conn : Nat) (ids : List Nat)
  | disabling
  | cleared
deriving DecidableEq

/-- The connection the call makes an offer on. -/
def Task.offersOn : Task → Option Nat
  | .admitted conn => some conn
  | .numbered offer | .indexed offer => some offer.conn
  | _ => none

/-- The number the call has in hand. -/
def Task.seq? : Task → Option Nat
  | .numbered offer | .indexed offer | .withdrawn offer => some offer.seq
  | _ => none

/-- The call has taken ids from the index, and has yet to drop their offers. -/
def Task.removing : Task → Bool
  | .closing .. | .cleared => true
  | _ => false

/-- The relay and the calls under way; the connections that have ended, those whose end has
been handled, and whether access has been disabled, and not enabled since. -/
structure System where
  canopy : CanopyState
  tasks : List Task
  ended : List Nat
  closed : List Nat
  shut : Bool

def System.initial : System := ⟨⟨[], fun _ => [], 0, true⟩, [], [], [], false⟩

/-! ## The calls -/

variable (state : System)

/-- What a call does next, once it has been taken from those under way. -/
def proceed : Task → System
  | .admitted conn =>
    { state with
      canopy := { state.canopy with nextSeq := state.canopy.nextSeq + 1 }
      tasks := .numbered ⟨state.canopy.nextSeq, conn⟩ :: state.tasks }
  | .numbered offer =>
    { state with
      canopy := { state.canopy with
        connToIds := update state.canopy.connToIds offer.conn
          (state.canopy.connToIds offer.conn ++ [offer.seq]) }
      tasks := .indexed offer :: state.tasks }
  | .indexed offer =>
    { state with canopy := { state.canopy with offers := state.canopy.offers ++ [offer] } }
  | .withdrawn offer =>
    { state with
      canopy := { state.canopy with
        connToIds := update state.canopy.connToIds offer.conn
          ((state.canopy.connToIds offer.conn).filter (· ≠ offer.seq)) } }
  | .closing conn ids =>
    { state with
      canopy := { state.canopy with offers := state.canopy.offers.filter (·.seq ∉ ids) }
      closed := conn :: state.closed }
  | .disabling =>
    { state with
      canopy := { state.canopy with connToIds := fun _ => [] }
      tasks := .cleared :: state.tasks }
  | .cleared =>
    { state with
      canopy := { state.canopy with offers := [] }
      shut := !state.canopy.enabled }

/-- A call begins, with its first lock or its look at the flag, or one under way goes on. -/
inductive Step where
  | offer (conn : Nat)
  | withdraw (seq conn : Nat)
  | close (conn : Nat)
  | setEnabled (enabled : Bool)
  | advance (task : Task)

def handle : Step → System
  | .offer conn =>
    if state.canopy.enabled then { state with tasks := .admitted conn :: state.tasks } else state
  | .withdraw seq conn =>
    match state.canopy.offers.find? (·.seq = seq) with
    | none => state
    | some offer =>
      if offer.conn = conn then
        { state with
          canopy := { state.canopy with offers := state.canopy.offers.filter (·.seq ≠ seq) }
          tasks := .withdrawn offer :: state.tasks }
      else state
  | .close conn =>
    -- a connection ends once
    if conn ∈ state.ended then state
    else
      { state with
        canopy := { state.canopy with connToIds := update state.canopy.connToIds conn [] }
        tasks := .closing conn (state.canopy.connToIds conn) :: state.tasks
        ended := conn :: state.ended }
  | .setEnabled enabled =>
    { state with
      canopy := { state.canopy with enabled }
      tasks := if enabled then state.tasks else .disabling :: state.tasks
      shut := if enabled then false else state.shut }
  | .advance task =>
    if task ∈ state.tasks then proceed { state with tasks := state.tasks.erase task } task
    else state

def machine : Machine System Step Unit where
  step state step := ((), handle state step)

/-- The greatest number, the later of two alike. -/
def newer (best : Option Offer) (offer : Offer) : Option Offer :=
  match best with
  | none => some offer
  | some held => if held.seq ≤ offer.seq then some offer else some held

/-- The offer that serves the next request. -/
def CanopyState.current (canopy : CanopyState) : Option Offer := canopy.offers.foldl newer none

/-! ## What is to hold -/

/-- No offer is registered of a connection whose end has been handled, or while access is
disabled; the offers are indexed, where no removal is between its locks; and the one
registered last serves the next request. -/
structure OffersSound (state : System) : Prop where
  closed : ∀ conn ∈ state.closed, ∀ offer ∈ state.canopy.offers, offer.conn ≠ conn
  disabled : state.shut → state.canopy.offers = []
  indexed : (∀ task ∈ state.tasks, task.removing = false) →
    ∀ offer ∈ state.canopy.offers, offer.seq ∈ state.canopy.connToIds offer.conn
  chosen : state.canopy.current = state.canopy.offers.getLast?

/-- An offer begins on a connection that has not ended, while access is not being disabled,
and has the greatest number when it is registered; no connection ends while an offer is made
on it, or between the locks of a disabling; and no disabling begins while one is made. -/
def Apart : Step → Prop
  | .offer conn => conn ∉ state.ended ∧ .disabling ∉ state.tasks ∧ .cleared ∉ state.tasks
  | .close conn => (∀ task ∈ state.tasks, task.offersOn ≠ some conn) ∧ .cleared ∉ state.tasks
  | .setEnabled enabled => enabled = false → ∀ task ∈ state.tasks, task.offersOn = none
  | .advance (.indexed offer) => ∀ other ∈ state.canopy.offers, other.seq < offer.seq
  | .withdraw .. | .advance _ => True

/-! ## The invariant -/

/-- Nothing stands in the way of an offer on the connection. -/
def System.Open (conn : Nat) : Prop :=
  conn ∉ state.ended ∧ state.shut = false ∧ .disabling ∉ state.tasks ∧ .cleared ∉ state.tasks

/-- What is true while a call is under way. -/
def Task.Fits : Task → Prop
  | .admitted conn => state.Open conn
  | .numbered offer => state.Open offer.conn
  | .indexed offer => state.Open offer.conn ∧ offer.seq ∈ state.canopy.connToIds offer.conn
  | .closing conn ids => conn ∈ state.ended ∧
      ∀ offer ∈ state.canopy.offers, offer.conn = conn → offer.seq ∈ ids
  | .withdrawn _ | .disabling | .cleared => True

/-- The numbers in hand and those of the registered offers. -/
def System.seqs : List Nat := state.tasks.filterMap Task.seq? ++ state.canopy.offers.map Offer.seq

/-- The offer is indexed, or a removal that has taken it from the index will drop it. -/
def System.Lists (offer : Offer) : Prop :=
  offer.seq ∈ state.canopy.connToIds offer.conn ∨
    (∃ ids, .closing offer.conn ids ∈ state.tasks ∧ offer.seq ∈ ids) ∨ .cleared ∈ state.tasks

structure Inv (state : System) : Prop where
  sorted : state.canopy.offers.Pairwise fun first second => first.seq < second.seq
  numbers : state.seqs.Nodup ∧ ∀ seq ∈ state.seqs, seq < state.canopy.nextSeq
  fits : ∀ task ∈ state.tasks, task.Fits state
  lists : ∀ offer ∈ state.canopy.offers, state.Lists offer
  closed : ∀ conn ∈ state.closed, conn ∈ state.ended ∧
    ∀ offer ∈ state.canopy.offers, offer.conn ≠ conn
  shut : state.shut → state.canopy.offers = [] ∧ state.canopy.enabled = false

section Invariant

variable {state after : System}

theorem System.Open.erase {conn : Nat} (open' : state.Open conn) {task : Task}
    {canopy : CanopyState} {closed : List Nat} :
    System.Open ⟨canopy, state.tasks.erase task, state.ended, closed, state.shut⟩ conn :=
  ⟨open'.1, open'.2.1, open'.2.2.imp (mt mem_of_mem_erase) (mt mem_of_mem_erase)⟩

variable (inv : Inv state)
include inv

theorem Inv.opens {task : Task} (under : task ∈ state.tasks) :
    ∀ conn ∈ task.offersOn, state.Open conn := by
  have fits := inv.fits task under
  cases task with
  | admitted | numbered =>
    rintro _ ⟨⟩
    exact fits
  | indexed =>
    rintro _ ⟨⟩
    exact fits.1
  | withdrawn | closing | disabling | cleared => nofun

theorem Inv.numbers_of {seqs : List Nat} (sub : seqs.Sublist state.seqs) :
    seqs.Nodup ∧ ∀ seq ∈ seqs, seq < state.canopy.nextSeq :=
  ⟨inv.numbers.1.sublist sub, fun seq listed => inv.numbers.2 seq (sub.subset listed)⟩

theorem Inv.numbers_cons {seq : Nat} (new : seq ∉ state.seqs) (drawn : seq < state.canopy.nextSeq) :
    (seq :: state.seqs).Nodup ∧ ∀ other ∈ seq :: state.seqs, other < state.canopy.nextSeq :=
  ⟨nodup_cons.mpr ⟨new, inv.numbers.1⟩, forall_mem_cons.mpr ⟨drawn, inv.numbers.2⟩⟩

/-- What a step has to leave as it was. -/
theorem Inv.step (sorted : after.canopy.offers.Pairwise fun first second => first.seq < second.seq)
    (offers : ∀ offer ∈ after.canopy.offers,
      offer ∈ state.canopy.offers ∨ offer.conn ∉ after.ended)
    (ended : state.ended ⊆ after.ended)
    (numbers : after.seqs.Nodup ∧ ∀ seq ∈ after.seqs, seq < after.canopy.nextSeq)
    (tasks : ∀ task ∈ after.tasks, task ∈ state.tasks ∨ task.Fits after)
    (opens : ∀ task ∈ after.tasks, ∀ conn ∈ task.offersOn, state.Open conn → after.Open conn)
    (index : ∀ offer, .indexed offer ∈ after.tasks →
      offer.seq ∈ state.canopy.connToIds offer.conn → offer.seq ∈ after.canopy.connToIds offer.conn)
    (lists : ∀ offer ∈ after.canopy.offers, after.Lists offer)
    (closed : ∀ conn ∈ after.closed, conn ∈ state.closed ∨ conn ∈ after.ended ∧
      ∀ offer ∈ after.canopy.offers, offer.conn ≠ conn)
    (shut : after.shut → after.canopy.offers = [] ∧ after.canopy.enabled = false) :
    Inv after where
  sorted := sorted
  numbers := numbers
  fits task under := by
    rcases tasks task under with before | fits
    · have fits := inv.fits task before
      cases task with
      | admitted | numbered => exact opens _ under _ rfl fits
      | indexed offer => exact ⟨opens _ under _ rfl fits.1, index offer under fits.2⟩
      | closing => exact ⟨ended fits.1, fun offer listed same => (offers offer listed).elim
          (fits.2 offer · same) (absurd (same ▸ ended fits.1))⟩
      | withdrawn | disabling | cleared => trivial
    · exact fits
  lists := lists
  closed conn handled := by
    rcases closed conn handled with before | now
    · obtain ⟨isOver, gone⟩ := inv.closed conn before
      exact ⟨ended isOver, fun offer listed same => (offers offer listed).elim
        (gone offer · same) (· (same ▸ ended isOver))⟩
    · exact now
  shut := shut

variable {task : Task}

theorem Inv.indexed_of_alone (alone : ∀ task ∈ state.tasks, task.removing = false) :
    ∀ offer ∈ state.canopy.offers, offer.seq ∈ state.canopy.connToIds offer.conn := by
  intro offer listed
  rcases inv.lists offer listed with here | ⟨ids, closing, _⟩ | cleared
  · exact here
  · cases alone _ closing
  · cases alone _ cleared

omit inv in
theorem System.Lists.erase {offer : Offer} (lists : state.Lists offer)
    (other : task.removing = false) :
    System.Lists { state with tasks := state.tasks.erase task } offer := by
  have kept : ∀ call ∈ state.tasks, call.removing → call ∈ state.tasks.erase task := by
    intro call under removing
    refine (mem_erase_of_ne ?_).mpr under
    rintro rfl
    rw [removing] at other
    cases other
  exact lists.imp_right (Or.imp
    (fun ⟨ids, closing, taken⟩ => ⟨ids, kept _ closing rfl, taken⟩) fun cleared => kept _ cleared rfl)

omit inv in
theorem System.Lists.cons {offer : Offer} (lists : state.Lists offer) (task : Task) :
    System.Lists { state with tasks := task :: state.tasks } offer :=
  lists.imp_right (Or.imp (fun ⟨ids, closing, taken⟩ => ⟨ids, mem_cons_of_mem _ closing, taken⟩)
    (mem_cons_of_mem _))

theorem Inv.erase (other : task.removing = false) :
    Inv { state with tasks := state.tasks.erase task } :=
  inv.step inv.sorted (fun _ => .inl) (fun _ => id)
    (inv.numbers_of ((erase_sublist.filterMap _).append (.refl _)))
    (fun _ listed => .inl (mem_of_mem_erase listed)) (fun _ _ _ _ open' => open'.erase)
    (fun _ _ => id) (fun offer listed => (inv.lists offer listed).erase other) (fun _ => .inl) inv.shut

/-- The number that a call has in hand is no other's. -/
theorem Inv.taken (under : task ∈ state.tasks) {seq : Nat} (held : task.seq? = some seq) :
    seq ∉ System.seqs { state with tasks := state.tasks.erase task } ∧
      seq < state.canopy.nextSeq := by
  refine ⟨?_, inv.numbers.2 seq (mem_append_left _ (mem_filterMap.mpr ⟨task, under, held⟩))⟩
  have whole := inv.numbers.1.perm
    (((perm_cons_erase under).filterMap Task.seq?).append_right (state.canopy.offers.map Offer.seq))
  rw [filterMap_cons_some held] at whole
  exact (nodup_cons.mp whole).1

variable {offer : Offer}

/-- A call begins, or goes on, that drops offers at most. -/
theorem Inv.cons {new : Task} {canopy : CanopyState}
    (grown : after = { state with canopy := canopy, tasks := new :: state.tasks })
    (other : new ≠ .disabling ∧ new ≠ .cleared)
    (offers : canopy.offers.Sublist state.canopy.offers)
    (enabled : canopy.enabled = state.canopy.enabled)
    (index : ∀ conn, state.canopy.connToIds conn ⊆ canopy.connToIds conn)
    (numbers : after.seqs.Nodup ∧ ∀ seq ∈ after.seqs, seq < canopy.nextSeq)
    (fits : (∀ {conn}, state.Open conn → after.Open conn) → new.Fits after) : Inv after := by
  subst grown
  have opens {conn : Nat} (open' : state.Open conn) :
      System.Open { state with canopy := canopy, tasks := new :: state.tasks } conn :=
    ⟨open'.1, open'.2.1, not_mem_cons_of_ne_of_not_mem other.1.symm open'.2.2.1,
      not_mem_cons_of_ne_of_not_mem other.2.symm open'.2.2.2⟩
  refine inv.step (inv.sorted.sublist offers) (fun _ listed => .inl (offers.subset listed))
    (fun _ => id) numbers (forall_mem_cons.mpr ⟨.inr (fits opens), fun _ => .inl⟩)
    (fun _ _ _ _ => opens) (fun _ _ here => index _ here) (fun offer listed => ?_) (fun _ => .inl)
    (fun shut => ?_)
  · exact ((inv.lists offer (offers.subset listed)).cons new).imp_left (index _ ·)
  · obtain ⟨none, disabled⟩ := inv.shut shut
    exact ⟨sublist_nil.mp (none ▸ offers), enabled.trans disabled⟩

theorem Inv.number {conn : Nat} (open' : state.Open conn) :
    Inv (proceed state (.admitted conn)) := by
  refine inv.cons rfl ⟨nofun, nofun⟩ (.refl _) rfl (fun _ _ => id)
    ⟨nodup_cons.mpr ⟨fun listed => ?_, inv.numbers.1⟩, ?_⟩ (fun opens => opens open')
  · exact Nat.lt_irrefl _ (inv.numbers.2 _ listed)
  · exact forall_mem_cons.mpr ⟨Nat.lt_succ_self _, fun seq listed =>
      Nat.lt_succ_of_lt (inv.numbers.2 seq listed)⟩

theorem Inv.index (open' : state.Open offer.conn) (new : offer.seq ∉ state.seqs)
    (drawn : offer.seq < state.canopy.nextSeq) : Inv (proceed state (.numbered offer)) := by
  refine inv.cons rfl ⟨nofun, nofun⟩ (.refl _) rfl (fun conn seq here => ?_)
    (inv.numbers_cons new drawn) fun opens => ⟨opens open', by simp [proceed]⟩
  by_cases same : conn = offer.conn
  · simp [same, same ▸ here]
  · simpa [same] using here

theorem Inv.register (open' : state.Open offer.conn) (new : offer.seq ∉ state.seqs)
    (drawn : offer.seq < state.canopy.nextSeq)
    (here : offer.seq ∈ state.canopy.connToIds offer.conn)
    (last : ∀ other ∈ state.canopy.offers, other.seq < offer.seq) :
    Inv (proceed state (.indexed offer)) := by
  have either {P : Offer → Prop} (before : ∀ other ∈ state.canopy.offers, P other) (added : P offer) :
      ∀ other ∈ state.canopy.offers ++ [offer], P other :=
    forall_mem_append.mpr ⟨before, forall_mem_singleton.mpr added⟩
  have numbers : (proceed state (.indexed offer)).seqs.Perm (offer.seq :: state.seqs) := by
    rw [System.seqs, proceed, map_append, ← append_assoc]
    exact perm_append_singleton _ _
  obtain ⟨nodup, below⟩ := inv.numbers_cons new drawn
  refine inv.step ?_ (either (fun _ => .inl) (.inr open'.1)) (fun _ => id)
    ⟨nodup.perm numbers.symm, fun seq listed => below seq (numbers.mem_iff.mp listed)⟩
    (fun _ => .inl) (fun _ _ _ _ => id) (fun _ _ => id) (either inv.lists (.inl here)) (fun _ => .inl)
    (fun shut => by cases open'.2.1.symm.trans shut)
  exact pairwise_append.mpr ⟨inv.sorted, pairwise_singleton _ _, fun first listed second added =>
    mem_singleton.mp added ▸ last first listed⟩

theorem Inv.unindex (gone : offer.seq ∉ state.seqs) : Inv (proceed state (.withdrawn offer)) := by
  have stays (other : Offer) (different : other.seq ≠ offer.seq)
      (here : other.seq ∈ state.canopy.connToIds other.conn) :
      other.seq ∈ update state.canopy.connToIds offer.conn
        ((state.canopy.connToIds offer.conn).filter (· ≠ offer.seq)) other.conn := by
    by_cases same : other.conn = offer.conn
    · rw [same, update_self]
      exact mem_filter.mpr ⟨same ▸ here, decide_eq_true different⟩
    · simpa [same] using here
  refine inv.step inv.sorted (fun _ => .inl) (fun _ => id) inv.numbers (fun _ => .inl)
    (fun _ _ _ _ => id) (fun other listed => stays other fun same => gone ?_)
    (fun other listed => (inv.lists other listed).imp_left (stays other fun same => gone ?_))
    (fun _ => .inl) inv.shut
  · exact mem_append_left _ (mem_filterMap.mpr ⟨_, listed, congrArg some same⟩)
  · exact mem_append_right _ (mem_map.mpr ⟨other, listed, same⟩)

theorem Inv.drop {conn : Nat} {ids : List Nat} (under : .closing conn ids ∈ state.tasks) :
    Inv (proceed { state with tasks := state.tasks.erase (.closing conn ids) }
      (.closing conn ids)) := by
  obtain ⟨isOver, taken⟩ := inv.fits _ under
  refine inv.step (inv.sorted.filter _) (fun _ listed => .inl (mem_filter.mp listed).1)
    (fun _ => id)
    (inv.numbers_of ((erase_sublist.filterMap _).append (filter_sublist.map _)))
    (fun _ listed => .inl (mem_of_mem_erase listed)) (fun _ _ _ _ open' => open'.erase)
    (fun _ _ => id) ?_ (forall_mem_cons.mpr ⟨.inr ⟨isOver, ?_⟩, fun _ => .inl⟩) ?_
  · intro offer listed
    obtain ⟨before, left⟩ := mem_filter.mp listed
    refine (inv.lists offer before).imp_right (Or.imp ?_ ?_)
    · rintro ⟨others, closing, within⟩
      refine ⟨others, (mem_erase_of_ne ?_).mpr closing, within⟩
      rintro ⟨⟩
      exact of_decide_eq_true left within
    · have apart : Task.cleared ≠ .closing conn ids := nofun
      exact (mem_erase_of_ne apart).mpr
  · intro offer listed same
    obtain ⟨before, left⟩ := mem_filter.mp listed
    exact of_decide_eq_true left (taken offer before same)
  · intro shut
    obtain ⟨none, disabled⟩ := inv.shut shut
    exact ⟨by simp [proceed, none], disabled⟩

/-- While access is being disabled no offer is made. -/
theorem Inv.calm (under : .disabling ∈ state.tasks ∨ .cleared ∈ state.tasks) :
    ∀ call ∈ state.tasks, ∀ conn, conn ∉ call.offersOn := by
  intro call listed conn offers
  have open' := (inv.opens listed conn offers).2.2
  exact under.elim open'.1 open'.2

theorem Inv.proceed (under : task ∈ state.tasks) (apart : Apart state (.advance task)) :
    Inv (proceed { state with tasks := state.tasks.erase task } task) := by
  have fits := inv.fits task under
  cases task with
  | admitted => exact (inv.erase rfl).number fits.erase
  | numbered =>
    obtain ⟨new, drawn⟩ := inv.taken under rfl
    exact (inv.erase rfl).index fits.erase new drawn
  | indexed =>
    obtain ⟨new, drawn⟩ := inv.taken under rfl
    exact (inv.erase rfl).register fits.1.erase new drawn fits.2 apart
  | withdrawn => exact (inv.erase rfl).unindex (inv.taken under rfl).1
  | closing => exact inv.drop under
  | disabling =>
    have calm := inv.calm (.inl under)
    have rest : Inv { state with tasks := state.tasks.erase .disabling } := inv.erase rfl
    exact rest.step rest.sorted (fun _ => .inl) (fun _ => id) rest.numbers
      (forall_mem_cons.mpr ⟨.inr trivial, fun _ => .inl⟩)
      (forall_mem_cons.mpr ⟨nofun, fun call listed conn offers =>
        absurd offers (calm call (mem_of_mem_erase listed) conn)⟩)
      (fun offer listed => absurd rfl (calm (.indexed offer)
        (by simpa [Canopy.proceed] using listed) offer.conn))
      (fun _ _ => .inr (.inr mem_cons_self)) (fun _ => .inl) rest.shut
  | cleared =>
    have calm := inv.calm (.inr under)
    exact inv.step .nil nofun (fun _ => id)
      (inv.numbers_of ((erase_sublist.filterMap _).append (nil_sublist _)))
      (fun _ listed => .inl (mem_of_mem_erase listed))
      (fun call listed conn offers => absurd offers (calm call (mem_of_mem_erase listed) conn))
      (fun _ _ => id) nofun (fun _ => .inl)
      fun shut => ⟨rfl, by simpa [Canopy.proceed] using shut⟩

theorem Inv.withdraw (seq conn : Nat) : Inv (handle state (.withdraw seq conn)) := by
  simp only [handle]
  split
  · exact inv
  · next offer found =>
    split
    · have same : offer.seq = seq := by simpa using find?_some found
      have here := mem_map_of_mem (f := Offer.seq) (mem_of_find?_eq_some found)
      have fewer := inv.numbers_of ((Sublist.refl (state.tasks.filterMap Task.seq?)).append
        (filter_sublist (p := (·.seq ≠ seq)).map Offer.seq))
      refine inv.cons rfl ⟨nofun, nofun⟩ filter_sublist rfl (fun _ _ => id)
        ⟨nodup_cons.mpr ⟨fun listed => ?_, fewer.1⟩, forall_mem_cons.mpr
          ⟨inv.numbers.2 _ (mem_append_right _ here), fewer.2⟩⟩ fun _ => trivial
      rcases mem_append.mp listed with held | left
      · exact (nodup_append.mp inv.numbers.1).2.2 _ held _ here rfl
      · obtain ⟨other, listed, alike⟩ := mem_map.mp left
        exact of_decide_eq_true (mem_filter.mp listed).2 (alike.trans same)
    · exact inv

theorem Inv.close {conn : Nat} (apart : Apart state (.close conn)) :
    Inv (handle state (.close conn)) := by
  obtain ⟨alone, unclear⟩ := apart
  simp only [handle]
  split
  · exact inv
  · next open' =>
    refine inv.step inv.sorted (fun _ => .inl) (subset_cons_self _ _) inv.numbers
      (forall_mem_cons.mpr ⟨.inr ⟨mem_cons_self, ?_⟩, fun _ => .inl⟩)
      (forall_mem_cons.mpr ⟨nofun, fun call listed other offers before => ⟨fun ended => ?_,
        before.2.1, by simpa using before.2.2⟩⟩) (fun offer listed here => ?_) ?_ (fun _ => .inl)
      inv.shut
    · rintro offer registered rfl
      rcases inv.lists offer registered with here | ⟨ids, closing, _⟩ | cleared
      · exact here
      · exact absurd (inv.fits _ closing).1 open'
      · exact absurd cleared unclear
    · rcases mem_cons.mp ended with rfl | ended
      · exact alone call listed offers
      · exact before.1 ended
    · have apart : offer.conn ≠ conn := fun same =>
        alone (.indexed offer) (by simpa using listed) (congrArg some same)
      simpa [apart] using here
    · intro offer registered
      rcases inv.lists offer registered with here | ⟨ids, closing, taken⟩ | cleared
      · by_cases same : offer.conn = conn
        · exact Or.inr (Or.inl ⟨_, same ▸ mem_cons_self, same ▸ here⟩)
        · exact Or.inl (by simpa [same] using here)
      · exact Or.inr (Or.inl ⟨ids, mem_cons_of_mem _ closing, taken⟩)
      · exact absurd cleared unclear

theorem Inv.setEnabled {enabled : Bool} (apart : Apart state (.setEnabled enabled)) :
    Inv (handle state (.setEnabled enabled)) := by
  cases enabled with
  | true =>
    exact inv.step inv.sorted (fun _ => .inl) (fun _ => id) inv.numbers (fun _ => .inl)
      (fun _ _ _ _ open' => ⟨open'.1, rfl, open'.2.2⟩) (fun _ _ => id) inv.lists (fun _ => .inl) nofun
  | false =>
    refine inv.step inv.sorted (fun _ => .inl) (fun _ => id) inv.numbers
      (forall_mem_cons.mpr ⟨.inr trivial, fun _ => .inl⟩)
      (forall_mem_cons.mpr ⟨nofun, fun call listed conn offers => ?_⟩) (fun _ _ => id)
      (fun offer listed => (inv.lists offer listed).cons _) (fun _ => .inl)
      fun shut => ⟨(inv.shut shut).1, rfl⟩
    rw [apart rfl call listed] at offers
    cases offers

theorem Inv.admit {conn : Nat} (apart : Apart state (.offer conn)) :
    Inv (handle state (.offer conn)) := by
  simp only [handle]
  split
  · next enabled =>
    have notShut : state.shut = false := by
      by_contra shut
      rw [(inv.shut (by simpa using shut)).2] at enabled
      cases enabled
    exact inv.cons rfl ⟨nofun, nofun⟩ (.refl _) rfl (fun _ _ => id) inv.numbers
      fun opens => opens ⟨apart.1, notShut, apart.2⟩
  · exact inv

/-- **A step that keeps apart keeps the invariant.** -/
theorem Inv.next {step : Step} (apart : Apart state step) : Inv (handle state step) := by
  cases step with
  | offer => exact inv.admit apart
  | withdraw seq conn => exact inv.withdraw seq conn
  | close => exact inv.close apart
  | setEnabled => exact inv.setEnabled apart
  | advance task =>
    simp only [handle]
    split
    · exact inv.proceed ‹_› apart
    · exact inv

omit inv in
theorem foldl_newer {offers : List Offer}
    (sorted : offers.Pairwise fun first second => first.seq < second.seq) :
    offers.foldl newer none = offers.getLast? := by
  induction offers using reverseRecOn with
  | nil => rfl
  | append_singleton offers offer ih =>
    obtain ⟨front, -, last⟩ := pairwise_append.mp sorted
    rw [foldl_append, ih front, getLast?_concat]
    cases found : offers.getLast? with
    | none => rfl
    | some held =>
      have less := last held (mem_of_getLast? found) offer (mem_singleton_self _)
      exact if_pos (Nat.le_of_lt less)

theorem Inv.sound : OffersSound state where
  closed conn handled := (inv.closed conn handled).2
  disabled shut := (inv.shut shut).1
  indexed := inv.indexed_of_alone
  chosen := foldl_newer inv.sorted

end Invariant

theorem inv_initial : Inv .initial :=
  ⟨.nil, ⟨.nil, nofun⟩, nofun, nofun, nofun, nofun⟩

/-- **No offer outlives its connection or the disabling of access, all are indexed, and the
latest serves the next request**, in every run in which offers keep apart from the end of
their connections, from disablings and from one another's registrations. -/
theorem offers_sound (steps : List Step) (apart : machine.Along Apart .initial steps) :
    OffersSound (machine.run .initial steps) :=
  (machine.run_preserves (fun _ _ inv apart => inv.next apart) _ steps apart inv_initial).sound

def offerSteps (seq conn : Nat) : List Step :=
  [.offer conn, .advance (.admitted conn), .advance (.numbered ⟨seq, conn⟩),
    .advance (.indexed ⟨seq, conn⟩)]

/-- Two clients make offers, and the one that came last goes. -/
def takeover : List Step :=
  offerSteps 0 1 ++ offerSteps 1 2 ++ [.close 2, .advance (.closing 2 [1])]

theorem takeover_sound : OffersSound (machine.run .initial takeover) ∧
    (machine.run .initial takeover).canopy.current = some ⟨0, 1⟩ :=
  ⟨offers_sound takeover
    ⟨⟨nofun, nofun, nofun⟩, trivial, trivial, nofun, ⟨nofun, nofun, nofun⟩, trivial, trivial,
      forall_mem_singleton.mpr Nat.zero_lt_one, ⟨nofun, nofun⟩, trivial, trivial⟩, rfl⟩

/-- A connection ends while its offer has been indexed, and the offer is registered after the
end has been handled, in no index; and one that found access enabled is registered after
access has been disabled. -/
theorem offer_outlives_its_connection :
    let ended := machine.run .initial
      [.offer 1, .advance (.admitted 1), .advance (.numbered ⟨0, 1⟩), .close 1,
        .advance (.closing 1 [0]), .advance (.indexed ⟨0, 1⟩)]
    let disabled := machine.run .initial
      [.offer 1, .setEnabled false, .advance .disabling, .advance .cleared,
        .advance (.admitted 1), .advance (.numbered ⟨0, 1⟩), .advance (.indexed ⟨0, 1⟩)]
    (1 ∈ ended.closed ∧ ended.tasks = [] ∧ ended.canopy.offers = [⟨0, 1⟩] ∧
      ended.canopy.connToIds 1 = [] ∧ ¬ OffersSound ended) ∧
      disabled.shut ∧ disabled.canopy.offers = [⟨0, 1⟩] ∧ ¬ OffersSound disabled := by
  refine ⟨⟨by decide, rfl, rfl, rfl, fun sound => ?_⟩, rfl, rfl, fun sound => ?_⟩
  · exact sound.closed 1 (by decide) ⟨0, 1⟩ (by decide) rfl
  · cases sound.disabled rfl

end Canopy

end Seedling.Interface
