import Seedling.Reconcile.PodEffects

/-!
# Pods are moored to their networks

A container runs on the network of its pod, and the container runtime removes no network
that has a container on it.  So as long as units are unloaded before their networks are
removed, a pod whose network is gone has left nothing on the host: `Moored` is kept by
every start (`startPodInstance_moored`), and by the stops whose unit is unloaded when its
stop returns (`stopPodInstance_moored`).
-/

namespace Seedling.Reconcile.PodHost

open Foundation Effectful PodHistory List Host

/-! ## What is left of a pod -/

/-- The pod has a container, or its unit is loaded. -/
def Here (host : Host) (name : String) : Prop :=
  (∃ container ∈ host.containers, container.name = name) ∨ host.units (unitName name) ≠ none

/-- Neither unit nor container nor network of the pod is there. -/
structure Gone (host : Host) (name : String) : Prop where
  unloaded : host.units (unitName name) = none
  removed : ∀ container ∈ host.containers, container.name ≠ name
  disconnected : podNetworkName name ∉ host.networks

/-- Every container is on its pod's network, and every pod that is here has its network. -/
structure Moored (host : Host) : Prop where
  wired : ∀ container ∈ host.containers, container.network = podNetworkName container.name
  networked : ∀ name, Here host name → podNetworkName name ∈ host.networks

theorem moored_empty : Moored .empty where
  wired _ mem := absurd mem not_mem_nil
  networked := by
    rintro name (⟨_, mem, _⟩ | loaded)
    · exact absurd mem not_mem_nil
    · exact absurd rfl loaded

variable {name : String}

theorem Moored.gone {host : Host} (moored : Moored host)
    (disconnected : podNetworkName name ∉ host.networks) : Gone host name where
  unloaded := by
    by_contra loaded
    exact disconnected (moored.networked name (.inr loaded))
  removed := by
    rintro container mem rfl
    exact disconnected (moored.networked _ (.inl ⟨container, mem, rfl⟩))
  disconnected := disconnected

theorem gone_iff {host : Host} :
    Gone host name ↔ ¬ Here host name ∧ podNetworkName name ∉ host.networks := by
  constructor
  · intro gone
    refine ⟨?_, gone.disconnected⟩
    rintro (⟨container, mem, named⟩ | loaded)
    · exact gone.removed container mem named
    · exact loaded gone.unloaded
  · rintro ⟨absent, disconnected⟩
    refine ⟨?_, ?_, disconnected⟩
    · by_contra loaded
      exact absent (.inr loaded)
    · exact fun container mem named => absent (.inl ⟨container, mem, named⟩)

section Effects

variable {host after : Host} {name other : String} {names : List String}
  {volumes : List ContainerVolume}

theorem units_unitIn (state : Option ActiveState) :
    (host.unitIn (unitName name) state).units (unitName other) =
      if other = name then state else host.units (unitName other) := by
  simp only [unitIn, Function.update_apply, unitName_inj]

theorem units_resetFailedUnit
    (loaded : (host.resetFailedUnit (unitName name)).units (unitName other) ≠ none) :
    host.units (unitName other) ≠ none := by
  have unload : (host.unitIn (unitName name) none).units (unitName other) ≠ none →
      host.units (unitName other) ≠ none := by
    rw [units_unitIn]
    split
    · intro absurd
      exact (absurd rfl).elim
    · exact id
  unfold Host.resetFailedUnit at loaded
  split at loaded
  · exact unload loaded
  · exact unload loaded
  · exact loaded

theorem here_launch (here : Here (host.launch name names) other) :
    Here host other ∨ other = name := by
  rcases here with ⟨container, mem, rfl⟩ | loaded
  · rcases mem_launch mem with there | rfl
    · exact .inl (.inl ⟨container, there, rfl⟩)
    · exact .inr rfl
  · unfold launch at loaded
    split at loaded <;> exact .inl (.inr loaded)

theorem here_of_start (effect : StartEffect name names host after) (here : Here after other) :
    Here host other ∨ other = name := by
  cases effect with
  | prepare effect =>
    cases effect with
    | call | network | volume | directory => exact .inl here
  | reset =>
    rcases here with ⟨container, mem, named⟩ | loaded
    · rw [resetFailedUnit_eq] at mem
      exact .inl (.inl ⟨container, mem, named⟩)
    · exact .inl (.inr (units_resetFailedUnit loaded))
  | container =>
    rcases here with ⟨container, mem, named⟩ | loaded
    · exact .inl (.inl ⟨container, mem_of_mem_filter mem, named⟩)
    · exact .inl (.inr loaded)
  | launch =>
    rcases here_launch here with (there | loaded) | same
    · exact .inl (.inl there)
    · rw [units_unitIn] at loaded
      split at loaded
      · exact .inr ‹_›
      · exact .inl (.inr loaded)
    · exact .inr same

variable (effect : StopEffect none name volumes host after)
include effect

theorem units_of_stop (loaded : after.units (unitName other) ≠ none) :
    host.units (unitName other) ≠ none := by
  cases effect with
  | call | container | network | volume | directory => exact loaded
  | unit =>
    rw [units_unitIn] at loaded
    split at loaded
    · exact (loaded rfl).elim
    · exact loaded
  | reset => exact units_resetFailedUnit loaded

theorem here_of_stop (here : Here after other) : Here host other := by
  rcases here with ⟨container, mem, named⟩ | loaded
  · exact .inl ⟨container, containers_closed_stop (Q := (· ∈ host.containers)) host after
      (fun _ there => there) effect container mem, named⟩
  · exact .inr (units_of_stop effect loaded)

omit effect in
theorem networks_of_start (effect : StartEffect name names host after) {network : String}
    (mem : network ∈ host.networks) : network ∈ after.networks := by
  cases effect with
  | prepare effect =>
    cases effect with
    | call | volume | directory => exact mem
    | network => exact mem_cons_of_mem _ mem
  | reset =>
    rw [resetFailedUnit_eq]
    exact mem
  | container => exact mem
  | launch =>
    unfold launch
    split <;> exact mem

theorem networks_of_stop {network : String} (mem : network ∈ after.networks) :
    network ∈ host.networks := by
  cases effect with
  | call | unit | container | volume | directory => exact mem
  | reset =>
    rw [resetFailedUnit_eq] at mem
    exact mem
  | network => exact mem_of_mem_filter mem

end Effects

/-! ## Mooring under the effects -/

section Mooring

variable {host : Host} {driver : Driver} {name : String} {names : List String}
  {volumes : List ContainerVolume}

theorem moored_closed_prepare (name : String) : Closed Moored (PrepareEffect name) := by
  intro host after moored effect
  cases effect with
  | call | volume | directory => exact ⟨moored.wired, moored.networked⟩
  | network =>
    exact ⟨moored.wired, fun other here => mem_cons_of_mem _ (moored.networked other here)⟩

/-- The host is moored, and the network of the pod is there. -/
def Anchored (name : String) (host : Host) : Prop :=
  Moored host ∧ podNetworkName name ∈ host.networks

theorem anchored_closed_start : Closed (Anchored name) (StartEffect name names) := by
  rintro host after ⟨moored, anchored⟩ effect
  have kept := networks_of_start effect anchored
  have wired := containers_closed_start (Q := fun container =>
    container.network = podNetworkName container.name) rfl host after moored.wired effect
  refine ⟨⟨wired, ?_⟩, kept⟩
  intro other here
  rcases here_of_start effect here with before | rfl
  · exact networks_of_start effect (moored.networked other before)
  · exact kept

/-- The host is moored, and the unit of the pod is not loaded. -/
def Unloaded (name : String) (host : Host) : Prop := Moored host ∧ host.units (unitName name) = none

theorem unloaded_closed_stop : Closed (Unloaded name) (StopEffect none name volumes) := by
  rintro host after ⟨moored, unloaded⟩ effect
  have wired := containers_closed_stop host after moored.wired effect
  refine ⟨⟨wired, ?_⟩, ?_⟩
  · intro other here
    have networked := moored.networked other (here_of_stop effect here)
    cases effect with
    | call | unit | container | volume | directory => exact networked
    | reset =>
      rw [resetFailedUnit_eq]
      exact networked
    | network free =>
      -- a pod that is here is another one: this one has neither container nor unit
      refine mem_filter.mpr ⟨networked, decide_eq_true fun same => ?_⟩
      cases podNetworkName_inj.mp same
      rcases here with ⟨container, mem, rfl⟩ | loaded
      · exact free container mem (wired container mem)
      · exact loaded unloaded
  · by_contra loaded
    exact units_of_stop effect loaded unloaded

theorem Moored.mono {after : Host} (moored : Moored host)
    (containers : ∀ container ∈ after.containers, container ∈ host.containers)
    (units : ∀ other, after.units (unitName other) ≠ none → host.units (unitName other) ≠ none)
    (networks : ∀ network ∈ host.networks, network ∈ after.networks) : Moored after where
  wired container mem := moored.wired container (containers container mem)
  networked := by
    intro other here
    apply networks _ (moored.networked other _)
    rcases here with ⟨container, mem, named⟩ | loaded
    · exact .inl ⟨container, containers container mem, named⟩
    · exact .inr (units other loaded)

theorem moored_called (host : Host) (moored : Moored host) : Moored host.called :=
  ⟨moored.wired, moored.networked⟩

theorem unloaded_stopped (moored : Moored host) (outlives : Bool) :
    Unloaded name (if outlives then host.unitIn (unitName name) none
      else (host.unitIn (unitName name) none).dropContainer name) := by
  have units : ∀ other, (host.unitIn (unitName name) none).units (unitName other) ≠ none →
      host.units (unitName other) ≠ none := by
    intro other loaded
    rw [units_unitIn] at loaded
    split at loaded
    · exact (loaded rfl).elim
    · exact loaded
  have unloaded : (host.unitIn (unitName name) none).units (unitName name) = none := by
    rw [units_unitIn, if_pos rfl]
  split
  · exact ⟨moored.mono (fun _ there => there) units fun _ there => there, unloaded⟩
  · exact ⟨moored.mono (fun _ there => mem_of_mem_filter there) units fun _ there => there,
      unloaded⟩

theorem unloaded_reset (moored : Moored host) (ended : host.units (unitName name) = some .inactive ∨
      host.units (unitName name) = some .failed) :
    Unloaded name (host.resetFailedUnit (unitName name)) := by
  refine ⟨moored.mono ?_ (fun _ => units_resetFailedUnit) ?_, ?_⟩
  · rw [resetFailedUnit_eq]
    exact fun _ there => there
  · rw [resetFailedUnit_eq]
    exact fun _ there => there
  · rcases ended with state | state <;> simp [Host.resetFailedUnit, state, Host.unitIn]

variable {other : String} {removed : Bool} {left : Option ActiveState}

theorem units_exit (loaded : (host.exit name removed left).units (unitName other) ≠ none) :
    host.units (unitName other) ≠ none := by
  have units : (host.endContainer name removed).units = host.units := by
    unfold endContainer
    split <;> rfl
  unfold exit at loaded
  split at loaded
  · rename_i isLoaded
    rw [units_unitIn] at loaded
    split at loaded
    · rename_i same
      rw [same]
      exact Option.isSome_iff_ne_none.mp isLoaded
    · rwa [units] at loaded
  · rwa [units] at loaded

theorem here_of_exit (here : Here (host.exit name removed left) other) : Here host other := by
  rcases here with ⟨container, mem, named⟩ | loaded
  · obtain ⟨earlier, there, rfl | rfl⟩ := mem_exit mem
    · exact .inl ⟨container, there, named⟩
    · refine .inl ⟨earlier, there, ?_⟩
      rw [← named]
      unfold Container.ended
      split <;> rfl
  · exact .inr (units_exit loaded)

theorem moored_exit (moored : Moored host) (removed : Bool) (left : Option ActiveState) :
    Moored (host.exit name removed left) where
  wired := by
    intro container mem
    obtain ⟨earlier, there, rfl | rfl⟩ := mem_exit mem
    · exact moored.wired container there
    · have wired := moored.wired earlier there
      unfold Container.ended
      split <;> exact wired
  networked := by
    intro other here
    have networked := moored.networked other (here_of_exit here)
    unfold exit endContainer
    split <;> split <;> exact networked

theorem here_of_relaunch (here : Here (host.relaunch name names) other) : Here host other := by
  have launched (loaded : host.units (unitName name) ≠ none)
      (here : Here (host.launch name names) other) : Here host other := by
    rcases here_launch here with before | rfl
    · exact before
    · exact .inr loaded
  unfold relaunch at here
  split at here
  · exact launched (by simp [*]) here
  · exact launched (by simp [*]) here
  · exact here

theorem moored_relaunch (moored : Moored host) : Moored (host.relaunch name names) where
  wired := by
    intro container mem
    rcases mem_relaunch mem with there | rfl
    · exact moored.wired container there
    · rfl
  networked := by
    intro other here
    have networked := moored.networked other (here_of_relaunch here)
    unfold relaunch launch
    split <;> try split
    all_goals exact networked

theorem settleUnit_unloads (unloads : driver.lingers name = none) :
    Triple Moored (settleUnit driver name) (fun _ => Unloaded name) (fun _ => Moored) := by
  have found : Triple Moored (unitState driver name)
      (fun found host => Moored host ∧ host.units (unitName name) = found) (fun _ => Moored) :=
    triple_query (fun _ => moored_called) fun host moored => ⟨moored_called host moored, rfl⟩
  have stops : ∀ state, Triple (fun host => Moored host ∧ host.units (unitName name) = state)
      (stopUnit driver name) (fun _ => Unloaded name) (fun _ => Moored) := by
    intro state
    apply triple_command (fun _ host holds => moored_called host holds.1)
    · rintro _ _ _ ⟨⟩
    · rintro host _ ⟨moored, _⟩ ⟨⟩
      simp only [unloads]
      exact unloaded_stopped (moored_called host moored) _
  have resets : ∀ state, (state = some .inactive ∨ state = some .failed) →
      Triple (fun host => Moored host ∧ host.units (unitName name) = state)
        (resetFailedUnit driver name) (fun _ => Unloaded name) (fun _ => Moored) := by
    intro state ended
    apply triple_command (fun _ host holds => moored_called host holds.1)
    · rintro _ _ _ ⟨⟩
    · rintro host _ ⟨moored, rfl⟩ ⟨⟩
      exact unloaded_reset (moored_called host moored) ended
  apply triple_bind found
  intro state
  split
  · exact stops _
  · exact stops _
  · exact stops _
  · exact resets _ (.inl rfl)
  · exact resets _ (.inr rfl)
  · exact triple_pure fun _ holds => holds

theorem stopPodInstance_moored (unloads : driver.lingers name = none) :
    Keeps Moored (fun _ => True) (stopPodInstance driver name volumes) := by
  have closed : Closed (Unloaded name) (StopEffect none name volumes) := unloaded_closed_stop
  have called : ∀ host, Unloaded name host → Unloaded name host.called :=
    fun host holds => closed _ _ holds (.call host)
  have allowed : driver.Allowed fun _ => True := fun _ _ => trivial
  have rest : Keeps (Unloaded name) (fun _ => True) (do
      attempt (removeContainer driver name)
      clearNetwork driver name
      forEach volumes (clearVolume driver)) := by
    apply keeps_bind (keeps_attempt (removeContainer_keeps called fun host holds =>
      closed _ _ holds (.container host)))
    intro _
    apply keeps_bind (clearNetwork_keeps closed allowed fun _ _ _ => trivial)
    intro _
    exact keeps_forEach fun _ mem =>
      clearVolume_keeps closed allowed mem fun _ _ _ _ => trivial
  have settles := (settleUnit_unloads unloads).fail fun _ _ moored => And.intro moored trivial
  exact triple_bind settles fun _ => triple_mono rest (fun _ holds => holds)
    (fun _ _ holds => holds.1) (fun _ _ holds => ⟨holds.1.1, trivial⟩)

theorem ensureNetwork_anchors : Triple Moored (ensureNetwork driver name) (fun _ => Anchored name)
      (fun _ host => Moored host ∧ True) := by
  have found : Triple Moored (networkExists driver name)
      (fun found host => Moored host ∧ (found → podNetworkName name ∈ host.networks))
      (fun _ host => Moored host ∧ True) := by
    apply triple_query (fun _ host moored => ⟨moored_called host moored, trivial⟩)
    intro host moored
    exact ⟨moored_called host moored, fun found => by simpa using found⟩
  apply triple_bind found
  intro there
  split
  · rename_i yes
    exact triple_pure fun _ holds => ⟨holds.1, holds.2 yes⟩
  · apply triple_command (fun _ host holds => ⟨moored_called host holds.1, trivial⟩)
    · rintro _ _ _ ⟨⟩
    · rintro host _ ⟨moored, _⟩ ⟨⟩
      exact ⟨moored_closed_prepare name _ _ (moored_called host moored) (.network _),
        mem_cons_self ..⟩

theorem startPodInstance_moored :
    Keeps Moored (fun _ => True) (startPodInstance driver name volumes) := by
  have allowed : driver.Allowed fun _ => True := fun _ _ => trivial
  have closed : Closed (Anchored name) (StartEffect name (podmanVolumes volumes)) :=
    anchored_closed_start
  have prepared : Triple Moored (prepare driver name volumes) (fun _ => Anchored name)
      (fun _ host => Moored host ∧ True) := by
    unfold prepare
    split
    · exact triple_bind ensureNetwork_anchors fun _ =>
        Triple.fail (ensureVolumes_keeps closed.prepare allowed volumes)
          fun _ _ holds => ⟨holds.1.1, trivial⟩
    · exact triple_bind (ensureVolumes_keeps (moored_closed_prepare name) allowed volumes) fun _ =>
        ensureNetwork_anchors
  apply triple_bind (keeps_ask moored_called (allowed _))
  intro _
  apply triple_bind prepared
  intro _
  exact triple_mono (startUnit_keeps closed allowed) (fun _ holds => holds)
    (fun _ _ holds => holds.1) (fun _ _ holds => ⟨holds.1.1, trivial⟩)

end Mooring

end Seedling.Reconcile.PodHost
