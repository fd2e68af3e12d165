import Seedling.Reconcile.PodHost

/-!
# What starting and stopping a pod does

Whatever calls fail, a start and a stop change their host by a few kinds of effect only
(`StartEffect`, `StopEffect`), so what each effect keeps the actuation keeps
(`startPodInstance_keeps`, `stopPodInstance_keeps`).  When no call fails, a start makes the volumes of its pod
(`startPodInstance_present`), and a stop removes those it is given if only its own
container can be using them (`stopPodInstance_clears`).
-/

namespace Seedling.Reconcile.PodHost

open Foundation Effectful PodHistory Host

/-! ## What a call does -/

section Calls

variable {α : Type} {driver : Driver} {request : Request} {pre : Host → Prop}
  {failed : PodError → Host → Prop}

def Driver.Answers (driver : Driver) (request : Request) : Prop :=
  ∀ number, driver.fails number request = false

variable (fails : ¬ driver.Answers request → ∀ host, pre host → failed (.failed request) host.called)
include fails

variable {post : Unit → Host → Prop}

theorem triple_ask (holds : ∀ host, pre host → post () host.called) :
    Triple pre (ask driver request) post failed := by
  intro host entered
  by_cases broken : driver.fails host.calls request
  · have unanswered : ¬ driver.Answers request := by
      intro answers
      rw [answers host.calls] at broken
      cases broken
    simpa [ask, exec_bind, broken] using fails unanswered host entered
  · simpa [ask, exec_bind, broken] using holds host entered

theorem triple_query {view : Host → α} {post : α → Host → Prop}
    (holds : ∀ host, pre host → post (view host.called) host.called) :
    Triple pre (query driver request view) post failed := by
  have asked : Triple pre (ask driver request) (fun _ host => post (view host) host) failed :=
    triple_ask fails holds
  exact triple_bind asked fun _ => triple_look fun _ found => found

variable {effect : Host → Except PodError Host}

theorem triple_command
    (refused : ∀ host error, pre host → effect host.called = .error error → failed error
      host.called) (holds : ∀ host after, pre host → effect host.called = .ok after → post () after) :
    Triple pre (command driver request effect) post failed := by
  have asked : Triple pre (ask driver request)
      (fun _ host => ∃ earlier, pre earlier ∧ host = earlier.called) failed :=
    triple_ask fails fun host entered => ⟨host, entered, rfl⟩
  apply triple_bind asked
  rintro ⟨⟩ _ ⟨host, entered, rfl⟩
  rcases effected : effect host.called with error | after
  · simpa [exec_bind, effected] using refused host error entered effected
  · simpa [exec_bind, effected] using holds host after entered effected

omit fails

/-! ## What an actuation keeps -/

variable {I : Host → Prop} {P : PodError → Prop} (called : ∀ host, I host → I host.called)
  (allowed : ¬ driver.Answers request → P (.failed request))
include called allowed

theorem keeps_ask : Keeps I P (ask driver request) :=
  triple_ask (fun unanswered host holds => ⟨called host holds, allowed unanswered⟩) called

theorem keeps_query (view : Host → α) : Keeps I P (query driver request view) :=
  keeps_bind (keeps_ask called allowed) fun _ => keeps_look view

theorem keeps_command (refused : ∀ host error, I host → effect host = .error error → P error)
    (moves : ∀ host after, I host → effect host = .ok after → I after) :
    Keeps I P (command driver request effect) :=
  triple_command (fun unanswered host holds => ⟨called host holds, allowed unanswered⟩)
    (fun host error holds effected =>
      ⟨called host holds, refused _ error (called host holds) effected⟩)
    (fun host after holds effected => moves _ after (called host holds) effected)

end Calls

/-! ## What actuations can do -/

/-- What the preparation of a start can do to its host, one thing at a time. -/
inductive PrepareEffect (name : String) : Host → Host → Prop where
  | call (host : Host) : PrepareEffect name host host.called
  | network (host : Host) : PrepareEffect name host (host.createNetwork (podNetworkName name))
  | volume (host : Host) (volume : String) : PrepareEffect name host (host.createVolume volume)
  | directory (host : Host) (path : String) :
      PrepareEffect name host (host.createDirectory path)

inductive StartEffect (name : String) (volumes : List String) : Host → Host → Prop where
  | prepare {host after : Host} (effect : PrepareEffect name host after) :
      StartEffect name volumes host after
  | reset (host : Host) : StartEffect name volumes host (host.resetFailedUnit (unitName name))
  | container (host : Host) : StartEffect name volumes host (host.dropContainer name)
  | launch (host : Host) : StartEffect name volumes host
      ((host.unitIn (unitName name) (some .active)).launch name volumes)

/-- What a stop can do to its host, where a unit whose stop is accepted is left as `lingers`
says. -/
inductive StopEffect (lingers : Option ActiveState) (name : String)
    (volumes : List ContainerVolume) : Host → Host → Prop where
  | call (host : Host) : StopEffect lingers name volumes host host.called
  | unit (host : Host) : StopEffect lingers name volumes host (host.unitIn (unitName name) lingers)
  | reset (host : Host) :
      StopEffect lingers name volumes host (host.resetFailedUnit (unitName name))
  | container (host : Host) : StopEffect lingers name volumes host (host.dropContainer name)
  | network (host : Host)
      (free : ∀ container ∈ host.containers, container.network ≠ podNetworkName name) :
      StopEffect lingers name volumes host (host.dropNetwork (podNetworkName name))
  | volume (host : Host) (volume : ContainerVolume) (member : volume ∈ volumes)
      (podman : volume.hostPath = none)
      (free : ∀ container ∈ host.containers, volume.name ∉ container.volumes) :
      StopEffect lingers name volumes host (host.dropVolume volume.name)
  | directory (host : Host) (volume : ContainerVolume) (member : volume ∈ volumes)
      {path : String} (bound : volume.hostPath = some path) :
      StopEffect lingers name volumes host (host.dropDirectory path)

/-- What holds of a host goes on to hold when a call is made. -/
abbrev Callable (I : Host → Prop) : Prop := ∀ host, I host → I host.called

/-- What holds of a host goes on to hold when one of the effects takes place. -/
def Closed (I : Host → Prop) (Effect : Host → Host → Prop) : Prop :=
  ∀ host after, I host → Effect host after → I after

/-- The calls that may fail, fail with errors in `P`. -/
def Driver.Allowed (driver : Driver) (P : PodError → Prop) : Prop :=
  ∀ request, ¬ driver.Answers request → P (.failed request)

section Keeping

variable {driver : Driver} {name : String} {I : Host → Prop} {P : PodError → Prop}

theorem keeps_effect (called : Callable I) (allowed : driver.Allowed P)
    {request : Request} {effect : Host → Host} (moves : ∀ host, I host → I (effect host)) :
    Keeps I P (command driver request fun host => .ok (effect host)) := by
  apply keeps_command called (allowed request)
  · rintro _ _ _ ⟨⟩
  · rintro host _ holds ⟨⟩
    exact moves host holds

theorem removeContainer_keeps (called : Callable I)
    (moves : ∀ host, I host → I (host.dropContainer name)) :
    Keeps I (fun _ => True) (removeContainer driver name) := by
  apply keeps_command called (fun _ => trivial) (fun _ _ _ _ => trivial)
  intro host after holds removed
  rw [removeContainer_eq_ok removed]
  exact moves host holds

section Start

variable {names : List String}

theorem keeps_writeFiles (called : Callable I)
    (allowed : driver.Allowed P) (root : String) (files : List String) :
    Keeps I P (writeFiles driver root files) :=
  keeps_forEach fun _ _ => keeps_ask called (allowed _)

variable (closed : Closed I (PrepareEffect name)) (allowed : driver.Allowed P)
include closed allowed

theorem ensureVolume_keeps (volume : ContainerVolume) : Keeps I P (ensureVolume driver volume) := by
  have called : Callable I := fun host holds => closed _ _ holds (.call host)
  have makes : ∀ request path, Keeps I P (createDirectory driver request path) :=
    fun request path => keeps_effect called allowed fun host holds =>
      closed _ _ holds (.directory host path)
  unfold ensureVolume
  split
  · split
    · exact keeps_bind (makes _ _) fun _ => keeps_writeFiles called allowed _ _
    · apply keeps_bind (keeps_look _)
      intro found
      split
      · exact keeps_pure ()
      · exact makes _ _
  · apply keeps_bind (keeps_query called (allowed _) _)
    intro found
    split
    · exact keeps_pure ()
    · apply keeps_bind (keeps_effect called allowed fun host holds =>
        closed _ _ holds (.volume host _))
      intro _
      split
      · exact keeps_pure ()
      · exact keeps_bind (keeps_ask called (allowed _)) fun _ => keeps_writeFiles called allowed _ _

variable (volumes : List ContainerVolume)

theorem ensureVolumes_keeps : Keeps I P (ensureVolumes driver volumes) :=
  keeps_forEach fun volume _ => ensureVolume_keeps closed allowed volume

theorem ensureNetwork_keeps : Keeps I P (ensureNetwork driver name) := by
  have called : Callable I := fun host holds => closed _ _ holds (.call host)
  apply keeps_bind (keeps_query called (allowed _) _)
  intro found
  split
  · exact keeps_pure ()
  · exact keeps_effect called allowed fun host holds => closed _ _ holds (.network host)

theorem prepare_keeps : Keeps I P (prepare driver name volumes) := by
  unfold prepare
  split
  · exact keeps_bind (ensureNetwork_keeps closed allowed) fun _ =>
      ensureVolumes_keeps closed allowed volumes
  · exact keeps_bind (ensureVolumes_keeps closed allowed volumes) fun _ =>
      ensureNetwork_keeps closed allowed

omit allowed closed

theorem Closed.prepare (closed : Closed I (StartEffect name names)) :
    Closed I (PrepareEffect name) :=
  fun host after holds effect => closed host after holds (.prepare effect)

theorem findUnit_keeps (closed : Closed I (StartEffect name names))
    (allowed : driver.Allowed P) : Keeps I P (findUnit driver name) := by
  have called : Callable I := fun host holds => closed.prepare _ _ holds (.call host)
  apply keeps_bind (keeps_query called (allowed _) _)
  intro found
  split
  · exact keeps_pure _
  · exact keeps_pure _
  · exact keeps_bind (keeps_effect called allowed fun host holds =>
      closed _ _ holds (.reset host)) fun _ => keeps_pure _
  · exact keeps_pure _

variable {volumes : List ContainerVolume}

theorem startUnit_keeps (closed : Closed I (StartEffect name (podmanVolumes volumes)))
    (allowed : driver.Allowed P) :
    Keeps I P (startUnit driver name volumes) := by
  have called : Callable I := fun host holds => closed.prepare _ _ holds (.call host)
  apply keeps_bind (findUnit_keeps closed allowed)
  intro found
  split
  · exact keeps_pure ()
  · apply keeps_bind (keeps_attempt (removeContainer_keeps called fun host holds =>
      closed _ _ holds (.container host)))
    intro _
    exact keeps_bind (keeps_ask called (allowed _)) fun _ =>
      keeps_effect called allowed fun host holds => closed _ _ holds (.launch host)

theorem startPodInstance_keeps (closed : Closed I (StartEffect name (podmanVolumes volumes))) :
    Keeps I (fun _ => True) (startPodInstance driver name volumes) := by
  have allowed : driver.Allowed fun _ => True := fun _ _ => trivial
  apply keeps_bind (keeps_ask (fun host holds => closed.prepare _ _ holds (.call host)) (allowed _))
  intro _
  exact keeps_bind (prepare_keeps closed.prepare allowed volumes) fun _ =>
    startUnit_keeps closed allowed

end Start

section Stop

variable {volumes : List ContainerVolume} {lingers : Option ActiveState}

theorem settleUnit_keeps (closed : Closed I (StopEffect (driver.lingers name) name volumes))
    (allowed : driver.Allowed P) : Keeps I P (settleUnit driver name) := by
  have called : Callable I := fun host holds => closed _ _ holds (.call host)
  have stops : Keeps I P (stopUnit driver name) := by
    apply keeps_effect called allowed
    intro host holds
    have stopped := closed _ _ holds (.unit host)
    split
    · exact stopped
    · exact closed _ _ stopped (.container _)
  have resets : Keeps I P (resetFailedUnit driver name) :=
    keeps_effect called allowed fun host holds => closed _ _ holds (.reset host)
  apply keeps_bind (keeps_query called (allowed _) _)
  intro found
  split
  · exact stops
  · exact stops
  · exact stops
  · exact resets
  · exact resets
  · exact keeps_pure ()

variable (closed : Closed I (StopEffect lingers name volumes))
include closed

theorem clearNetwork_keeps (allowed : driver.Allowed P)
    (refused : ∀ host, I host → (∃ container ∈ host.containers, container.network = podNetworkName
      name) → P (.networkInUse (podNetworkName name))) :
    Keeps I P (clearNetwork driver name) := by
  have called : Callable I := fun host holds => closed _ _ holds (.call host)
  apply keeps_bind (keeps_query called (allowed _) _)
  intro found
  split
  · apply keeps_command called (allowed _)
    · intro host error holds inUse
      obtain ⟨rfl, used⟩ := removeNetwork_eq_error inUse
      exact refused host holds used
    · intro host after holds removed
      obtain ⟨rfl, free⟩ := removeNetwork_eq_ok removed
      exact closed _ _ holds (.network host free)
  · exact keeps_pure ()

theorem clearVolume_keeps (allowed : driver.Allowed P) {volume : ContainerVolume}
    (mem : volume ∈ volumes)
    (refused : ∀ host, I host → volume.hostPath = none → (∃ container ∈ host.containers,
      volume.name ∈ container.volumes) → P (.volumeInUse volume.name)) :
    Keeps I P (clearVolume driver volume) := by
  have called : Callable I := fun host holds => closed _ _ holds (.call host)
  unfold clearVolume
  split
  · rename_i path bound
    apply keeps_bind (keeps_look _)
    intro found
    split
    · exact keeps_attempt (keeps_effect called allowed fun host holds =>
        closed _ _ holds (.directory host volume mem bound))
    · exact keeps_pure ()
  · rename_i podman
    apply keeps_bind (keeps_query called (allowed _) _)
    intro found
    split
    · apply keeps_command called (allowed _)
      · intro host error holds inUse
        obtain ⟨rfl, used⟩ := removeVolume_eq_error inUse
        exact refused host holds podman used
      · intro host after holds removed
        obtain ⟨rfl, free⟩ := removeVolume_eq_ok removed
        exact closed _ _ holds (.volume host volume mem podman free)
    · exact keeps_pure ()

omit closed

/-- A stop blames a volume in use only if it is one of those it removes. -/
def BlamesOwn (volumes : List ContainerVolume) (error : PodError) : Prop :=
  ∀ name, error = .volumeInUse name →
    ∃ volume ∈ volumes, volume.hostPath = none ∧ volume.name = name

/-- A stop keeps what each of its effects keeps, and blames only volumes of its own. -/
theorem stopPodInstance_keeps (closed : Closed I (StopEffect (driver.lingers name) name volumes)) :
    Keeps I (BlamesOwn volumes) (stopPodInstance driver name volumes) := by
  have called : Callable I := fun host holds => closed _ _ holds (.call host)
  have allowed : driver.Allowed (BlamesOwn volumes) := fun _ _ _ blamed => by cases blamed
  apply keeps_bind (settleUnit_keeps closed allowed)
  intro _
  apply keeps_bind (keeps_attempt (removeContainer_keeps called fun host holds =>
    closed _ _ holds (.container host)))
  intro _
  apply keeps_bind (clearNetwork_keeps closed allowed fun _ _ _ _ blamed => by cases blamed)
  intro _
  apply keeps_forEach
  intro volume mem
  apply clearVolume_keeps closed allowed mem
  intro host _ podman _ blamed same
  cases same
  exact ⟨volume, mem, podman, rfl⟩

end Stop

end Keeping

/-! ## Containers and volumes under the effects -/

def Present (volume : ContainerVolume) (host : Host) : Prop :=
  match volume.hostPath with
  | some path => path ∈ host.directories
  | none => volume.name ∈ host.volumes

section Closed

variable {name : String} {names : List String} {volumes : List ContainerVolume}
  {lingers : Option ActiveState} {Q : Container → Prop}

theorem containers_closed_start (launched : Q ⟨name, true, podNetworkName name, names⟩) :
    Closed (fun host => ∀ container ∈ host.containers, Q container) (StartEffect name names) := by
  intro host after holds effect
  cases effect with
  | prepare effect =>
    cases effect with
    | call | network | volume | directory => exact holds
  | reset =>
    rw [resetFailedUnit_eq]
    exact holds
  | container =>
    intro container mem
    exact holds container (List.mem_of_mem_filter mem)
  | launch =>
    intro container mem
    rcases mem_launch mem with there | rfl
    · exact holds container there
    · exact launched

theorem containers_closed_stop : Closed (fun host => ∀ container ∈ host.containers, Q container)
      (StopEffect lingers name volumes) := by
  intro host after holds effect
  cases effect with
  | call | unit | network | volume | directory => exact holds
  | reset =>
    rw [resetFailedUnit_eq]
    exact holds
  | container =>
    intro container mem
    exact holds container (List.mem_of_mem_filter mem)

variable (volume : ContainerVolume)

theorem present_closed_prepare : Closed (Present volume) (PrepareEffect name) := by
  intro host after holds effect
  unfold Present at holds ⊢
  cases effect with
  | call | network => exact holds
  | volume | directory => split <;> simp_all [Host.createVolume, Host.createDirectory]

theorem present_closed_start : Closed (Present volume) (StartEffect name names) := by
  intro host after holds effect
  cases effect with
  | prepare effect => exact present_closed_prepare volume host after holds effect
  | reset =>
    rw [resetFailedUnit_eq]
    exact holds
  | container => exact holds
  | launch =>
    unfold Present at holds ⊢
    unfold launch
    split <;> split <;> simp_all [unitIn]

theorem absent_closed_stop :
    Closed (fun host => ¬ Present volume host) (StopEffect lingers name volumes) := by
  intro host after absent effect present
  apply absent
  unfold Present at present ⊢
  cases effect with
  | call | unit | network | container => exact present
  | reset =>
    rw [resetFailedUnit_eq] at present
    exact present
  | volume | directory =>
    split <;> simp_all [dropVolume, dropDirectory]

end Closed

/-! ## When every call goes through -/

/-- No call fails. -/
def Driver.Reliable (driver : Driver) : Prop := ∀ request, driver.Answers request

variable {driver : Driver}

theorem Driver.Reliable.elim (reliable : driver.Reliable) {request : Request} {anything : Prop}
    (unanswered : ¬ driver.Answers request) : anything :=
  absurd (reliable request) unanswered

theorem Driver.Reliable.allowed (reliable : driver.Reliable) (P : PodError → Prop) :
    driver.Allowed P := fun _ => reliable.elim

def calm : Driver := ⟨fun _ _ => false, fun _ => none, fun _ => false, false⟩

theorem calm_reliable : calm.Reliable := fun _ _ => rfl

section Reliable

variable {driver : Driver} {name : String} {names : List String} {I : Host → Prop}
  {failed : PodError → Host → Prop} {volumes : List ContainerVolume} {Effect : Host → Host → Prop}

theorem and_closed {J : Host → Prop} (one : Closed I Effect) (other : Closed J Effect) :
    Closed (fun host => I host ∧ J host) Effect :=
  fun host after holds effect =>
    ⟨one host after holds.1 effect, other host after holds.2 effect⟩

variable {volume : ContainerVolume}

theorem pathExists_iff {path : String} (bound : volume.hostPath = some path) :
    Triple I (pathExists path) (fun found host => I host ∧ (found ↔ Present volume host))
      failed :=
  triple_look fun _ holds => ⟨holds, by simp [Present, bound]⟩

variable (reliable : driver.Reliable)
include reliable

theorem volumeExists_iff (called : Callable I) (podman : volume.hostPath = none) :
    Triple I (volumeExists driver volume.name)
      (fun found host => I host ∧ (found ↔ Present volume host)) failed := by
  apply triple_query
  · exact reliable.elim
  · intro host holds
    exact ⟨called host holds, by simp [Present, podman]⟩

theorem triple_makes (closed : Closed I (PrepareEffect name)) {request : Request}
    {effect : Host → Host} (possible : ∀ host, PrepareEffect name host (effect host))
    (made : ∀ host, Present volume (effect host)) :
    Triple I (command driver request fun host => .ok (effect host))
      (fun _ host => I host ∧ Present volume host) failed := by
  apply triple_command
  · exact reliable.elim
  · rintro _ _ _ ⟨⟩
  · rintro host _ holds ⟨⟩
    exact ⟨closed _ _ (closed _ _ holds (.call host)) (possible _), made _⟩

theorem ensureVolume_present (closed : Closed I (PrepareEffect name)) (volume : ContainerVolume) :
    Triple I (ensureVolume driver volume) (fun _ host => I host ∧ Present volume host) failed := by
  have both := and_closed closed (present_closed_prepare volume)
  have called : ∀ host, I host ∧ Present volume host →
      I host.called ∧ Present volume host.called := fun host holds => both _ _ holds (.call host)
  have never := reliable.allowed fun _ => False
  unfold ensureVolume
  split
  · rename_i path bound
    have made : ∀ host : Host, Present volume (host.createDirectory path) := by
      simp [Present, bound, Host.createDirectory]
    have makes : ∀ request, Triple I (createDirectory driver request path)
        (fun _ host => I host ∧ Present volume host) failed :=
      fun request => triple_makes reliable closed (fun host => .directory host path) made
    split
    · exact triple_bind (makes _) fun _ => (keeps_writeFiles called never _ _).safe
    · apply triple_bind (pathExists_iff bound)
      intro found
      split
      · exact triple_pure fun _ holds => ⟨holds.1, holds.2.mp ‹_›⟩
      · exact (makes _).enter fun _ holds => holds.1
  · rename_i podman
    have made : ∀ host : Host, Present volume (host.createVolume volume.name) := by
      simp [Present, podman, Host.createVolume]
    apply triple_bind (volumeExists_iff reliable (fun host holds => closed _ _ holds (.call host))
      podman)
    intro found
    split
    · exact triple_pure fun _ holds => ⟨holds.1, holds.2.mp ‹_›⟩
    · apply triple_bind ((triple_makes reliable closed (fun host => .volume host volume.name)
        made).enter fun _ holds => holds.1)
      intro _
      split
      · exact triple_pure fun _ holds => holds
      · exact triple_bind (keeps_ask called (never _)).safe
          fun _ => (keeps_writeFiles called never _ _).safe

omit reliable in
theorem all_closed {Done : ContainerVolume → Host → Prop}
    (each : ∀ volume, Closed (Done volume) Effect) (kept : List ContainerVolume) :
    Closed (fun host => ∀ volume ∈ kept, Done volume host) Effect :=
  fun host after holds effect volume mem =>
    each volume host after (holds volume mem) effect

theorem ensureVolumes_present (closed : Closed I (PrepareEffect name)) :
    Triple I (ensureVolumes driver volumes)
      (fun _ host => I host ∧ ∀ volume ∈ volumes, Present volume host) failed := by
  apply triple_forEach
  intro volume _ kept
  exact ensureVolume_present reliable
    (and_closed closed (all_closed present_closed_prepare kept)) volume

theorem startPodInstance_present (host : Host) :
    ∀ volume ∈ volumes, Present volume (exec (startPodInstance driver name volumes) host).2 := by
  have never := reliable.allowed fun _ => False
  have everywhere : Closed (fun _ => True) (PrepareEffect name) := fun _ _ _ _ => trivial
  have closed : Closed (fun host => ∀ volume ∈ volumes, Present volume host)
      (StartEffect name (podmanVolumes volumes)) := all_closed present_closed_start volumes
  have ensured : Triple (fun _ => True) (ensureVolumes driver volumes)
      (fun _ host => ∀ volume ∈ volumes, Present volume host) fun _ _ => False :=
    (ensureVolumes_present reliable everywhere).leave fun _ _ holds => holds.2
  have prepared : Triple (fun _ => True) (prepare driver name volumes)
      (fun _ host => ∀ volume ∈ volumes, Present volume host) fun _ _ => False := by
    unfold prepare
    split
    · exact triple_bind (ensureNetwork_keeps everywhere never).safe fun _ => ensured
    · exact triple_bind ensured fun _ => (ensureNetwork_keeps closed.prepare never).safe
  have started : Triple (fun _ => True) (startPodInstance driver name volumes)
      (fun _ host => ∀ volume ∈ volumes, Present volume host) fun _ _ => False :=
    triple_bind (keeps_ask (fun _ _ => trivial) (never _)).safe fun _ =>
      triple_bind prepared fun _ => (startUnit_keeps closed never).safe
  obtain ⟨_, _, present⟩ := started.ends host trivial
  exact present

def Alone (name : String) (host : Host) : Prop :=
  ∀ container ∈ host.containers, container.name = name

def Bare (host : Host) : Prop := ∀ container ∈ host.containers, False

theorem removeContainer_bares :
    Triple (Alone name) (attempt (removeContainer driver name)) (fun _ => Bare) failed := by
  apply triple_attempt
  apply triple_command
  · exact reliable.elim
  · intro host error alone missing container mem
    unfold Host.removeContainer at missing
    split at missing
    · cases missing
    · rename_i none
      exact none (List.any_eq_true.mpr ⟨container, mem, by simpa using alone container mem⟩)
  · intro host after alone removed container mem
    rw [removeContainer_eq_ok removed] at mem
    obtain ⟨there, other⟩ := List.mem_filter.mp mem
    simp [alone container there] at other

theorem clearVolume_clears (closed : Closed I (StopEffect (driver.lingers name) name volumes))
    (bare : ∀ host, I host → Bare host) (mem : volume ∈ volumes) :
    Triple I (clearVolume driver volume) (fun _ host => I host ∧ ¬ Present volume host) failed := by
  unfold clearVolume
  split
  · rename_i path bound
    apply triple_bind (pathExists_iff bound)
    intro found
    split
    · apply triple_attempt
      apply triple_command
      · exact reliable.elim
      · rintro _ _ _ ⟨⟩
      · rintro host _ ⟨holds, _⟩ ⟨⟩
        refine ⟨closed _ _ (closed _ _ holds (.call host)) (.directory _ volume mem bound), ?_⟩
        simp [Present, bound, dropDirectory]
    · rename_i missing
      exact triple_pure fun _ holds => ⟨holds.1, fun present => missing (holds.2.mpr present)⟩
  · rename_i podman
    apply triple_bind (volumeExists_iff reliable (fun host holds => closed _ _ holds (.call host))
      podman)
    intro found
    split
    · apply triple_command
      · exact reliable.elim
      · rintro host error ⟨holds, _⟩ inUse
        obtain ⟨_, container, there, _⟩ := removeVolume_eq_error inUse
        exact (bare host holds container there).elim
      · rintro host after ⟨holds, _⟩ removed
        obtain ⟨rfl, free⟩ := removeVolume_eq_ok removed
        have kept := closed _ _ holds (.call host)
        refine ⟨closed _ _ kept (.volume _ volume mem podman free), ?_⟩
        simp [Present, podman, dropVolume]
    · rename_i missing
      exact triple_pure fun _ holds => ⟨holds.1, fun present => missing (holds.2.mpr present)⟩

/-- When no call fails and no other container is there, a stop removes the volumes it is
given. -/
theorem stopPodInstance_clears {host : Host} (alone : Alone name host) :
    ∀ volume ∈ volumes, ¬ Present volume (exec (stopPodInstance driver name volumes) host).2 := by
  have never := reliable.allowed fun _ => False
  have aloneClosed : Closed (Alone name) (StopEffect (driver.lingers name) name volumes) :=
    containers_closed_stop
  have bareClosed : Closed Bare (StopEffect (driver.lingers name) name volumes) :=
    containers_closed_stop
  have cleared : Triple Bare (forEach volumes (clearVolume driver))
      (fun _ host => Bare host ∧ ∀ volume ∈ volumes, ¬ Present volume host)
      fun _ _ => False := by
    apply triple_forEach
    intro volume mem kept
    exact clearVolume_clears reliable (and_closed bareClosed (all_closed absent_closed_stop kept))
      (fun _ holds => holds.1) mem
  have stopped : Triple (Alone name) (stopPodInstance driver name volumes)
      (fun _ host => Bare host ∧ ∀ volume ∈ volumes, ¬ Present volume host)
      fun _ _ => False := by
    apply triple_bind (settleUnit_keeps aloneClosed never).safe
    intro _
    apply triple_bind (removeContainer_bares reliable)
    intro _
    apply triple_bind (clearNetwork_keeps bareClosed never fun host bare used => ?_).safe
    · intro _
      exact cleared
    · obtain ⟨container, there, _⟩ := used
      exact bare container there
  obtain ⟨_, _, _, absent⟩ := stopped.ends host alone
  exact absent

end Reliable

end Seedling.Reconcile.PodHost
