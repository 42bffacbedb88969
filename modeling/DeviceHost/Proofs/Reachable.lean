import DeviceHost.Proofs.Notification
import DeviceHost.Proofs.Start

/-!
# What holds in every state that a service can reach

A service is used in any order: it is started and stopped, told of changes, asked for profiles and
given commands. Neither the authority nor the driver promises anything about its answers, and each
start may find something else in the folder of profiles. Four things hold all the same, after any
number of `Operation`s:

* a device that is stored belongs to the service and is under its own identifier;
* a service that does not run has no devices;
* the named profiles of the stored devices are in the cache;
* no listener is taken any more as soon as one start has gone well, and not before.

The first three are one invariant, `Sound`: whether a stored profile stays in the cache depends on
who else writes to the cache and to the store. The fourth looks back at the whole run, so it is an
equivalence that every operation hands on (`closed_perform`).
-/

namespace DeviceHost

namespace Service

open Activity

variable {δ α : Type} {s : Service δ α} {st st' : State δ α}

/-! ## Operations -/

/-- Something that is done with a service. -/
inductive Operation
  /-- a listener is offered -/
  | register (l : Listener)
  /-- the service is started, and finds this in the folder of profiles -/
  | start (content : FolderContent)
  /-- the service is stopped -/
  | stop (force : Bool)
  /-- the authority notifies the service -/
  | notify (n : Notification)
  /-- a profile is looked up -/
  | profile (name : String)
  /-- a command of a device is read -/
  | read (k : DeviceKey) (command : String)
  /-- a command of a device is written -/
  | write (k : DeviceKey) (command : String) (texts : Table String)
  /-- requests are read in a batch -/
  | getBatch (id : String) (requests : List ResourceRequest)
  /-- values are written in a batch -/
  | putBatch (id : String) (requests : List ResourceRequest) (values : List Value)

/-- The state after an operation. -/
def perform (s : Service δ α) : Operation → State δ α → State δ α
  | .register l, st => (register l st).state
  | .start content, st => ((s.finding content).start st).state
  | .stop force, st => (s.stop force st).state
  | .notify n, st => (s.notify n st).state
  | .profile name, st => (s.profile name st).state
  | .read k command, st => (s.read k command st).state
  | .write k command texts, st => (s.write k command texts st).state
  | .getBatch id requests, st => (s.getBatch id requests st).state
  | .putBatch id requests values, st => (s.putBatch id requests values st).state

/-- The state after one operation after the other. -/
def run (s : Service δ α) (ops : List Operation) (st : State δ α) : State δ α :=
  ops.foldl (fun st op => s.perform op st) st

/-- An operation that looks at the devices at most. -/
def Operation.IsLook : Operation → Prop
  | profile _ | read _ _ | write _ _ _ | getBatch _ _ | putBatch _ _ _ => True
  | _ => False

/-- An operation that only looks leaves the devices, their names and the run alone. -/
theorem undisturbed_perform {op : Operation} (h : op.IsLook) (st : State δ α) :
    Undisturbed st (s.perform op st) := by
  have hst := Undisturbed.refl st
  cases op with
  | register l => exact h.elim
  | start content => exact h.elim
  | stop force => exact h.elim
  | notify n => exact h.elim
  | profile name => exact (leaves_profile st s name st hst).1
  | read k command => exact (leaves_read st s k command st hst).1
  | write k command texts => exact (leaves_write st s k command texts st hst).1
  | getBatch id requests => exact (leaves_getBatch st s id requests st hst).1
  | putBatch id requests values => exact (leaves_putBatch st s id requests values st hst).1

/-! ## The devices -/

/-- The devices of a state are in order. -/
structure Sound (s : Service δ α) (st : State δ α) : Prop where
  /-- every device belongs to the service -/
  owned : ∀ i d, st.store.get? i = some d → d.service = s.name
  /-- every device is under its own identifier -/
  filed : st.store.Filed
  /-- a service that does not run has no devices -/
  idle : st.running = false → st.store = .empty
  /-- every named profile of a device is in the cache -/
  cached : ∀ i d, st.store.get? i = some d → d.profile.name ≠ "" →
    (st.cache.cached? d.profile.name).isSome

/-- It does not matter for the devices what is in the folder of profiles. -/
theorem sound_finding_iff {content : FolderContent} : (s.finding content).Sound st ↔ s.Sound st :=
  ⟨fun h => ⟨h.owned, h.filed, h.idle, h.cached⟩, fun h => ⟨h.owned, h.filed, h.idle, h.cached⟩⟩

/-- Without devices everything is in order. -/
theorem sound_of_empty (h : st.store = .empty) : s.Sound st where
  owned i d hd := by
    rw [h] at hd
    cases hd
  filed := by
    rw [h]
    exact Store.filed_empty
  idle _ := h
  cached i d hd := by
    rw [h] at hd
    cases hd

/-- What leaves the devices alone leaves a state sound. -/
theorem Sound.of_undisturbed (h : s.Sound st) (hst : Undisturbed st st') : s.Sound st' where
  owned i d hd := h.owned i d (hst.store ▸ hd)
  filed := by
    rw [hst.store]
    exact h.filed
  idle hrun := hst.store.trans (h.idle (hst.running ▸ hrun))
  cached i d hd hp := hst.cache _ (h.cached i d (hst.store ▸ hd) hp)

/-- An offered listener changes the registry at most. -/
theorem register_state (l : Listener) (st : State δ α) :
    ∃ r, (register l st).state = { st with listeners := r } := by
  rw [register, look_bind]
  rcases st.listeners.register l with e | r
  · exact ⟨st.listeners, rfl⟩
  · exact ⟨r, rfl⟩

theorem Sound.register (h : s.Sound st) (l : Listener) : s.Sound (register l st).state := by
  obtain ⟨r, hr⟩ := register_state l st
  rw [hr]
  exact ⟨h.owned, h.filed, h.idle, h.cached⟩

/-- A start that goes well makes a state sound: foreign devices of the list are left out. -/
theorem Started.sound {listed : List Device} (h : Started s listed st st') : s.Sound st' where
  owned i d hd := by
    rw [h.store] at hd
    exact (mem_owned.mp (Store.mem_of_get?_ofList hd).1).2
  filed := by
    rw [h.store]
    exact Store.filed_ofList _
  idle hrun := absurd (h.running.symm.trans hrun) (by decide)
  cached i d hd := by
    rw [h.store] at hd
    exact h.cache d (Store.mem_of_get?_ofList hd).1

theorem Sound.start (h : s.Sound st) : s.Sound (s.start st).state := by
  rcases s.start_cases st with ⟨-, -, hkept⟩ | ⟨_, -, -, hstarted⟩
  · exact h.of_undisturbed hkept
  · exact hstarted.sound

theorem Sound.stop (h : s.Sound st) (force : Bool) : s.Sound (s.stop force st).state := by
  rcases hrun : st.running with _ | _
  · rw [stop_of_not_running hrun]
    exact h
  · exact sound_of_empty (stop_of_running hrun force).store

/-- A device that comes belongs to the service, and its profile is remembered with it. -/
theorem Sound.adopt (h : s.Sound st) {d : Device} (hown : d.service = s.name)
    (hrun : st'.running = true) (hstore : st'.store = st.store.insert d)
    (hcache : st'.cache = st.cache.remember d.profile) : s.Sound st' where
  owned i e he := by
    rw [hstore, Store.get?_insert] at he
    split at he
    · obtain rfl := Option.some.inj he
      exact hown
    · exact h.owned i e he
  filed := by
    rw [hstore]
    exact h.filed.insert d
  idle hidle := absurd (hrun.symm.trans hidle) (by decide)
  cached i e he hp := by
    rw [hstore, Store.get?_insert] at he
    rw [hcache]
    split at he
    · obtain rfl := Option.some.inj he
      exact ProfileCache.isSome_cached?_remember _ hp
    · exact ProfileCache.covers_remember _ _ _ (h.cached i e he hp)

/-- The profile of a device that goes stays. -/
theorem Sound.dismiss (h : s.Sound st) {id : String} (hrun : st'.running = true)
    (hstore : st'.store = (st.store.remove id).2) (hcache : st'.cache = st.cache) :
    s.Sound st' := by
  have hget : ∀ i e, st'.store.get? i = some e → st.store.get? i = some e := by
    intro i e he
    rw [hstore, Store.get?_remove] at he
    split at he
    · cases he
    · exact he
  refine ⟨fun i e he => h.owned i e (hget i e he), hstore ▸ h.filed.remove id,
    fun hidle => absurd (hrun.symm.trans hidle) (by decide), fun i e he hp => ?_⟩
  rw [hcache]
  exact h.cached i e (hget i e he) hp

theorem Sound.notify (h : s.Sound st) (n : Notification) : s.Sound (s.notify n st).state := by
  rcases hrun : st.running with _ | _
  · rw [notify_of_not_running hrun]
    exact h
  · have hstore := s.notify_store hrun n
    have hcache := s.notify_cache hrun n
    have hrun' := (s.notify_running n).trans hrun
    rcases hD : s.decision st n with d | ⟨id, told, r⟩ | r <;> rw [hD] at hstore hcache
    · obtain ⟨-, -, -, hown⟩ := Reconcile.decision_eq_adopt hD
      exact h.adopt hown hrun' hstore hcache
    · exact h.dismiss hrun' hstore hcache
    · refine h.of_undisturbed ⟨hstore, s.notify_listeners n, s.notify_running n, ?_⟩
      rw [hcache]
      exact ProfileCache.Covers.refl _

/-- Every operation keeps a state sound. -/
theorem Sound.perform (h : s.Sound st) (op : Operation) : s.Sound (s.perform op st) := by
  cases op with
  | register l => exact h.register l
  | start content => exact sound_finding_iff.mp (sound_finding_iff.mpr h).start
  | stop force => exact h.stop force
  | notify n => exact h.notify n
  | _ => exact h.of_undisturbed (undisturbed_perform (by exact trivial) st)

/-- Any number of operations keeps a state sound. -/
theorem Sound.run (h : s.Sound st) (ops : List Operation) : s.Sound (s.run ops st) := by
  induction ops generalizing st with
  | nil => exact h
  | cons op ops ih => exact ih (h.perform op)

/-! ## The listener -/

/-- A listener is refused exactly if none is taken any more. -/
theorem register_refused_iff (l : Listener) (st : State δ α) :
    (∃ e, (register l st).value = .error e) ↔ st.listeners.closed = true := by
  rw [register, look_bind, Registry.register]
  rcases st.listeners.closed with _ | _
  · constructor
    · rintro ⟨e, he⟩
      cases he
    · intro h
      cases h
  · exact ⟨fun _ => rfl, fun _ => ⟨_, rfl⟩⟩

theorem register_closed (l : Listener) (st : State δ α) :
    (register l st).state.listeners.closed = st.listeners.closed := by
  rw [register, look_bind, Registry.register]
  rcases hc : st.listeners.closed with _ | _
  · rfl
  · exact hc

/-- An operation that is a start and goes well. -/
def Starts (s : Service δ α) (op : Operation) (st : State δ α) : Prop :=
  ∃ content, op = .start content ∧ ((s.finding content).start st).value = .ok ()

/-- An operation closes the registration exactly if it is a start that goes well. -/
theorem closed_perform (op : Operation) (st : State δ α) :
    (s.perform op st).listeners.closed = true ↔
      st.listeners.closed = true ∨ s.Starts op st := by
  -- any other operation than a start leaves the registry as open as it was
  have hother : (∀ content, op ≠ .start content) →
      (s.perform op st).listeners.closed = st.listeners.closed →
        ((s.perform op st).listeners.closed = true ↔
          st.listeners.closed = true ∨ s.Starts op st) := by
    intro hop hclosed
    rw [hclosed]
    exact ⟨.inl, fun h => h.elim id fun ⟨content, hs, _⟩ => absurd hs (hop content)⟩
  cases op with
  | start content =>
    rcases (s.finding content).start_cases st with ⟨e, he, hkept⟩ | ⟨_, hok, -, hstarted⟩
    · -- a start that fails closes nothing, wherever it fails
      rw [perform, hkept.listeners]
      refine ⟨.inl, fun h => h.elim id fun ⟨_, hop, hs⟩ => ?_⟩
      obtain rfl := Operation.start.inj hop
      cases he.symm.trans hs
    · rw [perform, hstarted.listeners]
      exact ⟨fun _ => .inr ⟨content, rfl, hok⟩, fun _ => rfl⟩
  | register l => exact hother nofun (register_closed l st)
  | stop force =>
    refine hother nofun ?_
    rcases hrun : st.running with _ | _
    · rw [perform, stop_of_not_running hrun]
    · rw [perform, (stop_of_running hrun force).listeners]
  | notify n => exact hother nofun (congrArg Registry.closed (s.notify_listeners n))
  | _ =>
    refine hother nofun (congrArg Registry.closed ?_)
    exact (undisturbed_perform (by exact trivial) st).listeners

/-- Among the operations is a start that goes well. -/
def HasStarted (s : Service δ α) (ops : List Operation) (st : State δ α) : Prop :=
  ∃ earlier content later, ops = earlier ++ .start content :: later ∧
    ((s.finding content).start (s.run earlier st)).value = .ok ()

/-- Some start has gone well if the first operation was one or one of the others is. -/
theorem hasStarted_cons (op : Operation) (ops : List Operation) (st : State δ α) :
    s.HasStarted (op :: ops) st ↔ s.Starts op st ∨ s.HasStarted ops (s.perform op st) := by
  constructor
  · rintro ⟨_ | ⟨first, earlier⟩, content, later, hsplit, hok⟩
    · obtain ⟨rfl, rfl⟩ := List.cons.inj hsplit
      exact .inl ⟨content, rfl, hok⟩
    · obtain ⟨rfl, rfl⟩ := List.cons.inj hsplit
      exact .inr ⟨earlier, content, later, rfl, hok⟩
  · rintro (⟨content, rfl, hok⟩ | ⟨earlier, content, later, rfl, hok⟩)
    · exact ⟨[], content, ops, rfl, hok⟩
    · exact ⟨op :: earlier, content, later, rfl, hok⟩

/-- The registration is closed after operations exactly if it was before or some start went well. -/
theorem closed_run (ops : List Operation) (st : State δ α) :
    (s.run ops st).listeners.closed = true ↔
      st.listeners.closed = true ∨ s.HasStarted ops st := by
  induction ops generalizing st with
  | nil =>
    -- without operations nothing has started
    refine ⟨.inl, fun h => h.elim id fun hs => ?_⟩
    obtain ⟨_ | _, _, _, hsplit, -⟩ := hs <;> cases hsplit
  | cons op ops ih =>
    rw [run, List.foldl_cons]
    change (s.run ops (s.perform op st)).listeners.closed = true ↔ _
    rw [ih, closed_perform, hasStarted_cons, or_assoc]

/-! ## Every reachable state -/

/-- **In every state that a new service can reach**, with any driver, any authority and whatever is
found in the folder of profiles: the stored devices belong to the service and are under their own
identifiers; without a run there are no devices and no name leads anywhere; the named profiles of
the stored devices are in the cache; and a listener is refused exactly if some start has gone
well. -/
theorem run_initial (s : Service δ α) (driver : δ) (authority : α) (ops : List Operation) :
    let st := s.run ops (.initial driver authority)
    (∀ i d, st.store.get? i = some d → d.service = s.name ∧ d.id = i) ∧
      (st.running = false →
        st.store.list = [] ∧ st.store.size = 0 ∧ ∀ n, st.store.find? n = none) ∧
      (∀ d ∈ st.store.list, d.profile.name ≠ "" → (st.cache.cached? d.profile.name).isSome) ∧
      ∀ l, (∃ e, (register l st).value = .error e) ↔
        s.HasStarted ops (.initial driver authority) := by
  intro st
  have hnew : s.Sound (State.initial driver authority) := sound_of_empty rfl
  have hsound : s.Sound st := hnew.run ops
  refine ⟨fun i d hd => ⟨hsound.owned i d hd, hsound.filed i d hd⟩, fun hrun => ?_,
    fun d hd => ?_, fun l => ?_⟩
  · rw [hsound.idle hrun]
    exact ⟨Store.list_empty, rfl, fun _ => rfl⟩
  · obtain ⟨i, hi⟩ := Store.mem_list.mp hd
    exact hsound.cached i d hi
  · rw [register_refused_iff, closed_run]
    exact ⟨fun h => h.elim nofun id, .inr⟩

end Service

end DeviceHost
