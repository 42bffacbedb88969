import DeviceHost.Proofs.Profiles
import DeviceHost.Service

/-!
# What a start does, and what a stop does

A start can go wrong at many places: the driver is not prepared, a profile is not taken, the devices
are not listed. Wherever it does, the devices, the listener and the run are left as they were, and
so they are by everything that comes before the devices are loaded: `Undisturbed`. A start that goes
well replaces all devices by the ones listed, save those of other owners: `Started`.

* `Authority.scripted` — an authority to play runs through with;
* `start_of_ok`, `start_of_error` — the two ways in which a start ends;
* `emits_start` — no listener hears of a start, however it ends;
* `stop_of_running`, `stop_of_not_running` — the two ways in which a stop ends.
-/

namespace DeviceHost

/-- The standard configuration, with a folder of profiles. -/
def Config.withProfiles (path : String) : Config :=
  { standard with service := { ServiceSection.standard with profilesDir := some path } }

/-- An authority that answers with the given bodies, one after the other, and with a failure when
there are none left: enough to play a run through. -/
def Authority.scripted : Authority (List (List UInt8)) where
  answer _ bodies :=
    match bodies with
    | body :: later => (.ok body, later)
    | [] => (.error (.request "no answer"), [])

/-- What is there is no failure, whatever failures would look like. -/
theorem eq_ok_of_toOption {ε β : Type} {r : Except ε β} {b : β} (h : r.toOption = some b) :
    r = .ok b := by
  rcases r with e | c
  · cases h
  · exact congrArg Except.ok (Option.some.inj h)

/-- The scripted authority answers a request for a device with the next body of its script. -/
theorem Authority.fetchDevice_scripted {body : List UInt8} {d : Device}
    (h : (Device.decode body).toOption = some d) (id : String) (later : List (List UInt8)) :
    (scripted.fetchDevice id (body :: later)).value = .ok d := by
  simp [fetchDevice, askFor, ask, Activity.bind, scripted, eq_ok_of_toOption h]

namespace Service

open Activity

variable {δ α : Type} {s : Service δ α} {st : State δ α}

/-! ## What leaves the devices alone -/

/-- The devices, the listener and the run are as before, and no profile is forgotten. -/
structure Undisturbed (st st' : State δ α) : Prop where
  /-- the devices are the same -/
  store : st'.store = st.store
  /-- so is the listener -/
  listeners : st'.listeners = st.listeners
  /-- it runs if it ran before -/
  running : st'.running = st.running
  /-- the profiles met before are still there -/
  cache : st.cache.Covers st'.cache

theorem Undisturbed.refl (st : State δ α) : Undisturbed st st :=
  ⟨rfl, rfl, rfl, ProfileCache.Covers.refl _⟩

/-- An activity leaves the devices of a state alone, and its events are of a kind. -/
abbrev Leaves (st₀ : State δ α) (P : Event → Prop) {β : Type} (m : Act δ α β) : Prop :=
  Keeps (Undisturbed st₀) P m

/-- The first half of a start only has the driver prepared. -/
theorem keeps_begin {I : State δ α → Prop} {P : Event → Prop} (s : Service δ α)
    (hdriver : ∀ st d, I st → I (driverPart.put d st)) (hcalled : ∀ c, P (.called c))
    (hlogged : ∀ line, P (.logged line)) : Keeps I P s.begin := by
  refine Keeps.bind Keeps.state fun st => ?_
  split
  · exact Keeps.pure _
  · refine Keeps.bind (Keeps.emit (hlogged _)) fun _ => ?_
    refine Keeps.bind (Keeps.on_part (Driver.emits_call (hcalled _) hlogged _) hdriver) fun r => ?_
    split <;> exact Keeps.pure _

section Leaves

variable {β : Type} {P : Event → Prop} (st₀ : State δ α)

/-- What is done to the driver alone leaves the devices alone. -/
theorem leaves_onDriver {m : Activity Event δ β} (hm : Emits P m) :
    Leaves st₀ P (m.on driverPart) :=
  Keeps.on_part hm fun _ _ h => ⟨h.store, h.listeners, h.running, h.cache⟩

theorem leaves_onAuthority {m : Activity Event α β} (hm : Emits P m) :
    Leaves st₀ P (m.on authorityPart) :=
  Keeps.on_part hm fun _ _ h => ⟨h.store, h.listeners, h.running, h.cache⟩

/-- Work on the profiles that forgets none leaves the devices alone. -/
theorem leaves_onProfiles {m : Activity Event (Profiles α) β}
    (hm : Profiles.Covering st₀.cache m) : Leaves st₀ Event.IsSilent (m.on profilesPart) :=
  Keeps.on hm (fun _ h => h.cache) fun _ _ h hc => ⟨h.store, h.listeners, h.running, hc⟩

theorem leaves_begin (s : Service δ α) : Leaves st₀ Event.IsUnheard s.begin :=
  s.keeps_begin (fun _ _ h => ⟨h.store, h.listeners, h.running, h.cache⟩) (fun _ => trivial)
    fun _ => trivial

theorem leaves_uploadProfiles (s : Service δ α) :
    Leaves st₀ Event.IsSilent s.uploadProfiles := by
  unfold uploadProfiles
  split
  · exact Keeps.pure _
  · refine Keeps.bind (leaves_onProfiles st₀ (Profiles.keeps_uploadFolder _ _ _)) fun r => ?_
    split
    · exact Keeps.pure _
    · exact Keeps.bind (Keeps.emit trivial) fun _ => Keeps.pure _

theorem leaves_rollBack (s : Service δ α) : Leaves st₀ Event.IsUnheard s.rollBack := by
  refine Keeps.bind (leaves_onDriver st₀ (Driver.emits_traced _ _)) fun r => ?_
  split
  · exact Keeps.pure _
  · exact Keeps.emit trivial

theorem leaves_profile (s : Service δ α) (name : String) :
    Leaves st₀ Event.IsSilent (s.profile name) :=
  leaves_onProfiles st₀ (Profiles.keeps_get _ _ _)

/-- A read command leaves the devices alone. -/
theorem leaves_read (s : Service δ α) (k : DeviceKey) (command : String) :
    Leaves st₀ (fun _ => True) (s.read k command) := by
  refine Keeps.bind Keeps.state fun st => ?_
  split
  · exact Keeps.pure _
  · refine Keeps.bind (leaves_onDriver st₀ (Emits.any _)) fun r => ?_
    split <;> exact Keeps.pure _

theorem leaves_write (s : Service δ α) (k : DeviceKey) (command : String)
    (texts : Table String) : Leaves st₀ (fun _ => True) (s.write k command texts) := by
  refine Keeps.bind Keeps.state fun st => ?_
  split
  · exact Keeps.pure _
  · refine Keeps.bind (leaves_onDriver st₀ (Emits.any _)) fun r => ?_
    split <;> exact Keeps.pure _

theorem leaves_getBatch (s : Service δ α) (id : String) (requests : List ResourceRequest) :
    Leaves st₀ (fun _ => True) (s.getBatch id requests) := by
  refine Keeps.bind Keeps.state fun st => ?_
  split
  · exact Keeps.pure _
  · exact leaves_onDriver st₀ (Emits.any _)

theorem leaves_putBatch (s : Service δ α) (id : String) (requests : List ResourceRequest)
    (values : List Value) : Leaves st₀ (fun _ => True) (s.putBatch id requests values) := by
  refine Keeps.bind Keeps.state fun st => ?_
  split
  · exact Keeps.pure _
  · exact leaves_onDriver st₀ (Emits.any _)

end Leaves

/-- What leaves the devices of every state alone, leaves only such events in any state. -/
theorem Leaves.emits {β : Type} {P : Event → Prop} {m : Act δ α β}
    (h : ∀ st₀, Leaves st₀ P m) : Emits P m :=
  fun st _ => ⟨trivial, (h st st (Undisturbed.refl st)).2⟩

/-! ## Starts -/

/-- A start gets past its beginning only if the service was not running. -/
theorem running_of_begin (h : (s.begin st).value = .ok ()) : st.running = false := by
  rcases hrun : st.running with _ | _
  · rfl
  · rw [begin, look_bind, hrun] at h
    cases h

/-- Those of the listed devices that belong to the service. -/
def owned (s : Service δ α) (listed : List Device) : List Device :=
  listed.filter fun d => d.isOwnedBy s.name

/-- The owned devices of a list are those that name the service. -/
theorem mem_owned {listed : List Device} {d : Device} :
    d ∈ s.owned listed ↔ d ∈ listed ∧ d.service = s.name := by
  simp [owned, Device.isOwnedBy]

/-- What the authority answers when a start asks for the devices of the service. -/
def listing (s : Service δ α) (st : State δ α) : Except AuthorityError (List Device) :=
  (s.authority.fetchDevices s.name (s.uploadProfiles (s.begin st).state).state.authority).value

/-- The listed devices that belong to the service have been loaded, and the rest is as before. -/
structure Loaded (s : Service δ α) (listed : List Device) (st st' : State δ α) : Prop where
  /-- the devices are those listed, one for each identifier -/
  store : st'.store = .ofList (s.owned listed)
  /-- the listener is the same -/
  listeners : st'.listeners = st.listeners
  /-- it runs if it ran before -/
  running : st'.running = st.running
  /-- the named profiles of the devices are remembered -/
  cache : ∀ d ∈ s.owned listed, d.profile.name ≠ "" →
    (st'.cache.cached? d.profile.name).isSome

/-- Loading a list fills the store with its owned devices, and the cache with their profiles. -/
theorem load_loaded {st₀ : State δ α} (h : Undisturbed st₀ st) (listed : List Device) :
    Loaded s listed st₀ (s.load listed st).state where
  store := rfl
  listeners := h.listeners
  running := h.running
  cache _ hd hp := ProfileCache.isSome_cached?_foldl_remember hd hp st.cache

/-- The devices are loaded when the authority has listed them; before that nothing is disturbed. -/
theorem sync_cases (s : Service δ α) (st : State δ α) :
    (∃ e, (s.sync st).value = .error e ∧ Undisturbed st (s.sync st).state) ∨
      ∃ listed n,
        (s.authority.fetchDevices s.name (s.uploadProfiles st).state.authority).value =
            .ok listed ∧
          (s.sync st).value = .ok n ∧ Loaded s listed st (s.sync st).state := by
  have hup := (leaves_uploadProfiles st s st (Undisturbed.refl st)).1
  rw [sync, value_bind, state_bind]
  rcases (s.uploadProfiles st).value with e | _
  · exact .inl ⟨e, rfl, hup⟩
  · dsimp only
    have hask := (leaves_onAuthority st (s.authority.emits_fetchDevices s.name) _ hup).1
    rw [value_bind, state_bind]
    -- work on the authority's part has the value of the work itself
    change _ ∨ ∃ listed n,
      ((s.authority.fetchDevices s.name).on authorityPart (s.uploadProfiles st).state).value = _ ∧ _
    rcases ((s.authority.fetchDevices s.name).on authorityPart
      (s.uploadProfiles st).state).value with e | listed
    · exact .inl ⟨_, rfl, hask⟩
    · exact .inr ⟨listed, _, rfl, rfl, load_loaded hask listed⟩

/-- The service has been started with the listed devices. -/
structure Started (s : Service δ α) (listed : List Device) (st st' : State δ α) : Prop where
  /-- it did not run before -/
  idle : st.running = false
  /-- the devices are those listed that belong to the service, one for each identifier -/
  store : st'.store = .ofList (s.owned listed)
  /-- no listener is taken any more -/
  listeners : st'.listeners = st.listeners.close
  /-- it runs -/
  running : st'.running = true
  /-- the named profiles of the devices are remembered -/
  cache : ∀ d ∈ s.owned listed, d.profile.name ≠ "" →
    (st'.cache.cached? d.profile.name).isSome

/-- **A start** either fails and disturbs nothing, or loads what the authority lists. -/
theorem start_cases (s : Service δ α) (st : State δ α) :
    (∃ e, (s.start st).value = .error e ∧ Undisturbed st (s.start st).state) ∨
      ∃ listed, (s.start st).value = .ok () ∧ s.listing st = .ok listed ∧
        Started s listed st (s.start st).state := by
  have hbegin := (leaves_begin st s st (Undisturbed.refl st)).1
  rw [start, value_bind, state_bind]
  rcases hb : (s.begin st).value with e | _
  · exact .inl ⟨e, rfl, hbegin⟩
  · have hidle := running_of_begin hb
    dsimp only
    rw [complete, value_bind, state_bind]
    rcases s.sync_cases (s.begin st).state with ⟨e, hv, hsync⟩ | ⟨listed, n, hlist, hv, hsync⟩
    · -- the driver is stopped again
      rw [hv]
      have hkept : Undisturbed st (s.sync (s.begin st).state).state :=
        ⟨hsync.store.trans hbegin.store, hsync.listeners.trans hbegin.listeners,
          hsync.running.trans hbegin.running, hbegin.cache.trans hsync.cache⟩
      exact .inl ⟨e, rfl, (leaves_rollBack st s _ hkept).1⟩
    · -- nothing else can have started the service in the meantime
      have hrun : (s.sync (s.begin st).state).state.running = false := by
        rw [hsync.running, hbegin.running, hidle]
      rw [hv]
      dsimp only
      rw [look_bind, value_bind, state_bind, hrun]
      refine .inr ⟨listed, rfl, hlist, hidle, hsync.store, ?_, rfl, hsync.cache⟩
      change (s.sync (s.begin st).state).state.listeners.close = _
      rw [hsync.listeners, hbegin.listeners]

/-- A start that goes well has been given a list, and leaves the service started with it. -/
theorem start_of_ok (h : (s.start st).value = .ok ()) :
    ∃ listed, s.listing st = .ok listed ∧ Started s listed st (s.start st).state := by
  rcases s.start_cases st with ⟨e, he, -⟩ | ⟨listed, -, hlist, hstarted⟩
  · rw [he] at h
    cases h
  · exact ⟨listed, hlist, hstarted⟩

/-- A start that fails leaves the devices alone. -/
theorem start_of_error {e : ServiceError} (h : (s.start st).value = .error e) :
    Undisturbed st (s.start st).state := by
  rcases s.start_cases st with ⟨-, -, hkept⟩ | ⟨_, hok, -⟩
  · exact hkept
  · rw [hok] at h
    cases h

/-! ### No listener hears of a start -/

/-- Nobody is asked or told anything when the devices are loaded. -/
theorem logged_load (s : Service δ α) (listed : List Device) :
    Emits Event.IsLogged (s.load listed) := by
  refine Keeps.bind (Keeps.emitAll fun e he => ?_) fun _ =>
    Keeps.bind (Keeps.emitAll fun e he => ?_) fun _ =>
      Keeps.bind (Keeps.modify fun _ _ => trivial) fun _ => Keeps.pure _
  · obtain ⟨d, -, rfl⟩ := List.mem_map.mp he
    trivial
  · obtain ⟨m, -, rfl⟩ := List.mem_map.mp he
    trivial

theorem emits_load (s : Service δ α) (listed : List Device) :
    Emits Event.IsSilent (s.load listed) :=
  (s.logged_load listed).mono fun _ => Event.IsLogged.isSilent

theorem emits_sync (s : Service δ α) : Emits Event.IsSilent s.sync := by
  refine Keeps.bind (Leaves.emits fun st₀ => leaves_uploadProfiles st₀ s) fun r => ?_
  split
  · exact Keeps.pure _
  · refine Keeps.bind (Keeps.on_part (s.authority.emits_fetchDevices _) fun _ _ h => h) fun r => ?_
    split
    · exact Keeps.pure _
    · exact Keeps.bind (s.emits_load _) fun _ => Keeps.pure _

theorem emits_complete (s : Service δ α) : Emits Event.IsUnheard s.complete := by
  refine Keeps.bind (s.emits_sync.mono fun _ => Event.IsSilent.isUnheard) fun r => ?_
  split
  · refine Keeps.bind (Leaves.emits fun st₀ => leaves_rollBack st₀ s) fun _ => Keeps.pure _
  · refine Keeps.bind Keeps.state fun st => Keeps.bind (Keeps.modify fun _ h => h) fun _ => ?_
    split
    · exact Keeps.pure _
    · exact Keeps.bind (Keeps.emit trivial) fun _ => Keeps.pure _

/-- No listener hears of a start, however it ends. -/
theorem emits_start (s : Service δ α) : Emits Event.IsUnheard s.start := by
  refine Keeps.bind (Leaves.emits fun st₀ => leaves_begin st₀ s) fun r => ?_
  split
  · exact Keeps.pure _
  · exact s.emits_complete

/-! ## Stops -/

/-- Everything that a stop leaves behind. -/
structure Stopped (st st' : State δ α) : Prop where
  /-- no device is kept -/
  store : st'.store = .empty
  /-- no profile either -/
  cache : st'.cache = .empty
  /-- the listener stays -/
  listeners : st'.listeners = st.listeners
  /-- it does not run -/
  running : st'.running = false

/-- What is left of a stop when the driver has answered. -/
def forget (s : Service δ α) (answer : Except DriverError Unit) :
    Act δ α (Except ServiceError Unit) := do
  match answer with
  | .error e => log .error s!"Driver {s.driver.name} failed to stop: {e.message}"
  | .ok () => pure ()
  Activity.modify fun st => { st with store := .empty, cache := .empty }
  return .ok ()

/-- The driver's answer only decides whether a line is written to the log. -/
theorem forget_state (s : Service δ α) (answer : Except DriverError Unit) (st : State δ α) :
    (s.forget answer st).state = { st with store := .empty, cache := .empty } := by
  rcases answer with e | _ <;> rfl

/-- A stop of a running service empties it, whatever the driver answers. -/
theorem stop_of_running (hrun : st.running = true) (force : Bool) :
    Stopped st (s.stop force st).state := by
  have hdriver := (leaves_onDriver { st with running := false }
    (Emits.any (s.driver.callStop force)) _ (Undisturbed.refl _)).1
  have hstop : (s.stop force st).state =
      (((s.driver.callStop force).on driverPart >>= s.forget) { st with running := false }).state :=
    by
      rw [stop, look_bind, hrun]
      rfl
  rw [hstop, state_bind, forget_state]
  exact ⟨rfl, rfl, hdriver.listeners, hdriver.running⟩

/-- Without a run a stop is refused and changes nothing. -/
theorem stop_of_not_running (hrun : st.running = false) (force : Bool) :
    s.stop force st = ⟨.error .notRunning, st, []⟩ := by
  rw [stop, look_bind, hrun]
  rfl

end Service

end DeviceHost
