import DeviceHost.Proofs.Sessions

/-!
# A start that fails

A start prepares the driver, hands over profile after profile, and asks for the devices, and it may
go wrong at each of these steps. By then the driver has been called, the authority has been asked,
and profiles have been met; and the driver, which is stopped again, may fail at that too. None of it
shows: `start_failed`.

* `Fault` — what goes wrong in a start, with the calls of the driver that this comes to;
* `value_complete` — the driver's answer to being stopped again is not part of the result;
* `state_of_start` — what may be different afterwards; a search for devices goes on beside a start.
-/

namespace DeviceHost

namespace Service

open Activity

variable {δ α : Type} {s : Service δ α} {st : State δ α}

/-! ## What goes wrong -/

/-- What makes the start of a service that does not run fail, with the error of the start and the
calls of the driver. How the driver answers when it is stopped again does not occur here. -/
inductive Fault (s : Service δ α) (st : State δ α) : ServiceError → List DriverCall → Prop
  /-- the driver cannot be prepared; it is not stopped then -/
  | driverInit (e : DriverError)
    (refused : (s.driver.init s.name s.config.driver st.driver).value = .error e) :
    Fault s st (.driverInit e) [s.initCall]
  /-- a profile of the folder is not handed over -/
  | profiles (f : Folder) (e : FolderError)
    (prepared : (s.driver.init s.name s.config.driver st.driver).value = .ok ())
    (folder : s.folder = some f)
    (refused : (Profiles.uploadFolder s.authority f ⟨st.cache, st.authority⟩).value = .error e) :
    Fault s st (.profiles e) [s.initCall, .stop true]
  /-- the profiles are handed over, but the devices are not listed -/
  | initialSync (e : AuthorityError)
    (prepared : (s.driver.init s.name s.config.driver st.driver).value = .ok ())
    (handedOver : (s.uploadProfiles (s.begin st).state).value = .ok ())
    (refused : s.listing st = .error e) :
    Fault s st (.initialSync e) [s.initCall, .stop true]

/-- The profiles fail only by an upload from a folder that is configured. -/
theorem uploadProfiles_of_error {e : ServiceError} (h : (s.uploadProfiles st).value = .error e) :
    ∃ f e', s.folder = some f ∧
      (Profiles.uploadFolder s.authority f ⟨st.cache, st.authority⟩).value = .error e' ∧
      e = .profiles e' := by
  rw [uploadProfiles] at h
  rcases hf : s.folder with _ | f <;> rw [hf] at h
  · cases h
  · dsimp only at h
    rw [value_bind] at h
    -- work on the profiles of a state has the value of the work itself
    have hvalue : ((Profiles.uploadFolder s.authority f).on profilesPart st).value =
        (Profiles.uploadFolder s.authority f ⟨st.cache, st.authority⟩).value := rfl
    rw [hvalue] at h
    rcases hup : (Profiles.uploadFolder s.authority f ⟨st.cache, st.authority⟩).value
      with e' | n <;> rw [hup] at h
    · exact ⟨f, e', rfl, hup, (Except.error.inj h).symm⟩
    · cases h

/-- Either a profile is not handed over, or after that the devices are not listed. -/
theorem sync_of_error {e : ServiceError} (h : (s.sync st).value = .error e) :
    (s.uploadProfiles st).value = .error e ∨
      (s.uploadProfiles st).value = .ok () ∧ ∃ e', e = .initialSync e' ∧
        (s.authority.fetchDevices s.name (s.uploadProfiles st).state.authority).value =
          .error e' := by
  rw [sync, value_bind] at h
  rcases hup : (s.uploadProfiles st).value with e' | _ <;> rw [hup] at h
  · obtain rfl := Except.error.inj h
    exact .inl rfl
  · refine .inr ⟨rfl, ?_⟩
    dsimp only at h
    rw [value_bind] at h
    have hvalue : ((s.authority.fetchDevices s.name).on authorityPart
        (s.uploadProfiles st).state).value =
          (s.authority.fetchDevices s.name (s.uploadProfiles st).state.authority).value := rfl
    rw [hvalue] at h
    rcases hlist : (s.authority.fetchDevices s.name (s.uploadProfiles st).state.authority).value
      with e' | listed <;> rw [hlist] at h
    · exact ⟨e', (Except.error.inj h).symm, rfl⟩
    · cases h

/-- What the second half of a start comes to is settled before the driver is stopped again. -/
theorem value_complete (s : Service δ α) (st : State δ α) :
    (s.complete st).value = (s.sync st).value.bind fun _ =>
      if (s.sync st).state.running then .error .alreadyStarted else .ok () := by
  rw [complete, value_bind]
  rcases (s.sync st).value with e | n
  · rfl
  · dsimp only
    rw [look_bind, value_bind]
    rcases (s.sync st).state.running with _ | _ <;> rfl

/-- Where the completion of a start fails, the sync has failed and the driver is stopped by
force. -/
theorem complete_of_error {e : ServiceError} (hrun : st.running = false)
    (h : (s.complete st).value = .error e) :
    (s.sync st).value = .error e ∧ driverCalls (s.complete st).trace = [.stop true] := by
  rcases complete_cases (s := s) hrun with ⟨e', -, -, -, hcalls⟩ | ⟨hok, -, -⟩
  · refine ⟨?_, hcalls⟩
    rw [value_complete, running_sync, hrun] at h
    rcases hsync : (s.sync st).value with e'' | n <;> rw [hsync] at h
    · exact congrArg Except.error (Except.error.inj h)
    · cases h
  · cases hok.symm.trans h

/-- If the start of a service that does not run fails, something has gone wrong before the driver is
stopped again, and its error is that of the start. -/
theorem fault_of_start {e : ServiceError} (hrun : st.running = false)
    (h : (s.start st).value = .error e) : Fault s st e (driverCalls (s.start st).trace) := by
  obtain ⟨hvalue, hstate, hcalls⟩ := begin_of_not_running (s := s) hrun
  have hidle : (s.begin st).state.running = false := by
    rw [hstate]
    exact hrun
  rw [start, value_bind, hvalue] at h
  rw [start, trace_bind, driverCalls_append, hcalls, hvalue]
  rcases hinit : (s.driver.init s.name s.config.driver st.driver).value with e' | ⟨⟩ <;>
    rw [hinit] at h
  · obtain rfl := Except.error.inj h
    exact .driverInit e' hinit
  · obtain ⟨hsync, hstop⟩ := complete_of_error hidle h
    change Fault s st e ([s.initCall] ++ driverCalls (s.complete (s.begin st).state).trace)
    rw [hstop]
    rcases sync_of_error hsync with hup | ⟨hup, e', rfl, hlisting⟩
    · -- the driver's preparation has changed neither the profiles nor the authority
      obtain ⟨f, e', hfolder, hrefused, rfl⟩ := uploadProfiles_of_error hup
      rw [hstate] at hrefused
      exact .profiles f e' hinit hfolder hrefused
    · exact .initialSync e' hinit hup hlisting

/-- What a start comes to is the same, however the driver answers when it is stopped. -/
theorem value_start_stop (s : Service δ α) (st : State δ α) (stop : Bool → DriverAct δ Unit) :
    (start { s with driver := { s.driver with stop := stop } } st).value = (s.start st).value := by
  -- up to the point where the driver would be stopped, nothing differs
  have hbegin : begin { s with driver := { s.driver with stop := stop } } = s.begin := rfl
  have hsync : sync { s with driver := { s.driver with stop := stop } } = s.sync := rfl
  rw [start, start, value_bind, value_bind, hbegin]
  rcases (s.begin st).value with e | _
  · rfl
  · dsimp only
    rw [value_complete, value_complete, hsync]

/-! ## What is left alone -/

/-- An activity neither begins a search for devices nor ends one. -/
abbrev LeavesSearch (b : Bool) {β : Type} (m : Act δ α β) : Prop :=
  Keeps (fun st => st.discovering = b) (fun _ => True) m

section LeavesSearch

variable (b : Bool) (s : Service δ α)

theorem leavesSearch_uploadProfiles : LeavesSearch b s.uploadProfiles := by
  unfold uploadProfiles
  split
  · exact Keeps.pure _
  · refine Keeps.bind (Keeps.on_part (Emits.any _) fun _ _ h => h) fun r => ?_
    split
    · exact Keeps.pure _
    · exact Keeps.bind (Keeps.emit trivial) fun _ => Keeps.pure _

theorem leavesSearch_load (listed : List Device) : LeavesSearch b (s.load listed) :=
  Keeps.bind (Keeps.emitAll fun _ _ => trivial) fun _ =>
    Keeps.bind (Keeps.emitAll fun _ _ => trivial) fun _ =>
      Keeps.bind (Keeps.modify fun _ h => h) fun _ => Keeps.pure _

theorem leavesSearch_sync : LeavesSearch b s.sync := by
  refine Keeps.bind (leavesSearch_uploadProfiles b s) fun r => ?_
  split
  · exact Keeps.pure _
  · refine Keeps.bind (Keeps.on_part (Emits.any _) fun _ _ h => h) fun r => ?_
    split
    · exact Keeps.pure _
    · exact Keeps.bind (leavesSearch_load b s _) fun _ => Keeps.pure _

theorem leavesSearch_rollBack : LeavesSearch b s.rollBack := by
  refine Keeps.bind (Keeps.on_part (Emits.any _) fun _ _ h => h) fun r => ?_
  split
  · exact Keeps.pure _
  · exact Keeps.emit trivial

theorem leavesSearch_complete : LeavesSearch b s.complete := by
  refine Keeps.bind (leavesSearch_sync b s) fun r => ?_
  split
  · exact Keeps.bind (leavesSearch_rollBack b s) fun _ => Keeps.pure _
  · refine Keeps.bind Keeps.state fun st => Keeps.bind (Keeps.modify fun _ h => h) fun _ => ?_
    split
    · exact Keeps.pure _
    · exact Keeps.bind (Keeps.emit trivial) fun _ => Keeps.pure _

/-- No start touches the state of the discovery. -/
theorem leavesSearch_start : LeavesSearch b s.start := by
  refine Keeps.bind (s.keeps_begin (fun _ _ h => h) (fun _ => trivial) fun _ => trivial) fun r => ?_
  split
  · exact Keeps.pure _
  · exact leavesSearch_complete b s

end LeavesSearch

/-- A failed start changes the cache of profiles and the two partners at most. -/
theorem state_of_start {e : ServiceError} (h : (s.start st).value = .error e) :
    ∃ cache driver authority,
      (s.start st).state =
        { st with cache := cache, driver := driver, authority := authority } := by
  have hkept := start_of_error h
  have hsearch := (leavesSearch_start st.discovering s st rfl).1
  rcases hst : (s.start st).state with ⟨store, listeners, cache, running, discovering, d, a⟩
  rw [hst] at hkept hsearch
  obtain ⟨rfl, rfl, rfl, -⟩ := hkept
  obtain rfl := hsearch
  exact ⟨cache, d, a, rfl⟩

/-- **A start that fails shows nowhere but in the profiles that have been met**, in any state and
whatever the driver and the authority answer. If the service runs, it says so and does nothing else.
If it does not, it still does not: the devices, the names that lead to them, the listener, and
whether another one is taken are as before, no profile is forgotten, and no listener hears of it.
The error is that of what went wrong, also if the driver fails to stop again. -/
theorem start_failed {e : ServiceError} (h : (s.start st).value = .error e) :
    (st.running = true →
      e = .alreadyStarted ∧ s.start st = ⟨.error .alreadyStarted, st, []⟩) ∧
    (st.running = false →
      (∃ cache driver authority, (s.start st).state =
          { st with cache := cache, driver := driver, authority := authority }) ∧
        st.cache.Covers (s.start st).state.cache ∧
        (∀ l, heardBy l (s.start st).trace = []) ∧
        Fault s st e (driverCalls (s.start st).trace) ∧
        ∀ stop, (start { s with driver := { s.driver with stop := stop } } st).value = .error e) :=
    by
  refine ⟨fun hrun => ?_, fun hrun => ?_⟩
  · have hstart := start_of_running (s := s) hrun
    rw [hstart] at h
    exact ⟨(Except.error.inj h).symm, hstart⟩
  · refine ⟨state_of_start h, (start_of_error h).cache, fun l => ?_, fault_of_start hrun h,
      fun stop => ?_⟩
    · exact heardBy_of_unheard (s.emits_start.trace st)
    · rw [value_start_stop]
      exact h

/-- The service has been started and stopped before, and its driver never stops well. Now the
profile of the folder is met again, and then the authority does not list the devices. -/
theorem start_failed_of_script :
    let driver : Driver Unit :=
      { Template.driver with stop := fun _ => Activity.pure (.error .timeout) }
    let content : FolderContent :=
      .ok [(Utf8.ofString "meter.yaml", .file (.ok (Utf8.ofString "name: meter")))]
    let s : Service Unit (List (List UInt8)) :=
      finding ⟨.withProfiles "profiles", driver, .scripted, none⟩ content
    let meter := Utf8.ofString "\x7b\"name\":\"meter\"\x7d"
    let st := s.run [.register Template.listener, .start content, .stop false]
      (.initial () [meter, Utf8.ofString "[]", meter])
    ∃ e, (s.start st).value = .error e ∧
      e.message = "Initial device sync failed: Metadata request failed: no answer" ∧
      (st.running = false ∧ st.cache.size = 0 ∧ (s.start st).state.cache.size = 1) ∧
      (∃ cache driver authority, (s.start st).state =
          { st with cache := cache, driver := driver, authority := authority }) ∧
        st.cache.Covers (s.start st).state.cache ∧
        (∀ l, heardBy l (s.start st).trace = []) ∧
        Fault s st e (driverCalls (s.start st).trace) ∧
        ∀ stop, (start { s with driver := { s.driver with stop := stop } } st).value = .error e :=
    by
  intro driver content s meter st
  obtain ⟨hrun, hempty, hmet⟩ : st.running = false ∧ st.cache.size = 0 ∧
      (s.start st).state.cache.size = 1 := by decide +kernel
  have hword : (s.start st).value.mapError ServiceError.message =
      .error "Initial device sync failed: Metadata request failed: no answer" := by decide +kernel
  clear_value st
  rcases hfails : (s.start st).value with e | _ <;> rw [hfails] at hword
  · have hfailed := start_failed hfails
    exact ⟨e, rfl, Except.error.inj hword, ⟨hrun, hempty, hmet⟩, hfailed.2 hrun⟩
  · cases hword

end Service

end DeviceHost
