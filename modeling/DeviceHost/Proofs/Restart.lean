import DeviceHost.Driver.Template
import DeviceHost.Proofs.Alike
import DeviceHost.Proofs.Reachable

/-!
# A start after a stop is a first start

A start looks at the devices, at the profiles and at whether the service runs, and at what the
driver and the authority answer; it looks neither at the listener nor at anything else that has
happened before. A stop takes away all devices and all profiles, also if the driver fails to stop.
So a service that was stopped starts like a new one.

* `Driver.StartsAlike`, `Authority.Alike` — the answers are the same;
* `State.StartsAlike` — everything that a start looks at is the same;
* `alike_start` — then two starts come to the same, one lemma for each part of a start;
* `start_of_stopped` — so a stopped service starts like a new one.

The driver and the authority of the new service may be others than those of the stopped one, as long
as they answer alike from then on.
-/

namespace DeviceHost

open Activity (Alike)

variable {δ δ' α α' : Type} {RD : δ → δ' → Prop} {RA : α → α' → Prop}

/-! ## The same answers -/

/-- A start cannot tell two drivers in related states apart: they have the same name, and they
answer alike when they are prepared or stopped. -/
structure Driver.StartsAlike (RD : δ → δ' → Prop) (d : Driver δ) (d' : Driver δ') : Prop where
  /-- the names are the same -/
  name : d.name = d'.name
  /-- so are the answers to being prepared -/
  init : ∀ service settings, Alike RD (d.init service settings) (d'.init service settings)
  /-- so are the answers to being stopped -/
  stop : ∀ force, Alike RD (d.stop force) (d'.stop force)

/-- Two authorities in related states answer alike. -/
def Authority.Alike (RA : α → α' → Prop) (a : Authority α) (a' : Authority α') : Prop :=
  ∀ q, Activity.Alike RA (a.ask q) (a'.ask q)

theorem Driver.StartsAlike.refl (d : Driver δ) : Driver.StartsAlike Eq d d :=
  ⟨rfl, fun _ _ => .refl _, fun _ => .refl _⟩

theorem Authority.Alike.refl (a : Authority α) : Authority.Alike Eq a a :=
  fun _ => .refl _

/-- Traced calls of drivers that behave alike are alike. -/
theorem Driver.alike_traced {β : Type} (c : DriverCall) {m : DriverAct δ β} {m' : DriverAct δ' β}
    (hm : Alike RD m m') : Alike RD (Driver.traced c m) (Driver.traced c m') :=
  .bind (.emit _) fun _ => .relabel _ hm

/-! ## Requests to the authority -/

namespace Authority

variable {a : Authority α} {a' : Authority α'} (ha : Authority.Alike RA a a')

include ha

/-- Authorities that answer alike are asked alike, and their answers read alike. -/
theorem alike_askFor {β : Type} (q : Inquiry) (read : List UInt8 → Except Problem β) :
    Activity.Alike RA (a.askFor q read) (a'.askFor q read) := by
  refine .bind (ha q) fun r => ?_
  rcases r with e | body
  · exact .pure _
  · dsimp only
    split <;> exact .pure _

theorem alike_fetchDevices (service : String) :
    Activity.Alike RA (a.fetchDevices service) (a'.fetchDevices service) := by
  refine .bind (alike_askFor ha _ _) fun r => ?_
  rcases r with e | entries
  · exact .pure _
  · exact .bind (.emitAll _) fun _ => .pure _

theorem alike_upload (yaml : String) : Activity.Alike RA (a.upload yaml) (a'.upload yaml) := by
  refine .bind (ha _) fun r => ?_
  rcases r with e | body
  · exact .pure _
  · exact .pure _

end Authority

/-! ## Profiles -/

namespace Profiles

/-- The same profiles are kept, and the authorities are in related states. -/
structure Alike (RA : α → α' → Prop) (ps : Profiles α) (ps' : Profiles α') : Prop where
  /-- the caches are the same -/
  cache : ps.cache = ps'.cache
  /-- the authorities are related -/
  authority : RA ps.authority ps'.authority

theorem alike_onAuthority {β : Type} {m : Activity Event α β} {m' : Activity Event α' β}
    (hm : Activity.Alike RA m m') :
    Activity.Alike (Alike RA) (m.on authorityPart) (m'.on authorityPart) :=
  .on hm (fun _ _ h => h.authority) fun _ _ _ _ h ha => ⟨h.cache, ha⟩

variable {a : Authority α} {a' : Authority α'} (ha : Authority.Alike RA a a')

include ha

/-- The look-up of a profile is alike from equal caches. -/
theorem alike_get (name : String) : Activity.Alike (Alike RA) (get a name) (get a' name) := by
  refine .look fun ps ps' h => ?_
  rw [h.cache]
  rcases ps'.cache.cached? name with _ | p
  · refine .bind (alike_onAuthority (a.alike_askFor ha _ _)) fun r => ?_
    rcases r with e | p
    · exact .pure _
    · refine .bind (.emit _) fun _ => .bind (.modify fun ps ps' h => ?_) fun _ => .pure _
      exact ⟨congrArg (ProfileCache.keep · name p) h.cache, h.authority⟩
  · exact .pure _

theorem alike_uploadFile (path : String) (content : FileContent) :
    Activity.Alike (Alike RA) (uploadFile a path content) (uploadFile a' path content) := by
  unfold uploadFile
  rcases readProfile path content with e | ⟨yaml, name⟩
  · exact .pure _
  · refine .bind (.emit _) fun _ => .bind (alike_get ha name) fun known => ?_
    split
    · exact .bind (.emit _) fun _ => .pure _
    · refine .bind (.emit _) fun _ => ?_
      refine .bind (alike_onAuthority (a.alike_upload ha yaml)) fun uploaded => ?_
      rcases uploaded with e | _
      · exact .pure _
      · refine .bind (alike_get ha name) fun found => ?_
        rcases found with e | p
        · exact .pure _
        · exact .pure _
    · exact .pure _

theorem alike_uploadFiles (folder : String) (count : Nat) (files : List (FileName × FileContent)) :
    Activity.Alike (Alike RA) (uploadFiles a folder count files)
      (uploadFiles a' folder count files) := by
  induction files generalizing count with
  | nil => exact .pure _
  | cons f files ih =>
    refine .bind (alike_uploadFile ha _ _) fun r => ?_
    rcases r with e | isNew
    · exact .pure _
    · exact ih _

/-- An upload is alike from equal caches. -/
theorem alike_uploadFolder (f : Folder) :
    Activity.Alike (Alike RA) (uploadFolder a f) (uploadFolder a' f) := by
  unfold uploadFolder
  rcases f.entries with reason | entries
  · exact .pure _
  · exact .bind (.emit _) fun _ => alike_uploadFiles ha _ _ _

end Profiles

/-! ## Starts -/

namespace Service

/-- Two services with the same configuration and the same profiles to hand over, whose drivers and
authorities answer alike. -/
structure StartsAlike (RD : δ → δ' → Prop) (RA : α → α' → Prop) (s : Service δ α)
    (s' : Service δ' α') : Prop where
  /-- the configurations are the same -/
  config : s.config = s'.config
  /-- so are the folders of profiles -/
  folder : s.folder = s'.folder
  /-- the drivers answer alike -/
  driver : Driver.StartsAlike RD s.driver s'.driver
  /-- so do the authorities -/
  authority : Authority.Alike RA s.authority s'.authority

theorem StartsAlike.refl (s : Service δ α) : StartsAlike Eq Eq s s :=
  ⟨rfl, rfl, .refl _, .refl _⟩

/-- Two states in which a start comes to the same. The listener is not among what is compared, nor
is a search for devices that is under way. -/
structure State.StartsAlike (RD : δ → δ' → Prop) (RA : α → α' → Prop) (st : State δ α)
    (st' : State δ' α') : Prop where
  /-- the devices are the same, and names lead to the same ones -/
  store : st.store = st'.store
  /-- the profiles are the same -/
  cache : st.cache = st'.cache
  /-- both run or neither does -/
  running : st.running = st'.running
  /-- the drivers are in related states -/
  driver : RD st.driver st'.driver
  /-- so are the authorities -/
  authority : RA st.authority st'.authority

section Parts

variable {β : Type}

/-- What drivers do alike keeps the states of the services alike. -/
theorem alike_onDriver {m : Activity Event δ β} {m' : Activity Event δ' β} (hm : Alike RD m m') :
    Alike (State.StartsAlike RD RA) (m.on driverPart : Act δ α β)
      (m'.on driverPart : Act δ' α' β) :=
  .on hm (fun _ _ h => h.driver) fun _ _ _ _ h hd =>
    ⟨h.store, h.cache, h.running, hd, h.authority⟩

theorem alike_onAuthority {m : Activity Event α β} {m' : Activity Event α' β}
    (hm : Alike RA m m') :
    Alike (State.StartsAlike RD RA) (m.on authorityPart : Act δ α β)
      (m'.on authorityPart : Act δ' α' β) :=
  .on hm (fun _ _ h => h.authority) fun _ _ _ _ h ha =>
    ⟨h.store, h.cache, h.running, h.driver, ha⟩

theorem alike_onProfiles {m : Activity Event (Profiles α) β} {m' : Activity Event (Profiles α') β}
    (hm : Alike (Profiles.Alike RA) m m') :
    Alike (State.StartsAlike RD RA) (m.on profilesPart : Act δ α β)
      (m'.on profilesPart : Act δ' α' β) :=
  .on hm (fun _ _ h => ⟨h.cache, h.authority⟩) fun _ _ _ _ h hp =>
    ⟨h.store, hp.cache, h.running, h.driver, hp.authority⟩

end Parts

variable {s : Service δ α} {s' : Service δ' α'} (hs : StartsAlike RD RA s s')

include hs

theorem StartsAlike.name : s.name = s'.name :=
  congrArg (fun c => c.service.name) hs.config

theorem alike_begin : Alike (State.StartsAlike RD RA) s.begin s'.begin := by
  refine .look fun st st' h => ?_
  rw [h.running, hs.name, hs.config, hs.driver.name]
  split
  · exact .pure _
  · refine .bind (.emit _) fun _ => ?_
    refine .bind (alike_onDriver (Driver.alike_traced _ (hs.driver.init _ _))) fun r => ?_
    rcases r with e | _
    · exact .pure _
    · exact .pure _

theorem alike_uploadProfiles :
    Alike (State.StartsAlike RD RA) s.uploadProfiles s'.uploadProfiles := by
  unfold uploadProfiles
  rw [hs.folder]
  rcases s'.folder with _ | f
  · exact .pure _
  · refine .bind (alike_onProfiles (Profiles.alike_uploadFolder hs.authority f)) fun r => ?_
    rcases r with e | n
    · exact .pure _
    · exact .bind (.emit _) fun _ => .pure _

theorem alike_load (listed : List Device) :
    Alike (State.StartsAlike RD RA) (s.load listed) (s'.load listed) := by
  unfold load
  rw [hs.name]
  refine .bind (.emitAll _) fun _ => .bind (.emitAll _) fun _ =>
    .bind (.modify fun st st' h => ?_) fun _ => .pure _
  exact ⟨rfl, congrArg (List.foldl (fun c (d : Device) => c.remember d.profile) · _) h.cache,
    h.running, h.driver, h.authority⟩

/-- The syncs of two starts are alike. -/
theorem alike_sync : Alike (State.StartsAlike RD RA) s.sync s'.sync := by
  refine .bind (alike_uploadProfiles hs) fun r => ?_
  rcases r with e | _
  · exact .pure _
  · dsimp only
    rw [hs.name]
    refine .bind (alike_onAuthority (s.authority.alike_fetchDevices hs.authority _)) fun r => ?_
    rcases r with e | listed
    · exact .pure _
    · exact .bind (alike_load hs listed) fun _ => .pure _

theorem alike_rollBack : Alike (State.StartsAlike RD RA) s.rollBack s'.rollBack := by
  unfold rollBack
  rw [hs.driver.name]
  refine .bind (alike_onDriver (Driver.alike_traced _ (hs.driver.stop _))) fun r => ?_
  rcases r with e | _
  · exact .emit _
  · exact .pure _

/-- The completions of two starts are alike, also where they roll back. -/
theorem alike_complete : Alike (State.StartsAlike RD RA) s.complete s'.complete := by
  refine .bind (alike_sync hs) fun r => ?_
  rcases r with e | n
  · exact .bind (alike_rollBack hs) fun _ => .pure _
  · refine .look fun st st' h => .bind (.modify fun _ _ h => ?_) fun _ => ?_
    · exact ⟨h.store, h.cache, rfl, h.driver, h.authority⟩
    · rw [h.running, hs.name]
      split
      · exact .pure _
      · exact .bind (.emit _) fun _ => .pure _

/-- **A start comes to the same** in two states that agree in what it looks at. -/
theorem alike_start : Alike (State.StartsAlike RD RA) s.start s'.start := by
  refine .bind (alike_begin hs) fun r => ?_
  rcases r with e | _
  · exact .pure _
  · exact alike_complete hs

/-! ## After a stop -/

/-- **A stopped service starts like a new one**, whatever has happened before the stop, and also if
the driver has failed to stop. A stop leaves no device and no profile. If the drivers and the
authorities of the stopped service and of a new one, of the same configuration, answer alike from
then on, both starts have the same result and leave the same trace, so they send the same requests;
and both services end with the same devices, found by identifier and by name, and with the same
profiles. -/
theorem start_of_stopped {st : State δ α} (hrun : st.running = true) (force : Bool) {driver : δ'}
    {authority : α'} (hdriver : RD (s.stop force st).state.driver driver)
    (hauthority : RA (s.stop force st).state.authority authority) :
    let stopped := (s.stop force st).state
    let again := s.start stopped
    let first := s'.start (.initial driver authority)
    (stopped.running = false ∧ stopped.store = .empty ∧ stopped.cache = .empty) ∧
      again.value = first.value ∧ again.trace = first.trace ∧
      again.state.store = first.state.store ∧ again.state.cache = first.state.cache ∧
      again.state.running = first.state.running := by
  intro stopped again first
  have hstopped := stop_of_running (s := s) hrun force
  -- what a stop leaves differs from a new service only in the partners and the listeners
  have hstate : State.StartsAlike RD RA stopped (.initial driver authority) :=
    ⟨hstopped.store, hstopped.cache, hstopped.running, hdriver, hauthority⟩
  obtain ⟨hvalue, htrace, hend⟩ := alike_start hs stopped (.initial driver authority) hstate
  exact ⟨⟨hstopped.running, hstopped.store, hstopped.cache⟩, hvalue, htrace, hend.store, hend.cache,
    hend.running⟩

omit hs

/-- The driver does not stop, and the service has met a profile and a device by then. The next start
asks for the profile again. -/
theorem start_of_stopped_of_script :
    let driver : Driver Unit :=
      { Template.driver with stop := fun _ => Activity.pure (.error .timeout) }
    let content : FolderContent :=
      .ok [(Utf8.ofString "meter.yaml", .file (.ok (Utf8.ofString "name: meter")))]
    let s : Service Unit (List (List UInt8)) :=
      finding ⟨.withProfiles "profiles", driver, .scripted, none⟩ content
    let meter := Utf8.ofString "\x7b\"name\":\"meter\"\x7d"
    let st := s.run [.register Template.listener, .start content, .notify ⟨.upsert, "1"⟩]
      (.initial () [meter, Utf8.ofString "[]",
        Utf8.ofString "\x7b\"id\":\"1\",\"name\":\"pump\",
          \"service\":\x7b\"name\":\"device-service\"\x7d\x7d",
        meter, Utf8.ofString "[]"])
    let stopped := (s.stop false st).state
    let again := s.start stopped
    let first := s.start (.initial stopped.driver stopped.authority)
    (StartsAlike Eq Eq s s ∧ st.running = true ∧ st.store.size = 1 ∧
      again.trace.contains (.asked (.profile "meter"))) ∧
      (stopped.running = false ∧ stopped.store = .empty ∧ stopped.cache = .empty) ∧
      again.value = first.value ∧ again.trace = first.trace ∧
      again.state.store = first.state.store ∧ again.state.cache = first.state.cache ∧
      again.state.running = first.state.running := by
  intro driver content s meter st stopped again first
  obtain ⟨hrun, hsize, hasked⟩ : st.running = true ∧ st.store.size = 1 ∧
      again.trace.contains (.asked (.profile "meter")) = true := by decide +kernel
  clear_value st
  have halike : StartsAlike Eq Eq s s := .refl s
  have hsame := start_of_stopped halike hrun false (Eq.refl stopped.driver)
    (Eq.refl stopped.authority)
  exact ⟨⟨halike, hrun, hsize, hasked⟩, hsame⟩

end Service

end DeviceHost
