import DeviceHost.Proofs.Store
import DeviceHost.Proofs.Trace
import DeviceHost.Service

/-!
# What a notification does

What comes of a notification is settled as soon as the authority has answered: a device is adopted,
a device is dismissed, or nothing changes. `Decision` says which, `decision` works it out from the
store and the answer alone, and everything that a notification does can be read off it: the report,
the store and the profiles afterwards, and what the listener and the driver are told.

* `CarriesOut` — an outcome is that of a decision;
* `handle_carriesOut` — reconciliation carries out the decision, one lemma for each way through it;
* `Service.notify_*` — the same for a whole service that runs.

No later proof looks into reconciliation again.
-/

namespace DeviceHost

namespace Reconcile

open Activity

variable {δ α : Type}

/-! ## Decisions -/

/-- What comes of a notification. -/
inductive Decision
  /-- a device is put into the store -/
  | adopt (d : Device)
  /-- the device of an identifier is taken out of the store; the record that the listener and the
  driver are told of, and the report -/
  | dismiss (id : String) (told : Device) (report : Report)
  /-- nothing changes -/
  | ignore (report : Report)

/-- What comes of a notification, given the store and what the authority answers. -/
def decision (service : String) (s : Store) (answer : Except AuthorityError Device)
    (n : Notification) : Decision :=
  match n.change with
  | .delete =>
    match s.get? n.id with
    | none => .ignore .notPresent
    | some d => .dismiss n.id d .removed
  | .upsert =>
    match answer with
    | .error e => .ignore (.dropped e.message)
    | .ok d =>
      if d.id ≠ n.id then .ignore (.dropped s!"id mismatch: {d.id}")
      else if d.isOwnedBy service then .adopt d
      else match s.get? d.id with
        | none => .ignore (.ownershipLost d.service false)
        | some _ => .dismiss d.id d (.ownershipLost d.service true)

namespace Decision

/-- The report of a decision. -/
def report : Decision → Store → Report
  | adopt d, s => .stored (s.outcomeOf d)
  | dismiss _ _ r, _ => r
  | ignore r, _ => r

/-- The store after a decision. -/
def store : Decision → Store → Store
  | adopt d, s => s.insert d
  | dismiss id _ _, s => (s.remove id).2
  | ignore _, s => s

/-- The profiles after a decision. -/
def cache : Decision → ProfileCache → ProfileCache
  | adopt d, c => c.remember d.profile
  | dismiss _ _ _, c => c
  | ignore _, c => c

/-- What the listener is told of a decision. -/
def calls : Decision → Store → List ListenerCall
  | adopt d, s =>
    match s.outcomeOf d with
    | .created => [.added (targetOf d) d.admin]
    | .updatedLocally => [.updated (targetOf d) d.admin]
    | .updatedRemoteOnly => []
  | dismiss _ told _, _ => [.removed (targetOf told)]
  | ignore _, _ => []

/-- What the driver is told of a decision. -/
def driverCalls : Decision → List DriverCall
  | adopt _ => []
  | dismiss _ told _ => [.disconnect told.protocols]
  | ignore _ => []

/-- What the listener and the driver are told of a decision, the listener first. -/
def contacts (D : Decision) (r : Registry) (s : Store) : List Event :=
  (D.calls s).flatMap r.calls ++ D.driverCalls.map Event.called

/-- The registered listener hears the calls of a decision, and nothing else. -/
theorem heardBy_contacts {r : Registry} {l : Listener} (hl : r.listener? = some l) (D : Decision)
    (s : Store) : heardBy l.name (D.contacts r s) = D.calls s := by
  have hdriver : heardBy l.name (D.driverCalls.map Event.called) = [] := by
    refine heardBy_of_unheard fun e he => ?_
    obtain ⟨c, -, rfl⟩ := List.mem_map.mp he
    trivial
  rw [contacts, heardBy_append, hdriver, List.append_nil]
  induction D.calls s with
  | nil => rfl
  | cons c cs ih => rw [List.flatMap_cons, heardBy_append, Registry.heardBy_calls hl, ih]; rfl

end Decision

/-- A deletion dismisses the stored device, or ignores what was not there. -/
theorem decision_delete (service : String) (s : Store) (answer : Except AuthorityError Device)
    (id : String) :
    decision service s answer ⟨.delete, id⟩ =
      match s.get? id with
      | none => .ignore .notPresent
      | some d => .dismiss id d .removed := rfl

theorem decision_failed (service : String) (s : Store) (e : AuthorityError) (id : String) :
    decision service s (.error e) ⟨.upsert, id⟩ = .ignore (.dropped e.message) := rfl

/-- A fetched device is adopted if it is owned; otherwise a stored one is dismissed. -/
theorem decision_fetched (service : String) (s : Store) (d : Device) :
    decision service s (.ok d) ⟨.upsert, d.id⟩ =
      if d.isOwnedBy service then .adopt d
      else match s.get? d.id with
        | none => .ignore (.ownershipLost d.service false)
        | some _ => .dismiss d.id d (.ownershipLost d.service true) :=
  if_neg (not_not_intro rfl)

/-- An adopted device belongs to the service and is the one that the notification names. -/
theorem decision_eq_adopt {service : String} {s : Store} {answer : Except AuthorityError Device}
    {n : Notification} {d : Device} (h : decision service s answer n = .adopt d) :
    n.change = .upsert ∧ answer = .ok d ∧ d.id = n.id ∧ d.service = service := by
  unfold decision at h
  split at h
  · split at h <;> cases h
  · rename_i hc
    split at h
    · cases h
    · split at h
      · cases h
      · rename_i hid
        split at h
        · rename_i hown
          obtain rfl := Decision.adopt.inj h
          refine ⟨hc, rfl, Decidable.not_not.mp hid, ?_⟩
          simpa [Device.isOwnedBy] using hown
        · split at h <;> cases h

/-- A dismissed device is the one that the notification names, and it is in the store. If it was
deleted, it is known by what is stored of it, and otherwise by what the authority answers. -/
theorem decision_eq_dismiss {service : String} {s : Store} {answer : Except AuthorityError Device}
    {n : Notification} {id : String} {told : Device} {r : Report}
    (h : decision service s answer n = .dismiss id told r) :
    id = n.id ∧ (s.get? n.id).isSome ∧
      (n.change = .delete → s.get? n.id = some told) ∧
      (n.change = .upsert → answer = .ok told ∧ told.id = n.id ∧ told.service ≠ service) := by
  unfold decision at h
  split at h
  · rename_i hc
    split at h
    · cases h
    · rename_i hd
      cases h
      exact ⟨rfl, by rw [hd]; rfl, fun _ => hd, fun hu => absurd (hc.symm.trans hu) (by decide)⟩
  · rename_i hc
    split at h
    · cases h
    · split at h
      · cases h
      · rename_i hid
        split at h
        · cases h
        · rename_i hown
          split at h
          · cases h
          · rename_i hd
            cases h
            have hid := Decidable.not_not.mp hid
            refine ⟨hid, by rw [← hid, hd]; rfl,
              fun hdelete => absurd (hc.symm.trans hdelete) (by decide), fun _ => ⟨rfl, hid, ?_⟩⟩
            simpa [Device.isOwnedBy] using hown

/-- Where nothing changes, nothing is reported as stored. -/
theorem decision_eq_ignore {service : String} {s : Store} {answer : Except AuthorityError Device}
    {n : Notification} {r : Report} (h : decision service s answer n = .ignore r)
    (outcome : PutOutcome) : r ≠ .stored outcome := by
  rintro rfl
  unfold decision at h
  split at h
  · split at h <;> cases h
  · split at h
    · cases h
    · split at h
      · cases h
      · split at h
        · cases h
        · split at h <;> cases h

/-! ## Reconciliation carries its decision out -/

/-- An outcome is that of a decision, taken at a site. -/
structure CarriesOut (D : Decision) (site : Site δ α) (o : Outcome Event (Site δ α) Report) :
    Prop where
  /-- the report is that of the decision -/
  value : o.value = D.report site.store
  /-- so is the store -/
  store : o.state.store = D.store site.store
  /-- the listener stays -/
  listeners : o.state.listeners = site.listeners
  /-- it and the driver are told what the decision says -/
  contacts : contacts o.trace = D.contacts site.listeners site.store

/-- When a decision is carried out, the registered listener hears its calls. -/
theorem CarriesOut.heard {D : Decision} {site : Site δ α} {o : Outcome Event (Site δ α) Report}
    (h : CarriesOut D site o) {l : Listener} (hl : site.listeners.listener? = some l) :
    heardBy l.name o.trace = D.calls site.store := by
  rw [← heardBy_contacts, h.contacts, Decision.heardBy_contacts hl]

/-- The same decision is carried out after events that neither the listener nor the driver
notices. -/
theorem CarriesOut.after {D : Decision} {site' : Site δ α}
    {o : Outcome Event (Site δ α) Report} (h : CarriesOut D site' o) (site : Site δ α)
    (hstore : site'.store = site.store) (hlisteners : site'.listeners = site.listeners)
    {es : List Event} (hes : ∀ e ∈ es, e.IsSilent) :
    CarriesOut D site ⟨o.value, o.state, es ++ o.trace⟩ where
  value := hstore ▸ h.value
  store := hstore ▸ h.store
  listeners := hlisteners ▸ h.listeners
  contacts := by
    rw [contacts_append, contacts_of_silent hes, ← hstore, ← hlisteners]
    exact h.contacts

theorem contacts_log (level : Level) (text : String) (site : Site δ α) :
    DeviceHost.contacts (log level text site).trace = [] := rfl

/-- A call that is made to the listener is a contact only if one is registered. -/
theorem contacts_tell (c : ListenerCall) (site : Site δ α) :
    DeviceHost.contacts (tell c site).trace = site.listeners.calls c :=
  Registry.contacts_tell ..

/-- The driver's answer only decides whether a line is written to the log. -/
theorem contacts_disconnect (p : Parties δ α) (t : Target) (site : Site δ α) :
    DeviceHost.contacts (disconnect p t site).trace = [.called (.disconnect t.protocols)] := by
  have hcall : DeviceHost.contacts
      ((p.driver.callDisconnect t.protocols).on driverPart site).trace =
        [.called (.disconnect t.protocols)] :=
    Driver.contacts_traced ..
  rw [disconnect, trace_bind, contacts_append, hcall]
  rcases ((p.driver.callDisconnect t.protocols).on driverPart site).value with e | u <;> rfl

theorem keeps_disconnect {I : Site δ α → Prop} (hI : ∀ s d, I s → I { s with driver := d })
    (p : Parties δ α) (t : Target) : Keeps I Event.IsUnheard (disconnect p t) := by
  refine Keeps.bind (Keeps.on_part (Driver.emits_traced _ _) hI) fun r => ?_
  rcases r with e | u
  · exact Keeps.emit trivial
  · exact Keeps.pure _

/-! ### Nothing changes -/

theorem ignore_carriesOut (level : Level) (text : String) (r : Report) (site : Site δ α) :
    CarriesOut (.ignore r) site
      ((do log level text; return r : Activity Event (Site δ α) Report) site) where
  value := rfl
  store := rfl
  listeners := rfl
  contacts := rfl

/-! ### A device goes -/

/-- What is done about a device that has been taken out of the store. -/
def farewell (p : Parties δ α) (text : String) (t : Target) (r : Report) :
    Activity Event (Site δ α) Report := do
  log .info text
  tell (.removed t)
  disconnect p t
  return r

/-- Logging, telling the listener and disconnecting carry out a dismissal. -/
theorem farewell_carriesOut (p : Parties δ α) (text : String) (told : Device) (r : Report)
    (site : Site δ α) (id : String) :
    CarriesOut (.dismiss id told r) site
      (farewell p text (targetOf told) r { site with store := (site.store.remove id).2 }) := by
  have hkept := (keeps_disconnect
    (I := fun x => x.store = (site.store.remove id).2 ∧ x.listeners = site.listeners)
    (fun _ _ h => h) p (targetOf told) { site with store := (site.store.remove id).2 }
    ⟨rfl, rfl⟩).1
  refine ⟨rfl, hkept.1, hkept.2, ?_⟩
  simp only [farewell, trace_bind, contacts_append]
  rw [contacts_log, contacts_tell, contacts_disconnect]
  simp only [Decision.contacts, Decision.calls, Decision.driverCalls, List.flatMap_singleton]
  rfl

/-- A removal takes the device of the identifier out of the store and answers it. -/
theorem remove_eq (id : String) (site : Site δ α) :
    remove id site =
      ⟨site.store.get? id, { site with store := (site.store.remove id).2 }, []⟩ := by
  rw [← Store.remove_fst]
  rfl

theorem remove_eq_of_none {id : String} {site : Site δ α} (h : site.store.get? id = none) :
    remove id site = ⟨none, site, []⟩ := by
  rw [remove_eq, h, Store.remove, h]

/-- The handling of a deletion carries out the decision about it. -/
theorem delete_carriesOut (p : Parties δ α) (id : String) (site : Site δ α)
    (answer : Except AuthorityError Device) :
    CarriesOut (decision p.service site.store answer ⟨.delete, id⟩) site (delete p id site) := by
  unfold delete decision
  dsimp only
  rcases h : site.store.get? id with _ | d
  · rw [bind_of_eq (remove_eq_of_none h)]
    exact ignore_carriesOut _ _ _ site
  · rw [bind_of_eq (remove_eq id site), h]
    exact farewell_carriesOut p _ d .removed site id

/-- A device of another service goes, if it is there. -/
theorem release_carriesOut (p : Parties δ α) (d : Device) (site : Site δ α) :
    CarriesOut
      (match site.store.get? d.id with
        | none => .ignore (.ownershipLost d.service false)
        | some _ => .dismiss d.id d (.ownershipLost d.service true))
      site (release p d site) := by
  unfold release
  rcases h : site.store.get? d.id with _ | old
  · rw [bind_of_eq (remove_eq_of_none h)]
    exact ignore_carriesOut _ _ _ site
  · rw [bind_of_eq (remove_eq d.id site), h]
    exact farewell_carriesOut p _ d _ site d.id

/-! ### A device comes or changes -/

/-- A device is put by inserting it, with the outcome that follows from the store before. -/
theorem put_eq (d : Device) (site : Site δ α) :
    put d site =
      ⟨site.store.outcomeOf d, { site with store := site.store.insert d },
        (site.store.displaced? d).toList.map fun before => moved d.name before d.id⟩ := by
  change (⟨_, _, [] ++ (_ ++ ([] ++ []))⟩ : Outcome Event (Site δ α) PutOutcome) = _
  rw [List.nil_append, List.append_nil, List.append_nil]
  rfl

theorem contacts_put (d : Device) (site : Site δ α) :
    DeviceHost.contacts (put d site).trace = [] := by
  refine contacts_of_silent fun e he => ?_
  rw [put_eq] at he
  obtain ⟨before, -, rfl⟩ := List.mem_map.mp he
  trivial

theorem contacts_announcement (level : Level) (text : String) (c : ListenerCall) (r : Report)
    (site : Site δ α) :
    DeviceHost.contacts
      ((do log level text; tell c; return r : Activity Event (Site δ α) Report) site).trace =
        site.listeners.calls c := by
  simp only [trace_bind, contacts_append]
  rw [contacts_log, contacts_tell]
  exact List.append_nil _

/-- Taking over a device carries out its adoption. -/
theorem adopt_carriesOut (d : Device) (site : Site δ α) :
    CarriesOut (.adopt d) site (adopt d site) where
  value := by
    rw [adopt, value_bind, put_eq]
    rcases h : site.store.outcomeOf d with _ | _ | _ <;> simp only [Decision.report, h] <;> rfl
  store := by
    rw [adopt, state_bind, put_eq]
    rcases site.store.outcomeOf d with _ | _ | _ <;> rfl
  listeners := by
    rw [adopt, state_bind, put_eq]
    rcases site.store.outcomeOf d with _ | _ | _ <;> rfl
  contacts := by
    rw [adopt, trace_bind, contacts_append, contacts_put, put_eq]
    rcases h : site.store.outcomeOf d with _ | _ | _ <;>
      simp only [Decision.contacts, Decision.calls, Decision.driverCalls, h]
    · exact (contacts_announcement _ _ _ _ _).trans (by simp)
    · exact (contacts_announcement _ _ _ _ _).trans (by simp)
    · rfl

/-! ### The authority answers -/

/-- What is done with the authority's answer. -/
def respond (p : Parties δ α) (id : String) :
    Except AuthorityError Device → Activity Event (Site δ α) Report
  | .error e => do
    log .warn s!"Dropping update for device {id}: {e.message}"
    return .dropped e.message
  | .ok d =>
    if d.id ≠ id then do
      log .warn s!"Metadata returned device {d.id} for requested id {id}, dropping"
      return .dropped s!"id mismatch: {d.id}"
    else if d.isOwnedBy p.service then adopt d
    else release p d

/-- An upsert is a fetch and a response to its answer. -/
theorem upsert_eq (p : Parties δ α) (id : String) :
    upsert p id = (p.authority.fetchDevice id).on authorityPart >>= respond p id := rfl

/-- The response to any answer of the authority carries out the decision about that answer. -/
theorem respond_carriesOut (p : Parties δ α) (id : String)
    (answer : Except AuthorityError Device) (site : Site δ α) :
    CarriesOut (decision p.service site.store answer ⟨.upsert, id⟩) site
      (respond p id answer site) := by
  unfold respond decision
  rcases answer with e | d
  · exact ignore_carriesOut _ _ _ site
  · dsimp only
    by_cases hid : d.id = id
    · rw [if_neg (not_not_intro hid), if_neg (not_not_intro hid)]
      by_cases hown : d.isOwnedBy p.service
      · rw [if_pos hown, if_pos hown]
        exact adopt_carriesOut d site
      · rw [if_neg hown, if_neg hown]
        exact release_carriesOut p d site
    · rw [if_pos hid, if_pos hid]
      exact ignore_carriesOut _ _ _ site

/-- The handling of an upsert carries out the decision about what the authority answers. -/
theorem upsert_carriesOut (p : Parties δ α) (id : String) (site : Site δ α) :
    CarriesOut
      (decision p.service site.store (p.authority.fetchDevice id site.authority).value
        ⟨.upsert, id⟩)
      site (upsert p id site) := by
  rw [upsert_eq]
  have hasked := (p.authority.emits_askFor (.device id) Device.decode).trace site.authority
  exact (respond_carriesOut p id (p.authority.fetchDevice id site.authority).value
    { site with authority := (p.authority.fetchDevice id site.authority).state }).after
      site rfl rfl hasked

/-- **Reconciliation carries out its decision.** -/
theorem handle_carriesOut (p : Parties δ α) (n : Notification) (site : Site δ α) :
    CarriesOut
      (decision p.service site.store (p.authority.fetchDevice n.id site.authority).value n)
      site (handle p n site) := by
  obtain ⟨c, id⟩ := n
  cases c with
  | upsert => exact upsert_carriesOut p id site
  | delete => exact delete_carriesOut p id site _

end Reconcile

/-! ## A whole service

A service that runs hands its notifications on and then remembers the profile of a device that was
stored. One that does not run does nothing at all. -/

namespace Service

open Activity

variable {δ α : Type} {s : Service δ α} {st : State δ α}

/-- What comes of a notification to a service in a state. -/
def decision (s : Service δ α) (st : State δ α) (n : Notification) : Reconcile.Decision :=
  Reconcile.decision s.name st.store (s.authority.fetchDevice n.id st.authority).value n

/-- What reconciliation makes of a notification. -/
def reconciled (s : Service δ α) (st : State δ α) (n : Notification) :
    Outcome Event (Site δ α) Report :=
  Reconcile.handle s.parties n (sitePart.get st)

/-- A service carries out its decision about every notification. -/
theorem reconciled_carriesOut (s : Service δ α) (st : State δ α) (n : Notification) :
    Reconcile.CarriesOut (s.decision st n) (sitePart.get st) (s.reconciled st n) :=
  Reconcile.handle_carriesOut s.parties n (sitePart.get st)

/-- Without a run a notification is refused and changes nothing. -/
theorem notify_of_not_running (hrun : st.running = false) (n : Notification) :
    s.notify n st = ⟨.error .notRunning, st, []⟩ := by
  rw [notify, look_bind, hrun]
  rfl

/-- A running service logs the notification, reconciles and remembers the profile of the device. -/
theorem notify_eq (hrun : st.running = true) (n : Notification) :
    s.notify n st =
      ⟨.ok (s.reconciled st n).value,
        (rememberProfile n.id (s.reconciled st n).value
          (sitePart.put (s.reconciled st n).state st)).state,
        Event.line .debug s!"Lifecycle notification {changeWord n.change} for device {n.id}" ::
          (s.reconciled st n).trace⟩ := by
  rw [notify, look_bind, hrun]
  change (⟨_, _, [_] ++ ((s.reconciled st n).trace ++ ([] ++ []))⟩ :
    Outcome Event (State δ α) (Except ServiceError Report)) = _
  rw [List.append_nil, List.append_nil]
  rfl

/-- The profile is remembered of a device that is reported as stored, as it is stored now. -/
theorem rememberProfile_state (id : String) (r : Report) (st : State δ α) :
    (rememberProfile id r st).state =
      { st with
        cache := match r, st.store.get? id with
          | .stored _, some d => st.cache.remember d.profile
          | _, _ => st.cache } := by
  change (match r, st.store.get? id with
    | .stored _, some d => _
    | _, _ => _) = _
  split <;> rfl

/-- A notification is answered by the report of its decision. -/
theorem notify_value (hrun : st.running = true) (n : Notification) :
    (s.notify n st).value = .ok ((s.decision st n).report st.store) := by
  rw [notify_eq hrun, (s.reconciled_carriesOut st n).value]
  rfl

/-- A notification leaves the store that its decision leaves. -/
theorem notify_store (hrun : st.running = true) (n : Notification) :
    (s.notify n st).state.store = (s.decision st n).store st.store := by
  rw [notify_eq hrun, rememberProfile_state]
  exact (s.reconciled_carriesOut st n).store

theorem notify_listeners (n : Notification) :
    (s.notify n st).state.listeners = st.listeners := by
  rcases hrun : st.running with _ | _
  · rw [notify_of_not_running hrun]
  · rw [notify_eq hrun, rememberProfile_state]
    exact (s.reconciled_carriesOut st n).listeners

theorem notify_running (n : Notification) : (s.notify n st).state.running = st.running := by
  rcases hrun : st.running with _ | _
  · rw [notify_of_not_running hrun]
    exact hrun
  · rw [notify_eq hrun, rememberProfile_state]
    exact hrun

theorem notify_cache (hrun : st.running = true) (n : Notification) :
    (s.notify n st).state.cache = (s.decision st n).cache st.cache := by
  have hc := s.reconciled_carriesOut st n
  have hstore : (sitePart.put (s.reconciled st n).state st).store =
      (s.decision st n).store st.store := hc.store
  rw [notify_eq hrun, rememberProfile_state]
  dsimp only
  rw [hc.value, hstore]
  rcases hD : s.decision st n with d | ⟨id, told, r⟩ | r
  · -- the device is found again under the identifier that the notification names
    obtain ⟨-, -, hid, -⟩ := Reconcile.decision_eq_adopt hD
    have hget : (st.store.insert d).get? n.id = some d := by rw [Store.get?_insert, if_pos hid]
    simp only [Reconcile.Decision.report, Reconcile.Decision.store, hget]
    rfl
  · -- nothing is found there any more
    obtain ⟨hid, -, -⟩ := Reconcile.decision_eq_dismiss hD
    have hget : (st.store.remove id).2.get? n.id = none := by rw [Store.get?_remove, if_pos hid]
    simp only [Reconcile.Decision.report, Reconcile.Decision.store, hget]
    rcases r with o | _ | _ | _ | _ <;> rfl
  · have hr := Reconcile.decision_eq_ignore hD
    rcases r with o | _ | _ | _ | _
    · exact absurd rfl (hr o)
    all_goals rfl

/-- What a listener hears of a notification to a running service are the calls of the decision. -/
theorem heardBy_notify {l : Listener} (hl : st.listeners.listener? = some l)
    (hrun : st.running = true) (n : Notification) :
    heardBy l.name (s.notify n st).trace = (s.decision st n).calls st.store := by
  rw [notify_eq hrun]
  exact (s.reconciled_carriesOut st n).heard hl

theorem contacts_notify (hrun : st.running = true) (n : Notification) :
    contacts (s.notify n st).trace = (s.decision st n).contacts st.listeners st.store := by
  rw [notify_eq hrun]
  exact (s.reconciled_carriesOut st n).contacts

end Service

end DeviceHost
