import DeviceHost.Proofs.Sessions

/-!
# The driver is asked only what the authority allows

The authority decides which devices a service has and which of them are locked, and it may change
its mind at any time. The service never asks anything of a device but by the record that it was told
last, and of no device that is locked in it. Batches are not held up by a service that does not run;
they find no device there.

* `Consented` — everything that holds when the driver is asked something of a device;
* `consented_of_accesses` — one operation, in any state in which the devices are in order;
* `Unlocks` — the operations after which a device is unlocked that was not before, and
  `exists_unlocks` — there is one in every run after which it is;
* `consented_run` — what the driver is asked in any run, and what it is not asked of a locked
  device.
-/

namespace DeviceHost

/-- A call that reads or writes a device. -/
def DriverCall.IsAccess : DriverCall → Prop
  | get _ _ | put _ _ _ => True
  | _ => False

theorem Driver.map_call_log {δ : Type} (dr : Driver δ) (s : δ) (cs : List DriverCall) :
    (dr.log s cs).map Exchange.call = cs := by
  induction cs generalizing s with
  | nil => rfl
  | cons c cs ih => rw [log, List.map_cons, ih]

namespace Service

open Activity
open Command (Asks)

variable {δ α : Type} {s : Service δ α} {st : State δ α}

/-! ## Accesses -/

/-- An operation has the driver read or write the device that it is for. -/
structure Accesses (s : Service δ α) (st : State δ α) (op : Operation) (c : DriverCall) : Prop where
  /-- the call is in the trace of the operation -/
  called : .called c ∈ s.traceOf op st
  /-- it reads or writes -/
  access : c.IsAccess

/-- Everything that holds when the driver is asked something of a device. -/
structure Consented (s : Service δ α) (st : State δ α) (d : Device) (c : DriverCall) : Prop where
  /-- the service runs -/
  running : st.running = true
  /-- the device is stored, as it is -/
  stored : st.store.get? d.id = some d
  /-- it belongs to the service -/
  owned : d.service = s.name
  /-- it is unlocked -/
  unlocked : d.admin = .unlocked
  /-- the call has its name and its protocols; it asks for something, and it has a value for each
  request if it writes -/
  asks : Asks d c

/-- A start reads and writes nothing, however far it gets. -/
theorem StartLog.not_isAccess {running running' : Bool} {r : Except ServiceError Unit}
    {es : List Exchange} (h : StartLog s running r es running') {e : Exchange} (he : e ∈ es) :
    ¬ e.call.IsAccess := by
  cases h with
  | alreadyStarted => cases he
  | refused e' =>
    rw [List.mem_singleton.mp he]
    exact id
  | abandoned e' late well =>
    rcases List.mem_cons.mp he with rfl | he
    · exact id
    · rw [List.mem_singleton.mp he]
      exact id
  | opened =>
    rw [List.mem_singleton.mp he]
    exact id

/-- Only commands read or write devices. -/
theorem Accesses.isCommand {op : Operation} {c : DriverCall} (h : Accesses s st op c) :
    op.IsCommand := by
  obtain ⟨hcalled, haccess⟩ := h
  rw [← mem_driverCalls] at hcalled
  cases op with
  | register l =>
    rw [traceOf, register, look_bind] at hcalled
    rcases hr : st.listeners.register l with e | r <;> rw [hr] at hcalled <;> cases hcalled
  | start content =>
    rw [← s.driver.map_call_log st.driver (driverCalls (s.traceOf (.start content) st))] at hcalled
    obtain ⟨e, he, rfl⟩ := List.mem_map.mp hcalled
    exact ((startLog_start (s.finding content) st).not_isAccess he haccess).elim
  | stop force =>
    rcases hrun : st.running with _ | _
    · rw [traceOf, stop_of_not_running hrun] at hcalled
      cases hcalled
    · rw [traceOf, driverCalls_stop hrun] at hcalled
      rw [List.mem_singleton.mp hcalled] at haccess
      exact haccess.elim
  | notify n =>
    rcases hrun : st.running with _ | _
    · rw [traceOf, notify_of_not_running hrun] at hcalled
      cases hcalled
    · rw [traceOf, driverCalls_notify hrun] at hcalled
      rcases hD : s.decision st n with d | ⟨id, told, r⟩ | r <;> rw [hD] at hcalled
      · cases hcalled
      · rw [List.mem_singleton.mp hcalled] at haccess
        exact haccess.elim
      · cases hcalled
  | profile name =>
    rw [traceOf, driverCalls_profile] at hcalled
    cases hcalled
  | _ => trivial

/-- **Consent to one operation.** -/
theorem consented_of_accesses (hsound : s.Sound st) {op : Operation} {c : DriverCall}
    (h : Accesses s st op c) : ∃ d, op.addressee? st = some d ∧ Consented s st d c := by
  have hcalled := mem_driverCalls.mpr h.called
  rcases served_of_command (s := s) h.isCommand st with hnone | ⟨d, hd, hserved⟩
  · rw [hnone] at hcalled
    cases hcalled
  · have hstored := hsound.stored_of_addressee? hd
    refine ⟨d, hd, ?_⟩
    generalize driverCalls (s.traceOf op st) = cs at hcalled hserved
    cases hserved with
    | none => cases hcalled
    | one unlocked asks =>
      obtain rfl := List.mem_singleton.mp hcalled
      exact ⟨hsound.running_of_stored hstored, hstored, hsound.owned _ _ hstored, unlocked, asks⟩

/-! ## Locked devices -/

/-- The device of an identifier is stored, and it is unlocked. -/
def Available (st : State δ α) (i : String) : Prop :=
  ∃ d, st.store.get? i = some d ∧ d.admin = .unlocked

/-- An operation brings the news that a device is unlocked: the authority notifies the service of
the device, or the service is started again, and afterwards an unlocked record of it is stored. -/
structure Unlocks (s : Service δ α) (st : State δ α) (i : String) (op : Operation) : Prop where
  /-- it is a notification of the device, or a start that goes well -/
  news : op = .notify ⟨.upsert, i⟩ ∨ s.Starts op st
  /-- an unlocked record is stored -/
  available : Available (s.perform op st) i

/-- **One operation unlocks nothing silently.** -/
theorem unlocks_of_available {i : String} {op : Operation} (hbefore : ¬ Available st i)
    (hafter : Available (s.perform op st) i) : Unlocks s st i op := by
  refine ⟨?_, hafter⟩
  obtain ⟨d, hd, hunlocked⟩ := hafter
  -- what leaves the devices alone, leaves this one locked
  have hkept (hstore : (s.perform op st).store = st.store) : False :=
    hbefore ⟨d, hstore ▸ hd, hunlocked⟩
  cases op with
  | register l =>
    obtain ⟨r, hr⟩ := register_state l st
    exact (hkept (by rw [perform, hr])).elim
  | start content =>
    rcases (s.finding content).start_cases st with ⟨-, -, hundisturbed⟩ | ⟨_, hok, -, -⟩
    · exact (hkept hundisturbed.store).elim
    · exact .inr ⟨content, rfl, hok⟩
  | stop force =>
    rcases hrun : st.running with _ | _
    · exact (hkept (by rw [perform, stop_of_not_running hrun])).elim
    · rw [perform, (stop_of_running hrun force).store] at hd
      cases hd
  | notify n =>
    rcases hrun : st.running with _ | _
    · exact (hkept (by rw [perform, notify_of_not_running hrun])).elim
    · have hstore := s.notify_store hrun n
      rcases hD : s.decision st n with e | ⟨id, told, r⟩ | r <;> rw [hD] at hstore
      · obtain ⟨hchange, -, hid, -⟩ := Reconcile.decision_eq_adopt hD
        rw [perform, hstore, Reconcile.Decision.store, Store.get?_insert] at hd
        split at hd
        · rename_i hi
          obtain ⟨change, id⟩ := n
          obtain rfl := hchange
          obtain rfl := hid.symm.trans hi
          exact .inl rfl
        · exact (hbefore ⟨d, hd, hunlocked⟩).elim
      · rw [perform, hstore, Reconcile.Decision.store, Store.get?_remove] at hd
        split at hd
        · cases hd
        · exact (hbefore ⟨d, hd, hunlocked⟩).elim
      · exact (hkept hstore).elim
  | _ => exact (hkept (undisturbed_perform (by exact trivial) st).store).elim

/-- A device that becomes available in a run does so by one of its operations. -/
theorem exists_unlocks {i : String} {ops : List Operation} (hbefore : ¬ Available st i)
    (hafter : Available (s.run ops st) i) :
    ∃ earlier op later, ops = earlier ++ op :: later ∧ Unlocks s (s.run earlier st) i op := by
  induction ops generalizing st with
  | nil => exact (hbefore hafter).elim
  | cons op ops ih =>
    by_cases hnow : Available (s.perform op st) i
    · exact ⟨[], op, ops, rfl, unlocks_of_available hbefore hnow⟩
    · obtain ⟨earlier, op', later, rfl, hunlocks⟩ := ih hnow hafter
      exact ⟨op :: earlier, op', later, rfl, hunlocks⟩

/-- **The driver is asked only what the authority allows**, whatever is done with a new service.
Whenever the driver reads or writes, it is for a device that is stored by then, unlocked and owned
by the service, which runs; and the call names this device by its stored name and protocols. So if
a device is stored as locked, nothing is asked of it before a notification or a start brings an
unlocked record of it. -/
theorem consented_run (s : Service δ α) (driver : δ) (authority : α) (ops : List Operation) :
    let st := s.run ops (.initial driver authority)
    (∀ op c, Accesses s st op c → ∃ d, op.addressee? st = some d ∧ Consented s st d c) ∧
      ∀ i d, st.store.get? i = some d → d.admin = .locked →
        ∀ later op c e, Accesses s (s.run later st) op c →
          op.addressee? (s.run later st) = some e → e.id = i →
            ∃ before step after, later = before ++ step :: after ∧
              Unlocks s (s.run before st) i step := by
  intro st
  have hsound : s.Sound st := (sound_of_empty rfl : s.Sound (.initial driver authority)).run ops
  refine ⟨fun op c => consented_of_accesses hsound, ?_⟩
  rintro i d hd hlocked later op c e haccess he rfl
  obtain ⟨e', he', hconsented⟩ := consented_of_accesses (hsound.run later) haccess
  obtain rfl := Option.some.inj (he.symm.trans he')
  refine exists_unlocks (fun hbefore => ?_) ⟨e, hconsented.stored, hconsented.unlocked⟩
  obtain ⟨d', hd', hunlocked⟩ := hbefore
  obtain rfl := Option.some.inj (hd.symm.trans hd')
  cases hlocked.symm.trans hunlocked

-- the pump is read before the authority locks it, and not after that
example :
    let s : Service Unit (List (List UInt8)) := ⟨.standard, Template.driver, .scripted, none⟩
    let unlocked := "\x7b\"id\":\"1\",\"name\":\"pump\",\"service\":\x7b\"name\":\"device-service\"\x7d,
      \"profile\":\x7b\"deviceResources\":[\x7b\"name\":\"speed\",\"valueType\":\"Uint8\"\x7d]\x7d\x7d"
    let locked := "\x7b\"id\":\"1\",\"name\":\"pump\",\"service\":\x7b\"name\":\"device-service\"\x7d,
      \"adminState\":\"LOCKED\"\x7d"
    let read : Operation := .read (.name "pump") "speed"
    driverCalls (s.record [.start (.ok []), read, .notify ⟨.upsert, "1"⟩, read]
      (.initial () [Utf8.ofString ("[" ++ unlocked ++ "]"), Utf8.ofString locked])) =
      [s.initCall, .get ⟨"pump", []⟩ [⟨"speed", .empty, some .uint8⟩]] := by decide +kernel

end Service

end DeviceHost
