import DeviceHost.Proofs.Reachable
import DeviceHost.Proofs.Reading
import DeviceHost.Proofs.Writing

/-!
# What the driver is told

The driver is called by starts and stops, by notifications that make a device leave, and by commands
to devices, each of which makes one call at most. This module says of every operation which calls it
makes, and what they do to the driver.

* `driverCalls` — the calls of a trace, and `traceOf`, `record` — the trace of operations;
* `Served` — what a command to a device may make of it, and `served_of_command`;
* `Driver.answer`, `Driver.after` — what a driver makes of one call, and of one after the other;
* `driver_perform`, `driver_run` — an operation changes the state of the driver by its calls alone,
  and so does a run.
-/

namespace DeviceHost

open Activity

/-! ## The calls of a trace -/

/-- Whether a call prepares the driver. -/
def DriverCall.isInit : DriverCall → Bool
  | init _ _ => true
  | _ => false

/-- Whether a call stops the driver. -/
def DriverCall.isStop : DriverCall → Bool
  | stop _ => true
  | _ => false

/-- A call for a device. -/
def DriverCall.IsWork : DriverCall → Prop
  | get _ _ | put _ _ _ | disconnect _ => True
  | _ => False

/-- Work for a device does not prepare the driver. -/
theorem DriverCall.IsWork.not_isInit {c : DriverCall} (h : c.IsWork) : c.isInit = false := by
  cases c with
  | init service settings => exact h.elim
  | _ => rfl

theorem DriverCall.IsWork.not_isStop {c : DriverCall} (h : c.IsWork) : c.isStop = false := by
  cases c with
  | stop force => exact h.elim
  | _ => rfl

/-- The calls of the driver in a trace, first call first. -/
def driverCalls (es : List Event) : List DriverCall :=
  es.filterMap fun
    | .called c => some c
    | _ => none

/-- An event that is not a call of the driver. -/
def Event.IsUncalled : Event → Prop
  | called _ => False
  | _ => True

theorem Event.IsSilent.isUncalled {e : Event} (h : e.IsSilent) : e.IsUncalled := by
  cases e with
  | called c => exact h.elim
  | told l c => trivial
  | logged line => trivial
  | asked q => trivial

theorem driverCalls_append (es fs : List Event) :
    driverCalls (es ++ fs) = driverCalls es ++ driverCalls fs :=
  List.filterMap_append

theorem driverCalls_line (level : Level) (text : String) (es : List Event) :
    driverCalls (.line level text :: es) = driverCalls es := rfl

/-- Events of other kinds add nothing to the calls of the driver. -/
theorem driverCalls_of_uncalled {es : List Event} (h : ∀ e ∈ es, e.IsUncalled) :
    driverCalls es = [] := by
  refine List.filterMap_eq_nil_iff.mpr fun e he => ?_
  cases e with
  | called c => exact (h _ he).elim
  | told l c => rfl
  | logged line => rfl
  | asked q => rfl

theorem driverCalls_of_silent {es : List Event} (h : ∀ e ∈ es, e.IsSilent) : driverCalls es = [] :=
  driverCalls_of_uncalled fun e he => (h e he).isUncalled

/-- The calls of a trace are exactly its events that call the driver. -/
theorem mem_driverCalls {es : List Event} {c : DriverCall} :
    c ∈ driverCalls es ↔ .called c ∈ es := by
  rw [driverCalls, List.mem_filterMap]
  constructor
  · rintro ⟨e, he, hc⟩
    cases e with
    | called c' =>
      obtain rfl := Option.some.inj hc
      exact he
    | told l c' => cases hc
    | logged line => cases hc
    | asked q => cases hc
  · intro he
    exact ⟨_, he, rfl⟩

/-- The contacts of a trace show all its calls of the driver. -/
theorem driverCalls_contacts (es : List Event) : driverCalls (contacts es) = driverCalls es := by
  induction es with
  | nil => rfl
  | cons e es ih =>
    cases e with
    | called c =>
      change driverCalls ([.called c] ++ contacts es) = driverCalls ([.called c] ++ es)
      rw [driverCalls_append, driverCalls_append, ih]
    | told l c => exact ih
    | logged line => exact ih
    | asked q => exact ih

/-- The driver adds no call to the one that is made. -/
theorem Driver.driverCalls_traced {δ β : Type} (c : DriverCall) (m : DriverAct δ β) (s : δ) :
    driverCalls (Driver.traced c m s).trace = [c] := by
  rw [← driverCalls_contacts, contacts_traced]
  rfl

theorem Registry.uncalled_tell (r : Registry) (c : ListenerCall) :
    ∀ e ∈ r.tell c, e.IsUncalled := by
  rw [tell]
  rcases r.listener? with _ | l
  · exact fun e he => absurd he List.not_mem_nil
  · intro e he
    rcases List.mem_cons.mp he with rfl | he
    · trivial
    · obtain ⟨line, -, rfl⟩ := List.mem_map.mp he
      trivial

/-- What follows without a call of the driver adds none. -/
theorem driverCalls_bind_of_quiet {σ β γ : Type} {m : Activity Event σ β}
    {f : β → Activity Event σ γ} (hf : ∀ b t, driverCalls (f b t).trace = []) (t : σ) :
    driverCalls ((m >>= f) t).trace = driverCalls (m t).trace := by
  rw [trace_bind, driverCalls_append, hf, List.append_nil]

/-! ## What comes of the calls -/

section Answers

variable {δ σ τ β γ : Type}

/-- Whether a driver's act goes well, and the state that it leaves. -/
def settled (o : Outcome LogLine δ (Except DriverError β)) : Bool × δ := (o.value.isOk, o.state)

/-- What a driver makes of a call: whether it goes well, and the state of the driver afterwards. -/
def Driver.answer (dr : Driver δ) (s : δ) : DriverCall → Bool × δ
  | .init service settings => settled (dr.init service settings s)
  | .discover => settled (dr.discover s)
  | .get t rs => settled (dr.get t rs s)
  | .put t rs vs => settled (dr.put t rs vs s)
  | .disconnect ps => settled (dr.disconnect ps s)
  | .stop force => settled (dr.stop force s)

/-- The state of a driver after one call after the other. -/
def Driver.after (dr : Driver δ) (s : δ) (cs : List DriverCall) : δ :=
  cs.foldl (fun s c => (dr.answer s c).2) s

/-- The calls in two parts leave the driver where the second part leaves it after the first. -/
theorem Driver.after_append (dr : Driver δ) (s : δ) (cs ds : List DriverCall) :
    dr.after s (cs ++ ds) = dr.after (dr.after s cs) ds :=
  List.foldl_append

/-- An activity changes the state of a driver, which is part of its own state, by calls of the
driver alone, and they are all in its trace. -/
def Told (dr : Driver δ) (driver : σ → δ) (m : Activity Event σ β) : Prop :=
  ∀ s, driver (m s).state = dr.after (driver s) (driverCalls (m s).trace)

namespace Told

variable {dr : Driver δ} {driver : σ → δ}

theorem pure (b : β) : Told dr driver (Pure.pure b : Activity Event σ β) :=
  fun _ => rfl

/-- If the state of the driver can be told from the calls of both parts, then from those of the
whole. -/
theorem bind {m : Activity Event σ β} {f : β → Activity Event σ γ} (hm : Told dr driver m)
    (hf : ∀ b, Told dr driver (f b)) : Told dr driver (m >>= f) := by
  intro s
  rw [state_bind, trace_bind, driverCalls_append, dr.after_append, hf, hm]

theorem state : Told dr driver (Activity.state : Activity Event σ σ) :=
  fun _ => rfl

/-- A change that leaves the driver alone needs no call. -/
theorem modify {f : σ → σ} (hf : ∀ s, driver (f s) = driver s) :
    Told dr driver (Activity.modify f : Activity Event σ Unit) :=
  hf

/-- An activity that neither calls the driver nor touches its state. -/
theorem of_uncalled {m : Activity Event σ β} (hm : Emits Event.IsUncalled m)
    (hstate : ∀ s, driver (m s).state = driver s) : Told dr driver m := by
  intro s
  rw [driverCalls_of_uncalled (hm.trace s), hstate]
  rfl

theorem log (level : Level) (text : String) :
    Told dr driver (Activity.emit (.line level text) : Activity Event σ Unit) :=
  of_uncalled (Keeps.emit trivial) fun _ => rfl

/-- Work on a part that holds the driver. -/
theorem on {p : Part σ τ} {driver' : τ → δ} {m : Activity Event τ β} (hm : Told dr driver' m)
    (hget : ∀ s, driver' (p.get s) = driver s) (hput : ∀ s t, driver (p.put t s) = driver' t) :
    Told dr driver (m.on p) := by
  intro s
  refine (hput s _).trans ((hm (p.get s)).trans ?_)
  rw [hget]
  rfl

/-- Work on another part, without a word to the driver. -/
theorem on_other {p : Part σ τ} {m : Activity Event τ β} (hm : Emits Event.IsSilent m)
    (hput : ∀ s t, driver (p.put t s) = driver s) : Told dr driver (m.on p) :=
  of_uncalled (Keeps.on_part (hm.mono fun _ => Event.IsSilent.isUncalled) fun _ _ h => h)
    fun s => hput s _

/-- A call itself. -/
theorem traced (dr : Driver δ) {c : DriverCall} {m : DriverAct δ β}
    (hc : ∀ s, dr.answer s c = settled (m s)) : Told dr id (Driver.traced c m) := by
  intro s
  rw [Driver.driverCalls_traced]
  exact (congrArg Prod.snd (hc s)).symm

end Told

end Answers

/-! ## Commands -/

namespace Command

variable {δ : Type}

/-- A call that asks something of a device, by its name and its protocols. -/
inductive Asks (d : Device) : DriverCall → Prop
  /-- a batch of requests is read -/
  | get (requests : List ResourceRequest) (nonempty : requests ≠ []) :
    Asks d (.get ⟨d.name, d.protocols⟩ requests)
  /-- a batch of values is written, one for each request -/
  | put (requests : List ResourceRequest) (values : List Value) (nonempty : requests ≠ [])
    (length_eq : requests.length = values.length) :
    Asks d (.put ⟨d.name, d.protocols⟩ requests values)

/-- The calls that a command to a device may make. -/
inductive Served (d : Device) : List DriverCall → Prop
  /-- none -/
  | none : Served d []
  /-- a single one, if the device is unlocked -/
  | one {c : DriverCall} (unlocked : d.admin = .unlocked) (asks : Asks d c) : Served d [c]

/-- What a command asks of the driver is work. -/
theorem Asks.isWork {d : Device} {c : DriverCall} (h : Asks d c) : c.IsWork := by
  cases h with
  | get requests nonempty => trivial
  | put requests values nonempty length_eq => trivial

/-- A batch of reads calls the driver for its own device, once at most. -/
theorem served_get (dr : Driver δ) (d : Device) (requests : List ResourceRequest) (st : δ) :
    Served d (driverCalls (get dr d requests st).trace) := by
  rcases hadmin : d.admin with _ | _
  · by_cases hne : requests = []
    · -- an empty batch is answered without the driver
      have hnone : get dr d [] st = ⟨.ok [], st, []⟩ := by
        simp [get, hadmin, AdminState.isEnabled]
      rw [hne, hnone]
      exact .none
    · obtain ⟨hcontacts, -⟩ := get_of_unlocked dr hadmin hne st
      rw [← driverCalls_contacts, hcontacts]
      exact .one hadmin (.get requests hne)
  · rw [get_of_locked hadmin st]
    exact .none

theorem served_put (dr : Driver δ) (d : Device) (requests : List ResourceRequest)
    (values : List Value) (st : δ) :
    Served d (driverCalls (put dr d requests values st).trace) := by
  by_cases hlength : requests.length = values.length
  · rcases hadmin : d.admin with _ | _
    · by_cases hne : requests = []
      · have hnone : put dr d [] values st = ⟨.ok (), st, []⟩ := by
          simp [put, hadmin, AdminState.isEnabled, ← hlength, hne]
        rw [hne, hnone]
        exact .none
      · have hcontacts : contacts (put dr d requests values st).trace
            = [.called (.put (targetOf d) requests values)] :=
          (put_of_unlocked hlength hadmin hne st).1
        rw [← driverCalls_contacts, hcontacts]
        exact .one hadmin (.put requests values hne hlength)
    · rw [put_of_locked hlength hadmin st]
      exact .none
  · have hrefused : put dr d requests values st =
        ⟨.error (.lengthMismatch requests.length values.length), st, []⟩ := by
      rw [put, if_pos hlength]
      rfl
    rw [hrefused]
    exact .none

/-- A read command calls the driver for its own device, once at most. -/
theorem served_read (dr : Driver δ) (d : Device) (command : String) (st : δ) :
    Served d (driverCalls (read dr d command st).trace) := by
  unfold read
  rcases resolve d command .read with e | rs
  · exact .none
  · dsimp only
    rw [driverCalls_bind_of_quiet]
    · exact served_get ..
    · rintro (e | vs) t <;> rfl

theorem served_write (dr : Driver δ) (d : Device) (command : String) (texts : Table String)
    (st : δ) : Served d (driverCalls (write dr d command texts st).trace) := by
  unfold write
  rcases resolve d command .write with e | rs
  · exact .none
  · dsimp only
    rcases valuesFor texts rs with e | vs
    · exact .none
    · exact served_put ..

/-! ### The driver's state -/

/-- The state of the driver after a batch of reads can be told from its calls. -/
theorem told_get (dr : Driver δ) (d : Device) (requests : List ResourceRequest) :
    Told dr id (get dr d requests) := by
  unfold get
  split
  · exact .pure _
  · split
    · exact .pure _
    · refine .bind (.log _ _) fun _ => .bind (.traced dr fun _ => rfl) fun r => ?_
      split
      · exact .bind (.log _ _) fun _ => .pure _
      · exact .bind .state fun _ => .pure _

theorem told_put (dr : Driver δ) (d : Device) (requests : List ResourceRequest)
    (values : List Value) : Told dr id (put dr d requests values) := by
  unfold put
  split
  · exact .pure _
  · split
    · exact .pure _
    · split
      · exact .pure _
      · refine .bind (.log _ _) fun _ => .bind (.traced dr fun _ => rfl) fun r => ?_
        split
        · exact .bind (.log _ _) fun _ => .pure _
        · exact .pure _

theorem told_read (dr : Driver δ) (d : Device) (command : String) :
    Told dr id (read dr d command) := by
  unfold read
  split
  · exact .pure _
  · refine .bind (told_get _ _ _) fun r => ?_
    split <;> exact .pure _

theorem told_write (dr : Driver δ) (d : Device) (command : String) (texts : Table String) :
    Told dr id (write dr d command texts) := by
  unfold write
  split
  · exact .pure _
  · split
    · exact .pure _
    · exact told_put _ _ _ _

end Command

/-! ## Reconciliation -/

namespace Reconcile

variable {δ α : Type} {p : Parties δ α}

theorem told_tell (dr : Driver δ) (c : ListenerCall) :
    Told dr Site.driver (tell c : Activity Event (Site δ α) Unit) :=
  .bind .state fun s => .of_uncalled (Keeps.emitAll (s.listeners.uncalled_tell c)) fun _ => rfl

/-- The state of the driver after a disconnect can be told from the call. -/
theorem told_disconnect (p : Parties δ α) (t : Target) :
    Told p.driver Site.driver (disconnect p t) := by
  refine .bind (.on (.traced p.driver fun _ => rfl) (fun _ => rfl) fun _ _ => rfl) fun r => ?_
  split
  · exact .pure _
  · exact .log _ _

theorem told_remove (dr : Driver δ) (id : String) :
    Told dr Site.driver (remove id : Activity Event (Site δ α) (Option Device)) :=
  .bind .state fun _ => .bind (.modify fun _ => rfl) fun _ => .pure _

theorem told_delete (p : Parties δ α) (id : String) :
    Told p.driver Site.driver (delete p id) := by
  refine .bind (told_remove _ id) fun removed => ?_
  split
  · exact .bind (.log _ _) fun _ => .pure _
  · exact .bind (.log _ _) fun _ => .bind (told_tell _ _) fun _ =>
      .bind (told_disconnect p _) fun _ => .pure _

theorem told_release (p : Parties δ α) (d : Device) :
    Told p.driver Site.driver (release p d) := by
  refine .bind (told_remove _ d.id) fun removed => ?_
  split
  · exact .bind (.log _ _) fun _ => .pure _
  · exact .bind (.log _ _) fun _ => .bind (told_tell _ _) fun _ =>
      .bind (told_disconnect p _) fun _ => .pure _

theorem told_put (dr : Driver δ) (d : Device) :
    Told dr Site.driver (put d : Activity Event (Site δ α) PutOutcome) := by
  refine .bind .state fun s => .bind (.of_uncalled (Keeps.emitAll fun e he => ?_) fun _ => rfl)
    fun _ => .bind (.modify fun _ => rfl) fun _ => .pure _
  obtain ⟨before, -, rfl⟩ := List.mem_map.mp he
  trivial

theorem told_adopt (dr : Driver δ) (d : Device) :
    Told dr Site.driver (adopt d : Activity Event (Site δ α) Report) := by
  refine .bind (told_put dr d) fun outcome => ?_
  cases outcome with
  | created =>
    exact .bind (.log _ _) fun _ => .bind (told_tell _ _) fun _ => .pure _
  | updatedLocally =>
    exact .bind (.log _ _) fun _ => .bind (told_tell _ _) fun _ => .pure _
  | updatedRemoteOnly => exact .bind (.log _ _) fun _ => .pure _

theorem told_upsert (p : Parties δ α) (id : String) :
    Told p.driver Site.driver (upsert p id) := by
  -- the answer of the authority comes without the driver
  refine .bind (.on_other (p.authority.emits_askFor _ _) fun _ _ => rfl) fun r => ?_
  split
  · exact .bind (.log _ _) fun _ => .pure _
  · split
    · exact .bind (.log _ _) fun _ => .pure _
    · split
      · exact told_adopt _ _
      · exact told_release p _

/-- The state of the driver after a notification can be told from its calls. -/
theorem told_handle (p : Parties δ α) (n : Notification) :
    Told p.driver Site.driver (handle p n) := by
  unfold handle
  split
  · exact told_delete p _
  · exact told_upsert p _

end Reconcile

/-! ## Profiles -/

namespace Profiles

variable {α : Type}

/-- What leaves the profiles of every cache covered, leaves only silent events. -/
theorem Covering.emits {β : Type} {m : Activity Event (Profiles α) β}
    (h : ∀ c, Covering c m) : Emits Event.IsSilent m :=
  fun ps _ => ⟨trivial, (h ps.cache ps (ProfileCache.Covers.refl _)).2⟩

/-- The look-up of a profile contacts neither driver nor listener. -/
theorem emits_get (a : Authority α) (name : String) : Emits Event.IsSilent (get a name) :=
  Covering.emits fun c => keeps_get c a name

/-- An upload contacts neither driver nor listener. -/
theorem emits_uploadFolder (a : Authority α) (f : Folder) :
    Emits Event.IsSilent (uploadFolder a f) :=
  Covering.emits fun c => keeps_uploadFolder c a f

end Profiles

/-! ## Operations of a service -/

namespace Service

variable {δ α : Type} {s : Service δ α} {st : State δ α}

/-- What an operation leaves in the trace. -/
def traceOf (s : Service δ α) : Operation → State δ α → List Event
  | .register l, st => (register l st).trace
  | .start content, st => ((s.finding content).start st).trace
  | .stop force, st => (s.stop force st).trace
  | .notify n, st => (s.notify n st).trace
  | .profile name, st => (s.profile name st).trace
  | .read k command, st => (s.read k command st).trace
  | .write k command texts, st => (s.write k command texts st).trace
  | .getBatch id requests, st => (s.getBatch id requests st).trace
  | .putBatch id requests values, st => (s.putBatch id requests values st).trace

/-- What one operation after the other leaves in the trace. -/
def record (s : Service δ α) : List Operation → State δ α → List Event
  | [], _ => []
  | op :: ops, st => s.traceOf op st ++ s.record ops (s.perform op st)

theorem run_append (ops ops' : List Operation) (st : State δ α) :
    s.run (ops ++ ops') st = s.run ops' (s.run ops st) :=
  List.foldl_append

theorem record_append (ops ops' : List Operation) (st : State δ α) :
    s.record (ops ++ ops') st = s.record ops st ++ s.record ops' (s.run ops st) := by
  induction ops generalizing st with
  | nil => rfl
  | cons op ops ih =>
    rw [List.cons_append, record, record, ih, List.append_assoc]
    rfl

/-! ### Commands -/

/-- The device that a command is for, as the service finds it. -/
def Operation.addressee? (st : State δ α) : Operation → Option Device
  | read k _ | write k _ _ => device? st k
  | getBatch id _ | putBatch id _ _ => st.store.get? id
  | _ => none

/-- A command to a device. -/
def Operation.IsCommand : Operation → Prop
  | read _ _ | write _ _ _ | getBatch _ _ | putBatch _ _ _ => True
  | _ => False

/-- A command is for the device that its key leads to. -/
theorem device?_of_commandDevice {k : DeviceKey} {d : Device} (h : commandDevice st k = .ok d) :
    device? st k = some d := by
  unfold commandDevice at h
  split at h
  · cases h
  · split at h
    · cases h
    · rename_i e he
      rw [he, Except.ok.inj h]

/-- A command calls the driver about the device that it is for, or not at all. -/
theorem served_of_command {op : Operation} (hop : op.IsCommand) (st : State δ α) :
    driverCalls (s.traceOf op st) = [] ∨
      ∃ d, op.addressee? st = some d ∧ Command.Served d (driverCalls (s.traceOf op st)) := by
  cases op with
  | read k command =>
    rw [traceOf, read, look_bind]
    rcases hd : commandDevice st k with e | d
    · exact .inl rfl
    · refine .inr ⟨d, device?_of_commandDevice hd, ?_⟩
      dsimp only
      rw [driverCalls_bind_of_quiet]
      · exact Command.served_read s.driver d command st.driver
      · rintro (e | rs) t <;> rfl
  | write k command texts =>
    rw [traceOf, write, look_bind]
    rcases hd : commandDevice st k with e | d
    · exact .inl rfl
    · refine .inr ⟨d, device?_of_commandDevice hd, ?_⟩
      dsimp only
      rw [driverCalls_bind_of_quiet]
      · exact Command.served_write s.driver d command texts st.driver
      · rintro (e | ⟨⟩) t <;> rfl
  | getBatch id requests =>
    rw [traceOf, getBatch, look_bind]
    rcases hd : st.store.get? id with _ | d
    · exact .inl rfl
    · exact .inr ⟨d, hd, Command.served_get s.driver d requests st.driver⟩
  | putBatch id requests values =>
    rw [traceOf, putBatch, look_bind]
    rcases hd : st.store.get? id with _ | d
    · exact .inl rfl
    · exact .inr ⟨d, hd, Command.served_put s.driver d requests values st.driver⟩
  | _ => exact hop.elim

/-- In a sound state devices are stored only during a run. -/
theorem Sound.running_of_stored (h : s.Sound st) {i : String} {d : Device}
    (hd : st.store.get? i = some d) : st.running = true := by
  rcases hrun : st.running with _ | _
  · rw [h.idle hrun] at hd
    cases hd
  · rfl

/-- A command is for a device that is stored, under its own identifier. -/
theorem Sound.stored_of_addressee? (h : s.Sound st) {op : Operation} {d : Device}
    (hd : op.addressee? st = some d) : st.store.get? d.id = some d := by
  have hstored : ∀ i, st.store.get? i = some d → st.store.get? d.id = some d := by
    intro i hi
    rwa [h.filed i d hi]
  have hkey : ∀ k, device? st k = some d → st.store.get? d.id = some d := by
    intro k hk
    cases k with
    | id i => exact hstored i hk
    | name n =>
      -- the name leads to an identifier, and that to the device
      obtain ⟨i, -, hi⟩ := Option.bind_eq_some_iff.mp hk
      exact hstored i hi
  cases op with
  | read k command => exact hkey k hd
  | write k command texts => exact hkey k hd
  | getBatch id requests => exact hstored id hd
  | putBatch id requests values => exact hstored id hd
  | _ => cases hd

/-! ### Other operations -/

theorem driverCalls_profile (name : String) (st : State δ α) :
    driverCalls (s.profile name st).trace = [] :=
  driverCalls_of_silent ((Profiles.emits_get s.authority name).trace (profilesPart.get st))

/-- A notification calls the driver as its decision says. -/
theorem driverCalls_notify (hrun : st.running = true) (n : Notification) :
    driverCalls (s.notify n st).trace = (s.decision st n).driverCalls := by
  rw [← driverCalls_contacts, contacts_notify hrun, Reconcile.Decision.contacts,
    driverCalls_append]
  -- what the listener is told holds no call of the driver
  have htold :
      driverCalls (((s.decision st n).calls st.store).flatMap st.listeners.calls) = [] := by
    refine driverCalls_of_uncalled fun e he => ?_
    obtain ⟨c, -, hc⟩ := List.mem_flatMap.mp he
    obtain ⟨l, -, rfl⟩ := List.mem_map.mp hc
    trivial
  rw [htold, List.nil_append, driverCalls, List.filterMap_map]
  exact List.filterMap_some

/-- A stop of a running service is one stop of the driver, by force if it is asked for. -/
theorem driverCalls_stop (hrun : st.running = true) (force : Bool) :
    driverCalls (s.stop force st).trace = [.stop force] := by
  have hstop : (s.stop force st).trace =
      [.line .info s!"Stopping device service '{s.name}' (force: {Value.boolText force})"] ++
        (((s.driver.callStop force).on driverPart >>= s.forget)
          { st with running := false }).trace := by
    rw [stop, look_bind, hrun]
    rfl
  have hcall : driverCalls ((s.driver.callStop force).on driverPart
      { st with running := false }).trace = [.stop force] := Driver.driverCalls_traced ..
  rw [hstop, trace_bind, driverCalls_append, driverCalls_append, hcall]
  rcases ((s.driver.callStop force).on driverPart { st with running := false }).value
    with e | ⟨⟩ <;> rfl

/-! ### The driver's state -/

theorem told_begin (s : Service δ α) : Told s.driver State.driver s.begin := by
  refine .bind .state fun st => ?_
  split
  · exact .pure _
  · refine .bind (.log _ _) fun _ => ?_
    refine .bind (.on (.traced s.driver fun _ => rfl) (fun _ => rfl) fun _ _ => rfl) fun r => ?_
    split <;> exact .pure _

theorem told_uploadProfiles (s : Service δ α) :
    Told s.driver State.driver s.uploadProfiles := by
  unfold uploadProfiles
  split
  · exact .pure _
  · refine .bind (.on_other (Profiles.emits_uploadFolder _ _) fun _ _ => rfl) fun r => ?_
    split
    · exact .pure _
    · exact .bind (.log _ _) fun _ => .pure _

theorem told_sync (s : Service δ α) : Told s.driver State.driver s.sync := by
  refine .bind (told_uploadProfiles s) fun r => ?_
  split
  · exact .pure _
  · refine .bind (.on_other (s.authority.emits_fetchDevices _) fun _ _ => rfl) fun r => ?_
    split
    · exact .pure _
    · exact .bind (.of_uncalled ((s.emits_load _).mono fun _ => Event.IsSilent.isUncalled)
        fun _ => rfl) fun _ => .pure _

theorem told_rollBack (s : Service δ α) : Told s.driver State.driver s.rollBack := by
  refine .bind (.on (.traced s.driver fun _ => rfl) (fun _ => rfl) fun _ _ => rfl) fun r => ?_
  split
  · exact .pure _
  · exact .log _ _

/-- The state of the driver after a start can be told from its calls. -/
theorem told_start (s : Service δ α) : Told s.driver State.driver s.start := by
  refine .bind (told_begin s) fun r => ?_
  split
  · exact .pure _
  · refine .bind (told_sync s) fun r => ?_
    split
    · -- a sync that fails: the stop of the roll-back is the last call
      exact .bind (told_rollBack s) fun _ => .pure _
    · refine .bind .state fun st => .bind (.modify fun _ => rfl) fun _ => ?_
      split
      · exact .pure _
      · exact .bind (.log _ _) fun _ => .pure _

theorem told_forget (s : Service δ α) (answer : Except DriverError Unit) :
    Told s.driver State.driver (s.forget answer) := by
  rcases answer with e | ⟨⟩
  · exact .bind (.log _ _) fun _ => .bind (.modify fun _ => rfl) fun _ => .pure _
  · exact .bind (.modify fun _ => rfl) fun _ => .pure _

theorem told_stop (s : Service δ α) (force : Bool) :
    Told s.driver State.driver (s.stop force) := by
  refine .bind .state fun st => ?_
  split
  · exact .pure _
  · refine .bind (.modify fun _ => rfl) fun _ => .bind (.log _ _) fun _ => ?_
    exact .bind (.on (.traced s.driver fun _ => rfl) (fun _ => rfl) fun _ _ => rfl) fun r =>
      told_forget s r

theorem told_notify (s : Service δ α) (n : Notification) :
    Told s.driver State.driver (s.notify n) := by
  refine .bind .state fun st => ?_
  split
  · exact .pure _
  · refine .bind (.log _ _) fun _ => ?_
    refine .bind (.on (Reconcile.told_handle s.parties n) (fun _ => rfl) fun _ _ => rfl) fun r => ?_
    -- the profile that is remembered is no matter of the driver
    refine .bind (.modify fun st => ?_) fun _ => .pure _
    split <;> rfl

theorem told_profile (s : Service δ α) (name : String) :
    Told s.driver State.driver (s.profile name) :=
  .on_other (Profiles.emits_get s.authority name) fun _ _ => rfl

theorem told_read (s : Service δ α) (k : DeviceKey) (command : String) :
    Told s.driver State.driver (s.read k command) := by
  refine .bind .state fun st => ?_
  split
  · exact .pure _
  · refine .bind (.on (Command.told_read _ _ _) (fun _ => rfl) fun _ _ => rfl) fun r => ?_
    split <;> exact .pure _

theorem told_write (s : Service δ α) (k : DeviceKey) (command : String) (texts : Table String) :
    Told s.driver State.driver (s.write k command texts) := by
  refine .bind .state fun st => ?_
  split
  · exact .pure _
  · refine .bind (.on (Command.told_write _ _ _ _) (fun _ => rfl) fun _ _ => rfl) fun r => ?_
    split <;> exact .pure _

theorem told_getBatch (s : Service δ α) (id : String) (requests : List ResourceRequest) :
    Told s.driver State.driver (s.getBatch id requests) := by
  refine .bind .state fun st => ?_
  split
  · exact .pure _
  · exact .on (Command.told_get _ _ _) (fun _ => rfl) fun _ _ => rfl

theorem told_putBatch (s : Service δ α) (id : String) (requests : List ResourceRequest)
    (values : List Value) : Told s.driver State.driver (s.putBatch id requests values) := by
  refine .bind .state fun st => ?_
  split
  · exact .pure _
  · exact .on (Command.told_put _ _ _ _) (fun _ => rfl) fun _ _ => rfl

/-- After every operation the driver is where the calls of that operation leave it. -/
theorem driver_perform (s : Service δ α) (op : Operation) (st : State δ α) :
    (s.perform op st).driver = s.driver.after st.driver (driverCalls (s.traceOf op st)) := by
  cases op with
  | register l =>
    -- a listener is taken or refused without the driver
    refine Told.bind .state (fun st => ?_) st
    split
    · exact .bind (.modify fun _ => rfl) fun _ => .pure _
    · exact .bind (.of_uncalled (Keeps.emit trivial) fun _ => rfl) fun _ => .pure _
  | start content => exact told_start (s.finding content) st
  | stop force => exact told_stop s force st
  | notify n => exact told_notify s n st
  | profile name => exact told_profile s name st
  | read k command => exact told_read s k command st
  | write k command texts => exact told_write s k command texts st
  | getBatch id requests => exact told_getBatch s id requests st
  | putBatch id requests values => exact told_putBatch s id requests values st

/-- **The driver is only what it is told.** After a run its state is that of the calls of the run,
one after the other. -/
theorem driver_run (s : Service δ α) (ops : List Operation) (st : State δ α) :
    (s.run ops st).driver = s.driver.after st.driver (driverCalls (s.record ops st)) := by
  induction ops generalizing st with
  | nil => rfl
  | cons op ops ih =>
    rw [record, driverCalls_append, Driver.after_append, ← driver_perform]
    exact ih _

end Service

end DeviceHost
