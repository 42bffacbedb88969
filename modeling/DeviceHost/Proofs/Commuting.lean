import DeviceHost.Driver.Template
import DeviceHost.Proofs.NameIndex
import DeviceHost.Proofs.Reachable

/-!
# Notifications about different devices

Notifications may overtake each other. For two that are about different devices this does not
matter: each of them is decided by the record of its own device and by what the authority answers
about it, and changes no other record. Only the names are shared. A notification leads those names
elsewhere that its device is stored under or is to be stored under, so the order shows in a name
that both devices have or are to have.

* `Decision.IsAbout` — the identifier that a decision is about; `decision_congr_store`,
  `report_congr`, `contacts_congr` — of the store, only its record counts;
* `Decision.Touches` — the names that a decision may lead elsewhere; `names_store_of_not_touches`,
  `names_store_congr` — other names stay, and where these lead depends on its own record only;
* `devices_store_comm`, `names_store_comm` — so two decisions lead to the same devices in either
  order, and a name that only one of them touches leads to the same identifier;
* `notify_comm` — the same for a whole service, together with the reports and with what the listener
  and the driver are told.
-/

namespace DeviceHost

namespace Store

/-! ## Where a name leads after a change -/

/-- Where a name leads once the device of an identifier has given up the name that it is stored
under. -/
def leadWithout (s : Store) (id name : String) : Option String :=
  if (s.get? id).map Device.name = some name then (s.names.get? name).filter fun i => i != id
  else s.names.get? name

variable {s s' : Store} {id name : String}

/-- After a removal a name leads where it leads without the removed device. -/
theorem names_remove (s : Store) (id name : String) :
    (s.remove id).2.names.get? name = s.leadWithout id name := by
  rw [leadWithout, remove]
  rcases s.get? id with _ | d
  · simp
  · simp [get?_release]

/-- After an insertion the own name leads to the device, others where they lead without its old
record. -/
theorem names_insert (s : Store) (d : Device) (name : String) :
    (s.insert d).names.get? name =
      if d.name = name then some d.id else s.leadWithout d.id name := by
  rw [Store.insert, Table.get?_insert]
  by_cases hname : d.name = name
  · rw [if_pos hname, if_pos hname]
  · rw [if_neg hname, if_neg hname, leadWithout, Store.namesBefore]
    rcases s.get? d.id with _ | p
    · simp
    · by_cases hp : p.name = d.name
      · -- the device keeps its name, which is not the one in question
        simp [hp, hname]
      · simp [hp, get?_release]

/-- Without a device that bears another name a name leads where it led. -/
theorem leadWithout_of_ne (h : (s.get? id).map Device.name ≠ some name) :
    s.leadWithout id name = s.names.get? name :=
  if_neg h

/-- Where a name leads without a device depends on that device and on the name alone. -/
theorem leadWithout_congr (hget : s'.get? id = s.get? id)
    (hname : s'.names.get? name = s.names.get? name) :
    s'.leadWithout id name = s.leadWithout id name := by
  rw [leadWithout, leadWithout, hget, hname]

theorem outcomeOf_congr {d : Device} (hget : s'.get? d.id = s.get? d.id) :
    s'.outcomeOf d = s.outcomeOf d := by
  rw [outcomeOf, outcomeOf, hget]

end Store

namespace Reconcile

/-! ## What counts for a decision, and what it changes -/

/-- A decision is about an identifier at most. -/
def Decision.IsAbout (i : String) : Decision → Prop
  | adopt d => d.id = i
  | dismiss id _ _ => id = i
  | ignore _ => True

/-- A decision may lead a name elsewhere: it is the one that its device is stored under, or the one
that it is to be stored under. -/
def Decision.Touches (s : Store) (name : String) : Decision → Prop
  | adopt d => d.name = name ∨ (s.get? d.id).map Device.name = some name
  | dismiss id _ _ => (s.get? id).map Device.name = some name
  | ignore _ => False

variable {s s' : Store} {i j name : String} {D E : Decision}

/-- Every decision on a notification is about the identifier that the notification names. -/
theorem decision_isAbout (service : String) (s : Store) (answer : Except AuthorityError Device)
    (n : Notification) : (decision service s answer n).IsAbout n.id := by
  rcases hD : decision service s answer n with d | ⟨id, told, r⟩ | r
  · obtain ⟨-, -, hid, -⟩ := decision_eq_adopt hD
    exact hid
  · obtain ⟨hid, -⟩ := decision_eq_dismiss hD
    exact hid
  · trivial

/-- What is decided depends on one record of the store. -/
theorem decision_congr_store {service : String} {answer : Except AuthorityError Device}
    {n : Notification} (hget : s'.get? n.id = s.get? n.id) :
    decision service s' answer n = decision service s answer n := by
  obtain ⟨c, id⟩ := n
  cases c with
  | delete => rw [decision_delete, decision_delete, hget]
  | upsert =>
    rcases answer with e | d
    · rfl
    · by_cases hid : d.id = id
      · subst hid
        rw [decision_fetched, decision_fetched, hget]
      · exact (if_pos hid).trans (if_pos hid).symm

namespace Decision

/-- What a decision reports depends only on the stored device of its identifier. -/
theorem report_congr (hD : D.IsAbout i) (hget : s'.get? i = s.get? i) :
    D.report s' = D.report s := by
  cases D with
  | adopt d =>
    obtain rfl : d.id = i := hD
    exact congrArg Report.stored (Store.outcomeOf_congr hget)
  | dismiss id told r => rfl
  | ignore r => rfl

/-- Whom a decision contacts depends only on the stored device of its identifier. -/
theorem contacts_congr (hD : D.IsAbout i) (hget : s'.get? i = s.get? i) (r : Registry) :
    D.contacts r s' = D.contacts r s := by
  cases D with
  | adopt d =>
    obtain rfl : d.id = i := hD
    simp only [contacts, calls, Store.outcomeOf_congr hget]
  | dismiss id told r => rfl
  | ignore r => rfl

/-- Records of other identifiers stay. -/
theorem get?_store_of_ne (hD : D.IsAbout i) (hij : i ≠ j) : (D.store s).get? j = s.get? j := by
  cases D with
  | adopt d =>
    obtain rfl : d.id = i := hD
    exact (Store.get?_insert ..).trans (if_neg hij)
  | dismiss id told r =>
    obtain rfl : id = i := hD
    exact (Store.get?_remove ..).trans (if_neg hij)
  | ignore r => rfl

/-- What becomes of a record depends on no other record. -/
theorem get?_store_congr (hget : s'.get? j = s.get? j) :
    (D.store s').get? j = (D.store s).get? j := by
  cases D with
  | adopt d => simp only [store, Store.get?_insert, hget]
  | dismiss id told r => simp only [store, Store.get?_remove, hget]
  | ignore r => exact hget

/-- A decision leaves the names that it does not touch. -/
theorem names_store_of_not_touches (h : ¬ D.Touches s name) :
    (D.store s).names.get? name = s.names.get? name := by
  cases D with
  | adopt d =>
    obtain ⟨hnew, hold⟩ := not_or.mp h
    rw [store, Store.names_insert, if_neg hnew, Store.leadWithout_of_ne hold]
  | dismiss id told r => rw [store, Store.names_remove, Store.leadWithout_of_ne h]
  | ignore r => rfl

/-- Where a name is led depends on where it led before and on one record. -/
theorem names_store_congr (hD : D.IsAbout i) (hget : s'.get? i = s.get? i)
    (hname : s'.names.get? name = s.names.get? name) :
    (D.store s').names.get? name = (D.store s).names.get? name := by
  cases D with
  | adopt d =>
    obtain rfl : d.id = i := hD
    simp only [store, Store.names_insert, Store.leadWithout_congr hget hname]
  | dismiss id told r =>
    obtain rfl : id = i := hD
    simp only [store, Store.names_remove, Store.leadWithout_congr hget hname]
  | ignore r => exact hname

/-- Which names a decision touches depends only on the stored device of its identifier. -/
theorem touches_congr (hD : D.IsAbout i) (hget : s'.get? i = s.get? i) :
    D.Touches s' name ↔ D.Touches s name := by
  cases D with
  | adopt d =>
    obtain rfl : d.id = i := hD
    simp only [Touches, hget]
  | dismiss id told r =>
    obtain rfl : id = i := hD
    simp only [Touches, hget]
  | ignore r => exact Iff.rfl

/-! ## Two decisions, in either order -/

section Order

variable (hD : D.IsAbout i) (hE : E.IsAbout j) (hij : i ≠ j)

include hD hE hij

/-- Decisions about different identifiers leave the same devices in either order. -/
theorem get?_store_comm (k : String) :
    (E.store (D.store s)).get? k = (D.store (E.store s)).get? k := by
  by_cases hik : i = k
  · subst hik
    -- only the first decision changes this record
    rw [get?_store_of_ne hE hij.symm, get?_store_congr (get?_store_of_ne hE hij.symm)]
  · rw [get?_store_of_ne hD hik, get?_store_congr (get?_store_of_ne hD hik)]

theorem devices_store_comm : (E.store (D.store s)).devices = (D.store (E.store s)).devices :=
  Table.ext_get? (get?_store_comm hD hE hij)

/-- A name that the first decision does not touch is led to the same place in either order. -/
theorem names_store_comm_of_not_touches (h : ¬ D.Touches s name) :
    (E.store (D.store s)).names.get? name = (D.store (E.store s)).names.get? name := by
  have hafter : ¬ D.Touches (E.store s) name := by
    rwa [touches_congr hD (get?_store_of_ne hE hij.symm)]
  calc (E.store (D.store s)).names.get? name
      = (E.store s).names.get? name :=
        names_store_congr hE (get?_store_of_ne hD hij) (names_store_of_not_touches h)
    _ = (D.store (E.store s)).names.get? name := (names_store_of_not_touches hafter).symm

/-- A name that not both decisions touch leads to the same place in either order. -/
theorem names_store_comm (h : ¬ (D.Touches s name ∧ E.Touches s name)) :
    (E.store (D.store s)).names.get? name = (D.store (E.store s)).names.get? name := by
  by_cases htouches : D.Touches s name
  · have hother : ¬ E.Touches s name := fun hE' => h ⟨htouches, hE'⟩
    exact (names_store_comm_of_not_touches hE hD hij.symm hother).symm
  · exact names_store_comm_of_not_touches hD hE hij htouches

end Order

-- a name that both devices are to have leads to the one that comes last
example :
    let pump (id : String) := Device.ofName id "pump" "s"
    let names (D E : Decision) := (E.store (D.store .empty)).names.get? "pump"
    names (.adopt (pump "1")) (.adopt (pump "2")) = some "2" ∧
      names (.adopt (pump "2")) (.adopt (pump "1")) = some "1" := by decide

end Decision

end Reconcile

/-! ## A whole service -/

/-- The authority answers a request for a device always in the same way, whatever it was asked
before. -/
def Authority.Fixed {α : Type} (a : Authority α) (answers : String → Except AuthorityError Device) :
    Prop :=
  ∀ id x, (a.fetchDevice id x).value = answers id

/-- An authority that has one answer for each request. -/
def Authority.ofAnswers (answers : Inquiry → Except AuthorityError (List UInt8)) :
    Authority Unit :=
  ⟨fun q x => (answers q, x)⟩

namespace Service

variable {δ α : Type} {s : Service δ α} {st : State δ α} {m n : Notification}
  {answers : String → Except AuthorityError Device}

/-- The names of a device: the one that it is stored under, and the one that the authority gives it
if it belongs to the service. -/
inductive Named (s : Service δ α) (st : State δ α) (answers : String → Except AuthorityError Device)
    (i : String) : String → Prop
  /-- the name that it is stored under -/
  | stored {d : Device} (present : st.store.get? i = some d) : Named s st answers i d.name
  /-- the name that the authority gives it -/
  | fetched {d : Device} (answered : answers i = .ok d) (owned : d.service = s.name) :
    Named s st answers i d.name

/-- Two notifications were handled with the same report, and the listener and the driver were told
the same. -/
def HandledAlike (o o' : Outcome Event (State δ α) (Except ServiceError Report)) : Prop :=
  (∃ r, o.value = .ok r ∧ o'.value = .ok r) ∧ contacts o.trace = contacts o'.trace

/-- A touched name is the stored one of the identifier or that of the fetched device. -/
theorem Named.of_touches (hfixed : s.authority.Fixed answers) {name : String}
    (h : (s.decision st n).Touches st.store name) : s.Named st answers n.id name := by
  have hstored : (st.store.get? n.id).map Device.name = some name →
      s.Named st answers n.id name := by
    intro hname
    obtain ⟨d, hd, rfl⟩ := Option.map_eq_some_iff.mp hname
    exact .stored hd
  rcases hD : s.decision st n with d | ⟨id, told, r⟩ | r <;> rw [hD] at h
  · obtain ⟨-, hanswer, hid, hown⟩ := Reconcile.decision_eq_adopt hD
    rcases h with rfl | hold
    · exact .fetched ((hfixed n.id st.authority).symm.trans hanswer) hown
    · exact hstored (hid ▸ hold)
  · obtain ⟨rfl, -⟩ := Reconcile.decision_eq_dismiss hD
    exact hstored h
  · exact h.elim

section Order

variable (hrun : st.running = true) (hfixed : s.authority.Fixed answers) (hne : m.id ≠ n.id)

include hrun hne

/-- A notification leaves the devices of all other identifiers. -/
theorem get?_notify_of_ne : (s.notify m st).state.store.get? n.id = st.store.get? n.id := by
  rw [s.notify_store hrun]
  exact Reconcile.Decision.get?_store_of_ne (Reconcile.decision_isAbout ..) hne

include hfixed

/-- What comes of a notification does not depend on one before it about another device. -/
theorem decision_notify_of_ne : s.decision (s.notify m st).state n = s.decision st n := by
  rw [decision, decision, hfixed, hfixed]
  exact Reconcile.decision_congr_store (get?_notify_of_ne hrun hne)

/-- A notification is handled alike before and after one of another identifier. -/
theorem handledAlike_notify : HandledAlike (s.notify n st) (s.notify n (s.notify m st).state) := by
  have hrunning : (s.notify m st).state.running = true := (s.notify_running m).trans hrun
  have habout := Reconcile.decision_isAbout s.name st.store
    (s.authority.fetchDevice n.id st.authority).value n
  have hget := get?_notify_of_ne (s := s) hrun hne
  have hdecision := decision_notify_of_ne hrun hfixed hne
  refine ⟨⟨_, s.notify_value hrun n, ?_⟩, ?_⟩
  · rw [s.notify_value hrunning, hdecision]
    exact congrArg Except.ok (Reconcile.Decision.report_congr habout hget)
  · rw [contacts_notify hrun, contacts_notify hrunning, hdecision, s.notify_listeners]
    exact (Reconcile.Decision.contacts_congr habout hget st.listeners).symm

/-- Two notifications leave the store that the two decisions, made at the start, leave. -/
theorem store_notify_notify :
    (s.notify n (s.notify m st).state).state.store =
      (s.decision st n).store ((s.decision st m).store st.store) := by
  have hrunning : (s.notify m st).state.running = true := (s.notify_running m).trans hrun
  rw [s.notify_store hrunning, decision_notify_of_ne hrun hfixed hne, s.notify_store hrun]

end Order

/-- **Notifications about different devices may come in either order.** If the authority always
answers about a device in the same way, each of the two is reported in the same way whether it comes
first or second, the listener and the driver are told the same of it, and the devices are the same
afterwards. If the two devices have no name in common, neither now nor at the authority, every name
leads to the same device afterwards, too. -/
theorem notify_comm (hrun : st.running = true) (hfixed : s.authority.Fixed answers)
    (hne : m.id ≠ n.id) :
    let forwards := (s.notify n (s.notify m st).state).state.store
    let backwards := (s.notify m (s.notify n st).state).state.store
    HandledAlike (s.notify m st) (s.notify m (s.notify n st).state) ∧
      HandledAlike (s.notify n st) (s.notify n (s.notify m st).state) ∧
      forwards.devices = backwards.devices ∧
      ((∀ name, s.Named st answers m.id name → ¬ s.Named st answers n.id name) →
        ∀ name, forwards.find? name = backwards.find? name) := by
  intro forwards backwards
  have hforwards : forwards = _ := store_notify_notify hrun hfixed hne
  have hbackwards : backwards = _ := store_notify_notify hrun hfixed hne.symm
  have hm : (s.decision st m).IsAbout m.id := Reconcile.decision_isAbout ..
  have hn : (s.decision st n).IsAbout n.id := Reconcile.decision_isAbout ..
  refine ⟨handledAlike_notify hrun hfixed hne.symm, handledAlike_notify hrun hfixed hne, ?_, ?_⟩
  · rw [hforwards, hbackwards]
    exact Reconcile.Decision.devices_store_comm hm hn hne
  · intro hdisjoint name
    have hnames : forwards.names.get? name = backwards.names.get? name := by
      rw [hforwards, hbackwards]
      refine Reconcile.Decision.names_store_comm hm hn hne ?_
      rintro ⟨htouched, htouched'⟩
      exact hdisjoint name (.of_touches hfixed htouched) (.of_touches hfixed htouched')
    have hget : forwards.get? = backwards.get? := by
      funext i
      rw [hforwards, hbackwards]
      exact Reconcile.Decision.get?_store_comm hm hn hne i
    rw [Store.find?, Store.find?, hnames, hget]

/-- A pump moves to another service, while a fan gets another name and another address. -/
theorem notify_comm_of_answers :
    let a : Authority Unit := .ofAnswers fun
      | .device "1" => .ok (Utf8.ofString
        "\x7b\"id\":\"1\",\"name\":\"pump\",\"service\":\x7b\"name\":\"other\"\x7d\x7d")
      | .device "2" => .ok (Utf8.ofString
        "\x7b\"id\":\"2\",\"name\":\"blower\",\"service\":\x7b\"name\":\"device-service\"\x7d,"
        ++ Utf8.ofString "\"protocols\":\x7b\"modbus\":\x7b\"addr\":\"2\"\x7d\x7d\x7d")
      | .devicesOf _ => .ok (Utf8.ofString
        "[\x7b\"id\":\"1\",\"name\":\"pump\",\"service\":\x7b\"name\":\"device-service\"\x7d\x7d,"
        ++ Utf8.ofString
        "\x7b\"id\":\"2\",\"name\":\"fan\",\"service\":\x7b\"name\":\"device-service\"\x7d\x7d]")
      | _ => .error (.request "no answer")
    let s : Service Unit Unit := ⟨.standard, Template.driver, a, none⟩
    let answers : String → Except AuthorityError Device := fun id => (a.fetchDevice id ()).value
    let st := s.run [.register Template.listener, .start (.ok [])] (.initial () ())
    let m : Notification := ⟨.upsert, "1"⟩
    let n : Notification := ⟨.upsert, "2"⟩
    let forwards := (s.notify n (s.notify m st).state).state.store
    let backwards := (s.notify m (s.notify n st).state).state.store
    (st.running = true ∧ a.Fixed answers ∧ m.id ≠ n.id ∧
      ∀ name, s.Named st answers m.id name → ¬ s.Named st answers n.id name) ∧
      HandledAlike (s.notify m st) (s.notify m (s.notify n st).state) ∧
      HandledAlike (s.notify n st) (s.notify n (s.notify m st).state) ∧
      forwards.devices = backwards.devices ∧
      ∀ name, forwards.find? name = backwards.find? name := by
  intro a s answers st m n forwards backwards
  obtain ⟨hrun, hpump, hfan⟩ : st.running = true ∧
      (st.store.get? "1").map Device.name = some "pump" ∧
      (st.store.get? "2").map Device.name = some "fan" := by decide +kernel
  obtain ⟨hmoved, hrenamed⟩ :
      (answers "1").toOption.map Device.service = some "other" ∧
      (answers "2").toOption.map Device.name = some "blower" := by decide +kernel
  have hfixed : a.Fixed answers := fun _ _ => rfl
  have hne : m.id ≠ n.id := by decide
  clear_value st answers
  have hm : ∀ name, s.Named st answers m.id name → name = "pump" := by
    rintro _ (⟨hd⟩ | ⟨hd, hown⟩)
    · rw [hd] at hpump
      exact Option.some.inj hpump
    · -- the pump does not belong to the service any more
      rw [hd] at hmoved
      exact absurd (hown.symm.trans (Option.some.inj hmoved)) (by decide)
  have hn : ∀ name, s.Named st answers n.id name → name = "fan" ∨ name = "blower" := by
    rintro _ (⟨hd⟩ | ⟨hd, -⟩)
    · rw [hd] at hfan
      exact .inl (Option.some.inj hfan)
    · rw [hd] at hrenamed
      exact .inr (Option.some.inj hrenamed)
  have hdisjoint : ∀ name, s.Named st answers m.id name → ¬ s.Named st answers n.id name := by
    intro name hpumps hfans
    obtain rfl := hm name hpumps
    rcases hn _ hfans with h | h <;> exact absurd h (by decide)
  obtain ⟨hfirst, hsecond, hdevices, hfind⟩ := notify_comm (s := s) hrun hfixed hne
  exact ⟨⟨hrun, hfixed, hne, hdisjoint⟩, hfirst, hsecond, hdevices, hfind hdisjoint⟩

end Service

end DeviceHost
