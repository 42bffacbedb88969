import DeviceHost.Driver.Template
import DeviceHost.Proofs.Notification
import DeviceHost.Proofs.Start
import Mathlib.Data.List.Nodup

/-!
# The store mirrors the authority

The service never sees what the authority holds. It sees a list of devices when it starts, and from
then on single devices, fetched one by one because a notification named them. That is enough: as
long as every change at the authority is notified, the store holds exactly the devices that the
authority assigns to the service.

* `Inventory` — what the authority holds;
* `Delivery` — the authority changes a device and notifies the service, or notifies it once more;
* `Mirrors` — the service holds its part of the inventory, an invariant of deliveries;
* `mirrors_of_deliveries` — so it does from a start on, and its list shows it.
-/

namespace DeviceHost

/-! ## What the authority holds -/

/-- The devices that the authority holds. -/
structure Inventory where
  /-- the devices, under their identifiers -/
  devices : Table Device
  /-- every device is under its own identifier -/
  filed : ∀ i d, devices.get? i = some d → d.id = i

namespace Inventory

/-- Nothing is held. -/
def empty : Inventory := ⟨.empty, nofun⟩

/-- The device of an identifier. -/
def device? (A : Inventory) (i : String) : Option Device := A.devices.get? i

/-- Hold a device, in place of an earlier one of its identifier. -/
def put (A : Inventory) (d : Device) : Inventory where
  devices := A.devices.insert d.id d
  filed i e h := by
    rw [Table.get?_insert] at h
    split at h
    · obtain rfl := Option.some.inj h
      assumption
    · exact A.filed i e h

/-- Hold the device of an identifier no more. -/
def erase (A : Inventory) (i : String) : Inventory where
  devices := A.devices.erase i
  filed j d h := by
    rw [Table.get?_erase] at h
    split at h
    · cases h
    · exact A.filed j d h

/-- The devices that belong to a service. -/
def assigned (A : Inventory) (service : String) : List Device :=
  A.devices.values.filter fun d => d.isOwnedBy service

/-- The device of an identifier, if it belongs to a service. -/
def assigned? (A : Inventory) (service i : String) : Option Device :=
  (A.device? i).filter fun d => d.isOwnedBy service

variable {A : Inventory} {service i : String} {d : Device}

/-- A device is assigned to a service exactly if the authority has it and it names the service. -/
theorem assigned?_eq_some :
    A.assigned? service i = some d ↔ A.device? i = some d ∧ d.service = service := by
  simp [assigned?, Option.filter_eq_some_iff, Device.isOwnedBy]

/-- The assigned devices are those that the authority has and that name the service. -/
theorem mem_assigned :
    d ∈ A.assigned service ↔ A.device? d.id = some d ∧ d.service = service := by
  rw [assigned, List.mem_filter, Table.mem_values]
  constructor
  · rintro ⟨⟨i, hi⟩, hown⟩
    obtain rfl := A.filed i d hi
    exact ⟨hi, by simpa [Device.isOwnedBy] using hown⟩
  · rintro ⟨hd, hown⟩
    exact ⟨⟨d.id, hd⟩, by simpa [Device.isOwnedBy] using hown⟩

theorem nodup_assigned (A : Inventory) (service : String) : (A.assigned service).Nodup := by
  have hvalues : A.devices.values.Nodup := (Table.values_nodup A.filed).of_map
  exact hvalues.filter _

/-- A device that the authority takes up is assigned to the service that it names, and to no
other. -/
theorem assigned?_put (A : Inventory) (d : Device) (service i : String) :
    (A.put d).assigned? service i =
      if d.id = i then (if d.isOwnedBy service then some d else none)
      else A.assigned? service i := by
  rw [assigned?, device?, put, Table.get?_insert]
  split
  · exact Option.filter_some ..
  · rfl

/-- A device that the authority gives up is assigned to no service. -/
theorem assigned?_erase (A : Inventory) (i service j : String) :
    (A.erase i).assigned? service j = if i = j then none else A.assigned? service j := by
  rw [assigned?, device?, erase, Table.get?_erase]
  split
  · rfl
  · rfl

end Inventory

namespace Service

variable {δ α : Type} {s : Service δ α} {st st' : State δ α} {A A' : Inventory}

/-! ## Notifications, read through the store

The authority's answer decides what becomes of the device that a notification names; all other
devices stay. -/

/-- A fetched device is stored if the service owns it, and leaves the store otherwise. -/
theorem get?_notify_fetched (hrun : st.running = true) {d : Device}
    (hd : (s.authority.fetchDevice d.id st.authority).value = .ok d) (i : String) :
    (s.notify ⟨.upsert, d.id⟩ st).state.store.get? i =
      if d.id = i then (if d.isOwnedBy s.name then some d else none) else st.store.get? i := by
  rw [s.notify_store hrun, decision, hd, Reconcile.decision_fetched]
  by_cases hown : d.isOwnedBy s.name
  · rw [if_pos hown, if_pos hown]
    exact Store.get?_insert ..
  · rw [if_neg hown, if_neg hown]
    rcases hold : st.store.get? d.id with _ | old
    · -- there is nothing to take out
      by_cases hi : d.id = i
      · rw [if_pos hi, ← hi]
        exact hold
      · rw [if_neg hi]
        rfl
    · exact Store.get?_remove ..

/-- Without an answer of the authority the store stays as it is. -/
theorem store_notify_failed (hrun : st.running = true) {i : String} {e : AuthorityError}
    (he : (s.authority.fetchDevice i st.authority).value = .error e) :
    (s.notify ⟨.upsert, i⟩ st).state.store = st.store := by
  rw [s.notify_store hrun, decision, he, Reconcile.decision_failed]
  rfl

/-- The notification of a deletion empties its identifier and no other one. -/
theorem get?_notify_delete (hrun : st.running = true) (i j : String) :
    (s.notify ⟨.delete, i⟩ st).state.store.get? j =
      if i = j then none else st.store.get? j := by
  rw [s.notify_store hrun, decision, Reconcile.decision_delete]
  rcases hd : st.store.get? i with _ | d
  · by_cases hi : i = j
    · rw [if_pos hi, ← hi]
      exact hd
    · rw [if_neg hi]
      rfl
  · exact Store.get?_remove ..

/-! ## Deliveries -/

/-- One step of the authority and the service together: what the authority holds and the state of
the service, before and after. Before the service is notified, the authority's own state may become
any state `a`; all that counts is how it answers then. -/
inductive Delivery (s : Service δ α) :
    Inventory → State δ α → Inventory → State δ α → Prop
  /-- a device is put in, changed, renamed or moved from or to another service -/
  | changed (A : Inventory) (st : State δ α) (a : α) (d : Device)
      (fetched : (s.authority.fetchDevice d.id a).value = .ok d) :
      Delivery s A st (A.put d) (s.notify ⟨.upsert, d.id⟩ { st with authority := a }).state
  /-- a device is deleted -/
  | deleted (A : Inventory) (st : State δ α) (a : α) (i : String) :
      Delivery s A st (A.erase i) (s.notify ⟨.delete, i⟩ { st with authority := a }).state
  /-- the service is notified of a device as it is held -/
  | changedAgain (A : Inventory) (st : State δ α) (a : α) (i : String) (d : Device)
      (held : A.device? i = some d) (fetched : (s.authority.fetchDevice i a).value = .ok d) :
      Delivery s A st A (s.notify ⟨.upsert, i⟩ { st with authority := a }).state
  /-- the service is notified of a device, held or not, and does not get it -/
  | failed (A : Inventory) (st : State δ α) (a : α) (i : String) (e : AuthorityError)
      (refused : (s.authority.fetchDevice i a).value = .error e) :
      Delivery s A st A (s.notify ⟨.upsert, i⟩ { st with authority := a }).state
  /-- the service is told once more that a device was deleted -/
  | deletedAgain (A : Inventory) (st : State δ α) (a : α) (i : String)
      (absent : A.device? i = none) :
      Delivery s A st A (s.notify ⟨.delete, i⟩ { st with authority := a }).state

/-- Any number of deliveries, one after the other. -/
inductive Deliveries (s : Service δ α) (A : Inventory) (st : State δ α) :
    Inventory → State δ α → Prop
  /-- none -/
  | none : Deliveries s A st A st
  /-- one more -/
  | more {A' A'' : Inventory} {st' st'' : State δ α} (earlier : Deliveries s A st A' st')
      (last : Delivery s A' st' A'' st'') : Deliveries s A st A'' st''

/-! ## The mirror -/

/-- The service runs and holds exactly what the authority assigns to it. -/
structure Mirrors (s : Service δ α) (A : Inventory) (st : State δ α) : Prop where
  /-- it runs -/
  running : st.running = true
  /-- under every identifier it has what is assigned to it -/
  store : ∀ i, st.store.get? i = A.assigned? s.name i

/-- After a start with the list of the assigned devices the store mirrors the authority. -/
theorem Started.mirrors {listed : List Device} (h : Started s listed st st')
    (hlisted : ∀ d, d ∈ s.owned listed ↔ d ∈ A.assigned s.name) : s.Mirrors A st' where
  running := h.running
  store i := by
    rw [h.store]
    refine Option.ext fun d => ?_
    rw [Inventory.assigned?_eq_some]
    constructor
    · intro hd
      obtain ⟨hmem, rfl⟩ := Store.mem_of_get?_ofList hd
      exact Inventory.mem_assigned.mp ((hlisted d).mp hmem)
    · rintro ⟨hd, hown⟩
      obtain rfl := A.filed i d hd
      have hmem := (hlisted d).mpr (Inventory.mem_assigned.mpr ⟨hd, hown⟩)
      -- whichever record of the identifier was listed last, it is the one that is held
      obtain ⟨e, he⟩ := Option.isSome_iff_exists.mp (Store.isSome_get?_ofList hmem)
      obtain ⟨hemem, heid⟩ := Store.mem_of_get?_ofList he
      have hheld := (Inventory.mem_assigned.mp ((hlisted e).mp hemem)).1
      rw [heid, hd] at hheld
      rwa [← Option.some.inj hheld] at he

/-- A notification does not end the run, so only the devices need to be looked at. -/
theorem Mirrors.notified (h : s.Mirrors A st) {n : Notification} {a : α}
    (hstore : ∀ i, (s.notify n { st with authority := a }).state.store.get? i =
      A'.assigned? s.name i) :
    s.Mirrors A' (s.notify n { st with authority := a }).state where
  running := (s.notify_running n).trans h.running
  store := hstore

/-- **One delivery keeps the mirror.** The device that the notification names becomes what the
authority says of it, and the others are as before on both sides. -/
theorem Mirrors.delivery (h : s.Mirrors A st) (hstep : s.Delivery A st A' st') :
    s.Mirrors A' st' := by
  cases hstep with
  | changed a d fetched =>
    refine h.notified fun j => ?_
    rw [get?_notify_fetched (by exact h.running) fetched, Inventory.assigned?_put]
    split
    · rfl
    · exact h.store j
  | deleted a i =>
    refine h.notified fun j => ?_
    rw [get?_notify_delete (by exact h.running), Inventory.assigned?_erase]
    split
    · rfl
    · exact h.store j
  | changedAgain a i d held fetched =>
    obtain rfl := A.filed i d held
    refine h.notified fun j => ?_
    rw [get?_notify_fetched (by exact h.running) fetched]
    split
    · rename_i hj
      rw [← hj, Inventory.assigned?, held, Option.filter_some]
    · exact h.store j
  | failed a i e refused =>
    refine h.notified fun j => ?_
    rw [store_notify_failed (by exact h.running) refused]
    exact h.store j
  | deletedAgain a i absent =>
    refine h.notified fun j => ?_
    rw [get?_notify_delete (by exact h.running)]
    split
    · rename_i hj
      rw [← hj, Inventory.assigned?, absent]
      rfl
    · exact h.store j

/-- The mirror is kept by any number of deliveries. -/
theorem Mirrors.deliveries (h : s.Mirrors A st) (hrun : s.Deliveries A st A' st') :
    s.Mirrors A' st' := by
  induction hrun with
  | none => exact h
  | more _ last ih => exact ih.delivery last

/-- The list of a mirror shows the devices that are assigned to the service, by name. -/
theorem Mirrors.list (h : s.Mirrors A st) :
    st.store.list.Perm (A.assigned s.name) ∧
      st.store.list.Pairwise fun a b => a.name ≤ b.name := by
  have hfiled : st.store.Filed := by
    intro i d hd
    rw [h.store, Inventory.assigned?_eq_some] at hd
    exact A.filed i d hd.1
  have hnodup : st.store.list.Nodup := hfiled.list_nodup.of_map
  refine ⟨(List.perm_ext_iff_of_nodup hnodup (A.nodup_assigned _)).mpr fun d => ?_,
    st.store.list_sorted⟩
  rw [hfiled.mem_list, h.store, Inventory.assigned?_eq_some, Inventory.mem_assigned]

/-- **The store mirrors the authority.** If a start goes well and is given all devices that the
authority assigns to the service, in any order and among any others, then after any number of
deliveries the service finds under every identifier what is assigned to it, and nothing else, and
its list consists of these devices in the order of their names. -/
theorem mirrors_of_deliveries {listed : List Device} (hstart : (s.start st).value = .ok ())
    (hlisting : s.listing st = .ok listed)
    (hlisted : ∀ d, d ∈ s.owned listed ↔ d ∈ A.assigned s.name)
    (hrun : s.Deliveries A (s.start st).state A' st') :
    (∀ i, st'.store.get? i = A'.assigned? s.name i) ∧
      st'.store.list.Perm (A'.assigned s.name) ∧
      st'.store.list.Pairwise fun a b => a.name ≤ b.name := by
  obtain ⟨listed', hlisting', hstarted⟩ := start_of_ok hstart
  obtain rfl : listed' = listed := Except.ok.inj (hlisting'.symm.trans hlisting)
  have hmirrors := (hstarted.mirrors hlisted).deliveries hrun
  exact ⟨hmirrors.store, hmirrors.list⟩

/-- The pump is listed at the start together with a fan of another service. The fan moves to the
service, the pump is renamed, the authority fails once, and the fan is deleted, which is told twice.
-/
theorem mirrors_of_deliveries_of_script :
    let s : Service Unit (List (List UInt8)) := ⟨.standard, Template.driver, .scripted, none⟩
    let st : State Unit (List (List UInt8)) := .initial () [Utf8.ofString
      "[\x7b\"id\":\"1\",\"name\":\"pump\",\"service\":\x7b\"name\":\"device-service\"\x7d\x7d,
        \x7b\"id\":\"2\",\"name\":\"fan\",\"service\":\x7b\"name\":\"other\"\x7d\x7d]"]
    let pump := Device.ofName "1" "pump" "device-service"
    let valve := Device.ofName "1" "valve" "device-service"
    let fan := Device.ofName "2" "fan" "other"
    let ownFan := Device.ofName "2" "fan" "device-service"
    let A := (Inventory.empty.put pump).put fan
    let A' := ((A.put ownFan).put valve).erase "2"
    ∃ st', ((s.start st).value = .ok () ∧ s.listing st = .ok [pump, fan] ∧
      (∀ d, d ∈ s.owned [pump, fan] ↔ d ∈ A.assigned s.name) ∧
      s.Deliveries A (s.start st).state A' st') ∧
      (∀ i, st'.store.get? i = A'.assigned? s.name i) ∧
      st'.store.list.Perm (A'.assigned s.name) ∧
      st'.store.list.Pairwise fun a b => a.name ≤ b.name := by
  intro s st pump valve fan ownFan A A'
  have hstart : (s.start st).value = .ok () := eq_ok_of_toOption (by decide +kernel)
  have hlisting : s.listing st = .ok [pump, fan] := eq_ok_of_toOption (by decide +kernel)
  have hlisted : ∀ d, d ∈ s.owned [pump, fan] ↔ d ∈ A.assigned s.name := by
    have hsame : s.owned [pump, fan] = A.assigned s.name := by decide
    rw [hsame]
    exact fun _ => Iff.rfl
  obtain ⟨fanBody, hfan⟩ : ∃ body, (Device.decode body).toOption = some ownFan :=
    ⟨Utf8.ofString "\x7b\"id\":\"2\",\"name\":\"fan\",
      \"service\":\x7b\"name\":\"device-service\"\x7d\x7d", by decide +kernel⟩
  obtain ⟨valveBody, hvalve⟩ : ∃ body, (Device.decode body).toOption = some valve :=
    ⟨Utf8.ofString "\x7b\"id\":\"1\",\"name\":\"valve\",
      \"service\":\x7b\"name\":\"device-service\"\x7d\x7d", by decide +kernel⟩
  have hrun : s.Deliveries A (s.start st).state A' _ :=
    ((((Deliveries.none.more
      (.changed _ _ [fanBody] ownFan (Authority.fetchDevice_scripted hfan "2" []))).more
      (.changed _ _ [valveBody] valve (Authority.fetchDevice_scripted hvalve "1" []))).more
      (.failed _ _ [] "1" _ rfl)).more (.deleted _ _ [] "2")).more
      (.deletedAgain _ _ [] "2" (by decide))
  exact ⟨_, ⟨hstart, hlisting, hlisted, hrun⟩,
    mirrors_of_deliveries hstart hlisting hlisted hrun⟩

end Service

end DeviceHost
