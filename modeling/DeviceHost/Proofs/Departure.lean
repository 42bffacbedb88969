import DeviceHost.Driver.Template
import DeviceHost.Proofs.Notification
import DeviceHost.Proofs.Reachable

/-!
# When a device leaves

A device leaves the store when it is deleted, and when the authority has assigned it to another
service. Then the listener is told, and after it the driver, which gives up its connection; in any
other case the driver is left alone.

* `Parting` — the record that the listener and the driver are told of;
* `called_mem_notify` — what the driver is told of a notification, and nothing else;
* `contacts_of_departure` — who is told what when a device leaves, in which order, and how often.

The two ways of leaving do not go by the same record. A device that was deleted is known by what was
stored of it. One that has moved is known by what the authority answers, also to the driver, whose
connection was made by the stored protocols: if these changed with the move, it is not told of them
any more (`not_forall_disconnect_stored`).
-/

namespace DeviceHost

open Reconcile (targetOf)

namespace Reconcile

/-- The driver is called in the contacts of a decision exactly by the calls of that decision. -/
theorem Decision.called_mem_contacts {D : Decision} {r : Registry} {s : Store} {c : DriverCall} :
    .called c ∈ D.contacts r s ↔ c ∈ D.driverCalls := by
  rw [contacts, List.mem_append, List.mem_map]
  constructor
  · rintro (htold | ⟨c', hc, he⟩)
    · -- listeners are told, not called
      obtain ⟨a, -, ha⟩ := List.mem_flatMap.mp htold
      obtain ⟨l, -, hl⟩ := List.mem_map.mp ha
      cases hl
    · obtain rfl := Event.called.inj he
      exact hc
  · intro hc
    exact .inr ⟨c, hc, rfl⟩

end Reconcile

namespace Service

variable {δ α : Type} {s : Service δ α} {st : State δ α}

/-- What the driver is told of a notification. -/
theorem called_mem_notify (hrun : st.running = true) (n : Notification) (c : DriverCall) :
    .called c ∈ (s.notify n st).trace ↔ c ∈ (s.decision st n).driverCalls := by
  rw [← called_mem_contacts, contacts_notify hrun, Reconcile.Decision.called_mem_contacts]

/-- The device of an identifier has left with a notification: it was stored, and is not any more. -/
def Leaving (s : Service δ α) (st : State δ α) (n : Notification) (i : String) (d : Device) :
    Prop :=
  st.store.get? i = some d ∧ (s.notify n st).state.store.get? i = none

/-- The record that the listener and the driver are told of when the stored device `d` leaves. -/
inductive Parting (s : Service δ α) (st : State δ α) (n : Notification) (d : Device) : Device → Prop
  /-- the device was deleted: the stored record -/
  | deleted (change : n.change = .delete) : Parting s st n d d
  /-- the device has moved: the record that the authority answers with -/
  | moved (e : Device) (change : n.change = .upsert)
      (fetched : (s.authority.fetchDevice n.id st.authority).value = .ok e) (named : e.id = n.id)
      (foreign : e.service ≠ s.name) : Parting s st n d e

/-- A dismissed device leaves: it was stored under the identifier, and is not any more. -/
theorem leaving_of_dismiss (hrun : st.running = true) {n : Notification} {id : String}
    {told : Device} {r : Report} (hD : s.decision st n = .dismiss id told r) :
    ∃ d, s.Leaving st n n.id d := by
  obtain ⟨rfl, hpresent, -⟩ := Reconcile.decision_eq_dismiss hD
  obtain ⟨d, hd⟩ := Option.isSome_iff_exists.mp hpresent
  refine ⟨d, hd, ?_⟩
  rw [s.notify_store hrun, hD]
  exact (Store.get?_remove ..).trans (if_pos rfl)

/-- Only a dismissal makes a device leave, and only the one that the notification names. -/
theorem Leaving.dismiss (hrun : st.running = true) {n : Notification} {i : String} {d : Device}
    (h : s.Leaving st n i d) :
    i = n.id ∧ ∃ e r, s.decision st n = .dismiss n.id e r ∧ s.Parting st n d e := by
  obtain ⟨hbefore, hafter⟩ := h
  rw [s.notify_store hrun] at hafter
  rcases hD : s.decision st n with e | ⟨id, e, r⟩ | r <;> rw [hD] at hafter
  · -- an adopted device replaces a record at most
    rw [Reconcile.Decision.store, Store.get?_insert, hbefore] at hafter
    split at hafter <;> cases hafter
  · obtain ⟨rfl, -, hdeleted, hmoved⟩ := Reconcile.decision_eq_dismiss hD
    rw [Reconcile.Decision.store, Store.get?_remove, hbefore] at hafter
    have hi : n.id = i := by
      split at hafter
      · assumption
      · cases hafter
    refine ⟨hi.symm, e, r, rfl, ?_⟩
    rcases hchange : n.change with _ | _
    · obtain ⟨hfetched, hnamed, hforeign⟩ := hmoved hchange
      exact .moved e hchange hfetched hnamed hforeign
    · have htold := hdeleted hchange
      rw [hi, hbefore] at htold
      obtain rfl := Option.some.inj htold
      exact .deleted hchange
  · cases hbefore.symm.trans hafter

/-- **Who is told when a device leaves.** If a notification makes a device leave, it is the one that
the notification names; the listener is told that it was removed, after that the driver is told once
to give up its connection, both by the protocols of the same record, and nobody is told anything
else. If no device leaves, the driver is not told to give up any connection. -/
theorem contacts_of_departure (hrun : st.running = true) (n : Notification) :
    (∀ i d, s.Leaving st n i d → i = n.id ∧ ∃ e, s.Parting st n d e ∧
      contacts (s.notify n st).trace =
        st.listeners.calls (.removed (targetOf e)) ++ [.called (.disconnect e.protocols)]) ∧
      ((¬ ∃ i d, s.Leaving st n i d) → ∀ ps, .called (.disconnect ps) ∉ (s.notify n st).trace) := by
  refine ⟨fun i d h => ?_, fun hno ps hps => ?_⟩
  · obtain ⟨hi, e, r, hD, hparting⟩ := h.dismiss hrun
    refine ⟨hi, e, hparting, ?_⟩
    rw [contacts_notify hrun, hD, Reconcile.Decision.contacts]
    exact congrArg (· ++ _) (List.flatMap_singleton ..)
  · rw [called_mem_notify hrun] at hps
    rcases hD : s.decision st n with e | ⟨id, e, r⟩ | r <;> rw [hD] at hps
    · cases hps
    · obtain ⟨d, hd⟩ := leaving_of_dismiss hrun hD
      exact hno ⟨n.id, d, hd⟩
    · cases hps

/-- What the authority answers about a pump that first belongs to the service and then has moved to
another one, and to another address on its bus. -/
def pumpThatMoves : List (List UInt8) :=
  [Utf8.ofString "[]",
    Utf8.ofString "\x7b\"id\":\"1\",\"name\":\"pump\",
      \"service\":\x7b\"name\":\"device-service\"\x7d,
      \"protocols\":\x7b\"modbus\":\x7b\"addr\":\"1\"\x7d\x7d\x7d",
    Utf8.ofString "\x7b\"id\":\"1\",\"name\":\"pump\",
      \"service\":\x7b\"name\":\"other\"\x7d,
      \"protocols\":\x7b\"modbus\":\x7b\"addr\":\"9\"\x7d\x7d\x7d"]

/-- The pump was stored, and there is a listener that waits for news of it. -/
theorem contacts_of_departure_of_script :
    let s : Service Unit (List (List UInt8)) := ⟨.standard, Template.driver, .scripted, none⟩
    let st := s.run [.register Template.listener, .start (.ok []), .notify ⟨.upsert, "1"⟩]
      (.initial () pumpThatMoves)
    let n : Notification := ⟨.upsert, "1"⟩
    (st.running = true ∧ ∃ d, s.Leaving st n "1" d) ∧
      (∀ i d, s.Leaving st n i d → i = n.id ∧ ∃ e, s.Parting st n d e ∧
        contacts (s.notify n st).trace =
          st.listeners.calls (.removed (targetOf e)) ++ [.called (.disconnect e.protocols)]) ∧
      ((¬ ∃ i d, s.Leaving st n i d) →
        ∀ ps, .called (.disconnect ps) ∉ (s.notify n st).trace) := by
  intro s st n
  obtain ⟨hrun, hbefore, hafter⟩ : st.running = true ∧ (st.store.get? "1").isSome ∧
      (s.notify n st).state.store.get? "1" = none := by decide +kernel
  obtain ⟨d, hd⟩ := Option.isSome_iff_exists.mp hbefore
  exact ⟨⟨hrun, d, hd, hafter⟩, contacts_of_departure hrun n⟩

/-- The driver is not always told of the stored protocols: they are lost when a device changes them
and moves to another service at once. -/
theorem not_forall_disconnect_stored :
    ¬ ∀ (δ α : Type) (s : Service δ α) (driver : δ) (authority : α) (ops : List Operation)
      (n : Notification) (i : String) (d : Device),
      let st := s.run ops (.initial driver authority)
      st.running = true → s.Leaving st n i d →
        .called (.disconnect d.protocols) ∈ (s.notify n st).trace := by
  intro h
  let s : Service Unit (List (List UInt8)) := ⟨.standard, Template.driver, .scripted, none⟩
  let n : Notification := ⟨.upsert, "1"⟩
  let stored := [(Protocol.ofName "modbus").withProperty "addr" "1"]
  obtain ⟨st, hst⟩ : ∃ st, st = s.run [.start (.ok []), .notify n] (.initial () pumpThatMoves) :=
    ⟨_, rfl⟩
  have htold := h Unit (List (List UInt8)) s () pumpThatMoves [.start (.ok []), .notify n] n "1"
  simp only [← hst] at htold
  obtain ⟨hrun, hbefore, hafter, huntold⟩ : st.running = true ∧
      (st.store.get? "1").map Device.protocols = some stored ∧
      (s.notify n st).state.store.get? "1" = none ∧
      .called (.disconnect stored) ∉ (s.notify n st).trace := by
    rw [hst]
    decide +kernel
  obtain ⟨d, hd, hprotocols⟩ := Option.map_eq_some_iff.mp hbefore
  rw [← hprotocols] at huntold
  exact huntold (htold d hrun ⟨hd, hafter⟩)

end Service

end DeviceHost
