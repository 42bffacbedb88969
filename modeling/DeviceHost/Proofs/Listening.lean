import DeviceHost.Driver.Template
import DeviceHost.Proofs.Notification
import DeviceHost.Proofs.Start
import Mathlib.Data.List.Chain

/-!
# What a listener learns

A listener hears nothing of a start. From then on it hears of the devices that come, change their
protocols, or leave, and from what it heard it can tell how many devices there are, whether a device
is there, and over which protocols it is reached.

* `Notice`, `journal` — what a listener has heard, notification by notification;
* `Transition` — the five ways in which a notification changes the devices, each with the calls that
  go with it; whatever is said of single notifications is read off this;
* `balance_journal`, `alternates_journal`, `lastAnnounced_journal` — what follows for a whole run;
* `informed_of_start` — all of it together.
-/

namespace DeviceHost

/-! ## Journals -/

/-- Whether a call tells that a device has come. -/
def ListenerCall.isArrival : ListenerCall → Bool
  | added _ _ => true
  | _ => false

/-- Whether a call tells that a device has left. -/
def ListenerCall.isDeparture : ListenerCall → Bool
  | removed _ => true
  | _ => false

/-- The protocols that a call announces for a device that is there. -/
def ListenerCall.announced? : ListenerCall → Option (List Protocol)
  | added t _ => some t.protocols
  | updated t _ => some t.protocols
  | removed _ => none

/-- A device comes or leaves. -/
inductive Move
  | came
  | left
  deriving Repr, DecidableEq

/-- The move that a call tells of. -/
def ListenerCall.move? : ListenerCall → Option Move
  | added _ _ => some .came
  | updated _ _ => none
  | removed _ => some .left

/-- What a listener hears on a notification. -/
structure Notice where
  /-- the device that the notification names -/
  id : String
  /-- the calls, first one first -/
  calls : List ListenerCall
  deriving Repr, DecidableEq

/-- How many calls of a journal are of a kind. -/
def count (kind : ListenerCall → Bool) (J : List Notice) : Nat :=
  (J.flatMap Notice.calls).countP kind

/-- The calls on notifications of an identifier. -/
def callsOn (i : String) (J : List Notice) : List ListenerCall :=
  (J.filter fun e => e.id = i).flatMap Notice.calls

/-- The comings and goings on notifications of an identifier. -/
def movesOn (i : String) (J : List Notice) : List Move :=
  (callsOn i J).filterMap ListenerCall.move?

/-- The protocols last announced on a notification of an identifier, or those of a device that was
there from the beginning. -/
def lastAnnounced (i : String) (before : Option (List Protocol)) (J : List Notice) :
    Option (List Protocol) :=
  ((callsOn i J).filterMap ListenerCall.announced?).getLast?.or before

theorem count_cons (kind : ListenerCall → Bool) (e : Notice) (J : List Notice) :
    count kind (e :: J) = e.calls.countP kind + count kind J := by
  rw [count, List.flatMap_cons, List.countP_append]
  rfl

/-- The calls about an identifier are those of its own notifications, in their order. -/
theorem callsOn_cons (i : String) (e : Notice) (J : List Notice) :
    callsOn i (e :: J) = if e.id = i then e.calls ++ callsOn i J else callsOn i J := by
  rw [callsOn, List.filter_cons]
  by_cases h : e.id = i
  · simp [h, callsOn]
  · simp [h, callsOn]

/-- What was announced last is looked for from the first notification on. -/
theorem lastAnnounced_cons (i : String) (before : Option (List Protocol)) (e : Notice)
    (J : List Notice) :
    lastAnnounced i before (e :: J) =
      lastAnnounced i
        (if e.id = i then (e.calls.filterMap ListenerCall.announced?).getLast?.or before
          else before) J := by
  rw [lastAnnounced, callsOn_cons]
  split
  · rw [List.filterMap_append, List.getLast?_append, Option.or_assoc]
    rfl
  · rfl

/-! ## Alternation -/

/-- A device that is there, or is not, only leaves while it is there and only comes while it is
not. -/
def Alternates : Bool → List Move → Prop
  | _, [] => True
  | there, .came :: ms => there = false ∧ Alternates true ms
  | there, .left :: ms => there = true ∧ Alternates false ms

/-- Of moves that alternate none is like the one before. -/
theorem Alternates.isChain {there : Bool} {ms : List Move} (h : Alternates there ms) :
    ms.IsChain (· ≠ ·) := by
  induction ms generalizing there with
  | nil => exact .nil
  | cons m ms ih =>
    cases ms with
    | nil => exact .singleton m
    | cons k ms =>
      -- the second move finds the device as the first one left it
      cases m <;> cases k
      · cases h.2.1
      · exact .cons_cons nofun (ih h.2)
      · exact .cons_cons nofun (ih h.2)
      · cases h.2.1

/-- The first of alternating moves is a coming exactly if the device was not there. -/
theorem Alternates.head_eq_came_iff {there : Bool} {ms : List Move} (h : Alternates there ms)
    {m : Move} (hm : ms.head? = some m) : m = .came ↔ there = false := by
  rcases ms with _ | ⟨k, ms⟩
  · cases hm
  · obtain rfl := Option.some.inj hm
    cases k
    · exact ⟨fun _ => h.1, fun _ => rfl⟩
    · rw [h.1]
      exact ⟨nofun, nofun⟩

/-! ## Transitions -/

open Reconcile (targetOf)

/-- How a notification of an identifier leads from one store to another, and what the listener is
told. -/
inductive Transition (i : String) (s s' : Store) (calls : List ListenerCall) : Prop
  /-- a device comes -/
  | came (d : Device) (absent : s.get? i = none) (named : d.id = i)
      (told : calls = [.added (targetOf d) d.admin]) (store : s' = s.insert d)
  /-- the protocols of a device change -/
  | changed (p d : Device) (present : s.get? i = some p) (differ : p.protocols ≠ d.protocols)
      (named : d.id = i) (told : calls = [.updated (targetOf d) d.admin])
      (store : s' = s.insert d)
  /-- a device changes, but not its protocols -/
  | refreshed (p d : Device) (present : s.get? i = some p) (same : p.protocols = d.protocols)
      (named : d.id = i) (told : calls = []) (store : s' = s.insert d)
  /-- a device leaves -/
  | left (p : Device) (t : Target) (present : s.get? i = some p) (told : calls = [.removed t])
      (store : s' = (s.remove i).2)
  /-- nothing changes -/
  | stayed (told : calls = []) (store : s' = s)

namespace Transition

variable {i j : String} {s s' : Store} {calls : List ListenerCall}

/-- Every decision makes one of the transitions, with the calls that belong to it. -/
theorem of_decision {service : String} {answer : Except AuthorityError Device} {n : Notification}
    {D : Reconcile.Decision} (hD : Reconcile.decision service s answer n = D) :
    Transition n.id s (D.store s) (D.calls s) := by
  rcases D with d | ⟨id, told, r⟩ | r
  · -- what the listener is told depends on the record that is replaced
    obtain ⟨-, -, hid, -⟩ := Reconcile.decision_eq_adopt hD
    rcases hp : s.get? n.id with _ | p
    · refine .came d hp hid ?_ rfl
      rw [Reconcile.Decision.calls, Store.outcomeOf, hid, hp]
    · by_cases hsame : p.sameProtocols d = true
      · refine .refreshed p d hp (Device.sameProtocols_iff.mp hsame) hid ?_ rfl
        simp only [Reconcile.Decision.calls, Store.outcomeOf, hid, hp, if_pos hsame]
      · refine .changed p d hp (fun h => hsame (Device.sameProtocols_iff.mpr h)) hid ?_ rfl
        simp only [Reconcile.Decision.calls, Store.outcomeOf, hid, hp, if_neg hsame]
  · obtain ⟨rfl, hpresent, -⟩ := Reconcile.decision_eq_dismiss hD
    obtain ⟨p, hp⟩ := Option.isSome_iff_exists.mp hpresent
    exact .left p (targetOf told) hp rfl rfl
  · exact .stayed rfl rfl

/-- Devices of other identifiers stay as they are. -/
theorem get?_of_ne (h : Transition i s s' calls) (hj : i ≠ j) : s'.get? j = s.get? j := by
  cases h with
  | came d absent named told store => rw [store, Store.get?_insert, if_neg (named ▸ hj)]
  | changed p d present differ named told store =>
    rw [store, Store.get?_insert, if_neg (named ▸ hj)]
  | refreshed p d present same named told store =>
    rw [store, Store.get?_insert, if_neg (named ▸ hj)]
  | left p t present told store => rw [store, Store.get?_remove, if_neg hj]
  | stayed told store => rw [store]

/-- Every arrival is a device more, and every departure one less. -/
theorem balance (h : Transition i s s' calls) :
    calls.countP ListenerCall.isArrival + s.size =
      calls.countP ListenerCall.isDeparture + s'.size := by
  cases h with
  | came d absent named told store =>
    rw [told, store, Store.size_insert, named, absent]
    simp [ListenerCall.isArrival, ListenerCall.isDeparture, Nat.add_comm]
  | changed p d present differ named told store =>
    rw [told, store, Store.size_insert, named, present]
    rfl
  | refreshed p d present same named told store =>
    rw [told, store, Store.size_insert, named, present]
    rfl
  | left p t present told store =>
    rw [told, store, ← Store.size_remove present]
    simp [ListenerCall.isArrival, ListenerCall.isDeparture, Nat.add_comm]
  | stayed told store =>
    rw [told, store]
    rfl

/-- Moves that alternate after a transition also do with its own move in front. -/
theorem alternates (h : Transition i s s' calls) {ms : List Move}
    (hms : Alternates (s'.get? i).isSome ms) :
    Alternates (s.get? i).isSome (calls.filterMap ListenerCall.move? ++ ms) := by
  cases h with
  | came d absent named told store =>
    rw [store, Store.get?_insert, if_pos named] at hms
    rw [told, absent]
    exact ⟨rfl, hms⟩
  | changed p d present differ named told store =>
    rw [store, Store.get?_insert, if_pos named] at hms
    rw [told, present]
    exact hms
  | refreshed p d present same named told store =>
    rw [store, Store.get?_insert, if_pos named] at hms
    rw [told, present]
    exact hms
  | left p t present told store =>
    rw [store, Store.get?_remove, if_pos rfl] at hms
    rw [told, present]
    exact ⟨rfl, hms⟩
  | stayed told store =>
    rw [told, ← store]
    exact hms

/-- Protocols that are known stay known. -/
theorem announced (h : Transition i s s' calls) {known : Option (List Protocol)}
    (hknown : ∀ d, s.get? i = some d → known = some d.protocols) (d : Device)
    (hd : s'.get? i = some d) :
    (calls.filterMap ListenerCall.announced?).getLast?.or known = some d.protocols := by
  cases h with
  | came e absent named told store =>
    rw [store, Store.get?_insert, if_pos named] at hd
    obtain rfl := Option.some.inj hd
    rw [told]
    rfl
  | changed p e present differ named told store =>
    rw [store, Store.get?_insert, if_pos named] at hd
    obtain rfl := Option.some.inj hd
    rw [told]
    rfl
  | refreshed p e present same named told store =>
    rw [store, Store.get?_insert, if_pos named] at hd
    obtain rfl := Option.some.inj hd
    rw [told, ← same]
    exact hknown p present
  | left p t present told store =>
    rw [store, Store.get?_remove, if_pos rfl] at hd
    cases hd
  | stayed told store =>
    rw [told]
    exact hknown d (store ▸ hd)

/-- A transition makes one call at most. -/
theorem length_calls_le (h : Transition i s s' calls) : calls.length ≤ 1 := by
  cases h with
  | came d absent named told store => exact told ▸ Nat.le_refl 1
  | changed p d present differ named told store => exact told ▸ Nat.le_refl 1
  | refreshed p d present same named told store => exact told ▸ Nat.zero_le 1
  | left p t present told store => exact told ▸ Nat.le_refl 1
  | stayed told store => exact told ▸ Nat.zero_le 1

/-- A device whose protocols are said to change is there, with other protocols. -/
theorem present_of_updated (h : Transition i s s' calls) {t : Target} {a : AdminState}
    (ht : .updated t a ∈ calls) : ∃ p, s.get? i = some p ∧ p.protocols ≠ t.protocols := by
  cases h with
  | came d absent named told store => simp [told] at ht
  | changed p d present differ named told store =>
    obtain ⟨rfl, -⟩ : t = targetOf d ∧ a = d.admin := by simpa [told] using ht
    exact ⟨p, present, differ⟩
  | refreshed p d present same named told store => simp [told] at ht
  | left p t present told store => simp [told] at ht
  | stayed told store => simp [told] at ht

/-- What is said of a device that is there is what is stored. -/
theorem stored_of_told (h : Transition i s s' calls) {t : Target} {a : AdminState}
    (ht : .added t a ∈ calls ∨ .updated t a ∈ calls) :
    ∃ d, s'.get? i = some d ∧ t = ⟨d.name, d.protocols⟩ ∧ a = d.admin := by
  cases h with
  | came d absent named told store =>
    obtain ⟨rfl, rfl⟩ : t = targetOf d ∧ a = d.admin := by simpa [told] using ht
    exact ⟨d, by rw [store, Store.get?_insert, if_pos named], rfl, rfl⟩
  | changed p d present differ named told store =>
    obtain ⟨rfl, rfl⟩ : t = targetOf d ∧ a = d.admin := by simpa [told] using ht
    exact ⟨d, by rw [store, Store.get?_insert, if_pos named], rfl, rfl⟩
  | refreshed p d present same named told store => simp [told] at ht
  | left p t present told store => simp [told] at ht
  | stayed told store => simp [told] at ht

end Transition

/-! ## Runs -/

namespace Service

variable {δ α : Type} {s : Service δ α} {st : State δ α} {l : Listener}

/-- The state after notifications, one after the other. -/
def notifyAll (s : Service δ α) (ns : List Notification) (st : State δ α) : State δ α :=
  ns.foldl (fun st n => (s.notify n st).state) st

/-- What the listener of a name hears on notifications, one after the other. -/
def journal (s : Service δ α) (l : String) : List Notification → State δ α → List Notice
  | [], _ => []
  | n :: ns, st => ⟨n.id, heardBy l (s.notify n st).trace⟩ :: journal s l ns (s.notify n st).state

/-- The service runs, and the listener listens. -/
structure Attends (l : Listener) (st : State δ α) : Prop where
  /-- it runs -/
  running : st.running = true
  /-- and the listener is told of everything -/
  listener : st.listeners.listener? = some l

theorem Attends.notify (h : Attends l st) (n : Notification) : Attends l (s.notify n st).state where
  running := (s.notify_running n).trans h.running
  listener := (congrArg Registry.listener? (s.notify_listeners n)).trans h.listener

/-- The listener attends during any number of notifications. -/
theorem Attends.notifyAll (h : Attends l st) (ns : List Notification) :
    Attends l (s.notifyAll ns st) := by
  induction ns generalizing st with
  | nil => exact h
  | cons n ns ih => exact ih (h.notify n)

/-- An attending listener hears of a notification what its transition of the store calls for. -/
theorem Attends.transition (h : Attends l st) (n : Notification) :
    Transition n.id st.store (s.notify n st).state.store
      (heardBy l.name (s.notify n st).trace) := by
  rw [heardBy_notify h.listener h.running, s.notify_store h.running]
  exact Transition.of_decision rfl

/-- Arrivals and departures account for the number of devices. -/
theorem balance_journal (h : Attends l st) (ns : List Notification) :
    count ListenerCall.isArrival (s.journal l.name ns st) + st.store.size =
      count ListenerCall.isDeparture (s.journal l.name ns st) + (s.notifyAll ns st).store.size := by
  induction ns generalizing st with
  | nil => rfl
  | cons n ns ih =>
    -- the devices after the first notification are those before all later ones
    have hfirst := (h.transition (s := s) n).balance
    have hlater := ih (h.notify (s := s) n)
    rw [journal, count_cons, count_cons]
    rw [notifyAll, List.foldl_cons]
    dsimp only [notifyAll] at hlater ⊢
    omega

/-- On every identifier the moves of the journal alternate, from what the store held before. -/
theorem alternates_journal (h : Attends l st) (ns : List Notification) (i : String) :
    Alternates (st.store.get? i).isSome (movesOn i (s.journal l.name ns st)) := by
  induction ns generalizing st with
  | nil => trivial
  | cons n ns ih =>
    have hfirst := h.transition (s := s) n
    have hlater := ih (h.notify (s := s) n)
    rw [journal, movesOn, callsOn_cons]
    split
    · rename_i hid
      obtain rfl : n.id = i := hid
      rw [List.filterMap_append]
      exact hfirst.alternates hlater
    · -- the notification names another device, and this one stays there or away
      rename_i hid
      rw [hfirst.get?_of_ne hid] at hlater
      exact hlater

/-- If the protocols of a device are known before the run, those last announced are known after
it. -/
theorem lastAnnounced_journal (h : Attends l st) (ns : List Notification) {i : String}
    {known : Option (List Protocol)}
    (hknown : ∀ d, st.store.get? i = some d → known = some d.protocols) (d : Device)
    (hd : (s.notifyAll ns st).store.get? i = some d) :
    lastAnnounced i known (s.journal l.name ns st) = some d.protocols := by
  induction ns generalizing st known with
  | nil => exact hknown d hd
  | cons n ns ih =>
    have hfirst := h.transition (s := s) n
    -- what is known after the first notification is what later ones start from
    rw [journal, lastAnnounced_cons]
    refine ih (h.notify n) (fun e he => ?_) hd
    split
    · rename_i hid
      obtain rfl : n.id = i := hid
      exact hfirst.announced hknown e he
    · rename_i hid
      rw [hfirst.get?_of_ne hid] at he
      exact hknown e he

/-! ## All of it together -/

/-- What a listener has heard since the given devices were there, and what it hears on any further
notification, tell it how the devices of the service stand. -/
structure Informed (s : Service δ α) (l : Listener) (loaded : Store) (heard : List Notice)
    (now : State δ α) : Prop where
  /-- arrivals and departures account for the number of devices -/
  balance : count ListenerCall.isArrival heard + loaded.size =
    count ListenerCall.isDeparture heard + now.store.size
  /-- for every identifier, comings and goings alternate -/
  alternate : ∀ i, (movesOn i heard).IsChain (· ≠ ·)
  /-- and begin with a coming exactly if the device was not there from the beginning -/
  first : ∀ i m, (movesOn i heard).head? = some m → (m = .came ↔ loaded.get? i = none)
  /-- the protocols of a device that is there are the ones last announced -/
  known : ∀ i d, now.store.get? i = some d →
    lastAnnounced i ((loaded.get? i).map Device.protocols) heard = some d.protocols
  /-- a notification leads to one call at most -/
  once : ∀ n, (heardBy l.name (s.notify n now).trace).length ≤ 1
  /-- a change of protocols is told only of a device that is there, and only if they differ from the
  ones last announced -/
  change : ∀ n t a, .updated t a ∈ heardBy l.name (s.notify n now).trace →
    (now.store.get? n.id).isSome ∧
      lastAnnounced n.id ((loaded.get? n.id).map Device.protocols) heard ≠ some t.protocols
  /-- what is told of a device that comes or changes is what is stored of it then -/
  current : ∀ n t a, .added t a ∈ heardBy l.name (s.notify n now).trace ∨
      .updated t a ∈ heardBy l.name (s.notify n now).trace →
    ∃ d, (s.notify n now).state.store.get? n.id = some d ∧ t = ⟨d.name, d.protocols⟩ ∧ a = d.admin

/-- An attending listener is informed of everything that the store goes through. -/
theorem Attends.informed (h : Attends l st) (ns : List Notification) :
    Informed s l st.store (s.journal l.name ns st) (s.notifyAll ns st) := by
  have hnow := h.notifyAll (s := s) ns
  have hknown : ∀ i d, (s.notifyAll ns st).store.get? i = some d →
      lastAnnounced i ((st.store.get? i).map Device.protocols) (s.journal l.name ns st) =
        some d.protocols := by
    intro i d hd
    refine lastAnnounced_journal h ns (fun e he => ?_) d hd
    rw [he]
    rfl
  refine ⟨balance_journal h ns, fun i => (alternates_journal h ns i).isChain,
    fun i m hm => ?_, hknown, fun n => (hnow.transition n).length_calls_le,
    fun n t a ht => ?_, fun n t a ht => (hnow.transition n).stored_of_told ht⟩
  · rw [(alternates_journal h ns i).head_eq_came_iff hm, Option.isSome_eq_false_iff,
      Option.isNone_iff_eq_none]
  · obtain ⟨p, hp, hne⟩ := (hnow.transition n).present_of_updated ht
    rw [hknown n.id p hp, hp]
    exact ⟨rfl, fun he => hne (Option.some.inj he)⟩

/-- The listener that was registered before a start attends after it. -/
theorem Started.attends {listed : List Device} {st' : State δ α}
    (h : Started s listed st st') (hl : st.listeners.listener? = some l) : Attends l st' where
  running := h.running
  listener := by
    rw [h.listeners]
    exact hl

/-- **A listener misses nothing and hears nothing twice.** It is told nothing of a start; after a
start that goes well, and at every point of the run that follows, it is informed of how the devices
stand. -/
theorem informed_of_start (hl : st.listeners.listener? = some l)
    (hstart : (s.start st).value = .ok ()) (ns : List Notification) :
    heardBy l.name (s.start st).trace = [] ∧
      Informed s l (s.start st).state.store (s.journal l.name ns (s.start st).state)
        (s.notifyAll ns (s.start st).state) := by
  obtain ⟨listed, -, hstarted⟩ := start_of_ok hstart
  exact ⟨heardBy_of_unheard (s.emits_start.trace st), (hstarted.attends hl).informed ns⟩

/-- No device is there at the start; then a pump comes, and leaves. -/
theorem informed_of_start_of_script :
    let s : Service Unit (List (List UInt8)) := ⟨.standard, Template.driver, .scripted, none⟩
    let l := Template.listener
    let st : State Unit (List (List UInt8)) := (register l (.initial () [Utf8.ofString "[]",
      Utf8.ofString
        "\x7b\"id\":\"1\",\"name\":\"pump\",\"service\":\x7b\"name\":\"device-service\"\x7d\x7d"])).state
    let ns : List Notification := [⟨.upsert, "1"⟩, ⟨.delete, "1"⟩]
    (st.listeners.listener? = some l ∧ (s.start st).value = .ok ()) ∧
      heardBy l.name (s.start st).trace = [] ∧
      Informed s l (s.start st).state.store (s.journal l.name ns (s.start st).state)
        (s.notifyAll ns (s.start st).state) := by
  intro s l st ns
  have hl : st.listeners.listener? = some l := rfl
  have hstart : (s.start st).value = .ok () := eq_ok_of_toOption (by decide +kernel)
  exact ⟨⟨hl, hstart⟩, informed_of_start hl hstart ns⟩

end Service

end DeviceHost
