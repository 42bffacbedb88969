import DeviceHost.Authority
import DeviceHost.Driver.Basic
import DeviceHost.Listener
import DeviceHost.Proofs.Activity

/-!
# What a trace tells a listener and the driver

`heardBy` picks the calls of one listener out of a trace. Requests to the authority, calls of the
driver and lines of the log are all unheard, whatever the authority answers and the driver does.

`contacts` picks out the calls of listeners and those of the driver together, so that it also says
which of them comes first. What is left over is silent: requests to the authority and lines of the
log.
-/

namespace DeviceHost

/-- What a listener is told in a trace, first call first. -/
def heardBy (listener : String) (es : List Event) : List ListenerCall :=
  es.filterMap fun
    | .told l c => if l = listener then some c else none
    | _ => none

/-- The calls of listeners and of the driver in a trace, first call first. -/
def contacts (es : List Event) : List Event :=
  es.filter fun
    | .told _ _ => true
    | .called _ => true
    | _ => false

/-- An event that is not a call of a listener. -/
def Event.IsUnheard : Event → Prop
  | told _ _ => False
  | _ => True

/-- An event that is neither a call of a listener nor one of the driver. -/
def Event.IsSilent : Event → Prop
  | told _ _ => False
  | called _ => False
  | _ => True

/-- An event that is a line of the log. -/
def Event.IsLogged : Event → Prop
  | logged _ => True
  | _ => False

/-- Logged lines contact nobody. -/
theorem Event.IsLogged.isSilent {e : Event} (h : e.IsLogged) : e.IsSilent := by
  cases e with
  | logged line => trivial
  | told l c => exact h.elim
  | asked q => exact h.elim
  | called c => exact h.elim

/-- What contacts nobody is not heard by a listener. -/
theorem Event.IsSilent.isUnheard {e : Event} (h : e.IsSilent) : e.IsUnheard := by
  cases e with
  | told l c => exact h.elim
  | logged line => trivial
  | asked q => trivial
  | called c => trivial

/-! ### Listeners -/

theorem heardBy_append (l : String) (es fs : List Event) :
    heardBy l (es ++ fs) = heardBy l es ++ heardBy l fs :=
  List.filterMap_append

theorem heardBy_of_unheard {l : String} {es : List Event} (h : ∀ e ∈ es, e.IsUnheard) :
    heardBy l es = [] := by
  refine List.filterMap_eq_nil_iff.mpr fun e he => ?_
  cases e with
  | told l c => exact (h _ he).elim
  | logged line => rfl
  | asked q => rfl
  | called c => rfl

/-! ### Contacts -/

theorem contacts_append (es fs : List Event) : contacts (es ++ fs) = contacts es ++ contacts fs :=
  List.filter_append ..

/-- Silent events are no contacts. -/
theorem contacts_of_silent {es : List Event} (h : ∀ e ∈ es, e.IsSilent) : contacts es = [] := by
  refine List.filter_eq_nil_iff.mpr fun e he => ?_
  cases e with
  | told l c => exact (h _ he).elim
  | called c => exact (h _ he).elim
  | logged line => exact Bool.false_ne_true
  | asked q => exact Bool.false_ne_true

theorem contacts_logged (lines : List LogLine) : contacts (lines.map Event.logged) = [] := by
  refine contacts_of_silent fun e he => ?_
  obtain ⟨line, -, rfl⟩ := List.mem_map.mp he
  trivial

/-- Every call of the driver is a contact. -/
theorem called_mem_contacts {es : List Event} {c : DriverCall} :
    .called c ∈ contacts es ↔ .called c ∈ es := by
  simp [contacts]

/-- A listener hears its part of the contacts. -/
theorem heardBy_contacts (l : String) (es : List Event) :
    heardBy l (contacts es) = heardBy l es := by
  induction es with
  | nil => rfl
  | cons e es ih =>
    cases e with
    | told k c =>
      change heardBy l ([.told k c] ++ contacts es) = heardBy l ([.told k c] ++ es)
      rw [heardBy_append, heardBy_append, ih]
    | called c => exact ih
    | logged line => exact ih
    | asked q => exact ih

/-- The call that a registry passes on, if it has a listener. -/
def Registry.calls (r : Registry) (c : ListenerCall) : List Event :=
  r.listener?.toList.map fun l => .told l.name c

/-- Telling makes the calls of the registry and no other contact. -/
theorem Registry.contacts_tell (r : Registry) (c : ListenerCall) :
    contacts (r.tell c) = r.calls c := by
  rw [tell, calls]
  rcases r.listener? with _ | l
  · rfl
  · change contacts ([.told l.name c] ++ (l.lines c).map Event.logged) = _
    rw [contacts_append, contacts_logged]
    rfl

/-- The registered listener hears each call once. -/
theorem Registry.heardBy_calls {r : Registry} {l : Listener} (h : r.listener? = some l)
    (c : ListenerCall) : heardBy l.name (r.calls c) = [c] := by
  simp [calls, h, heardBy]

open Activity

variable {δ α β γ : Type}

/-! ### The driver and the authority -/

/-- A call leaves itself and what the driver writes to the log. -/
theorem Driver.emits_call {P : Event → Prop} {c : DriverCall} (hcalled : P (.called c))
    (hlogged : ∀ line, P (.logged line)) (m : DriverAct δ β) : Emits P (Driver.traced c m) :=
  Keeps.bind (Keeps.emit hcalled) fun _ => Emits.relabel hlogged m

/-- A listener hears nothing of a call of the driver. -/
theorem Driver.emits_traced (c : DriverCall) (m : DriverAct δ β) :
    Emits Event.IsUnheard (Driver.traced c m) :=
  emits_call trivial (fun _ => trivial) m

/-- The driver adds nothing to its call but lines of the log. -/
theorem Driver.contacts_traced (c : DriverCall) (m : DriverAct δ β) (s : δ) :
    contacts (Driver.traced c m s).trace = [.called c] := by
  change contacts ([.called c] ++ (m s).trace.map Event.logged) = _
  rw [contacts_append, contacts_logged]
  rfl

section Call

variable (level : Level) (text : String) (c : DriverCall) (m : DriverAct δ β)
  {f : Except DriverError β → Activity Event δ γ} (s : δ)

/-- A call that the log announces, and whose answer is worked on in silence. -/
theorem Driver.contacts_call (hf : ∀ r, Emits Event.IsSilent (f r)) :
    contacts ((emit (.line level text) >>= fun _ => Driver.traced c m >>= f) s).trace =
      [.called c] := by
  change contacts ([.line level text] ++ ((Driver.traced c m s).trace ++ _)) = _
  rw [contacts_append, contacts_append, contacts_traced, contacts_of_silent ((hf _).trace _)]
  rfl

theorem Driver.value_call :
    ((emit (.line level text) >>= fun _ => Driver.traced c m >>= f) s).value =
      (f (m s).value (m s).state).value := rfl

theorem Driver.state_call :
    ((emit (.line level text) >>= fun _ => Driver.traced c m >>= f) s).state =
      (f (m s).value (m s).state).state := rfl

end Call

theorem Authority.emits_ask (a : Authority α) (q : Inquiry) :
    Emits Event.IsSilent (a.ask q) := by
  refine fun s _ => ⟨trivial, fun e he => ?_⟩
  obtain rfl := List.mem_singleton.mp he
  trivial

/-- Requests to the authority contact neither driver nor listener. -/
theorem Authority.emits_askFor (a : Authority α) (q : Inquiry)
    (read : List UInt8 → Except Problem β) : Emits Event.IsSilent (a.askFor q read) := by
  refine Keeps.bind (a.emits_ask q) fun r => ?_
  rcases r with e | body
  · exact Keeps.pure _
  · dsimp only
    split <;> exact Keeps.pure _

/-- A request is made whatever comes of it, and its answer decides the rest. -/
theorem Authority.askFor_eq (a : Authority α) (q : Inquiry)
    (read : List UInt8 → Except Problem β) (s : α) :
    a.askFor q read s =
      ⟨(a.answer q s).1.bind fun body => (read body).mapError .decode, (a.answer q s).2,
        [.asked q]⟩ := by
  rw [askFor, bind_eq, Activity.bind, ask]
  dsimp only
  rcases (a.answer q s).1 with e | body
  · rfl
  · rw [Except.bind]
    dsimp only
    rcases read body with p | b <;> rfl

theorem Authority.emits_fetchDevices (a : Authority α) (service : String) :
    Emits Event.IsSilent (a.fetchDevices service) := by
  refine Keeps.bind (a.emits_askFor _ _) fun r => ?_
  rcases r with e | entries
  · exact Keeps.pure _
  · refine Keeps.bind (Keeps.emitAll fun e he => ?_) fun _ => Keeps.pure _
    obtain ⟨position, -, rfl⟩ := List.mem_map.mp he
    trivial

theorem Authority.emits_upload (a : Authority α) (yaml : String) :
    Emits Event.IsSilent (a.upload yaml) := by
  refine Keeps.bind (a.emits_ask _) fun r => ?_
  rcases r with e | body
  · exact Keeps.pure _
  · exact Keeps.pure _

end DeviceHost
