import DeviceHost.Driver.Template
import DeviceHost.Proofs.Reachable

/-!
# A notification that comes twice

The authority may notify the service of one change more than once. If it answers as it did the first
time, the store holds by then what the answer says, so nothing is left to do: the second time
nothing changes, nobody is told anything, and the report says so.

* `insert_insert`, `remember_remember` — what is done to the devices and to the profiles is done by
  doing it once;
* `Report.again`, `Decision.again` — what comes of a notification the second time, given what has
  come of it the first time;
* `decision_again` — reconciliation decides so, whichever way it went the first time;
* `notify_again` — a service that is notified twice is left as it was after the first time.
-/

namespace DeviceHost

/-! ## What is done by doing it once -/

namespace Store

/-- The second insertion of a device changes nothing. -/
theorem insert_insert (s : Store) (d : Device) : (s.insert d).insert d = s.insert d := by
  have hprevious : (s.insert d).get? d.id = some d := by rw [get?_insert, if_pos rfl]
  -- the device gives up no name, since the one it had is the one it takes
  have hnames : (s.insert d).namesBefore d = (s.insert d).names := by
    rw [namesBefore, hprevious]
    exact if_pos rfl
  rw [Store.insert, hnames, Store.insert, Table.insert_insert, Table.insert_insert]

/-- The second insertion of a device is an update of a device that is reached as before. -/
theorem outcomeOf_insert (s : Store) (d : Device) :
    (s.insert d).outcomeOf d = .updatedRemoteOnly := by
  have hprevious : (s.insert d).get? d.id = some d := by rw [get?_insert, if_pos rfl]
  rw [outcomeOf, hprevious]
  exact if_pos (Device.sameProtocols_iff.mpr rfl)

end Store

namespace ProfileCache

theorem remember_remember (c : ProfileCache) (p : Profile) :
    (c.remember p).remember p = c.remember p := by
  by_cases hp : p.name = ""
  · simp only [remember, if_pos hp]
  · simp only [remember, if_neg hp]
    exact congrArg ProfileCache.mk (Table.insert_insert ..)

end ProfileCache

/-! ## The second time -/

/-- The report of a notification that comes again, given the one of the first time. -/
def Report.again : Report → Report
  | stored _ => .stored .updatedRemoteOnly
  | removed => .notPresent
  | notPresent => .notPresent
  | ownershipLost owner _ => .ownershipLost owner false
  | dropped reason => .dropped reason

namespace Reconcile

/-- What comes of a notification that comes again, given what has come of it the first time. -/
def Decision.again : Decision → Decision
  | adopt d => .adopt d
  | dismiss _ _ r => .ignore r.again
  | ignore r => .ignore r.again

/-- What the authority answers counts only if a device was put in or changed. -/
theorem decision_congr_answer {service : String} {s : Store}
    {answer answer' : Except AuthorityError Device} {n : Notification}
    (h : n.change = .upsert → answer' = answer) :
    decision service s answer' n = decision service s answer n := by
  obtain ⟨c, id⟩ := n
  cases c with
  | upsert => rw [h rfl]
  | delete => rfl

/-- What is decided the second time follows from what was decided the first time. -/
theorem decision_again (service : String) (s : Store) (answer : Except AuthorityError Device)
    (n : Notification) :
    decision service ((decision service s answer n).store s) answer n =
      (decision service s answer n).again := by
  obtain ⟨c, id⟩ := n
  cases c with
  | delete =>
    simp only [decision_delete]
    rcases h : s.get? id with _ | d
    · simp only [Decision.store, h]
      rfl
    · -- the device is gone by now
      have hgone : (s.remove id).2.get? id = none := by rw [Store.get?_remove, if_pos rfl]
      simp only [Decision.store, hgone]
      rfl
  | upsert =>
    rcases answer with e | d
    · rfl
    · by_cases hid : d.id = id
      · subst hid
        simp only [decision_fetched]
        by_cases hown : d.isOwnedBy service
        · simp only [if_pos hown]
          rfl
        · simp only [if_neg hown]
          rcases h : s.get? d.id with _ | old
          · simp only [Decision.store, h]
            rfl
          · have hgone : (s.remove d.id).2.get? d.id = none := by
              rw [Store.get?_remove, if_pos rfl]
            simp only [Decision.store, hgone]
            rfl
      · have hdropped : ∀ t, decision service t (.ok d) ⟨.upsert, id⟩ =
            .ignore (.dropped s!"id mismatch: {d.id}") := fun t => if_pos hid
        rw [hdropped, hdropped]
        rfl

namespace Decision

variable (D : Decision) (s : Store)

/-- The second report follows from the first one. -/
theorem report_again : D.again.report (D.store s) = (D.report s).again := by
  cases D with
  | adopt d => exact congrArg Report.stored (s.outcomeOf_insert d)
  | dismiss id told r => rfl
  | ignore r => rfl

/-- The second time the decision leaves the store alone. -/
theorem store_again : D.again.store (D.store s) = D.store s := by
  cases D with
  | adopt d => exact s.insert_insert d
  | dismiss id told r => rfl
  | ignore r => rfl

theorem cache_again (c : ProfileCache) : D.again.cache (D.cache c) = D.cache c := by
  cases D with
  | adopt d => exact c.remember_remember d.profile
  | dismiss id told r => rfl
  | ignore r => rfl

/-- Nobody is told anything the second time. -/
theorem contacts_again (r : Registry) : D.again.contacts r (D.store s) = [] := by
  cases D with
  | adopt d =>
    have hcalls : (adopt d).calls (s.insert d) = [] := by rw [calls, s.outcomeOf_insert d]
    simp only [again, store, contacts, hcalls]
    rfl
  | dismiss id told r => rfl
  | ignore r => rfl

end Decision

end Reconcile

/-! ## A whole service -/

namespace Service

variable {δ α : Type} {s : Service δ α} {st : State δ α} {n : Notification}

/-- The authority answers to a notification in two states alike, as far as it is asked at all. -/
def AnsweredAlike (s : Service δ α) (n : Notification) (st st' : State δ α) : Prop :=
  n.change = .upsert →
    (s.authority.fetchDevice n.id st'.authority).value =
      (s.authority.fetchDevice n.id st.authority).value

/-- Answered alike, the second decision is the one that follows the first. -/
theorem decision_notified (hrun : st.running = true)
    (hsame : s.AnsweredAlike n st (s.notify n st).state) :
    s.decision (s.notify n st).state n = (s.decision st n).again := by
  rw [decision, Reconcile.decision_congr_answer hsame, s.notify_store hrun]
  exact Reconcile.decision_again ..

/-- **A notification that comes again does no harm.** Whatever it was about and whatever has come of
it the first time, if the authority answers as it did then, the second time leaves the devices with
all their names, the profiles and the listener exactly as they are, nobody is told anything and the
driver is left alone, and the report says that there was nothing left to do. -/
theorem notify_again (hrun : st.running = true)
    (hsame : s.AnsweredAlike n st (s.notify n st).state) :
    let once := s.notify n st
    let twice := s.notify n once.state
    (∃ r, once.value = .ok r ∧ twice.value = .ok r.again) ∧
      twice.state.store = once.state.store ∧ twice.state.cache = once.state.cache ∧
      twice.state.listeners = once.state.listeners ∧ contacts twice.trace = [] := by
  intro once twice
  have hrunning : once.state.running = true := (s.notify_running n).trans hrun
  have hdecision : s.decision once.state n = (s.decision st n).again :=
    decision_notified hrun hsame
  have hstore : once.state.store = (s.decision st n).store st.store := s.notify_store hrun n
  have hcache : once.state.cache = (s.decision st n).cache st.cache := s.notify_cache hrun n
  refine ⟨⟨_, s.notify_value hrun n, ?_⟩, ?_, ?_, s.notify_listeners n, ?_⟩
  · rw [s.notify_value hrunning, hdecision, hstore, Reconcile.Decision.report_again]
  · rw [s.notify_store hrunning, hdecision, hstore, Reconcile.Decision.store_again]
  · rw [s.notify_cache hrunning, hdecision, hcache, Reconcile.Decision.cache_again]
  · rw [contacts_notify hrunning, hdecision, hstore, Reconcile.Decision.contacts_again]

/-- A second pump comes, which takes the name of the first one over, and it is announced twice. -/
theorem notify_again_of_script :
    let s : Service Unit (List (List UInt8)) := ⟨.standard, Template.driver, .scripted, none⟩
    let second := Utf8.ofString
      "\x7b\"id\":\"2\",\"name\":\"pump\",\"service\":\x7b\"name\":\"device-service\"\x7d\x7d"
    let n : Notification := ⟨.upsert, "2"⟩
    let st := s.run [.register Template.listener, .start (.ok [])] (.initial () [Utf8.ofString
      "[\x7b\"id\":\"1\",\"name\":\"pump\",\"service\":\x7b\"name\":\"device-service\"\x7d\x7d]",
      second, second])
    let once := s.notify n st
    let twice := s.notify n once.state
    (st.running = true ∧ s.AnsweredAlike n st once.state ∧
      (st.store.find? "pump").map Device.id = some "1" ∧
      (once.state.store.find? "pump").map Device.id = some "2") ∧
      (∃ r, once.value = .ok r ∧ twice.value = .ok r.again) ∧
      twice.state.store = once.state.store ∧ twice.state.cache = once.state.cache ∧
      twice.state.listeners = once.state.listeners ∧ contacts twice.trace = [] := by
  intro s second n st once twice
  obtain ⟨hrun, hfirst, hsecond⟩ : st.running = true ∧
      (st.store.find? "pump").map Device.id = some "1" ∧
      (once.state.store.find? "pump").map Device.id = some "2" := by decide +kernel
  obtain ⟨hbefore, hafter⟩ : st.authority = [second, second] ∧
      once.state.authority = [second] := by decide +kernel
  have hdecode : (Device.decode second).toOption =
      some (.ofName "2" "pump" "device-service") := by decide +kernel
  clear_value st second
  have hsame : s.AnsweredAlike n st once.state := by
    intro _
    rw [hbefore, hafter]
    exact (Authority.fetchDevice_scripted hdecode "2" []).trans
      (Authority.fetchDevice_scripted hdecode "2" [second]).symm
  exact ⟨⟨hrun, hsame, hfirst, hsecond⟩, notify_again hrun hsame⟩

end Service

end DeviceHost
