import DeviceHost.Http.Server
import DeviceHost.Proofs.Notification

/-!
# Callbacks of the authority

The authority calls back when a device has changed. A callback passes through several checks: its
body is a document, the document is about a device and names it, the method says what has happened,
and the service runs. Then the service asks the authority for the device. Whatever fails on the way,
nothing has changed by then, and nobody has been told anything.

* `Json.LastMember` — the member of an object that counts;
* `Announces` — what a callback has to be like, and `Rejected` — what is wrong with any other one;
* `notification_eq_ok_iff`, `notification_eq_error_iff` — the checks find out exactly that;
* `Service.notify_of_useless` — a notification whose device the authority does not give;
* `Answered` — the three ways in which a callback ends, and `answered_callback`;
* `callback_spec` — what a callback changes, and what it leaves alone;
* `answered_handle` — what happens to a request to the callback path, from the octets of its body.
-/

namespace DeviceHost

open Activity

/-! ## What a callback says -/

/-- A member of an object, the last one of its name. -/
def Json.LastMember (j : Json) (name : String) (v : Json) : Prop :=
  ∃ before after, j = .object (before ++ (name, v) :: after) ∧ ∀ m ∈ after, m.1 ≠ name

/-- A member is found exactly if it is the last one of its name. -/
theorem Json.member?_eq_some_iff {j : Json} {name : String} {v : Json} :
    j.member? name = some v ↔ j.LastMember name v := by
  cases j with
  | object members =>
    have hget : (object members).member? name = (Table.ofList members).get? name :=
      (Table.get?_ofList members name).symm
    rw [hget, Table.get?_ofList_eq_some_iff]
    simp [LastMember]
  | _ => simp [member?, LastMember]

namespace Http

/-- A text is taken exactly from the last member of the name, and only if that is a string. -/
theorem textMember?_eq_some_iff {j : Json} {name text : String} :
    textMember? name j = some text ↔ j.LastMember name (.string text) := by
  rw [textMember?, Option.bind_eq_some_iff]
  constructor
  · rintro ⟨v, hv, htext⟩
    cases v with
    | string s =>
      obtain rfl := Option.some.inj htext
      exact Json.member?_eq_some_iff.mp hv
    | _ => cases htext
  · intro h
    exact ⟨.string text, Json.member?_eq_some_iff.mpr h, rfl⟩

theorem textMember?_eq_none_iff {j : Json} {name : String} :
    textMember? name j = none ↔ ∀ text, ¬ j.LastMember name (.string text) := by
  simp only [Option.eq_none_iff_forall_ne_some, ne_eq, textMember?_eq_some_iff]

theorem filter_textMember?_eq_some_iff {j : Json} {name text : String} :
    (textMember? name j).filter (fun t => t != "") = some text ↔
      j.LastMember name (.string text) ∧ text ≠ "" := by
  rw [Option.filter_eq_some_iff, textMember?_eq_some_iff, bne_iff_ne]

/-- No identifier is taken exactly if the last member of the name is no text or the empty one. -/
theorem filter_textMember?_eq_none_iff {j : Json} {name : String} :
    (textMember? name j).filter (fun t => t != "") = none ↔
      ∀ text, j.LastMember name (.string text) → text = "" := by
  simp only [Option.eq_none_iff_forall_ne_some, ne_eq, filter_textMember?_eq_some_iff, not_and,
    Decidable.not_not]

/-- What a method reports of a device. -/
inductive Reports : String → Change → Prop
  | post : Reports "POST" .upsert
  | put : Reports "PUT" .upsert
  | delete : Reports "DELETE" .delete

/-- A method stands for a change exactly if the interface of callbacks says so. -/
theorem changeOf?_eq_some_iff {method : String} {c : Change} :
    changeOf? method = some c ↔ Reports method c := by
  constructor
  · intro h
    unfold changeOf? at h
    split at h
    · rename_i hmethod
      obtain rfl := Option.some.inj h
      rcases hmethod with rfl | rfl
      · exact .post
      · exact .put
    · split at h
      · rename_i hmethod
        obtain rfl := Option.some.inj h
        rw [hmethod]
        exact .delete
      · cases h
  · rintro (_ | _ | _) <;> rfl

theorem changeOf?_eq_none_iff {method : String} :
    changeOf? method = none ↔ ∀ c, ¬ Reports method c := by
  simp only [Option.eq_none_iff_forall_ne_some, ne_eq, changeOf?_eq_some_iff]

/-- A method and a body announce what has happened to a device. -/
structure Announces (method body : String) (n : Notification) : Prop where
  /-- the body is a document about a device, which it names -/
  document : ∃ j, Json.ofText? body = some j ∧ j.LastMember "type" (.string "DEVICE") ∧
    j.LastMember "id" (.string n.id)
  /-- the name is not empty -/
  named : n.id ≠ ""
  /-- the method says what has happened -/
  reports : Reports method n.change

/-- What is wrong with a callback that announces nothing: of several troubles the first one. -/
inductive Rejected (method body : String) : Refusal → Prop
  /-- the body is no document -/
  | garbled (h : Json.ofText? body = none) :
    Rejected method body ⟨.badRequest, "Callback body is not JSON"⟩
  /-- the document does not say what it is about -/
  | untyped {j : Json} (hj : Json.ofText? body = some j)
    (h : ∀ kind, ¬ j.LastMember "type" (.string kind)) :
    Rejected method body ⟨.badRequest, "Callback is missing 'type'"⟩
  /-- the document is about something else -/
  | foreign {j : Json} {kind : String} (hj : Json.ofText? body = some j)
    (htype : j.LastMember "type" (.string kind)) (h : kind ≠ "DEVICE") :
    Rejected method body ⟨.notImplemented, s!"Callbacks of type '{kind}' are not supported"⟩
  /-- the document does not name the device -/
  | unnamed {j : Json} (hj : Json.ofText? body = some j)
    (htype : j.LastMember "type" (.string "DEVICE"))
    (h : ∀ id, j.LastMember "id" (.string id) → id = "") :
    Rejected method body ⟨.badRequest, "Callback is missing 'id'"⟩
  /-- the method does not say what has happened -/
  | unknown {j : Json} {id : String} (hj : Json.ofText? body = some j)
    (htype : j.LastMember "type" (.string "DEVICE")) (hid : j.LastMember "id" (.string id))
    (hnamed : id ≠ "") (h : ∀ c, ¬ Reports method c) :
    Rejected method body ⟨.notImplemented, s!"Callback method {method} is not supported"⟩

/-- Rejected callbacks are answered by a bad request or by what is not implemented. -/
theorem Rejected.status {method body : String} {r : Refusal} (h : Rejected method body r) :
    r.status = 400 ∨ r.status = 501 := by
  cases h with
  | garbled => exact .inl rfl
  | untyped => exact .inl rfl
  | foreign => exact .inr rfl
  | unnamed => exact .inl rfl
  | unknown => exact .inr rfl

/-- A callback announces something, or there is something wrong with it. -/
theorem announces_or_rejected (method body : String) :
    (∃ n, Announces method body n) ∨ ∃ r, Rejected method body r := by
  rcases hj : Json.ofText? body with _ | j
  · exact .inr ⟨_, .garbled hj⟩
  · by_cases htype : ∃ kind, j.LastMember "type" (.string kind)
    · obtain ⟨kind, htype⟩ := htype
      by_cases hkind : kind = "DEVICE"
      · subst hkind
        by_cases hid : ∃ id, j.LastMember "id" (.string id) ∧ id ≠ ""
        · obtain ⟨id, hid, hnamed⟩ := hid
          by_cases hreports : ∃ c, Reports method c
          · obtain ⟨c, hreports⟩ := hreports
            exact .inl ⟨⟨c, id⟩, ⟨j, hj, htype, hid⟩, hnamed, hreports⟩
          · exact .inr ⟨_, .unknown hj htype hid hnamed fun c h => hreports ⟨c, h⟩⟩
        · refine .inr ⟨_, .unnamed hj htype fun id h => ?_⟩
          exact Decidable.byContradiction fun hnamed => hid ⟨id, h, hnamed⟩
      · exact .inr ⟨_, .foreign hj htype hkind⟩
    · exact .inr ⟨_, .untyped hj fun kind h => htype ⟨kind, h⟩⟩

/-- A callback that announces a notification is read as that one. -/
theorem Announces.notification_eq {method body : String} {n : Notification}
    (h : Announces method body n) : notification method body = .ok n := by
  obtain ⟨⟨j, hj, htype, hid⟩, hnamed, hreports⟩ := h
  have hid := filter_textMember?_eq_some_iff.mpr ⟨hid, hnamed⟩
  simp [notification, hj, textMember?_eq_some_iff.mpr htype, hid,
    changeOf?_eq_some_iff.mpr hreports]

/-- A callback that is to be rejected is read as its refusal. -/
theorem Rejected.notification_eq {method body : String} {r : Refusal}
    (h : Rejected method body r) : notification method body = .error r := by
  cases h with
  | garbled hj => simp [notification, hj]
  | untyped hj h => simp [notification, hj, textMember?_eq_none_iff.mpr h]
  | foreign hj htype h => simp [notification, hj, textMember?_eq_some_iff.mpr htype, h]
  | unnamed hj htype h =>
    have hid := filter_textMember?_eq_none_iff.mpr h
    simp [notification, hj, textMember?_eq_some_iff.mpr htype, hid]
  | unknown hj htype hid hnamed h =>
    have hid := filter_textMember?_eq_some_iff.mpr ⟨hid, hnamed⟩
    simp [notification, hj, textMember?_eq_some_iff.mpr htype, hid, changeOf?_eq_none_iff.mpr h]

/-- **The checks are exact**: they accept a callback for what it announces, and for nothing else. -/
theorem notification_eq_ok_iff {method body : String} {n : Notification} :
    notification method body = .ok n ↔ Announces method body n := by
  refine ⟨fun h => ?_, Announces.notification_eq⟩
  rcases announces_or_rejected method body with ⟨n', hn⟩ | ⟨r, hr⟩
  · obtain rfl := Except.ok.inj (h.symm.trans hn.notification_eq)
    exact hn
  · cases h.symm.trans hr.notification_eq

-- of members with the same name the last one counts
example : (notification "PUT"
    "\x7b\"id\":\"\",\"type\":7,\"type\":\"DEVICE\",\"id\":\"1\"\x7d").toOption =
      some ⟨.upsert, "1"⟩ := by decide +kernel

/-- They reject it for what is wrong with it. -/
theorem notification_eq_error_iff {method body : String} {r : Refusal} :
    notification method body = .error r ↔ Rejected method body r := by
  refine ⟨fun h => ?_, Rejected.notification_eq⟩
  rcases announces_or_rejected method body with ⟨n, hn⟩ | ⟨r', hr⟩
  · cases h.symm.trans hn.notification_eq
  · obtain rfl := Except.error.inj (h.symm.trans hr.notification_eq)
    exact hr

end Http

/-! ## Answers of no use -/

/-- What a trace does to the world around the service: everything but the lines of the log. -/
def effects (es : List Event) : List Event :=
  es.filter fun
    | .logged _ => false
    | _ => true

theorem effects_append (es fs : List Event) : effects (es ++ fs) = effects es ++ effects fs :=
  List.filter_append es fs

/-- An answer to a request for a device is of no use. -/
inductive Useless (id : String) : Except AuthorityError Device → Prop
  /-- there is no device -/
  | failed (e : AuthorityError) : Useless id (.error e)
  /-- it is another device -/
  | mistaken (d : Device) (h : d.id ≠ id) : Useless id (.ok d)

namespace Reconcile

variable {δ α : Type}

/-- An answer of no use drops the notification: the site stays and one line is logged. -/
theorem respond_of_useless {id : String} {answer : Except AuthorityError Device}
    (h : Useless id answer) (p : Parties δ α) (site : Site δ α) :
    ∃ reason line, respond p id answer site = ⟨.dropped reason, site, [.logged line]⟩ := by
  cases h with
  | failed e => exact ⟨_, _, rfl⟩
  | mistaken d h =>
    rw [respond, if_pos h]
    exact ⟨_, _, rfl⟩

/-- An upsert whose fetch is of no use leaves nothing but that fetch. -/
theorem upsert_of_useless {p : Parties δ α} {id : String} {site : Site δ α}
    (h : Useless id (p.authority.fetchDevice id site.authority).value) :
    ∃ reason line, upsert p id site =
      ⟨.dropped reason,
        { site with authority := (p.authority.answer (.device id) site.authority).2 },
        [.asked (.device id), .logged line]⟩ := by
  have hfetch : p.authority.fetchDevice id site.authority = _ := Authority.askFor_eq ..
  obtain ⟨reason, line, hrespond⟩ := respond_of_useless h p
    { site with authority := (p.authority.fetchDevice id site.authority).state }
  refine ⟨reason, line, ?_⟩
  calc upsert p id site
    _ = (let fetched := p.authority.fetchDevice id site.authority
         let done := respond p id fetched.value { site with authority := fetched.state }
         ⟨done.value, done.state, fetched.trace ++ done.trace⟩) := rfl
    _ = _ := by
      dsimp only
      rw [hrespond, hfetch]
      rfl

end Reconcile

namespace Service

variable {δ α : Type} {s : Service δ α} {st : State δ α}

/-- **A notification that comes to nothing** only asks for the device. -/
theorem notify_of_useless (hrun : st.running = true) {id : String}
    (h : Useless id (s.authority.fetchDevice id st.authority).value) :
    (s.notify ⟨.upsert, id⟩ st).state =
        { st with authority := (s.authority.answer (.device id) st.authority).2 } ∧
      effects (s.notify ⟨.upsert, id⟩ st).trace = [.asked (.device id)] := by
  obtain ⟨reason, line, hupsert⟩ :
      ∃ reason line, s.reconciled st ⟨.upsert, id⟩ = ⟨.dropped reason, _, [_, .logged line]⟩ :=
    Reconcile.upsert_of_useless h
  rw [notify_eq hrun, hupsert]
  exact ⟨rfl, rfl⟩

end Service

/-! ## What comes of a callback -/

namespace Http

variable {δ α : Type} {s : Service δ α} {st : Service.State δ α} {method body : String}

/-- The ways in which a callback ends. -/
inductive Answered (s : Service δ α) (method body : String) (st : Service.State δ α) :
    Outcome Event (Service.State δ α) Reply → Prop
  /-- it is rejected -/
  | rejected (r : Refusal) (line : LogLine) (h : Rejected method body r) :
    Answered s method body st ⟨.ofRefusal r, st, [.logged line]⟩
  /-- the service does not run -/
  | unavailable (n : Notification) (h : Announces method body n) (hrun : st.running = false) :
    Answered s method body st ⟨.ofRefusal (.ofService .notRunning), st, []⟩
  /-- the service is notified -/
  | notified (n : Notification) (line : LogLine) (h : Announces method body n)
    (hrun : st.running = true) :
    Answered s method body st
      ⟨.ofStatus 200, (s.notify n st).state, (s.notify n st).trace ++ [.logged line]⟩

/-- Every method and body is answered as the specification of callbacks says. -/
theorem answered_callback (s : Service δ α) (method body : String) (st : Service.State δ α) :
    Answered s method body st (callback s method body st) := by
  unfold callback
  rcases announces_or_rejected method body with ⟨n, hannounces⟩ | ⟨r, hrejected⟩
  · rw [hannounces.notification_eq]
    dsimp only
    rw [bind_eq, Activity.bind]
    rcases hrun : st.running with _ | _
    · rw [Service.notify_of_not_running hrun]
      exact .unavailable n hannounces hrun
    · rw [Service.notify_value hrun]
      exact .notified n _ hannounces hrun
  · rw [hrejected.notification_eq]
    exact .rejected r _ hrejected

/-- **What a callback changes, and what it leaves alone**, in any state of the service. Unless it
announces something, it is answered with what is wrong with it, and nothing is done. If the service
does not run, it says so, and nothing is done either. Otherwise the service is notified, and all
that is done is done by the notification; if the authority then fails to give the device that was
announced, all that is done is to ask for it. -/
theorem callback_spec (s : Service δ α) (method body : String) (st : Service.State δ α) :
    let o := callback s method body st
    ((∀ n, ¬ Announces method body n) →
      ∃ r, Rejected method body r ∧ o.value = .ofRefusal r ∧
        (o.value.status = 400 ∨ o.value.status = 501) ∧ o.state = st ∧ effects o.trace = []) ∧
      ∀ n, Announces method body n →
        (st.running = false →
          o.value.status = 503 ∧ o.state = st ∧ effects o.trace = []) ∧
        (st.running = true →
          o.value.status = 200 ∧ o.state = (s.notify n st).state ∧
            (∃ line, o.trace = (s.notify n st).trace ++ [.logged line]) ∧
            (n.change = .upsert → Useless n.id (s.authority.fetchDevice n.id st.authority).value →
              o.state =
                  { st with authority := (s.authority.answer (.device n.id) st.authority).2 } ∧
                effects o.trace = [.asked (.device n.id)])) := by
  intro o
  have hanswered : Answered s method body st o := answered_callback s method body st
  clear_value o
  cases hanswered with
  | rejected r line h =>
    refine ⟨fun _ => ⟨r, h, rfl, h.status, rfl, rfl⟩, fun n hn => ?_⟩
    cases hn.notification_eq.symm.trans h.notification_eq
  | unavailable n h hrun =>
    refine ⟨fun hnone => (hnone n h).elim, fun n' hn' => ⟨fun _ => ⟨rfl, rfl, rfl⟩, fun h => ?_⟩⟩
    cases hrun.symm.trans h
  | notified n line h hrun =>
    refine ⟨fun hnone => (hnone n h).elim, fun n' hn' => ⟨fun h => ?_, fun _ => ?_⟩⟩
    · cases hrun.symm.trans h
    · obtain rfl := Except.ok.inj (h.notification_eq.symm.trans hn'.notification_eq)
      refine ⟨rfl, rfl, ⟨line, rfl⟩, fun hchange huseless => ?_⟩
      obtain ⟨_, id⟩ := n
      obtain rfl := hchange
      obtain ⟨hstate, heffects⟩ := Service.notify_of_useless hrun huseless
      refine ⟨hstate, ?_⟩
      rw [effects_append, heffects]
      rfl

/-- A request to the callback path comes to the callback, unless its body is too long or no text. -/
theorem handle_callback {r : Request}
    (hroute : Route.ofSegments? (segments r.address) = some .callback) (s : Service δ α)
    (stamp : Stamp) (st : Service.State δ α) :
    handle s stamp r st =
      if bodyLimit < r.body.length then ⟨tooLong, st, []⟩
      else match readBody r.body with
        | .error e => ⟨.ofText 400 e, st, []⟩
        | .ok body => callback s r.method body st := by
  have hhandle : handle s stamp r =
      if bodyLimit < r.body.length then pure tooLong else carryOut s stamp r .callback := by
    simp [handle, hroute, Route.takes, Route.methods, goesBare, -Activity.pure_eq,
      -Activity.bind_eq]
  rw [hhandle]
  split
  · rfl
  · rw [carryOut]
    rcases readBody r.body with e | body <;> rfl

/-- **A request to the callback path is answered as the callback is**, if its body is not too long
and a text. Otherwise it is refused, and nothing is done. -/
theorem answered_handle {r : Request}
    (hroute : Route.ofSegments? (segments r.address) = some .callback) (s : Service δ α)
    (stamp : Stamp) (st : Service.State δ α) :
    (r.body.length ≤ bodyLimit → ∀ body, readBody r.body = .ok body →
      Answered s r.method body st (handle s stamp r st)) ∧
    ((bodyLimit < r.body.length ∨ ∃ e, readBody r.body = .error e) →
      ∃ reply, (reply.status = 413 ∨ reply.status = 400) ∧
        handle s stamp r st = ⟨reply, st, []⟩) := by
  rw [handle_callback hroute]
  refine ⟨fun hlength body hbody => ?_, fun hrefused => ?_⟩
  · rw [if_neg (Nat.not_lt.mpr hlength), hbody]
    exact answered_callback s r.method body st
  · split
    · exact ⟨tooLong, .inl rfl, rfl⟩
    · rename_i hlength
      obtain ⟨e, he⟩ := hrefused.resolve_left hlength
      rw [he]
      exact ⟨.ofText 400 e, .inr rfl, rfl⟩

end Http

end DeviceHost
