import DeviceHost.Driver.Template
import DeviceHost.Proofs.Traffic
import Mathlib.Data.List.Induction

/-!
# The driver works in sessions

A driver is prepared, works, and is stopped, and then it may be prepared again. Any of its calls may
fail, and a start may go wrong after the driver has been prepared; still no preparation is left
without its stop, and no work comes before a preparation or after a stop.

* `Exchange`, `Driver.log` — a call of the driver and how it went, and the log of many calls;
* `Session`, `Underway` — a session that is over, and the one in which the driver works;
* `Advance` — how a single operation continues the log, one constructor for each way;
* `InSessions` — the log consists of sessions, an invariant of operations;
* `worksInSessions` — so it does from the beginning, whatever is done with the service.
-/

namespace DeviceHost

open Activity

/-! ## The log of a driver -/

/-- A call of the driver and how it went. -/
structure Exchange where
  /-- the call -/
  call : DriverCall
  /-- whether it went well -/
  well : Bool
  deriving DecidableEq

/-- How one call after the other goes with a driver. -/
def Driver.log {δ : Type} (dr : Driver δ) (s : δ) : List DriverCall → List Exchange
  | [] => []
  | c :: cs => ⟨c, (dr.answer s c).1⟩ :: dr.log (dr.answer s c).2 cs

theorem Driver.log_append {δ : Type} (dr : Driver δ) (s : δ) (cs ds : List DriverCall) :
    dr.log s (cs ++ ds) = dr.log s cs ++ dr.log (dr.after s cs) ds := by
  induction cs generalizing s with
  | nil => rfl
  | cons c cs ih =>
    rw [List.cons_append, log, log, ih]
    rfl

theorem Driver.eq_nil_of_log_eq_nil {δ : Type} {dr : Driver δ} {s : δ} {cs : List DriverCall}
    (h : dr.log s cs = []) : cs = [] := by
  rcases cs with _ | ⟨c, cs⟩
  · rfl
  · cases h

/-! ## Sessions -/

/-- A session that is over. -/
inductive Session : List Exchange → Prop
  /-- the driver could not be prepared -/
  | refused (service : String) (settings : Table String) :
    Session [⟨.init service settings, false⟩]
  /-- the driver was prepared, but the start went wrong later, and it was stopped at once -/
  | abandoned (service : String) (settings : Table String) (well : Bool) :
    Session [⟨.init service settings, true⟩, ⟨.stop true, well⟩]
  /-- the driver was prepared, worked, and was stopped -/
  | finished (service : String) (settings : Table String) (work : List Exchange)
    (busy : ∀ e ∈ work, e.call.IsWork) (force well : Bool) :
    Session (⟨.init service settings, true⟩ :: (work ++ [⟨.stop force, well⟩]))

/-- A session that is not over: the driver was prepared and has worked since then. -/
inductive Underway : List Exchange → Prop
  /-- after any amount of work -/
  | working (service : String) (settings : Table String) (work : List Exchange)
    (busy : ∀ e ∈ work, e.call.IsWork) : Underway (⟨.init service settings, true⟩ :: work)

/-- A log consists of sessions. The last one is not over exactly if the service runs. -/
inductive InSessions : Bool → List Exchange → Prop
  /-- the service does not run -/
  | idle (sessions : List (List Exchange)) (ended : ∀ l ∈ sessions, Session l) :
    InSessions false sessions.flatten
  /-- the service runs -/
  | running (sessions : List (List Exchange)) (last : List Exchange)
    (ended : ∀ l ∈ sessions, Session l) (underway : Underway last) :
    InSessions true (sessions.flatten ++ last)

/-- How an operation continues the log, and whether the service runs before and after it. -/
inductive Advance : Bool → List Exchange → Bool → Prop
  /-- the driver is not called -/
  | quiet (running : Bool) : Advance running [] running
  /-- the driver cannot be prepared -/
  | refused (service : String) (settings : Table String) :
    Advance false [⟨.init service settings, false⟩] false
  /-- the driver is prepared, and stopped again -/
  | abandoned (service : String) (settings : Table String) (well : Bool) :
    Advance false [⟨.init service settings, true⟩, ⟨.stop true, well⟩] false
  /-- the driver is prepared -/
  | opened (service : String) (settings : Table String) :
    Advance false [⟨.init service settings, true⟩] true
  /-- the driver works -/
  | worked (call : DriverCall) (busy : call.IsWork) (well : Bool) :
    Advance true [⟨call, well⟩] true
  /-- the driver is stopped -/
  | closed (force well : Bool) : Advance true [⟨.stop force, well⟩] false

/-- One session more. -/
theorem InSessions.append {log l : List Exchange} (h : InSessions false log) (hl : Session l) :
    InSessions false (log ++ l) := by
  cases h with
  | idle sessions ended =>
    rw [← List.flatten_concat]
    refine .idle _ fun l' hl' => ?_
    rcases List.mem_append.mp hl' with hl' | hl'
    · exact ended l' hl'
    · rw [List.mem_singleton.mp hl']
      exact hl

/-- **One operation keeps the sessions.** -/
theorem InSessions.advance {running running' : Bool} {log es : List Exchange}
    (h : InSessions running log) (hstep : Advance running es running') :
    InSessions running' (log ++ es) := by
  cases hstep with
  | quiet => rwa [List.append_nil]
  | refused service settings => exact h.append (.refused service settings)
  | abandoned service settings well => exact h.append (.abandoned service settings well)
  | opened service settings =>
    cases h with
    | idle sessions ended => exact .running sessions _ ended (.working service settings [] nofun)
  | worked call busy well =>
    cases h with
    | running sessions last ended underway =>
      obtain ⟨service, settings, work, hwork⟩ := underway
      rw [List.append_assoc]
      refine .running sessions _ ended (.working service settings _ fun e he => ?_)
      rcases List.mem_append.mp he with he | he
      · exact hwork e he
      · rw [List.mem_singleton.mp he]
        exact busy
  | closed force well =>
    cases h with
    | running sessions last ended underway =>
      obtain ⟨service, settings, work, hwork⟩ := underway
      rw [List.append_assoc]
      exact (InSessions.idle sessions ended).append
        (.finished service settings work hwork force well)

/-! ## Preparations and stops -/

/-- The calls before the next preparation of the driver. -/
def untilInit (log : List Exchange) : List Exchange :=
  log.takeWhile fun e => !e.call.isInit

/-- How often a driver is stopped in a log. -/
def stops (log : List Exchange) : Nat :=
  log.countP fun e => e.call.isStop

/-- After every preparation that went well, the driver is stopped once before it is prepared again,
unless this is the last preparation and the service runs: then it is not stopped at all. -/
def StoppedOnce (running : Bool) (log : List Exchange) : Prop :=
  ∀ earlier service settings later, log = earlier ++ ⟨.init service settings, true⟩ :: later →
    stops (untilInit later) = 1 ∨ running = true ∧ untilInit later = later ∧ stops later = 0

/-- A log that is empty or begins with a preparation. -/
def Fresh (log : List Exchange) : Prop :=
  untilInit log = []

/-- A session begins with its only preparation, and if that went well, it has one stop. -/
theorem Session.eq_cons {l : List Exchange} (h : Session l) :
    ∃ service settings well rest, l = ⟨.init service settings, well⟩ :: rest ∧
      (∀ e ∈ rest, e.call.isInit = false) ∧ (well = true → stops rest = 1) := by
  cases h with
  | refused service settings => exact ⟨service, settings, false, [], rfl, nofun, nofun⟩
  | abandoned service settings well =>
    refine ⟨service, settings, true, _, rfl, fun e he => ?_, fun _ => rfl⟩
    rw [List.mem_singleton.mp he]
    rfl
  | finished service settings work busy force well =>
    refine ⟨service, settings, true, _, rfl, fun e he => ?_, fun _ => ?_⟩
    · rcases List.mem_append.mp he with he | he
      · exact (busy e he).not_isInit
      · rw [List.mem_singleton.mp he]
        rfl
    · have hnone : stops work = 0 := by
        refine List.countP_eq_zero.mpr fun e he => ?_
        simp [(busy e he).not_isStop]
      rw [stops, List.countP_append]
      change stops work + 1 = 1
      rw [hnone]

/-- Calls other than preparations come before the next preparation. -/
theorem untilInit_append {es : List Exchange} (hes : ∀ e ∈ es, e.call.isInit = false)
    (log : List Exchange) : untilInit (es ++ log) = es ++ untilInit log := by
  refine List.takeWhile_append_of_pos fun e he => ?_
  rw [hes e he]
  rfl

/-- A session in front of a log. -/
theorem StoppedOnce.cons {running : Bool} {l log : List Exchange} (hl : Session l)
    (hfresh : Fresh log) (h : StoppedOnce running log) : StoppedOnce running (l ++ log) := by
  obtain ⟨service', settings', well, rest, rfl, hrest, hstops⟩ := hl.eq_cons
  intro earlier service settings later hsplit
  rw [List.cons_append] at hsplit
  rcases earlier with _ | ⟨first, earlier⟩
  · -- the preparation is that of the session itself
    obtain ⟨hcall, hlater⟩ := List.cons.inj hsplit
    obtain rfl : well = true := congrArg Exchange.well hcall
    rw [← hlater, untilInit_append hrest, hfresh, List.append_nil]
    exact .inl (hstops rfl)
  · -- it is a later one, and there is none among the rest of the session
    obtain ⟨-, hlater⟩ := List.cons.inj hsplit
    rcases List.append_eq_append_iff.mp hlater with ⟨es, rfl, hlog⟩ | ⟨es, hes, hlog⟩
    · exact h es service settings later hlog
    · rcases es with _ | ⟨e, es⟩
      · exact h [] service settings later hlog.symm
      · obtain ⟨rfl, -⟩ := List.cons.inj hlog
        have hinit := hrest ⟨.init service settings, true⟩ (by rw [hes]; simp)
        cases hinit

/-- Whole sessions in front of a fresh log leave it fresh. -/
theorem fresh_flatten {sessions : List (List Exchange)} (hover : ∀ l ∈ sessions, Session l)
    {log : List Exchange} (hlog : Fresh log) : Fresh (sessions.flatten ++ log) := by
  rcases sessions with _ | ⟨l, sessions⟩
  · exact hlog
  · obtain ⟨service, settings, well, rest, rfl, -, -⟩ := (hover l (List.mem_cons_self ..)).eq_cons
    rfl

/-- Whole sessions in front of a fresh log have their own stops and change none of the others. -/
theorem StoppedOnce.flatten {running : Bool} {sessions : List (List Exchange)}
    (hover : ∀ l ∈ sessions, Session l) {log : List Exchange} (hlog : Fresh log)
    (h : StoppedOnce running log) : StoppedOnce running (sessions.flatten ++ log) := by
  induction sessions with
  | nil => exact h
  | cons l sessions ih =>
    have hrest : ∀ l ∈ sessions, Session l := fun l hl => hover l (List.mem_cons_of_mem _ hl)
    rw [List.flatten_cons, List.append_assoc]
    exact (ih hrest).cons (hover l (List.mem_cons_self ..)) (fresh_flatten hrest hlog)

/-- In a session under way the driver has not been stopped since it was prepared. -/
theorem Underway.stoppedOnce {l : List Exchange} (h : Underway l) : StoppedOnce true l := by
  obtain ⟨service', settings', work, hwork⟩ := h
  intro earlier service settings later hsplit
  rcases earlier with _ | ⟨first, earlier⟩
  · obtain ⟨-, rfl⟩ := List.cons.inj hsplit
    have hall := untilInit_append (fun e he => (hwork e he).not_isInit) []
    rw [List.append_nil] at hall
    refine .inr ⟨rfl, hall.trans (List.append_nil _), List.countP_eq_zero.mpr fun e he => ?_⟩
    simp [(hwork e he).not_isStop]
  · obtain ⟨-, rfl⟩ := List.cons.inj hsplit
    exact (hwork ⟨.init service settings, true⟩ (by simp)).elim

/-- In a log of sessions the driver is stopped once for every preparation that went well, unless it
is at work now. -/
theorem InSessions.stoppedOnce {running : Bool} {log : List Exchange}
    (h : InSessions running log) : StoppedOnce running log := by
  cases h with
  | idle sessions ended =>
    have hnil : StoppedOnce false [] := fun earlier _ _ _ hsplit => by
      rcases earlier with _ | _ <;> cases hsplit
    rw [← List.append_nil sessions.flatten]
    exact hnil.flatten ended rfl
  | running sessions last ended underway =>
    refine underway.stoppedOnce.flatten ended ?_
    obtain ⟨service, settings, work, -⟩ := underway
    rfl

/-! ## Operations -/

/-- An error of what a start does after it has prepared the driver. -/
def ServiceError.IsLate : ServiceError → Prop
  | profiles _ | initialSync _ => True
  | _ => False

namespace Service

variable {δ α : Type} {s : Service δ α} {st : State δ α}

/-- The call that prepares the driver. -/
def initCall (s : Service δ α) : DriverCall := .init s.name s.config.driver

/-- What a start comes to, how it continues the log of the driver, and whether the service runs
before and after it. -/
inductive StartLog (s : Service δ α) :
    Bool → Except ServiceError Unit → List Exchange → Bool → Prop
  /-- the service runs already, and the driver is left alone -/
  | alreadyStarted : StartLog s true (.error .alreadyStarted) [] true
  /-- the driver cannot be prepared -/
  | refused (e : DriverError) :
    StartLog s false (.error (.driverInit e)) [⟨s.initCall, false⟩] false
  /-- something goes wrong after that, and the driver is stopped -/
  | abandoned (e : ServiceError) (late : e.IsLate) (well : Bool) :
    StartLog s false (.error e) [⟨s.initCall, true⟩, ⟨.stop true, well⟩] false
  /-- the start goes well -/
  | opened : StartLog s false (.ok ()) [⟨s.initCall, true⟩] true

/-- The log of a start advances the sessions: it begins one, or begins one and ends it. -/
theorem StartLog.advance {running running' : Bool} {r : Except ServiceError Unit}
    {es : List Exchange} (h : StartLog s running r es running') : Advance running es running' := by
  cases h with
  | alreadyStarted => exact .quiet true
  | refused e => exact .refused s.name s.config.driver
  | abandoned e late well => exact .abandoned s.name s.config.driver well
  | opened => exact .opened s.name s.config.driver

/-- A refused start does not call the driver. -/
theorem StartLog.eq_nil {running running' : Bool} {es : List Exchange}
    (h : StartLog s running (.error .alreadyStarted) es running') : es = [] := by
  cases h with
  | alreadyStarted => rfl
  | abandoned e late well => exact late.elim

/-- How the calls of a trace go with the driver of a state. -/
def logOf (s : Service δ α) (st : State δ α) (es : List Event) : List Exchange :=
  s.driver.log st.driver (driverCalls es)

theorem log_bind {β : Type} (level : Level) (text : String) (f : Unit → Act δ α β)
    (st : State δ α) :
    (log level text >>= f) st =
      ⟨(f () st).value, (f () st).state, .line level text :: (f () st).trace⟩ := rfl

/-- A start during a run is refused at once. -/
theorem begin_of_running (hrun : st.running = true) :
    s.begin st = ⟨.error .alreadyStarted, st, []⟩ := by
  rw [begin, look_bind, hrun]
  rfl

theorem start_of_running (hrun : st.running = true) :
    s.start st = ⟨.error .alreadyStarted, st, []⟩ := by
  rw [start, bind_of_eq (begin_of_running hrun)]
  rfl

/-- Otherwise a start begins with one preparation of the driver, and its answer decides. -/
theorem begin_of_not_running (hrun : st.running = false) :
    let o := s.driver.init s.name s.config.driver st.driver
    (s.begin st).value = o.value.mapError .driverInit ∧
      (s.begin st).state = { st with driver := o.state } ∧
      driverCalls (s.begin st).trace = [s.initCall] := by
  have hcall : driverCalls ((s.driver.callInit s.name s.config.driver).on driverPart st).trace =
      [s.initCall] := Driver.driverCalls_traced ..
  have hvalue : ((s.driver.callInit s.name s.config.driver).on driverPart st).value =
      (s.driver.init s.name s.config.driver st.driver).value := rfl
  rw [begin, look_bind, if_neg (by simp [hrun]), log_bind, value_bind, state_bind, trace_bind]
  dsimp only
  rw [hvalue, driverCalls_line, driverCalls_append, hcall]
  rcases (s.driver.init s.name s.config.driver st.driver).value with e | ⟨⟩ <;>
    exact ⟨rfl, rfl, rfl⟩

/-- An activity fails only in what a start does after it has prepared the driver. -/
def FailsLate {β : Type} (m : Act δ α (Except ServiceError β)) : Prop :=
  ∀ st e, (m st).value = .error e → e.IsLate

namespace FailsLate

variable {β γ : Type}

theorem ok (b : β) : FailsLate (pure (.ok b) : Act δ α (Except ServiceError β)) :=
  fun _ _ h => by cases h

theorem error {e : ServiceError} (he : e.IsLate) :
    FailsLate (pure (.error e) : Act δ α (Except ServiceError β)) := by
  intro st e' h
  obtain rfl := Except.error.inj h
  exact he

theorem bind {m : Act δ α β} {f : β → Act δ α (Except ServiceError γ)}
    (hf : ∀ st, FailsLate (f (m st).value)) : FailsLate (m >>= f) :=
  fun st e h => hf st _ e h

end FailsLate

/-- An upload that fails makes a start fail after the driver was prepared. -/
theorem failsLate_uploadProfiles (s : Service δ α) : FailsLate s.uploadProfiles := by
  unfold uploadProfiles
  split
  · exact .ok ()
  · refine .bind fun st => ?_
    split
    · exact .error trivial
    · exact .bind fun _ => .ok ()

theorem failsLate_sync (s : Service δ α) : FailsLate s.sync := by
  refine .bind fun st => ?_
  split
  · rename_i e he
    exact .error (failsLate_uploadProfiles s st e he)
  · refine .bind fun st => ?_
    split
    · exact .error trivial
    · exact .bind fun _ => .ok _

/-- A sync does not call the driver. -/
theorem driverCalls_sync (s : Service δ α) (st : State δ α) :
    driverCalls (s.sync st).trace = [] :=
  driverCalls_of_silent (s.emits_sync.trace st)

theorem running_sync (s : Service δ α) (st : State δ α) :
    (s.sync st).state.running = st.running := by
  rcases s.sync_cases st with ⟨e, -, hkept⟩ | ⟨listed, n, -, -, hloaded⟩
  · exact hkept.running
  · exact hloaded.running

theorem driverCalls_rollBack (s : Service δ α) (st : State δ α) :
    driverCalls (s.rollBack st).trace = [.stop true] := by
  have hcall : driverCalls ((s.driver.callStop true).on driverPart st).trace = [.stop true] :=
    Driver.driverCalls_traced ..
  rw [rollBack, trace_bind, driverCalls_append, hcall]
  rcases ((s.driver.callStop true).on driverPart st).value with e | ⟨⟩ <;> rfl

/-- After the driver is prepared, the service runs, or something goes wrong and the driver is
stopped again. -/
theorem complete_cases (hrun : st.running = false) :
    (∃ e, e.IsLate ∧ (s.complete st).value = .error e ∧
        (s.complete st).state.running = false ∧
        driverCalls (s.complete st).trace = [.stop true]) ∨
      (s.complete st).value = .ok () ∧ (s.complete st).state.running = true ∧
        driverCalls (s.complete st).trace = [] := by
  have hsync : (s.sync st).state.running = false := (running_sync s st).trans hrun
  rw [complete, value_bind, state_bind, trace_bind, driverCalls_append, driverCalls_sync]
  rcases hv : (s.sync st).value with e | n
  · have hback := (leaves_rollBack (s.sync st).state s _ (Undisturbed.refl _)).1
    refine .inl ⟨e, failsLate_sync s st e hv, rfl, hback.running.trans hsync, ?_⟩
    dsimp only
    rw [trace_bind, driverCalls_append, driverCalls_rollBack]
    rfl
  · refine .inr ?_
    dsimp only
    rw [look_bind, value_bind, state_bind, trace_bind, hsync]
    exact ⟨rfl, rfl, rfl⟩

/-- The first exchange of a start is the preparation of the driver, with its answer. -/
theorem log_initCall (s : Service δ α) (st : State δ α) (cs : List DriverCall) :
    s.driver.log st.driver (s.initCall :: cs) =
      ⟨s.initCall, (s.driver.init s.name s.config.driver st.driver).value.isOk⟩ ::
        s.driver.log (s.driver.init s.name s.config.driver st.driver).state cs := rfl

/-- The log of every start follows from how it ends. -/
theorem startLog_start (s : Service δ α) (st : State δ α) :
    StartLog s st.running (s.start st).value (s.logOf st (s.start st).trace)
      (s.start st).state.running := by
  rcases hrun : st.running with _ | _
  · obtain ⟨hvalue, hstate, hcalls⟩ := begin_of_not_running (s := s) hrun
    have hidle : (s.begin st).state.running = false := by
      rw [hstate]
      exact hrun
    rw [logOf, start, value_bind, state_bind, trace_bind, driverCalls_append, hcalls,
      List.singleton_append, log_initCall, hvalue]
    rcases (s.driver.init s.name s.config.driver st.driver).value with e | ⟨⟩
    · change StartLog s false (.error (.driverInit e)) [⟨s.initCall, false⟩]
        (s.begin st).state.running
      rw [hidle]
      exact .refused e
    · change StartLog s false (s.complete (s.begin st).state).value
        (⟨s.initCall, true⟩ :: s.driver.log _ (driverCalls (s.complete (s.begin st).state).trace))
        (s.complete (s.begin st).state).state.running
      rcases complete_cases (s := s) hidle with ⟨e, hlate, hv, hr, hc⟩ | ⟨hv, hr, hc⟩ <;>
        rw [hv, hr, hc]
      · exact .abandoned e hlate _
      · exact .opened
  · rw [start_of_running hrun, logOf, hrun]
    exact .alreadyStarted

/-! ## Other operations -/

/-- What a command makes the driver do is work, and it is done only while the service runs. -/
theorem advance_of_command (hsound : s.Sound st) {op : Operation} (hop : op.IsCommand) :
    Advance st.running (s.logOf st (s.traceOf op st)) st.running := by
  rcases served_of_command (s := s) hop st with hnone | ⟨d, hd, hserved⟩
  · rw [logOf, hnone]
    exact .quiet _
  · rw [hsound.running_of_stored (hsound.stored_of_addressee? hd), logOf]
    generalize driverCalls (s.traceOf op st) = cs at hserved
    cases hserved with
    | none => exact .quiet true
    | one unlocked asks => exact .worked _ asks.isWork _

/-- A notification advances the sessions by work of the driver only. -/
theorem advance_notify (s : Service δ α) (st : State δ α) (n : Notification) :
    Advance st.running (s.logOf st (s.notify n st).trace) st.running := by
  rcases hrun : st.running with _ | _
  · rw [notify_of_not_running hrun]
    exact .quiet false
  · rw [logOf, driverCalls_notify hrun]
    rcases s.decision st n with d | ⟨id, told, r⟩ | r
    · exact .quiet true
    · exact .worked (.disconnect told.protocols) trivial _
    · exact .quiet true

/-- A stop ends the session that is under way, and only that. -/
theorem advance_stop (s : Service δ α) (st : State δ α) (force : Bool) :
    Advance st.running (s.logOf st (s.stop force st).trace) (s.stop force st).state.running := by
  rcases hrun : st.running with _ | _
  · rw [stop_of_not_running hrun, hrun]
    exact .quiet false
  · rw [logOf, driverCalls_stop hrun, (stop_of_running hrun force).running]
    exact .closed force _

theorem advance_register (s : Service δ α) (l : Listener) (st : State δ α) :
    Advance st.running (s.logOf st (register l st).trace) (register l st).state.running := by
  rw [register, look_bind]
  rcases st.listeners.register l with e | r
  · exact .quiet _
  · exact .quiet _

/-- Every operation advances the sessions. -/
theorem advance_perform (hsound : s.Sound st) (op : Operation) :
    Advance st.running (s.logOf st (s.traceOf op st)) (s.perform op st).running := by
  -- what only looks at the devices neither starts nor stops the service
  have hcommand (hop : op.IsCommand) (hlook : op.IsLook) :
      Advance st.running (s.logOf st (s.traceOf op st)) (s.perform op st).running := by
    rw [(undisturbed_perform hlook st).running]
    exact advance_of_command hsound hop
  cases op with
  | register l => exact advance_register s l st
  | start content => exact (startLog_start (s.finding content) st).advance
  | stop force => exact advance_stop s st force
  | notify n =>
    rw [perform, s.notify_running n]
    exact advance_notify s st n
  | profile name =>
    rw [logOf, traceOf, driverCalls_profile]
    exact .quiet _
  | read k command => exact hcommand trivial trivial
  | write k command texts => exact hcommand trivial trivial
  | getBatch id requests => exact hcommand trivial trivial
  | putBatch id requests values => exact hcommand trivial trivial

/-! ## Runs -/

/-- The log of the driver over one operation after the other. -/
def driverLog (s : Service δ α) (ops : List Operation) (st : State δ α) : List Exchange :=
  s.logOf st (s.record ops st)

/-- One more operation adds its own exchanges to the log. -/
theorem driverLog_concat (s : Service δ α) (ops : List Operation) (op : Operation)
    (st : State δ α) :
    s.driverLog (ops ++ [op]) st =
      s.driverLog ops st ++ s.logOf (s.run ops st) (s.traceOf op (s.run ops st)) := by
  rw [driverLog, logOf, record_append, driverCalls_append, Driver.log_append, ← driver_run]
  rw [record, record, List.append_nil]
  rfl

/-- The log of every run from a service at rest falls into sessions. -/
theorem inSessions_run (hsound : s.Sound st) (hidle : st.running = false) (ops : List Operation) :
    InSessions (s.run ops st).running (s.driverLog ops st) := by
  induction ops using List.reverseRecOn with
  | nil =>
    change InSessions st.running []
    rw [hidle]
    exact .idle [] nofun
  | append_singleton ops op ih =>
    rw [run_append, driverLog_concat]
    exact ih.advance (advance_perform (hsound.run ops) op)

/-- **The driver works in sessions**, whatever is done with a new service and whatever the driver
and the authority answer. The log of the driver consists of sessions, of which the last is not over
exactly if the service runs; so every preparation that goes well has one stop before the next one.
What a start comes to goes with what it makes of the driver; in particular it never prepares the
driver of a service that has been started already. -/
theorem worksInSessions (s : Service δ α) (driver : δ) (authority : α) (ops : List Operation) :
    let st := s.run ops (.initial driver authority)
    let log := s.driverLog ops (.initial driver authority)
    InSessions st.running log ∧ StoppedOnce st.running log ∧
      StartLog s st.running (s.start st).value (s.logOf st (s.start st).trace)
        (s.start st).state.running ∧
      ((s.start st).value = .error .alreadyStarted → driverCalls (s.start st).trace = []) := by
  intro st log
  have hsessions : InSessions st.running log := inSessions_run (sound_of_empty rfl) rfl ops
  refine ⟨hsessions, hsessions.stoppedOnce, startLog_start s st, fun hstarted => ?_⟩
  have hstart := startLog_start s st
  rw [hstarted] at hstart
  exact Driver.eq_nil_of_log_eq_nil hstart.eq_nil

-- the authority answers the first start and not the second one
example :
    let s : Service Unit (List (List UInt8)) := ⟨.standard, Template.driver, .scripted, none⟩
    s.driverLog [.start (.ok []), .stop false, .start (.ok [])] (.initial () [Utf8.ofString "[]"]) =
      [⟨s.initCall, true⟩, ⟨.stop false, true⟩, ⟨s.initCall, true⟩, ⟨.stop true, true⟩] := by
  decide +kernel

end Service

end DeviceHost
