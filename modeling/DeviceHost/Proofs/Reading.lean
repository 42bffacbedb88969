import DeviceHost.Driver.Template
import DeviceHost.Proofs.Resolution
import DeviceHost.Proofs.Trace

/-!
# Reading a command

The driver is asked for all resources of a command at once, and nothing that it returns is trusted:
not that there is a value for each request, and not that it may produce values of these types. Only
then are the values put together with the resources, which would be silent about missing values.

* `Asked` — the resources that the driver is asked for;
* `Withheld` — why it is not asked;
* `Sound`, `Faulty` — what it may return, and what it may not;
* `AnswersInOrder` — what becomes of a command;
* `read_answersInOrder` — this becomes of every command, whatever the driver returns.
-/

namespace DeviceHost

namespace Command

variable {δ : Type} {dr : Driver δ} {d : Device} {command : String} {rs : List Resource}
  {vs : List Value} {e : CommandError} {supports : ValueType → Bool}

/-! ### What a driver returns -/

/-- The values are the answer to a number of requests. -/
structure Sound (supports : ValueType → Bool) (requests : Nat) (vs : List Value) : Prop where
  /-- there is one for each of them -/
  length_eq : vs.length = requests
  /-- they are of types that the driver may produce -/
  supported : ∀ v ∈ vs, supports v.type = true

/-- What is wrong with the values that are no answer to a number of requests. -/
inductive Unsound (supports : ValueType → Bool) (requests : Nat) (vs : List Value) : String → Prop
  /-- they are too few or too many -/
  | length (length_ne : vs.length ≠ requests) :
    Unsound supports requests vs
      s!"{Numeral.natText vs.length} values returned for {Numeral.natText requests} requests"
  /-- the driver may not produce one of them, and it is the first one -/
  | type {earlier later : List Value} {bad : Value} (length_eq : vs.length = requests)
    (split : vs = earlier ++ bad :: later) (supported : ∀ v ∈ earlier, supports v.type = true)
    (unsupported : supports bad.type = false) :
    Unsound supports requests vs s!"unsupported result type {bad.type.name}"

/-- What is wrong with the answer of a driver. -/
inductive Faulty (supports : ValueType → Bool) (requests : Nat) :
    Except DriverError (List Value) → CommandError → Prop
  /-- there are no values -/
  | failed (f : DriverError) : Faulty supports requests (.error f) (.driver f)
  /-- the values are no answer -/
  | unsound {vs : List Value} {what : String} (wrong : Unsound supports requests vs what) :
    Faulty supports requests (.ok vs) (.driverContract what)

/-- What a driver returns is either sound or has a first fault. -/
theorem sound_or_unsound (supports : ValueType → Bool) (n : Nat) (vs : List Value) :
    Sound supports n vs ∨ ∃ what, Unsound supports n vs what := by
  by_cases hlength : vs.length = n
  · rcases hfind : vs.find? fun v => !supports v.type with _ | bad
    · refine .inl ⟨hlength, fun v hv => ?_⟩
      simpa using List.find?_eq_none.mp hfind v hv
    · obtain ⟨hbad, earlier, later, hsplit, hearlier⟩ := List.find?_eq_some_iff_append.mp hfind
      refine .inr ⟨_, .type hlength hsplit (fun v hv => ?_) ?_⟩
      · simpa using hearlier v hv
      · simpa using hbad
  · exact .inr ⟨_, .length hlength⟩

/-- Sound values pass the check. -/
theorem checkValues_of_sound {requests : List ResourceRequest}
    (h : Sound supports requests.length vs) : checkValues supports requests vs = .ok vs := by
  have hnone : (vs.find? fun v => !supports v.type) = none := by
    rw [List.find?_eq_none]
    intro v hv
    simp [h.supported v hv]
  rw [checkValues, if_neg (not_not.mpr h.length_eq), hnone]

/-- Unsound values are reported as a breach of the contract, with their first fault. -/
theorem checkValues_of_unsound {requests : List ResourceRequest} {what : String}
    (h : Unsound supports requests.length vs what) :
    checkValues supports requests vs = .error (.driverContract what) := by
  unfold checkValues
  cases h with
  | length length_ne => rw [if_pos length_ne]
  | @type earlier later bad length_eq split supported unsupported =>
    have hfind : (vs.find? fun v => !supports v.type) = some bad := by
      refine List.find?_eq_some_iff_append.mpr ⟨by simp [unsupported], earlier, later, split, ?_⟩
      intro v hv
      simp [supported v hv]
    rw [if_neg (not_not.mpr length_eq), hfind]

example :
    checkValues (· == .bool) [⟨"a", .empty, none⟩, ⟨"b", .empty, none⟩] [.bool true, .uint8 7] =
      .error (.driverContract "unsupported result type Uint8") := by decide

/-- A driver answers as it should, or something is wrong with its answer. -/
theorem sound_or_faulty (supports : ValueType → Bool) (n : Nat)
    (r : Except DriverError (List Value)) :
    (∃ vs, r = .ok vs ∧ Sound supports n vs) ∨ ∃ e, Faulty supports n r e := by
  rcases r with f | vs
  · exact .inr ⟨_, .failed f⟩
  · rcases sound_or_unsound supports n vs with hsound | ⟨what, hwrong⟩
    · exact .inl ⟨vs, rfl, hsound⟩
    · exact .inr ⟨_, .unsound hwrong⟩

/-! ### The batch -/

/-- A batch for an unlocked device is one call of the driver, whose answer is checked. -/
theorem get_of_unlocked (dr : Driver δ) {requests : List ResourceRequest}
    (hunlocked : d.admin = .unlocked) (hne : requests ≠ []) (st : δ) :
    let o := get dr d requests st
    let answer := dr.get (targetOf d) requests st
    contacts o.trace = [.called (.get (targetOf d) requests)] ∧
      o.value =
        answer.value.mapError .driver >>= checkValues (dr.supports answer.state) requests := by
  have hopen : ¬ (!d.admin.isEnabled) = true := by simp [hunlocked, AdminState.isEnabled]
  have hsome : ¬ requests.isEmpty = true := by simpa using hne
  unfold get Driver.callGet
  rw [if_neg hopen, if_neg hsome]
  refine ⟨Driver.contacts_call _ _ _ _ _ fun r => ?_, ?_⟩
  · rcases r with e | vs
    · exact Activity.Keeps.bind (Activity.Keeps.emit trivial) fun _ => Activity.Keeps.pure _
    · exact Activity.Keeps.bind Activity.Keeps.state fun s => Activity.Keeps.pure _
  · rw [Driver.value_call]
    rcases (dr.get (targetOf d) requests st).value with e | vs <;> rfl

/-- A batch for an unlocked device leaves the driver as its call does. -/
theorem state_get_of_unlocked (dr : Driver δ) {requests : List ResourceRequest}
    (hunlocked : d.admin = .unlocked) (hne : requests ≠ []) (st : δ) :
    (get dr d requests st).state = (dr.get (targetOf d) requests st).state := by
  have hopen : ¬ (!d.admin.isEnabled) = true := by simp [hunlocked, AdminState.isEnabled]
  have hsome : ¬ requests.isEmpty = true := by simpa using hne
  unfold get Driver.callGet
  rw [if_neg hopen, if_neg hsome, Driver.state_call]
  rcases (dr.get (targetOf d) requests st).value with e | vs <;> rfl

/-- A locked device is not asked. -/
theorem get_of_locked {requests : List ResourceRequest} (hlocked : d.admin = .locked) (st : δ) :
    get dr d requests st = ⟨.error (.deviceLocked d.name), st, []⟩ := by
  have hclosed : (!d.admin.isEnabled) = true := by simp [hlocked, AdminState.isEnabled]
  unfold get
  rw [if_pos hclosed]
  rfl

/-! ### The command -/

/-- The driver is asked for the resources of a command. -/
structure Asked (d : Device) (command : String) (rs : List Resource) : Prop where
  /-- they are those that it stands for, each of which may be read -/
  resolves : Resolves d command .read rs
  /-- the device is unlocked -/
  unlocked : d.admin = .unlocked

/-- Why the driver is not asked; the reasons come in this order. -/
inductive Withheld (d : Device) (command : String) : CommandError → Prop
  /-- the command stands for no resources that may be read -/
  | unresolvable {e : CommandError} (why : Unresolvable d command .read e) : Withheld d command e
  /-- the device is locked -/
  | locked {rs : List Resource} (resolves : Resolves d command .read rs)
    (locked : d.admin = .locked) : Withheld d command (.deviceLocked d.name)

/-- Every command is either withheld for a reason or asked of the driver. -/
theorem withheld_or_asked (d : Device) (command : String) :
    (∃ e, Withheld d command e) ∨ ∃ rs, Asked d command rs := by
  rcases unresolvable_or_resolves d command .read with ⟨e, hwhy⟩ | ⟨rs, hresolves⟩
  · exact .inl ⟨e, .unresolvable hwhy⟩
  · rcases hadmin : d.admin with _ | _
    · exact .inr ⟨rs, hresolves, hadmin⟩
    · exact .inl ⟨_, .locked hresolves hadmin⟩

/-- A withheld command contacts nobody. -/
theorem read_of_withheld (h : Withheld d command e) (st : δ) :
    read dr d command st = ⟨.error e, st, []⟩ := by
  unfold read
  cases h with
  | unresolvable why =>
    rw [resolve_eq_error_iff.mpr why]
    rfl
  | locked resolves locked =>
    rw [resolve_eq_ok_iff.mpr resolves]
    dsimp only
    rw [Activity.bind_of_eq (get_of_locked locked st)]
    rfl

/-- What the driver answers when it is asked for resources of a device. -/
def answer (dr : Driver δ) (d : Device) (rs : List Resource) (st : δ) :
    Outcome LogLine δ (Except DriverError (List Value)) :=
  dr.get (targetOf d) (rs.map requestOf) st

/-- A command that is asked takes exactly one get, and its answer decides. -/
theorem read_of_asked (dr : Driver δ) (h : Asked d command rs) (st : δ) :
    let o := read dr d command st
    let a := answer dr d rs st
    contacts o.trace = [.called (.get (targetOf d) (rs.map requestOf))] ∧
      o.value = (a.value.mapError .driver >>=
        checkValues (dr.supports a.state) (rs.map requestOf)).map (readingsOf rs) := by
  have hne : rs.map requestOf ≠ [] := mt List.map_eq_nil_iff.mp h.resolves.nonempty
  obtain ⟨hcontacts, hvalue⟩ := get_of_unlocked dr h.unlocked hne st
  unfold read
  rw [resolve_eq_ok_iff.mpr h.resolves]
  dsimp only
  rw [Activity.trace_bind, Activity.value_bind, contacts_append, hcontacts, hvalue, ← answer]
  -- what is left does not depend on how the values came about
  generalize (_ >>= _ : Except CommandError (List Value)) = r
  rcases r with e | vs <;> exact ⟨rfl, rfl⟩

/-- A read command leaves the driver in the state that its answer left. -/
theorem state_read_of_asked (dr : Driver δ) (h : Asked d command rs) (st : δ) :
    (read dr d command st).state = (answer dr d rs st).state := by
  have hne : rs.map requestOf ≠ [] := mt List.map_eq_nil_iff.mp h.resolves.nonempty
  have hget := state_get_of_unlocked dr h.unlocked hne st
  unfold read
  rw [resolve_eq_ok_iff.mpr h.resolves]
  dsimp only
  rw [Activity.state_bind]
  rcases (get dr d (rs.map requestOf) st).value with e | vs
  · exact hget
  · exact hget

/-- Sound values are the readings, in the order of the resources. -/
theorem read_of_sound (h : Asked d command rs) {st : δ}
    (hanswer : (answer dr d rs st).value = .ok vs)
    (hsound : Sound (dr.supports (answer dr d rs st).state) rs.length vs) :
    (read dr d command st).value = .ok (readingsOf rs vs) := by
  obtain ⟨-, hvalue⟩ := read_of_asked dr h st
  rw [← List.length_map (f := requestOf)] at hsound
  rw [hvalue, hanswer]
  change (checkValues _ _ vs).map (readingsOf rs) = _
  rw [checkValues_of_sound hsound]
  rfl

/-- A faulty answer is the error of the command. -/
theorem read_of_faulty (h : Asked d command rs) {st : δ}
    (hfaulty : Faulty (dr.supports (answer dr d rs st).state) rs.length
      (answer dr d rs st).value e) :
    (read dr d command st).value = .error e := by
  obtain ⟨-, hvalue⟩ := read_of_asked dr h st
  rw [← List.length_map (f := requestOf)] at hfaulty
  rw [hvalue]
  rcases hanswer : (answer dr d rs st).value with f | vs <;> rw [hanswer] at hfaulty
  · cases hfaulty
    rfl
  · cases hfaulty with
    | unsound wrong =>
      change (checkValues _ _ vs).map (readingsOf rs) = _
      rw [checkValues_of_unsound wrong]
      rfl

theorem read_of_failed (h : Asked d command rs) {st : δ} {f : DriverError}
    (hanswer : (answer dr d rs st).value = .error f) :
    (read dr d command st).value = .error (.driver f) := by
  refine read_of_faulty h ?_
  rw [hanswer]
  exact .failed f

/-- Readings bear the names of the resources, in order. -/
theorem map_resource_readingsOf (h : vs.length = rs.length) :
    (readingsOf rs vs).map Reading.resource = rs.map Resource.name := by
  calc (readingsOf rs vs).map Reading.resource
      = ((rs.zip vs).map Prod.fst).map Resource.name := by simp [readingsOf, Function.comp_def]
    _ = rs.map Resource.name := by rw [List.map_fst_zip (Nat.le_of_eq h.symm)]

theorem map_value_readingsOf (h : vs.length = rs.length) :
    (readingsOf rs vs).map Reading.value = vs := by
  calc (readingsOf rs vs).map Reading.value
      = (rs.zip vs).map Prod.snd := by simp [readingsOf, Function.comp_def]
    _ = vs := List.map_snd_zip (Nat.le_of_eq h)

/-- Readings answer a command. -/
structure Answered (dr : Driver δ) (d : Device) (command : String) (st : δ) (rs : List Resource)
    (readings : List Reading) : Prop where
  /-- the resources are those that the driver is asked for -/
  asked : Asked d command rs
  /-- it was called once, with a request for each of them in the order of the command -/
  called : contacts (read dr d command st).trace =
    [.called (.get (targetOf d) (rs.map requestOf))]
  /-- the readings hold the values that it returned, in their order -/
  returned : (answer dr d rs st).value = .ok (readings.map Reading.value)
  /-- these are one for each request, and of types that it may produce -/
  sound : Sound (dr.supports (answer dr d rs st).state) rs.length (readings.map Reading.value)
  /-- the readings have the names of the resources, in their order -/
  named : readings.map Reading.resource = rs.map Resource.name
  /-- there is at least one -/
  nonempty : readings ≠ []

/-- What becomes of a command that is to be read. -/
structure AnswersInOrder (dr : Driver δ) (d : Device) (command : String) (st : δ) : Prop where
  /-- if there are readings, they answer it -/
  answered : ∀ readings, (read dr d command st).value = .ok readings →
    ∃ rs, Answered dr d command st rs readings
  /-- there are, if the driver is asked and answers as it should -/
  complete : ∀ rs vs, Asked d command rs → (answer dr d rs st).value = .ok vs →
    Sound (dr.supports (answer dr d rs st).state) rs.length vs →
      ∃ readings, (read dr d command st).value = .ok readings
  /-- if it answers otherwise, there is only the error that says what is wrong -/
  faulty : ∀ rs, Asked d command rs →
    (¬ ∃ vs, (answer dr d rs st).value = .ok vs ∧
      Sound (dr.supports (answer dr d rs st).state) rs.length vs) →
      ∃ e, (read dr d command st).value = .error e ∧
        Faulty (dr.supports (answer dr d rs st).state) rs.length (answer dr d rs st).value e
  /-- if it is not asked, it is left alone, and there is only the error that says why -/
  withheld : (¬ ∃ rs, Asked d command rs) →
    ∃ e, Withheld d command e ∧ read dr d command st = ⟨.error e, st, []⟩

/-- Readings come only of an asked command that the driver has answered soundly. -/
theorem answered_of_read {st : δ} {readings : List Reading}
    (h : (read dr d command st).value = .ok readings) :
    ∃ rs, Answered dr d command st rs readings := by
  rcases withheld_or_asked d command with ⟨e, hwithheld⟩ | ⟨rs, hasked⟩
  · rw [read_of_withheld hwithheld] at h
    cases h
  rcases sound_or_faulty (dr.supports (answer dr d rs st).state) rs.length (answer dr d rs st).value
    with ⟨vs, hanswer, hsound⟩ | ⟨e, hfaulty⟩
  · rw [read_of_sound hasked hanswer hsound] at h
    obtain rfl := Except.ok.inj h
    -- the values are as many as the resources, so the zip loses none of either
    have hnamed := map_resource_readingsOf hsound.length_eq
    have hvalues := map_value_readingsOf hsound.length_eq
    obtain ⟨hcalled, -⟩ := read_of_asked dr hasked st
    refine ⟨rs, hasked, hcalled, ?_, ?_, hnamed, fun hnil => ?_⟩
    · rw [hvalues]
      exact hanswer
    · rw [hvalues]
      exact hsound
    · rw [hnil] at hnamed
      exact hasked.resolves.nonempty (List.map_eq_nil_iff.mp hnamed.symm)
  · rw [read_of_faulty hasked hfaulty] at h
    cases h

/-- **A command is read completely and in order, or not at all.** -/
theorem read_answersInOrder (dr : Driver δ) (d : Device) (command : String) (st : δ) :
    AnswersInOrder dr d command st where
  answered _ h := answered_of_read h
  complete rs vs hasked hanswer hsound := ⟨_, read_of_sound hasked hanswer hsound⟩
  faulty rs hasked hno := by
    obtain ⟨e, hfaulty⟩ := (sound_or_faulty ..).resolve_left hno
    exact ⟨e, read_of_faulty hasked hfaulty, hfaulty⟩
  withheld hno := by
    obtain ⟨e, hwithheld⟩ := (withheld_or_asked d command).resolve_right hno
    exact ⟨e, hwithheld, read_of_withheld hwithheld st⟩

-- a resource that a command names twice is read twice
example :
    let p := ((Profile.ofName "fan").withResource (.ofName "speed" .uint8)).withCommand
      ⟨"twice", ["speed", "speed"], []⟩
    let d := (Device.ofName "1" "fan" "s").withProfile p
    (read Template.driver d "twice" ()).value =
      .ok [⟨"speed", Template.answer⟩, ⟨"speed", Template.answer⟩] := by decide

end Command

end DeviceHost
