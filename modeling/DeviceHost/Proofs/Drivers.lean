import DeviceHost.Driver.Random
import DeviceHost.Driver.Template
import DeviceHost.Proofs.Reading

/-!
# The drivers that come with the service

What a driver returns is checked. The two drivers that come with the service never fail this check:
the random driver answers each request with a number or with the state of its switch, or says what
is wrong with the first request that it cannot answer; the template driver answers all of them.

A batch that is written goes through the random driver pair by pair. If one cannot be written, those
before it stay written.

* `Answers`, `Rejects`, `readAll_append` — one request, and requests up to one of them;
* `Sets`, `Unwritable`, `writeAll_append` — the same for pairs that are written;
* `put_writesInOrder` — what becomes of a batch that is written;
* `Command.read_keepsContract` — what becomes of a command that is read.
-/

namespace DeviceHost.Random

variable {γ : Type} {r : ResourceRequest} {e : DriverError}

/-! ## Reading -/

/-! ### One request -/

/-- What a request may be answered with, given the state of the switch. -/
inductive Answers (switch : Bool) (r : ResourceRequest) : Value → Prop
  /-- a sensor of the first kind -/
  | small {n : UInt64} (sensor : r.attributes.get? "SensorType" = some "1") (lt : n < 100) :
    Answers switch r (.uint64 n)
  /-- a sensor of the second kind -/
  | large {n : UInt64} (sensor : r.attributes.get? "SensorType" = some "2") (lt : n < 1000) :
    Answers switch r (.uint64 n)
  /-- no sensor, but a switch -/
  | switch (plain : r.attributes.get? "SensorType" = none)
    (id : r.attributes.contains "SwitchID" = true) : Answers switch r (.bool switch)

/-- Why a request is not answered. -/
inductive Rejects (r : ResourceRequest) : DriverError → Prop
  /-- a sensor of no kind that there is -/
  | sensor {kind : String} (sensor : r.attributes.get? "SensorType" = some kind)
    (unknown : kind ≠ "1" ∧ kind ≠ "2") :
    Rejects r (.configuration s!"{kind} is not a valid SensorType")
  /-- neither a sensor nor a switch -/
  | plain (plain : r.attributes.get? "SensorType" = none)
    (id : r.attributes.contains "SwitchID" = false) : Rejects r (.unsupportedResource r.resource)

/-- A request is for a sensor of a kind that there is, or for a switch and no sensor. -/
def Readable (r : ResourceRequest) : Prop :=
  r.attributes.get? "SensorType" = some "1" ∨ r.attributes.get? "SensorType" = some "2" ∨
    (r.attributes.get? "SensorType" = none ∧ r.attributes.contains "SwitchID" = true)

/-- Every request is either readable or rejected for a reason. -/
theorem readable_or_rejects (r : ResourceRequest) : Readable r ∨ ∃ e, Rejects r e := by
  rcases hsensor : r.attributes.get? "SensorType" with _ | kind
  · rcases hid : r.attributes.contains "SwitchID" with _ | _
    · exact .inr ⟨_, .plain hsensor hid⟩
    · exact .inl (.inr (.inr ⟨hsensor, hid⟩))
  · by_cases hsmall : kind = "1"
    · exact .inl (.inl (by rw [hsensor, hsmall]))
    by_cases hlarge : kind = "2"
    · exact .inl (.inr (.inl (by rw [hsensor, hlarge])))
    exact .inr ⟨_, .sensor hsensor ⟨hsmall, hlarge⟩⟩

/-- A number that was drawn below a bound of 64 bits stays below it as an integer of 64 bits. -/
theorem toNat_below (src : Source γ) {b : Nat} (h : 0 < b ∧ b < UInt64.size) (g : γ) :
    (UInt64.ofNat (src.below b g).1).toNat < b := by
  have hlt : (src.below b g).1 < b := src.below_lt g h.1
  rwa [UInt64.toNat_ofNat_of_lt' (Nat.lt_trans hlt h.2)]

/-- A request that can be answered is, and only the source of numbers moves on. -/
theorem readOne_of_readable (src : Source γ) (h : Readable r) (s : State γ) :
    ∃ v source, Answers s.switch r v ∧ readOne src s r = .ok (v, ⟨s.switch, source⟩) := by
  rcases h with hsmall | hlarge | ⟨hplain, hid⟩
  · refine ⟨.uint64 _, _, .small hsmall ?_, by rw [readOne, hsmall]; rfl⟩
    exact toNat_below src (by decide) s.source
  · refine ⟨.uint64 _, _, .large hlarge ?_, by rw [readOne, hlarge]; rfl⟩
    exact toNat_below src (by decide) s.source
  · refine ⟨_, s.source, .switch hplain hid, ?_⟩
    simp only [readOne, hplain, if_pos hid]

/-- A rejected request draws no number: it fails with its reason. -/
theorem readOne_of_rejects (src : Source γ) (h : Rejects r e) (s : State γ) :
    readOne src s r = .error e := by
  cases h with
  | @sensor kind sensor unknown =>
    have hkind : bound? kind = none := by rw [bound?, if_neg unknown.1, if_neg unknown.2]
    simp only [readOne, sensor, hkind]
  | plain plain id => simp [readOne, plain, id]

theorem Answers.supported {switch : Bool} {v : Value} (h : Answers switch r v) :
    supportsType v.type = true := by
  cases h <;> rfl

/-! ### Requests in their order -/

/-- Requests that can be answered come to their values, and the driver goes on with the rest. -/
theorem readAll_append (src : Source γ) {earlier : List ResourceRequest}
    (h : ∀ r ∈ earlier, Readable r) (rest : List ResourceRequest) (s : State γ) :
    ∃ vs source, List.Forall₂ (Answers s.switch) earlier vs ∧
      (readAll src s (earlier ++ rest)).1 =
        (readAll src ⟨s.switch, source⟩ rest).1.map (vs ++ ·) := by
  induction earlier generalizing s with
  | nil =>
    refine ⟨[], s.source, .nil, ?_⟩
    change (readAll src s rest).1 = (readAll src s rest).1.map ([] ++ ·)
    rcases (readAll src s rest).1 with e | vs <;> rfl
  | cons r earlier ih =>
    obtain ⟨hr, hearlier⟩ := List.forall_mem_cons.mp h
    obtain ⟨v, next, hv, hone⟩ := readOne_of_readable src hr s
    obtain ⟨vs, source, hvs, hmore⟩ := ih hearlier ⟨s.switch, next⟩
    refine ⟨v :: vs, source, .cons hv hvs, ?_⟩
    -- the switch stays as it is: reading changes the source of numbers alone
    rw [List.cons_append, readAll, hone]
    dsimp only
    rw [hmore]
    rcases (readAll src ⟨s.switch, source⟩ rest).1 with e | ws <;> rfl

/-- Readable requests are answered one by one, in their order. -/
theorem readAll_of_readable (src : Source γ) {requests : List ResourceRequest}
    (h : ∀ r ∈ requests, Readable r) (s : State γ) :
    ∃ vs, List.Forall₂ (Answers s.switch) requests vs ∧ (readAll src s requests).1 = .ok vs := by
  obtain ⟨vs, source, hvs, hall⟩ := readAll_append src h [] s
  rw [List.append_nil] at hall
  exact ⟨vs, hvs, hall.trans (by simp [readAll, Except.map])⟩

/-- The first rejected request decides the failure of the batch. -/
theorem readAll_of_rejects (src : Source γ) {earlier later : List ResourceRequest}
    (hearlier : ∀ r ∈ earlier, Readable r) (h : Rejects r e) (s : State γ) :
    (readAll src s (earlier ++ r :: later)).1 = .error e := by
  obtain ⟨vs, source, -, hall⟩ := readAll_append src hearlier (r :: later) s
  rw [hall, readAll, readOne_of_rejects src h]
  rfl

/-! ## Writing -/

/-! ### One pair -/

/-- A pair sets the switch. -/
def Sets (p : ResourceRequest × Value) (on : Bool) : Prop :=
  p.1.resource = "Switch" ∧ p.2 = .bool on

/-- Why a pair cannot be written. -/
inductive Unwritable (p : ResourceRequest × Value) : DriverError → Prop
  /-- the switch is set to something else than a truth value -/
  | type (switch : p.1.resource = "Switch") (not_bool : ∀ on, p.2 ≠ .bool on) :
    Unwritable p (.communication s!"Switch expects Bool, got {p.2.type.name}")
  /-- it is not the switch that is set -/
  | resource (other : p.1.resource ≠ "Switch") : Unwritable p (.unsupportedResource p.1.resource)

/-- Every pair of a request and a value either sets the switch or is refused for a reason. -/
theorem sets_or_unwritable (p : ResourceRequest × Value) :
    (∃ on, Sets p on) ∨ ∃ e, Unwritable p e := by
  by_cases hswitch : p.1.resource = "Switch"
  · by_cases hbool : ∃ on, p.2 = .bool on
    · obtain ⟨on, hon⟩ := hbool
      exact .inl ⟨on, hswitch, hon⟩
    · exact .inr ⟨_, .type hswitch (not_exists.mp hbool)⟩
  · exact .inr ⟨_, .resource hswitch⟩

/-- A refused pair ends the writing at once. -/
theorem writeAll_of_unwritable {p : ResourceRequest × Value} (h : Unwritable p e) (device : String)
    (later : List (ResourceRequest × Value)) (s : State γ) :
    (writeAll device (p :: later) s).value = .error e ∧
      (writeAll device (p :: later) s).state = s := by
  obtain ⟨q, v⟩ := p
  unfold writeAll
  cases h with
  | type switch not_bool =>
    -- the switch takes truth values only
    rw [if_pos switch]
    cases v with
    | bool on => exact absurd rfl (not_bool on)
    | _ => exact ⟨rfl, rfl⟩
  | resource other =>
    rw [if_neg other]
    exact ⟨rfl, rfl⟩

/-! ### Pairs in their order -/

/-- Pairs that can be written are, and the driver goes on with the rest. -/
theorem writeAll_append (device : String) {earlier : List (ResourceRequest × Value)}
    {flags : List Bool} (h : List.Forall₂ Sets earlier flags)
    (rest : List (ResourceRequest × Value)) (s : State γ) :
    let o := writeAll device (earlier ++ rest) s
    let after := writeAll device rest { s with switch := flags.getLastD s.switch }
    o.value = after.value ∧ o.state = after.state := by
  induction h generalizing s with
  | nil => exact ⟨rfl, rfl⟩
  | @cons p on earlier flags hp _ ih =>
    obtain ⟨q, v⟩ := p
    obtain ⟨hswitch, rfl⟩ : q.resource = "Switch" ∧ v = .bool on := hp
    rw [List.cons_append, writeAll, if_pos hswitch, List.getLastD_cons]
    exact ih { s with switch := on }

/-- Pairs that all set the switch leave it as the last one says. -/
theorem writeAll_of_sets (device : String) {pairs : List (ResourceRequest × Value)}
    {flags : List Bool} (h : List.Forall₂ Sets pairs flags) (s : State γ) :
    (writeAll device pairs s).value = .ok () ∧
      (writeAll device pairs s).state = { s with switch := flags.getLastD s.switch } := by
  obtain ⟨hvalue, hstate⟩ := writeAll_append device h [] s
  rw [List.append_nil] at hvalue hstate
  exact ⟨hvalue, hstate⟩

/-- The pairs before the first refused one stay applied, those behind it are not reached. -/
theorem writeAll_of_first (device : String) {earlier later : List (ResourceRequest × Value)}
    {p : ResourceRequest × Value} {flags : List Bool} (hearlier : List.Forall₂ Sets earlier flags)
    (h : Unwritable p e) (s : State γ) :
    (writeAll device (earlier ++ p :: later) s).value = .error e ∧
      (writeAll device (earlier ++ p :: later) s).state =
        { s with switch := flags.getLastD s.switch } := by
  obtain ⟨hvalue, hstate⟩ := writeAll_append device hearlier (p :: later) s
  rw [hvalue, hstate]
  exact writeAll_of_unwritable h device later _

/-- A put stops at its first unwritable pair, with the error of that pair. -/
theorem stops_put (src : Source γ) (t : Target) (requests : List ResourceRequest)
    (values : List Value) (s : State γ) :
    Stops (fun p => ∃ on, Sets p on) Unwritable (requests.zip values)
      ((driver src).put t requests values s).value where
  of_forall h := by
    obtain ⟨flags, hflags⟩ := exists_forall₂ h
    exact ⟨(), (writeAll_of_sets t.name hflags s).1⟩
  of_first earlier p later e hsplit hearlier hp := by
    obtain ⟨flags, hflags⟩ := exists_forall₂ hearlier
    change (writeAll t.name (requests.zip values) s).value = .error e
    rw [hsplit]
    exact (writeAll_of_first t.name hflags hp s).1

/-- What becomes of a batch of values for requests. -/
structure WritesInOrder (src : Source γ) (t : Target) (requests : List ResourceRequest)
    (values : List Value) (s : State γ) : Prop where
  /-- it is written if every pair sets the switch -/
  ok_iff : ((driver src).put t requests values s).value = .ok () ↔
    ∀ p ∈ requests.zip values, ∃ on, Sets p on
  /-- then the switch is as the last pair sets it, or as it was if there is none -/
  of_sets : ∀ flags, List.Forall₂ Sets (requests.zip values) flags →
    ((driver src).put t requests values s).state = { s with switch := flags.getLastD s.switch }
  /-- otherwise the first pair that cannot be written says why -/
  error_iff : ∀ e, ((driver src).put t requests values s).value = .error e ↔
    ∃ earlier p later, requests.zip values = earlier ++ p :: later ∧
      (∀ q ∈ earlier, ∃ on, Sets q on) ∧ Unwritable p e
  /-- and the switch is as the last pair before that one sets it -/
  of_first : ∀ earlier p later flags e, requests.zip values = earlier ++ p :: later →
    List.Forall₂ Sets earlier flags → Unwritable p e →
      ((driver src).put t requests values s).state = { s with switch := flags.getLastD s.switch }

/-- **A batch is written in order, up to the first pair that cannot be written.** -/
theorem put_writesInOrder (src : Source γ) (t : Target) (requests : List ResourceRequest)
    (values : List Value) (s : State γ) : WritesInOrder src t requests values s where
  ok_iff := by
    rw [← (stops_put src t requests values s).ok_iff sets_or_unwritable]
    exact ⟨fun h => ⟨(), h⟩, fun ⟨_, h⟩ => h⟩
  of_sets _ hflags := (writeAll_of_sets t.name hflags s).2
  error_iff _ := (stops_put src t requests values s).error_iff sets_or_unwritable
  of_first earlier p later flags e hsplit hflags hp := by
    change (writeAll t.name (requests.zip values) s).state = _
    rw [hsplit]
    exact (writeAll_of_first t.name hflags hp s).2

/-- A batch that fails may have set the switch. -/
theorem not_forall_put_atomic : ¬ ∀ (src : Source Nat) (t : Target)
    (requests : List ResourceRequest) (values : List Value) (s : State Nat) (e : DriverError),
    ((driver src).put t requests values s).value = .error e →
      ((driver src).put t requests values s).state.switch = s.switch := by
  intro h
  have hunchanged := h congruential ⟨"fan", []⟩ [⟨"Switch", .empty, none⟩, ⟨"Dial", .empty, none⟩]
    [.bool true, .uint64 3] ⟨false, 0⟩ _ rfl
  cases hunchanged

end DeviceHost.Random

namespace DeviceHost.Command

open DeviceHost.Random

variable {γ δ : Type} {dr : Driver δ} {d : Device} {command : String} {rs : List Resource}

/-! ## Commands -/

theorem Withheld.ne_driverContract {e : CommandError} (h : Withheld d command e) (what : String) :
    e ≠ .driverContract what := by
  rintro rfl
  cases h with
  | unresolvable why =>
    rcases why.eq with h | ⟨name, h⟩ <;> cases h

/-- The check never fails if the driver answers as it should, or fails itself. -/
theorem read_ne_driverContract {st : δ}
    (h : ∀ rs, Asked d command rs → (∃ readings, (read dr d command st).value = .ok readings) ∨
      ∃ f, (read dr d command st).value = .error (.driver f)) (what : String) :
    (read dr d command st).value ≠ .error (.driverContract what) := by
  intro hcontract
  rcases withheld_or_asked d command with ⟨e, hwithheld⟩ | ⟨rs, hasked⟩
  · rw [read_of_withheld hwithheld] at hcontract
    exact hwithheld.ne_driverContract what (Except.error.inj hcontract)
  · rcases h rs hasked with ⟨readings, hok⟩ | ⟨f, herror⟩
    · cases hcontract.symm.trans hok
    · cases hcontract.symm.trans herror

/-- Readings bear the names of the resources that they answer, in order. -/
theorem forall₂_readingsOf {R : Resource → Value → Prop} {vs : List Value}
    (h : List.Forall₂ R rs vs) :
    List.Forall₂ (fun r x => x.resource = r.name ∧ R r x.value) rs (readingsOf rs vs) := by
  induction h with
  | nil => exact .nil
  | cons hv _ ih => exact .cons ⟨rfl, hv⟩ ih

theorem readingsOf_map (f : Resource → Value) :
    readingsOf rs (rs.map f) = rs.map fun r => ⟨r.name, f r⟩ := by
  induction rs with
  | nil => rfl
  | cons r rs ih => exact congrArg (_ :: ·) ih

/-! ### The random driver -/

theorem answer_random (src : Source γ) (d : Device) (rs : List Resource) (s : State γ) :
    (answer (driver src) d rs s).value = (readAll src s (rs.map requestOf)).1 := rfl

/-- The answers to all requests pass the check. -/
theorem sound_of_answers {src : Source γ} {s st : State γ} {vs : List Value}
    (h : List.Forall₂ (Answers s.switch) (rs.map requestOf) vs) :
    Sound ((driver src).supports st) rs.length vs where
  length_eq := by rw [← h.length_eq, List.length_map]
  supported v hv := by
    obtain ⟨r, -, hr⟩ := exists_mem_of_forall₂ h hv
    exact hr.supported

/-- A command of readable resources is answered with one reading for each. -/
theorem read_of_readable (src : Source γ) (hasked : Asked d command rs)
    (h : ∀ r ∈ rs, Readable (requestOf r)) (s : State γ) :
    ∃ vs, List.Forall₂ (fun r v => Answers s.switch (requestOf r) v) rs vs ∧
      (read (driver src) d command s).value = .ok (readingsOf rs vs) := by
  obtain ⟨vs, hvs, hall⟩ := readAll_of_readable src (List.forall_mem_map.mpr h) s
  rw [← answer_random] at hall
  exact ⟨vs, List.forall₂_map_left_iff.mp hvs, read_of_sound hasked hall (sound_of_answers hvs)⟩

/-- A read command stops at its first rejected resource, with the error of the driver. -/
theorem stops_read (src : Source γ) (hasked : Asked d command rs) (s : State γ) :
    Stops (fun r => Readable (requestOf r))
      (fun r e => ∃ f, Rejects (requestOf r) f ∧ e = .driver f) rs
      (read (driver src) d command s).value where
  of_forall h := by
    obtain ⟨vs, -, hread⟩ := read_of_readable src hasked h s
    exact ⟨_, hread⟩
  of_first := by
    rintro earlier r later _ rfl hearlier ⟨f, hr, rfl⟩
    refine read_of_failed hasked ?_
    rw [answer_random, List.map_append, List.map_cons]
    exact readAll_of_rejects src (List.forall_mem_map.mpr hearlier) hr s

/-- What becomes of a command that the random driver is to read. -/
structure ReadsNumbers (src : Source γ) (d : Device) (command : String) (s : State γ) : Prop where
  /-- what the driver returns passes the check -/
  contract : ∀ what, (read (driver src) d command s).value ≠ .error (.driverContract what)
  /-- the command is read if each of its resources is a sensor, or no sensor but a switch -/
  ok_iff : ∀ rs, Asked d command rs → ((∃ readings,
    (read (driver src) d command s).value = .ok readings) ↔ ∀ r ∈ rs, Readable (requestOf r))
  /-- then there is one reading for each of them -/
  readings : ∀ rs readings, Asked d command rs →
    (read (driver src) d command s).value = .ok readings →
      List.Forall₂ (fun r x => x.resource = r.name ∧ Answers s.switch (requestOf r) x.value) rs
        readings
  /-- otherwise the first resource that is neither says why there are none -/
  error_iff : ∀ rs e, Asked d command rs → ((read (driver src) d command s).value = .error e ↔
    ∃ earlier r later, rs = earlier ++ r :: later ∧ (∀ q ∈ earlier, Readable (requestOf q)) ∧
      ∃ f, Rejects (requestOf r) f ∧ e = .driver f)

theorem read_readsNumbers (src : Source γ) (d : Device) (command : String) (s : State γ) :
    ReadsNumbers src d command s := by
  have hone (r : Resource) : Readable (requestOf r) ∨
      ∃ e : CommandError, ∃ f, Rejects (requestOf r) f ∧ e = .driver f := by
    rcases readable_or_rejects (requestOf r) with hr | ⟨f, hr⟩
    · exact .inl hr
    · exact .inr ⟨_, f, hr, rfl⟩
  have hstops {rs : List Resource} (hasked : Asked d command rs) := stops_read src hasked s
  refine ⟨read_ne_driverContract fun rs hasked => ?_, fun rs hasked => (hstops hasked).ok_iff hone,
    fun rs readings hasked hok => ?_, fun rs e hasked => (hstops hasked).error_iff hone⟩
  · rcases hvalue : (read (driver src) d command s).value with e | readings
    · obtain ⟨-, -, -, -, -, f, -, rfl⟩ := ((hstops hasked).error_iff hone).mp hvalue
      exact .inr ⟨f, rfl⟩
    · exact .inl ⟨readings, rfl⟩
  · obtain ⟨vs, hvs, hread⟩ :=
      read_of_readable src hasked (((hstops hasked).ok_iff hone).mp ⟨readings, hok⟩) s
    obtain rfl := Except.ok.inj (hok.symm.trans hread)
    exact forall₂_readingsOf hvs

/-! ### The template driver -/

/-- What becomes of a command that the template driver is to read. -/
structure ReadsTexts (d : Device) (command : String) : Prop where
  /-- what the driver returns passes the check -/
  contract : ∀ what, (read Template.driver d command ()).value ≠ .error (.driverContract what)
  /-- each resource is answered with the same text -/
  ok : ∀ rs, Asked d command rs → (read Template.driver d command ()).value =
    .ok (rs.map fun r => ⟨r.name, .string "Template result"⟩)

/-- The template driver answers the same text for every resource. -/
theorem read_template (hasked : Asked d command rs) : (read Template.driver d command ()).value =
    .ok (rs.map fun r => ⟨r.name, .string "Template result"⟩) := by
  have hanswer : (answer Template.driver d rs ()).value =
      .ok ((rs.map requestOf).map fun _ => Template.answer) := rfl
  have hsound : Sound (Template.driver.supports (answer Template.driver d rs ()).state) rs.length
      ((rs.map requestOf).map fun _ => Template.answer) :=
    ⟨by simp, fun v hv => by
      obtain ⟨r, -, rfl⟩ := List.mem_map.mp hv
      rfl⟩
  rw [read_of_sound hasked hanswer hsound, List.map_map, readingsOf_map]
  rfl

theorem read_readsTexts (d : Device) (command : String) : ReadsTexts d command where
  contract := read_ne_driverContract fun _ hasked => .inl ⟨_, read_template hasked⟩
  ok _ hasked := read_template hasked

/-- **The drivers keep their contract**, and what they read is what the attributes of the resources
ask for. -/
theorem read_keepsContract (src : Source γ) (d : Device) (command : String) (s : State γ) :
    ReadsNumbers src d command s ∧ ReadsTexts d command :=
  ⟨read_readsNumbers src d command s, read_readsTexts d command⟩

end DeviceHost.Command
