import DeviceHost.Driver.Template
import DeviceHost.Proofs.Resolution
import DeviceHost.Proofs.Trace

/-!
# Writing a command

A caller gives a text for each resource that a command sets. Before the driver hears of anything,
all of them have been read, and the device has been found unlocked: a command is written as a whole,
by one call of the driver, or the driver is not called.

* `Ready` — the resources and the values of a command that is written;
* `Refused` — why a command is not;
* `AllOrNothing` — what becomes of a command;
* `write_allOrNothing` — this becomes of every command, whatever the driver does.
-/

namespace DeviceHost

/-- A text is read as a value of the declared type, or not at all. -/
theorem Value.type_of_parse {t : ValueType} {raw : String} {v : Value}
    (h : Value.parse t raw = .ok v) : v.type = t := by
  have hinteger {range : Numeral.Range} {make : Int → Value} {cs : List Char}
      (hmake : ∀ i, (make i).type = t) (hv : Value.parseInteger range make cs = .ok v) :
      v.type = t := by
    unfold Value.parseInteger at hv
    split at hv
    · obtain rfl := Except.ok.inj hv
      exact hmake _
    · cases hv
  cases t with
  | bool =>
    simp only [Value.parse] at h
    split at h
    · obtain rfl := Except.ok.inj h
      rfl
    · split at h
      · obtain rfl := Except.ok.inj h
        rfl
      · cases h
  | string =>
    obtain rfl := Except.ok.inj h
    rfl
  | binary =>
    simp only [Value.parse] at h
    split at h
    · obtain rfl := Except.ok.inj h
      rfl
    · cases h
  | uint8 => exact hinteger (fun _ => rfl) h
  | uint16 => exact hinteger (fun _ => rfl) h
  | uint32 => exact hinteger (fun _ => rfl) h
  | uint64 => exact hinteger (fun _ => rfl) h
  | int8 => exact hinteger (fun _ => rfl) h
  | int16 => exact hinteger (fun _ => rfl) h
  | int32 => exact hinteger (fun _ => rfl) h
  | int64 => exact hinteger (fun _ => rfl) h
  | float32 =>
    simp only [Value.parse] at h
    split at h
    · obtain rfl := Except.ok.inj h
      rfl
    · cases h
  | float64 =>
    simp only [Value.parse] at h
    split at h
    · obtain rfl := Except.ok.inj h
      rfl
    · cases h

namespace Command

variable {δ : Type} {dr : Driver δ} {d : Device} {command : String} {texts : Table String}
  {rs : List Resource} {vs : List Value} {e : CommandError}

/-! ### Values -/

/-- The texts spell a value for a resource. -/
def Spells (texts : Table String) (r : Resource) (v : Value) : Prop :=
  ∃ raw, texts.get? r.name = some raw ∧ Value.parse r.valueType raw = .ok v

/-- Why the texts spell no value for a resource. -/
inductive Flaw (texts : Table String) (r : Resource) : String → Prop
  /-- there is no text -/
  | missing (absent : texts.get? r.name = none) : Flaw texts r "missing value"
  /-- the text is no value of the declared type -/
  | unreadable {raw : String} {e : ValueError} (found : texts.get? r.name = some raw)
    (unread : Value.parse r.valueType raw = .error e) : Flaw texts r e.message

theorem Spells.type_eq {r : Resource} {v : Value} (h : Spells texts r v) :
    v.type = r.valueType := by
  obtain ⟨raw, -, hparse⟩ := h
  exact Value.type_of_parse hparse

/-- The value for a resource is found exactly if its text spells it. -/
theorem valueFor_eq_ok_iff {r : Resource} {v : Value} :
    valueFor texts r = .ok v ↔ Spells texts r v := by
  constructor
  · intro h
    unfold valueFor at h
    split at h
    · cases h
    · rename_i raw hraw
      split at h
      · rename_i v' hparse
        obtain rfl := Except.ok.inj h
        exact ⟨raw, hraw, hparse⟩
      · cases h
  · rintro ⟨raw, hraw, hparse⟩
    rw [valueFor, hraw]
    dsimp only
    rw [hparse]

/-- The value for a resource is refused exactly with the flaw of its text. -/
theorem valueFor_eq_error_iff {r : Resource} :
    valueFor texts r = .error e ↔
      ∃ reason, Flaw texts r reason ∧ e = .invalidValue r.name reason := by
  constructor
  · intro h
    unfold valueFor at h
    split at h
    · rename_i habsent
      obtain rfl := Except.error.inj h
      exact ⟨_, .missing habsent, rfl⟩
    · rename_i raw hraw
      split at h
      · cases h
      · rename_i e' hunread
        obtain rfl := Except.error.inj h
        exact ⟨_, .unreadable hraw hunread, rfl⟩
  · rintro ⟨reason, hflaw, rfl⟩
    cases hflaw with
    | missing absent => rw [valueFor, absent]
    | unreadable found unread =>
      rw [valueFor, found]
      dsimp only
      rw [unread]

theorem valuesFor_eq_mapM (texts : Table String) (rs : List Resource) :
    valuesFor texts rs = rs.mapM (valueFor texts) := by
  induction rs with
  | nil => rfl
  | cons r rs ih =>
    rcases hr : valueFor texts r with e | v <;> simp only [valuesFor, mapM_cons_eq, hr, ih]

/-- Values are found exactly if each text spells its own, in the order of the resources. -/
theorem valuesFor_eq_ok_iff : valuesFor texts rs = .ok vs ↔ List.Forall₂ (Spells texts) rs vs := by
  simp only [valuesFor_eq_mapM, mapM_eq_ok_iff, valueFor_eq_ok_iff]

/-- Values are refused exactly for the first resource with a flaw. -/
theorem valuesFor_eq_error_iff :
    valuesFor texts rs = .error e ↔
      ∃ earlier r later, rs = earlier ++ r :: later ∧ (∀ r' ∈ earlier, ∃ v, Spells texts r' v) ∧
        ∃ reason, Flaw texts r reason ∧ e = .invalidValue r.name reason := by
  simp only [valuesFor_eq_mapM, mapM_eq_error_iff, valueFor_eq_ok_iff, valueFor_eq_error_iff]

-- both are without a value, and the first one counts
example :
    valuesFor (.ofList [("b", "x")]) [.ofName "a" .uint8, .ofName "b" .uint8] =
      .error (.invalidValue "a" "missing value") := by decide

/-- Only the texts of the resources matter. -/
theorem valuesFor_congr {texts' : Table String}
    (h : ∀ r ∈ rs, texts'.get? r.name = texts.get? r.name) :
    valuesFor texts' rs = valuesFor texts rs := by
  rw [valuesFor_eq_mapM, valuesFor_eq_mapM]
  refine mapM_congr_mem fun r hr => ?_
  rw [valueFor, valueFor, h r hr]

/-! ### The batch -/

/-- A batch for an unlocked device is one call of the driver, and comes to what the call does. -/
theorem put_of_unlocked {requests : List ResourceRequest} (hlength : requests.length = vs.length)
    (hunlocked : d.admin = .unlocked) (hne : requests ≠ []) (st : δ) :
    let o := put dr d requests vs st
    let answer := dr.put (targetOf d) requests vs st
    contacts o.trace = [.called (.put (targetOf d) requests vs)] ∧ o.state = answer.state ∧
      o.value = answer.value.mapError .driver := by
  have hopen : ¬ (!d.admin.isEnabled) = true := by simp [hunlocked, AdminState.isEnabled]
  have hsome : ¬ requests.isEmpty = true := by simpa using hne
  unfold put Driver.callPut
  rw [if_neg (not_not.mpr hlength), if_neg hopen, if_neg hsome]
  refine ⟨Driver.contacts_call _ _ _ _ _ fun r => ?_, ?_⟩
  · rcases r with e | ⟨⟩
    · exact Activity.Keeps.bind (Activity.Keeps.emit trivial) fun _ => Activity.Keeps.pure _
    · exact Activity.Keeps.pure _
  · rw [Driver.state_call, Driver.value_call]
    rcases (dr.put (targetOf d) requests vs st).value with e | ⟨⟩ <;> exact ⟨rfl, rfl⟩

/-- A locked device is not written. -/
theorem put_of_locked {requests : List ResourceRequest} (hlength : requests.length = vs.length)
    (hlocked : d.admin = .locked) (st : δ) :
    put dr d requests vs st = ⟨.error (.deviceLocked d.name), st, []⟩ := by
  have hclosed : (!d.admin.isEnabled) = true := by simp [hlocked, AdminState.isEnabled]
  unfold put
  rw [if_neg (not_not.mpr hlength), if_pos hclosed]
  rfl

/-! ### The command -/

/-- What a command is written with. -/
structure Ready (d : Device) (command : String) (texts : Table String) (rs : List Resource)
    (vs : List Value) : Prop where
  /-- the resources that it stands for, each of which may be written -/
  resolves : Resolves d command .write rs
  /-- a value for each of them, as the texts spell it -/
  spelled : List.Forall₂ (Spells texts) rs vs
  /-- the device is unlocked -/
  unlocked : d.admin = .unlocked

/-- Why a command is not written; the reasons come in this order. -/
inductive Refused (d : Device) (command : String) (texts : Table String) : CommandError → Prop
  /-- it stands for no resources that may be written -/
  | unresolvable {e : CommandError} (why : Unresolvable d command .write e) :
    Refused d command texts e
  /-- a resource has no value, and it is the first one -/
  | invalid {earlier later : List Resource} {r : Resource} {reason : String}
    (resolves : Resolves d command .write (earlier ++ r :: later))
    (spelled : ∀ r' ∈ earlier, ∃ v, Spells texts r' v) (flaw : Flaw texts r reason) :
    Refused d command texts (.invalidValue r.name reason)
  /-- the device is locked -/
  | locked {rs : List Resource} {vs : List Value} (resolves : Resolves d command .write rs)
    (spelled : List.Forall₂ (Spells texts) rs vs) (locked : d.admin = .locked) :
    Refused d command texts (.deviceLocked d.name)

/-- Every command is either refused for a reason or ready for the driver. -/
theorem refused_or_ready (d : Device) (command : String) (texts : Table String) :
    (∃ e, Refused d command texts e) ∨ ∃ rs vs, Ready d command texts rs vs := by
  -- in the order of the reasons
  rcases unresolvable_or_resolves d command .write with ⟨e, hwhy⟩ | ⟨rs, hresolves⟩
  · exact .inl ⟨e, .unresolvable hwhy⟩
  rcases hvalues : valuesFor texts rs with e | vs
  · obtain ⟨earlier, r, later, rfl, hspelled, reason, hflaw, -⟩ := valuesFor_eq_error_iff.mp hvalues
    exact .inl ⟨_, .invalid hresolves hspelled hflaw⟩
  · have hspelled := valuesFor_eq_ok_iff.mp hvalues
    rcases hadmin : d.admin with _ | _
    · exact .inr ⟨rs, vs, hresolves, hspelled, hadmin⟩
    · exact .inl ⟨_, .locked hresolves hspelled hadmin⟩

/-- A command that resolves is written with the values of its resources. -/
theorem write_of_resolves (h : Resolves d command .write rs) :
    write dr d command texts =
      match valuesFor texts rs with
      | .error e => pure (.error e)
      | .ok vs => put dr d (rs.map requestOf) vs := by
  rcases hvalues : valuesFor texts rs with e | vs <;>
    simp only [write, resolve_eq_ok_iff.mpr h, hvalues]

/-- A refused command leaves no trace. -/
theorem write_of_refused (h : Refused d command texts e) (st : δ) :
    write dr d command texts st = ⟨.error e, st, []⟩ := by
  cases h with
  | unresolvable why =>
    rw [write, resolve_eq_error_iff.mpr why]
    rfl
  | invalid resolves spelled flaw =>
    rw [write_of_resolves resolves,
      valuesFor_eq_error_iff.mpr ⟨_, _, _, rfl, spelled, _, flaw, rfl⟩]
    rfl
  | locked resolves spelled locked =>
    rw [write_of_resolves resolves, valuesFor_eq_ok_iff.mpr spelled]
    exact put_of_locked (by rw [List.length_map, spelled.length_eq]) locked st

/-- A command that is ready is one call of the driver. -/
theorem write_of_ready (dr : Driver δ) (h : Ready d command texts rs vs) (st : δ) :
    let o := write dr d command texts st
    let answer := dr.put (targetOf d) (rs.map requestOf) vs st
    contacts o.trace = [.called (.put (targetOf d) (rs.map requestOf) vs)] ∧
      o.state = answer.state ∧ o.value = answer.value.mapError .driver := by
  have hlength : (rs.map requestOf).length = vs.length := by
    rw [List.length_map, h.spelled.length_eq]
  -- the driver is not spared the call, as it would be for no requests
  have hne : rs.map requestOf ≠ [] := mt List.map_eq_nil_iff.mp h.resolves.nonempty
  rw [write_of_resolves h.resolves, valuesFor_eq_ok_iff.mpr h.spelled]
  exact put_of_unlocked hlength h.unlocked hne st

/-- What becomes of a command that is to be written. -/
structure AllOrNothing (dr : Driver δ) (d : Device) (command : String) (texts : Table String)
    (st : δ) : Prop where
  /-- if it is ready, the driver is called once, with a request and a value for each resource in the
  order of the command, every value being of the declared type of its resource -/
  called : ∀ rs vs, Ready d command texts rs vs →
    contacts (write dr d command texts st).trace =
        [.called (.put (targetOf d) (rs.map requestOf) vs)] ∧
      List.Forall₂ (fun r v => v.type = r.valueType) rs vs
  /-- if it is not, the driver is left alone -/
  uncalled : (¬ ∃ rs vs, Ready d command texts rs vs) →
    (write dr d command texts st).trace = [] ∧ (write dr d command texts st).state = st
  /-- it is carried out if the call is -/
  ok_iff : (write dr d command texts st).value = .ok () ↔
    ∃ rs vs, Ready d command texts rs vs ∧
      (dr.put (targetOf d) (rs.map requestOf) vs st).value = .ok ()
  /-- it fails for the reason it is refused for, or as the driver fails -/
  error_iff : ∀ e, (write dr d command texts st).value = .error e ↔
    Refused d command texts e ∨
      ∃ rs vs f, Ready d command texts rs vs ∧
        (dr.put (targetOf d) (rs.map requestOf) vs st).value = .error f ∧ e = .driver f
  /-- there are always as many values as requests -/
  matched : ∀ n m, (write dr d command texts st).value ≠ .error (.lengthMismatch n m)
  /-- only the texts for its resources count -/
  unaffected : ∀ texts' : Table String,
    (∀ rs, Resolves d command .write rs → ∀ r ∈ rs, texts'.get? r.name = texts.get? r.name) →
      write dr d command texts' st = write dr d command texts st

/-- A write goes well exactly if the command is ready and the driver takes its batch. -/
theorem write_eq_ok_iff {st : δ} :
    (write dr d command texts st).value = .ok () ↔
      ∃ rs vs, Ready d command texts rs vs ∧
        (dr.put (targetOf d) (rs.map requestOf) vs st).value = .ok () := by
  constructor
  · intro hok
    rcases refused_or_ready d command texts with ⟨e, hrefused⟩ | ⟨rs, vs, hready⟩
    · rw [write_of_refused hrefused] at hok
      cases hok
    · obtain ⟨-, -, hvalue⟩ := write_of_ready dr hready st
      rw [hvalue] at hok
      rcases hput : (dr.put (targetOf d) (rs.map requestOf) vs st).value with f | ⟨⟩
      · rw [hput] at hok
        cases hok
      · exact ⟨rs, vs, hready, hput⟩
  · rintro ⟨rs, vs, hready, hput⟩
    obtain ⟨-, -, hvalue⟩ := write_of_ready dr hready st
    rw [hvalue, hput]
    rfl

/-- A write fails exactly with its refusal, or with the error of the driver's batch. -/
theorem write_eq_error_iff {st : δ} :
    (write dr d command texts st).value = .error e ↔
      Refused d command texts e ∨
        ∃ rs vs f, Ready d command texts rs vs ∧
          (dr.put (targetOf d) (rs.map requestOf) vs st).value = .error f ∧ e = .driver f := by
  constructor
  · intro he
    rcases refused_or_ready d command texts with ⟨e', hrefused⟩ | ⟨rs, vs, hready⟩
    · rw [write_of_refused hrefused] at he
      obtain rfl := Except.error.inj he
      exact .inl hrefused
    · obtain ⟨-, -, hvalue⟩ := write_of_ready dr hready st
      rw [hvalue] at he
      rcases hput : (dr.put (targetOf d) (rs.map requestOf) vs st).value with f | ⟨⟩
      · rw [hput] at he
        exact .inr ⟨rs, vs, f, hready, hput, (Except.error.inj he).symm⟩
      · rw [hput] at he
        cases he
  · rintro (hrefused | ⟨rs, vs, f, hready, hput, rfl⟩)
    · rw [write_of_refused hrefused]
    · obtain ⟨-, -, hvalue⟩ := write_of_ready dr hready st
      rw [hvalue, hput]
      rfl

/-- Texts for other resources do not count. -/
theorem write_congr {texts' : Table String}
    (h : ∀ rs, Resolves d command .write rs → ∀ r ∈ rs, texts'.get? r.name = texts.get? r.name) :
    write dr d command texts' = write dr d command texts := by
  rw [write, write]
  rcases hrs : resolve d command .write with e | rs
  · rfl
  · dsimp only
    rw [valuesFor_congr (h rs (resolve_eq_ok_iff.mp hrs))]

/-- No refusal is about the number of values: there is one for each resource. -/
theorem Refused.ne_lengthMismatch (h : Refused d command texts e) (n m : Nat) :
    e ≠ .lengthMismatch n m := by
  rintro rfl
  cases h with
  | unresolvable why =>
    rcases why.eq with he | ⟨name, he⟩
    · cases he
    · cases he

/-- **A command is written as a whole or not at all.** -/
theorem write_allOrNothing (dr : Driver δ) (d : Device) (command : String) (texts : Table String)
    (st : δ) : AllOrNothing dr d command texts st where
  called rs vs hready := by
    obtain ⟨hcontacts, -, -⟩ := write_of_ready dr hready st
    exact ⟨hcontacts, hready.spelled.imp fun _ _ => Spells.type_eq⟩
  uncalled hno := by
    obtain ⟨e, hrefused⟩ := (refused_or_ready d command texts).resolve_right hno
    rw [write_of_refused hrefused]
    exact ⟨rfl, rfl⟩
  ok_iff := write_eq_ok_iff
  error_iff _ := write_eq_error_iff
  matched n m h := by
    rcases write_eq_error_iff.mp h with hrefused | ⟨rs, vs, f, -, -, hf⟩
    · exact hrefused.ne_lengthMismatch n m rfl
    · cases hf
  unaffected texts' h := by rw [write_congr h]

example :
    let p := (Profile.ofName "fan").withResource (.ofName "speed" .uint8)
    let d := (Device.ofName "1" "fan" "s").withProfile p
    contacts (write Template.driver d "speed" (.ofList [("speed", "7")]) ()).trace =
      [.called (.put ⟨"fan", []⟩ [⟨"speed", .empty, some .uint8⟩] [.uint8 7])] := by decide

end Command

end DeviceHost
