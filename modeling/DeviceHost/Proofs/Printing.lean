import DeviceHost.Proofs.IntegerSize
import DeviceHost.Proofs.Layers
import DeviceHost.Proofs.Sheets
import DeviceHost.Proofs.Table

/-!
# A configuration survives its text

The text of a configuration describes that configuration again, whatever texts are in it and in
whatever order the settings of the driver are written. Only the time for a request may stand in the
way, since it may be no integer of TOML. It never does in a configuration that was described by a
text, and the environment says nothing about it.

* `Config.table?_write`, `Config.ofTable?_table_sheet` — the table that a configuration is written
  as, and what it says;
* `Config.ofText?_write_iff` — the only configurations that are lost are those with too long a time;
* `Config.ofText?_write_of_override` — so one that comes from a text and an environment is not lost.
-/

namespace DeviceHost.Config

open Toml (Plain Sheet entriesOf)

variable {c : Config} {settings : List (String × String)}

/-- The time for a request is an integer of TOML. -/
def Timely (c : Config) : Prop := c.metadata.timeoutMs.toNat ≤ (Numeral.Range.signed 64).above

instance (c : Config) : Decidable c.Timely := inferInstanceAs (Decidable (_ ≤ _))

/-! ### The sheet -/

theorem fits_port (p : UInt16) : (Plain.natural p.toNat).Fits := by
  have hp : p.toNat < 65536 := p.toNat_lt
  change p.toNat ≤ 9223372036854775807
  omega

/-- All values of the sheet of a timely configuration fit into the integers of a document. -/
theorem fits_sheet (h : c.Timely) (settings : List (String × String)) :
    ∀ s ∈ c.sheet settings, ∀ e ∈ s.2, e.2.Fits := by
  have hdirectory : ∀ e ∈ c.service.profilesDir.toList.map fun d => ("profiles_dir", Plain.text d),
      e.2.Fits := by
    rw [List.forall_mem_map]
    exact fun _ _ => trivial
  have hdriver : ∀ e ∈ settings.map fun e => (e.1, Plain.text e.2), e.2.Fits := by
    rw [List.forall_mem_map]
    exact fun _ _ => trivial
  simp only [sheet, List.forall_mem_cons, List.forall_mem_append]
  exact ⟨⟨⟨trivial, trivial, fits_port _, trivial, nofun⟩, hdirectory⟩,
    ⟨trivial, fits_port _, h, nofun⟩, hdriver, ⟨trivial, trivial, nofun⟩, nofun⟩

/-- No section of the sheet has a key twice, in whatever order the settings are written. -/
theorem keys_nodup_sheet (h : settings.Perm c.driver.toList) :
    ∀ s ∈ c.sheet settings, (s.2.map Prod.fst).Nodup := by
  have hdriver : ((settings.map fun e => (e.1, Plain.text e.2)).map Prod.fst).Nodup := by
    rw [List.map_map]
    exact (h.map Prod.fst).nodup_iff.mpr c.driver.keys_nodup
  simp only [sheet, List.forall_mem_cons]
  refine ⟨?_, by simp, hdriver, by simp, nofun⟩
  cases c.service.profilesDir <;> simp

/-- The printed configuration is read as the table of its sheet. -/
theorem table?_write (h : c.Timely) (hsettings : settings.Perm c.driver.toList) :
    Toml.table? (c.write settings).toList = some (c.sheet settings).table := by
  have hnames : ((c.sheet settings).map Prod.fst).Nodup :=
    show ["service", "metadata", "driver", "logging"].Nodup by decide
  have htime : c.metadata.timeoutMs.toNat ≤ (Numeral.Range.signed 64).above := h
  rw [write, if_pos htime, String.toList_ofList]
  exact Toml.table?_write (fits_sheet h settings) hnames (keys_nodup_sheet hsettings)

/-! ### What the sheet says -/

/-- The settings of a driver are read back from any order of their entries. -/
theorem driverSettings?_entriesOf {t : Table String} (h : settings.Perm t.toList) :
    driverSettings? (.table .headed (entriesOf (settings.map fun e => (e.1, .text e.2))))
      = some t := by
  have htexts : texts? (entriesOf (settings.map fun e => (e.1, .text e.2))) = some settings := by
    rw [texts?_eq_some_iff, entriesOf, List.map_map]
    rfl
  rw [driverSettings?, htexts, Option.map_some, Table.ofList_of_perm h]

/-- What is written for a configuration says that configuration. -/
theorem ofTable?_table_sheet (hsettings : settings.Perm c.driver.toList) :
    ofTable? (c.sheet settings).table = some c := by
  obtain ⟨⟨name, host, port, version, profilesDir⟩, ⟨authority, authorityPort, timeoutMs⟩, driver,
    ⟨level, json⟩⟩ := c
  have hport (p : UInt16) : p.toNat < UInt16.size := p.toNat_lt
  have htime : timeoutMs.toNat < UInt64.size := timeoutMs.toNat_lt
  -- the directory is the one field that may be missing
  cases profilesDir <;>
    simp [ofTable?, part?, sheet, Sheet.table, Plain.value, List.lookup_cons, Fields.ofValue?,
      ServiceSection.ofFields?, MetadataSection.ofFields?, LoggingSection.ofFields?, Fields.text?,
      Fields.number?, Fields.flag?, Fields.optionalText?, hport, htime,
      driverSettings?_entriesOf hsettings]

/-- A timely configuration is read back from every way of printing it. -/
theorem ofText?_write_of_timely (h : c.Timely) (hsettings : settings.Perm c.driver.toList) :
    ofText? (c.write settings) = .ok c := by
  simp [ofText?, table?_write h hsettings, ofTable?_table_sheet hsettings]

/-- **A configuration is found again in its text**, unless its time for a request is too long. -/
theorem ofText?_write_iff (hsettings : settings.Perm c.driver.toList) :
    ofText? (c.write settings) = .ok c ↔ c.Timely := by
  refine ⟨fun hread => ?_, fun h => ofText?_write_of_timely h hsettings⟩
  by_contra h
  -- the text is empty then, and describes the standard, whose time is not too long
  have htext : c.write settings = "" := if_neg h
  have hstandard : ofText? "" = .ok standard := by decide +kernel
  rw [htext, hstandard] at hread
  obtain rfl := Except.ok.inj hread
  exact h (by decide)

/-! ### Texts and environments -/

/-- What a document gives for a field is as great as TOML allows. -/
theorem sized_of_gives {es : Toml.Entries} (hes : es.Sized) {part name : String} {i : Nat}
    {v : Toml.Value} (h : Toml.Gives es part name i v) : v.Sized := by
  obtain ⟨p, hp, hv⟩ := h
  have hpart := hes.of_lookup hp
  cases hv with
  | named hv => exact hpart.entries.of_lookup hv
  | placed hv => exact hpart.items v (List.mem_of_getElem? hv)

/-- A configuration that was read from a text is timely: integers of documents have 64 bits. -/
theorem timely_of_ofText? {s : String} (h : ofText? s = .ok c) : c.Timely := by
  rw [ofText?] at h
  split at h
  case h_2 => cases h
  case h_1 hread =>
    obtain rfl := Except.ok.inj h
    obtain ⟨es, hes, hc⟩ := Option.bind_eq_some_iff.mp hread
    obtain ⟨l, hl, rfl⟩ := ofTable?_eq_some_iff.mp hc
    have htime := hl.timeoutMs
    change (l.timeoutMs.getD standard.metadata.timeoutMs).toNat ≤ (Numeral.Range.signed 64).above
    generalize l.timeoutMs = o at htime ⊢
    cases o with
    | none => decide
    | some t =>
      obtain ⟨v, hgives, rfl⟩ := htime
      exact Int.ofNat_le.mp (sized_of_gives (Toml.sized_table? hes) hgives).holds.2

/-- The environment says nothing about the time. -/
theorem timeoutMs_of_override {env : Environment} {c₀ : Config} (h : c₀.override env = .ok c) :
    c.metadata.timeoutMs = c₀.metadata.timeoutMs := by
  rcases layer_or_malformed env with ⟨l, hl⟩ | ⟨e, he⟩
  · obtain rfl := Except.ok.inj ((override_of_layer hl c₀).symm.trans h)
    obtain ⟨-, htime, -⟩ := hl.others
    simp [Layer.onto, htime]
  · cases (override_of_malformed he c₀).symm.trans h

/-- **A configuration that comes from a text and an environment is found again in its text**,
whatever is in its names, hosts, directories and settings, and in whatever order the settings are
written. -/
theorem ofText?_write_of_override {s : String} {env : Environment} {c₀ : Config}
    (hs : ofText? s = .ok c₀) (henv : c₀.override env = .ok c)
    (hsettings : settings.Perm c.driver.toList) : ofText? (c.write settings) = .ok c := by
  refine ofText?_write_of_timely ?_ hsettings
  rw [Timely, timeoutMs_of_override henv]
  exact timely_of_ofText? hs

/-- A file with quotes, a backslash and a line break in its settings, under an environment whose
values have quotes of both kinds, control characters, or nothing in them. The settings are written
in descending order of their names. -/
theorem ofText?_write_of_quoted :
    let s := "[driver]\n\"a \\\"b\" = \"q\\\"\\\\\\n\"\n\"\" = \"\\u00e9\"\n[logging]\nlevel = ''"
    let env : Environment := fun name => List.lookup name [
      ("DEVSVC_SERVICE_NAME", "it's \"this\""), ("DEVSVC_PORT", "+08080"),
      ("DEVSVC_HOST", "\x00\r\n\t\""), ("DEVSVC_PROFILES_DIR", "")]
    let settings := [("a \"b", "q\"\\\n"), ("", "é")]
    let c₀ : Config := ⟨.standard, .standard, .ofList settings, ⟨"", false⟩⟩
    let c : Config := { c₀ with
      service := ⟨"it's \"this\"", "\x00\r\n\t\"", 8080, programVersion, some ""⟩ }
    ofText? s = .ok c₀ ∧ c₀.override env = .ok c ∧ settings.Perm c.driver.toList ∧
      settings ≠ c.driver.toList ∧ ofText? (c.write settings) = .ok c := by
  intro s env settings c₀ c
  have hs : ofText? s = .ok c₀ := by decide +kernel
  have henv : c₀.override env = .ok c := by decide +kernel
  have hsettings : settings.Perm c.driver.toList := by decide +kernel
  exact ⟨hs, henv, hsettings, by decide +kernel, ofText?_write_of_override hs henv hsettings⟩

end DeviceHost.Config
