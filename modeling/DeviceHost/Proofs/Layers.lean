import DeviceHost.Config.Text
import DeviceHost.Proofs.Integers
import Mathlib.Data.List.Basic

/-!
# Layers of a configuration

Three sources tell of a configuration, each of some fields only: the environment, a file, and the
standard, which tells of all of them. A field is as the first source has it that tells of it.

* `Layer` — what one source tells, and `Layer.onto` — what becomes of a configuration under it;
* `Layer.OfTable`, `Layer.OfEnvironment` — the layers of a table and of an environment, field by
  field: a source gives a value of the wanted kind, or it gives none;
* `Config.ofTable?_eq_some_iff`, `Config.override_of_layer` — a table and an environment are read as
  their layers;
* `Combines` — the three layers together, `Config.Valid` — what a configuration has to be like, and
  `Refused` — what is wrong otherwise, of several troubles the first one;
* `Config.load_spec` — a configuration is loaded from its layers, or refused for its first trouble.
-/

namespace DeviceHost

/-! ## Layers -/

/-- What one source tells of a configuration. -/
structure Layer where
  /-- the name of the service -/
  name : Option String
  /-- the host that it listens on -/
  host : Option String
  /-- the port that it listens on -/
  port : Option UInt16
  /-- the version that it reports -/
  version : Option String
  /-- where the profiles are -/
  profilesDir : Option String
  /-- the host of the authority -/
  metadataHost : Option String
  /-- the port of the authority -/
  metadataPort : Option UInt16
  /-- how long a request may take -/
  timeoutMs : Option UInt64
  /-- the settings of the driver -/
  driver : Option (Table String)
  /-- which lines of the log are written -/
  level : Option String
  /-- whether they are JSON documents -/
  json : Option Bool

namespace Layer

/-- The source that tells nothing. -/
def silent : Layer :=
  ⟨none, none, none, none, none, none, none, none, none, none, none⟩

/-- A configuration with what a source tells in the place of what it has. -/
def onto (l : Layer) (c : Config) : Config where
  service := {
    name := l.name.getD c.service.name
    host := l.host.getD c.service.host
    port := l.port.getD c.service.port
    version := l.version.getD c.service.version
    profilesDir := l.profilesDir.or c.service.profilesDir }
  metadata := {
    host := l.metadataHost.getD c.metadata.host
    port := l.metadataPort.getD c.metadata.port
    timeoutMs := l.timeoutMs.getD c.metadata.timeoutMs }
  driver := l.driver.getD c.driver
  logging := {
    level := l.level.getD c.logging.level
    json := l.json.getD c.logging.json }

end Layer

/-- A source gives a value for a field, and it is read; or it gives none. -/
def Yields {α β : Type} (gives : α → Prop) (reads : α → β → Prop) : Option β → Prop
  | none => ∀ v, ¬ gives v
  | some b => ∃ v, gives v ∧ reads v b

theorem exists_yields_iff {α β : Type} {o : Option α} {reads : α → β → Prop}
    {P : Option β → Prop} :
    (∃ given, Yields (fun v => o = some v) reads given ∧ P given) ↔
      (o = none ∧ P none) ∨ ∃ v b, o = some v ∧ reads v b ∧ P (some b) := by
  rcases o with _ | v <;> simp [Option.exists, Yields]

/-! ## The layer of a table -/

namespace Toml

/-- What may stand in the place of a part of a configuration. -/
inductive Value.IsPart : Value → Prop
  /-- a table, which has fields by their names -/
  | table (o : Origin) (es : Entries) : IsPart (.table o es)
  /-- an array, which has them by their places -/
  | array (items : List Value) : IsPart (.array items)
  /-- a date, which has none -/
  | moment (m : String) : IsPart (.moment m)

/-- A part has a value for a field. -/
inductive Value.Has : Value → String → Nat → Value → Prop
  /-- under its name -/
  | named {o : Origin} {es : Entries} {name : String} {i : Nat} {v : Value}
    (h : es.lookup name = some v) : Has (.table o es) name i v
  /-- in its place -/
  | placed {items : List Value} {name : String} {i : Nat} {v : Value}
    (h : items[i]? = some v) : Has (.array items) name i v

/-- A table gives a value for a field of one of its parts. -/
def Gives (es : Entries) (part name : String) (i : Nat) (v : Value) : Prop :=
  ∃ p, es.lookup part = some p ∧ p.Has name i v

/-- A value is a text. -/
def Value.IsText (v : Value) (s : String) : Prop := v = .text s

/-- A value is the number of a port. -/
def Value.IsPort (v : Value) (p : UInt16) : Prop := v = .integer p.toNat

/-- A value is a time in milliseconds. -/
def Value.IsTime (v : Value) (t : UInt64) : Prop := v = .integer t.toNat

/-- A value is a truth value. -/
def Value.IsFlag (v : Value) (b : Bool) : Prop := v = .flag b

/-- A value makes the settings of a driver. -/
inductive Value.IsSettings : Value → Table String → Prop
  /-- it is a table, and all that it holds are texts -/
  | texts (o : Origin) (es : List (String × String)) :
    IsSettings (.table o (es.map fun e => (e.1, .text e.2))) (.ofList es)
  /-- it is a date, which is taken for the only setting -/
  | moment (m : String) : IsSettings (.moment m) (.ofList [(momentKey, m)])

end Toml

open Toml (Gives Value)

/-- The layer of a table: its parts have fields, and each field is read as what it has to be. -/
structure Layer.OfTable (es : Toml.Entries) (l : Layer) : Prop where
  parts : ∀ part ∈ ["service", "metadata", "logging"], ∀ v, es.lookup part = some v → v.IsPart
  name : Yields (Gives es "service" "name" 0) Value.IsText l.name
  host : Yields (Gives es "service" "host" 1) Value.IsText l.host
  port : Yields (Gives es "service" "port" 2) Value.IsPort l.port
  version : Yields (Gives es "service" "version" 3) Value.IsText l.version
  profilesDir : Yields (Gives es "service" "profiles_dir" 4) Value.IsText l.profilesDir
  metadataHost : Yields (Gives es "metadata" "host" 0) Value.IsText l.metadataHost
  metadataPort : Yields (Gives es "metadata" "port" 1) Value.IsPort l.metadataPort
  timeoutMs : Yields (Gives es "metadata" "timeout_ms" 2) Value.IsTime l.timeoutMs
  driver : Yields (fun v => es.lookup "driver" = some v) Value.IsSettings l.driver
  level : Yields (Gives es "logging" "level" 0) Value.IsText l.level
  json : Yields (Gives es "logging" "json" 1) Value.IsFlag l.json

/-! ### Fields -/

namespace Fields

variable {es : Toml.Entries} {part name : String} {i : Nat} {f : Fields}

/-- Fields are read exactly from a value that may be a section. -/
theorem exists_ofValue?_iff {p : Value} : (∃ f, ofValue? p = some f) ↔ p.IsPart := by
  constructor
  · rintro ⟨f, hf⟩
    cases p with
    | table o es => exact .table o es
    | array items => exact .array items
    | moment m => exact .moment m
    | _ => cases hf
  · rintro (_ | _ | _) <;> exact ⟨_, rfl⟩

/-- A section has a value for a name exactly if its fields give it. -/
theorem has_iff_of_ofValue? {p v : Value} (h : ofValue? p = some f) :
    p.Has name i v ↔ f name i = some v := by
  constructor
  · rintro (hv | hv) <;> cases h <;> exact hv
  · intro hv
    cases p with
    | table o es =>
      obtain rfl := Option.some.inj h
      exact .named hv
    | array items =>
      obtain rfl := Option.some.inj h
      exact .placed hv
    | moment m =>
      obtain rfl := Option.some.inj h
      cases hv
    | _ => cases h

theorem not_has_of_ofValue? {p v : Value} (h : ofValue? p = none) : ¬ p.Has name i v := by
  rintro (_ | _) <;> cases h

/-- The fields of a part of a table. -/
def ofPart (es : Toml.Entries) (part : String) : Fields :=
  ((es.lookup part).bind ofValue?).getD fun _ _ => none

/-- What a table gives for a field is what the field of its part is. -/
theorem gives_eq : Gives es part name i = fun v => ofPart es part name i = some v := by
  funext v
  rw [Gives, ofPart]
  rcases es.lookup part with _ | p
  · simp
  · rcases hf : ofValue? p with _ | f
    · simp [hf, not_has_of_ofValue? hf]
    · simp [hf, has_iff_of_ofValue? hf]

/-- A part is missing, or it has fields. -/
theorem part?_eq_some_iff {α : Type} {read : Fields → Option α} {standard a : α}
    (hstandard : read (fun _ _ => none) = some standard) :
    part? es part standard (fun v => ofValue? v >>= read) = some a ↔
      (∀ v, es.lookup part = some v → v.IsPart) ∧ read (ofPart es part) = some a := by
  rw [part?, ofPart]
  rcases es.lookup part with _ | p
  · simp [hstandard]
  · simp only [← exists_ofValue?_iff]
    rcases hf : ofValue? p with _ | f <;> simp [hf]

/-- A text is read as the given one, or the standard one where none is given. -/
theorem text?_eq_some_iff {standard s : String} :
    f.text? name i standard = some s ↔
      ∃ given, Yields (fun v => f name i = some v) Value.IsText given ∧
        given.getD standard = s := by
  rw [text?, exists_yields_iff]
  rcases f name i with _ | v
  · simp
  · cases v <;> simp [Value.IsText]

/-- A text without a standard is read exactly as it is given. -/
theorem optionalText?_eq_some_iff {o : Option String} :
    f.optionalText? name i = some o ↔
      Yields (fun v => f name i = some v) Value.IsText o := by
  rw [optionalText?]
  rcases f name i with _ | v
  · rcases o with _ | s <;> simp [Yields]
  · rcases o with _ | s <;> cases v <;> simp [Yields, Value.IsText]

theorem flag?_eq_some_iff {standard b : Bool} :
    f.flag? name i standard = some b ↔
      ∃ given, Yields (fun v => f name i = some v) Value.IsFlag given ∧
        given.getD standard = b := by
  rw [flag?, exists_yields_iff]
  rcases f name i with _ | v
  · simp
  · cases v <;> simp [Value.IsFlag]

/-- The numbers below a limit are those of a word. -/
theorem number?_eq_some_iff {ω : Type} {toNat : ω → Nat} {limit : Nat}
    (hword : ∀ n, n < limit ↔ ∃ w, toNat w = n) {standard : ω} {n : Nat} :
    f.number? name i limit (toNat standard) = some n ↔
      ∃ given : Option ω,
        Yields (fun v => f name i = some v) (fun v w => v = .integer (toNat w)) given ∧
          toNat (given.getD standard) = n := by
  rw [number?, exists_yields_iff]
  rcases f name i with _ | v
  · simp
  · cases v with
    | integer i =>
      cases i with
      | ofNat m =>
        have hbelow : m < limit ∧ m = n ↔ ∃ w, m = toNat w ∧ toNat w = n := by
          rw [hword]
          constructor
          · rintro ⟨⟨w, rfl⟩, rfl⟩
            exact ⟨w, rfl, rfl⟩
          · rintro ⟨w, rfl, rfl⟩
            exact ⟨⟨w, rfl⟩, rfl⟩
        simpa [Int.ofNat_inj] using hbelow
      | negSucc m =>
        -- a negative number is no word of any width
        have hnegative (w : ω) : Int.negSucc m ≠ toNat w := nofun
        simp [hnegative]
    | _ => simp

theorem lt_size_port (n : Nat) : n < UInt16.size ↔ ∃ p : UInt16, p.toNat = n :=
  ⟨fun h => ⟨UInt16.ofNat n, UInt16.toNat_ofNat_of_lt h⟩, fun ⟨p, hp⟩ => hp ▸ p.toNat_lt⟩

theorem lt_size_time (n : Nat) : n < UInt64.size ↔ ∃ t : UInt64, t.toNat = n :=
  ⟨fun h => ⟨UInt64.ofNat n, UInt64.toNat_ofNat_of_lt h⟩, fun ⟨t, ht⟩ => ht ▸ t.toNat_lt⟩

end Fields

/-! ### Parts -/

open Fields

variable {es : Toml.Entries} {f : Fields}

/-- The section of the service is read field by field, each with its own standard. -/
theorem ServiceSection.ofFields?_eq_some_iff {s : ServiceSection} :
    ofFields? f = some s ↔
      ∃ name host port version profilesDir,
        Yields (fun v => f "name" 0 = some v) Value.IsText name ∧
        Yields (fun v => f "host" 1 = some v) Value.IsText host ∧
        Yields (fun v => f "port" 2 = some v) Value.IsPort port ∧
        Yields (fun v => f "version" 3 = some v) Value.IsText version ∧
        Yields (fun v => f "profiles_dir" 4 = some v) Value.IsText profilesDir ∧
        ⟨name.getD standard.name, host.getD standard.host, port.getD standard.port,
          version.getD standard.version, profilesDir⟩ = s := by
  simp only [ofFields?, Option.bind_eq_bind, Option.bind_eq_some_iff, text?_eq_some_iff,
    number?_eq_some_iff lt_size_port, optionalText?_eq_some_iff, Option.pure_def,
    Option.some.injEq]
  constructor
  · rintro ⟨_, ⟨name, hname, rfl⟩, _, ⟨host, hhost, rfl⟩, _, ⟨port, hport, rfl⟩, _,
      ⟨version, hversion, rfl⟩, profilesDir, hdir, hs⟩
    rw [UInt16.ofNat_toNat] at hs
    exact ⟨name, host, port, version, profilesDir, hname, hhost, hport, hversion, hdir, hs⟩
  · rintro ⟨name, host, port, version, profilesDir, hname, hhost, hport, hversion, hdir, hs⟩
    refine ⟨_, ⟨name, hname, rfl⟩, _, ⟨host, hhost, rfl⟩, _, ⟨port, hport, rfl⟩, _,
      ⟨version, hversion, rfl⟩, profilesDir, hdir, ?_⟩
    rw [UInt16.ofNat_toNat, hs]

theorem MetadataSection.ofFields?_eq_some_iff {s : MetadataSection} :
    ofFields? f = some s ↔
      ∃ host port timeoutMs,
        Yields (fun v => f "host" 0 = some v) Value.IsText host ∧
        Yields (fun v => f "port" 1 = some v) Value.IsPort port ∧
        Yields (fun v => f "timeout_ms" 2 = some v) Value.IsTime timeoutMs ∧
        ⟨host.getD standard.host, port.getD standard.port,
          timeoutMs.getD standard.timeoutMs⟩ = s := by
  simp only [ofFields?, Option.bind_eq_bind, Option.bind_eq_some_iff, text?_eq_some_iff,
    number?_eq_some_iff lt_size_port, number?_eq_some_iff lt_size_time, Option.pure_def,
    Option.some.injEq]
  constructor
  · rintro ⟨_, ⟨host, hhost, rfl⟩, _, ⟨port, hport, rfl⟩, _, ⟨timeoutMs, htime, rfl⟩, hs⟩
    rw [UInt16.ofNat_toNat, UInt64.ofNat_toNat] at hs
    exact ⟨host, port, timeoutMs, hhost, hport, htime, hs⟩
  · rintro ⟨host, port, timeoutMs, hhost, hport, htime, hs⟩
    refine ⟨_, ⟨host, hhost, rfl⟩, _, ⟨port, hport, rfl⟩, _, ⟨timeoutMs, htime, rfl⟩, ?_⟩
    rw [UInt16.ofNat_toNat, UInt64.ofNat_toNat, hs]

theorem LoggingSection.ofFields?_eq_some_iff {s : LoggingSection} :
    ofFields? f = some s ↔
      ∃ level json,
        Yields (fun v => f "level" 0 = some v) Value.IsText level ∧
        Yields (fun v => f "json" 1 = some v) Value.IsFlag json ∧
        ⟨level.getD standard.level, json.getD standard.json⟩ = s := by
  simp only [ofFields?, Option.bind_eq_bind, Option.bind_eq_some_iff, text?_eq_some_iff,
    flag?_eq_some_iff, Option.pure_def, Option.some.injEq]
  constructor
  · rintro ⟨_, ⟨level, hlevel, rfl⟩, _, ⟨json, hjson, rfl⟩, hs⟩
    exact ⟨level, json, hlevel, hjson, hs⟩
  · rintro ⟨level, json, hlevel, hjson, hs⟩
    exact ⟨_, ⟨level, hlevel, rfl⟩, _, ⟨json, hjson, rfl⟩, hs⟩

theorem texts?_eq_some_iff {ts : List (String × String)} :
    texts? es = some ts ↔ es = ts.map fun t => (t.1, .text t.2) := by
  induction es generalizing ts with
  | nil => cases ts <;> simp [texts?]
  | cons e es ih =>
    obtain ⟨k, v⟩ := e
    cases v with
    | text s =>
      rw [texts?, Option.map_eq_some_iff]
      simp only [ih]
      constructor
      · rintro ⟨ts, rfl, rfl⟩
        rfl
      · intro h
        rcases ts with _ | ⟨⟨k', s'⟩, ts⟩
        · cases h
        · obtain ⟨he, rfl⟩ := List.cons.inj h
          cases he
          exact ⟨ts, rfl, rfl⟩
    | _ =>
      refine ⟨nofun, fun h => ?_⟩
      rcases ts with _ | ⟨t, ts⟩
      · cases h
      · cases h

/-- The settings of a driver are read exactly from a table of texts. -/
theorem driverSettings?_eq_some_iff {v : Value} {t : Table String} :
    driverSettings? v = some t ↔ v.IsSettings t := by
  constructor
  · intro h
    cases v with
    | table o es =>
      obtain ⟨ts, hts, rfl⟩ := Option.map_eq_some_iff.mp h
      obtain rfl := texts?_eq_some_iff.mp hts
      exact .texts o ts
    | moment m =>
      obtain rfl := Option.some.inj h
      exact .moment m
    | _ => cases h
  · rintro (⟨o, ts⟩ | m)
    · rw [driverSettings?, texts?_eq_some_iff.mpr rfl]
      rfl
    · rfl

/-- Without settings of a driver the standard ones stay. -/
theorem part?_driver_eq_some_iff {standard t : Table String} :
    part? es "driver" standard driverSettings? = some t ↔
      ∃ given, Yields (fun v => es.lookup "driver" = some v) Value.IsSettings given ∧
        given.getD standard = t := by
  rw [part?, exists_yields_iff]
  rcases es.lookup "driver" with _ | v
  · simp
  · simp [driverSettings?_eq_some_iff]

/-- **A table is read as its layer over the standard**, and nothing else is read. -/
theorem Config.ofTable?_eq_some_iff {c : Config} :
    ofTable? es = some c ↔ ∃ l, Layer.OfTable es l ∧ l.onto standard = c := by
  have hservice (a : ServiceSection) : part? es "service" .standard
      (fun v => ofValue? v >>= ServiceSection.ofFields?) = some a ↔ _ := part?_eq_some_iff rfl
  have hmetadata (a : MetadataSection) : part? es "metadata" .standard
      (fun v => ofValue? v >>= MetadataSection.ofFields?) = some a ↔ _ := part?_eq_some_iff rfl
  have hlogging (a : LoggingSection) : part? es "logging" .standard
      (fun v => ofValue? v >>= LoggingSection.ofFields?) = some a ↔ _ := part?_eq_some_iff rfl
  have hdirectory (o : Option String) : o.or standard.service.profilesDir = o := Option.or_none
  rw [ofTable?]
  simp only [Option.bind_eq_bind] at hservice hmetadata hlogging ⊢
  simp only [Option.bind_eq_some_iff, Option.pure_def, Option.some.injEq, hservice, hmetadata,
    hlogging, part?_driver_eq_some_iff, ServiceSection.ofFields?_eq_some_iff,
    MetadataSection.ofFields?_eq_some_iff, LoggingSection.ofFields?_eq_some_iff, ← gives_eq]
  constructor
  · rintro ⟨_, ⟨hs, name, host, port, version, profilesDir, hname, hhost, hport, hversion, hdir,
      rfl⟩, _, ⟨hm, metadataHost, metadataPort, timeoutMs, hmhost, hmport, htime, rfl⟩, _,
      ⟨driver, hdriver, rfl⟩, _, ⟨hl, level, json, hlevel, hjson, rfl⟩, rfl⟩
    refine ⟨⟨name, host, port, version, profilesDir, metadataHost, metadataPort, timeoutMs, driver,
      level, json⟩, ⟨by simpa using ⟨hs, hm, hl⟩, hname, hhost, hport, hversion, hdir, hmhost,
      hmport, htime, hdriver, hlevel, hjson⟩, ?_⟩
    rw [Layer.onto, hdirectory]
    rfl
  · rintro ⟨l, h, rfl⟩
    obtain ⟨hs, hm, hl⟩ : (∀ v, es.lookup "service" = some v → v.IsPart) ∧
        (∀ v, es.lookup "metadata" = some v → v.IsPart) ∧
          ∀ v, es.lookup "logging" = some v → v.IsPart := by simpa using h.parts
    refine ⟨_, ⟨hs, _, _, _, _, _, h.name, h.host, h.port, h.version, h.profilesDir, rfl⟩, _,
      ⟨hm, _, _, _, h.metadataHost, h.metadataPort, h.timeoutMs, rfl⟩, _,
      ⟨_, h.driver, rfl⟩, _, ⟨hl, _, _, h.level, h.json, rfl⟩, ?_⟩
    rw [Layer.onto, hdirectory]
    rfl

/-! ## The layer of an environment -/

/-- A text is the numeral of a port. -/
def IsPortText (s : String) (p : UInt16) : Prop := Numeral.IsNumeral False s.toList p.toNat

/-- A text is the word for a truth value. -/
inductive IsFlagText : String → Bool → Prop
  | yes : IsFlagText "true" true
  | no : IsFlagText "false" false

/-- The layer of an environment: the variables that are set, three of which have to be read. -/
structure Layer.OfEnvironment (env : Config.Environment) (l : Layer) : Prop where
  name : l.name = env "DEVSVC_SERVICE_NAME"
  host : l.host = env "DEVSVC_HOST"
  port : Yields (fun v => env "DEVSVC_PORT" = some v) IsPortText l.port
  profilesDir : l.profilesDir = env "DEVSVC_PROFILES_DIR"
  metadataHost : l.metadataHost = env "DEVSVC_METADATA_HOST"
  metadataPort : Yields (fun v => env "DEVSVC_METADATA_PORT" = some v) IsPortText l.metadataPort
  json : Yields (fun v => env "DEVSVC_LOG_JSON" = some v) IsFlagText l.json
  others : l.version = none ∧ l.timeoutMs = none ∧ l.driver = none ∧ l.level = none

/-- A variable is set, but cannot be read. -/
def Garbles {β : Type} (env : Config.Environment) (name : String) (reads : String → β → Prop)
    (v : String) : Prop :=
  env name = some v ∧ ∀ b, ¬ reads v b

/-- A variable that has to be read cannot be; of several ones the first. -/
inductive Malformed (env : Config.Environment) : ConfigError → Prop
  /-- the port -/
  | port {v : String} (h : Garbles env "DEVSVC_PORT" IsPortText v) :
    Malformed env (.invalidVariable "DEVSVC_PORT" v)
  /-- the port of the authority -/
  | metadataPort {port : Option UInt16} {v : String}
    (hport : Yields (fun v => env "DEVSVC_PORT" = some v) IsPortText port)
    (h : Garbles env "DEVSVC_METADATA_PORT" IsPortText v) :
    Malformed env (.invalidVariable "DEVSVC_METADATA_PORT" v)
  /-- the truth value -/
  | json {port metadataPort : Option UInt16} {v : String}
    (hport : Yields (fun v => env "DEVSVC_PORT" = some v) IsPortText port)
    (hmetadata : Yields (fun v => env "DEVSVC_METADATA_PORT" = some v) IsPortText metadataPort)
    (h : Garbles env "DEVSVC_LOG_JSON" IsFlagText v) :
    Malformed env (.invalidVariable "DEVSVC_LOG_JSON" v)

/-- A variable is read, or is not set, or cannot be read. -/
theorem yields_or_garbles {β : Type} (env : Config.Environment) (name : String)
    (reads : String → β → Prop) :
    (∃ given, Yields (fun v => env name = some v) reads given) ∨ ∃ v, Garbles env name reads v := by
  rcases hv : env name with _ | v
  · exact .inl ⟨none, by simp [Yields]⟩
  · by_cases h : ∃ b, reads v b
    · obtain ⟨b, hb⟩ := h
      exact .inl ⟨some b, v, rfl, hb⟩
    · exact .inr ⟨v, hv, fun b hb => h ⟨b, hb⟩⟩

section Variables

variable {env : Config.Environment} {name v : String}

/-- A text is one of a port exactly if it parses as an unsigned integer of 16 bits. -/
theorem isPortText_iff {p : UInt16} :
    IsPortText v p ↔ (Numeral.Range.unsigned 16).parse v.toList = .ok (p.toNat : Int) := by
  have hholds : (Numeral.Range.unsigned 16).Holds p.toNat := by
    have hp : p.toNat < 65536 := p.toNat_lt
    exact ⟨Int.natCast_nonneg _, Int.ofNat_le.mpr (Nat.le_of_lt_succ hp)⟩
  rw [Numeral.Range.parse_eq_ok_iff, IsPortText]
  constructor
  · exact fun h => ⟨h.mono False.elim, hholds⟩
  · exact fun h => h.1.mono (Nat.lt_irrefl 0)

/-- A readable variable replaces the port, a missing one leaves it. -/
theorem portFrom_of_yields {given : Option UInt16}
    (h : Yields (fun v => env name = some v) IsPortText given) (now : UInt16) :
    Config.portFrom env name now = .ok (given.getD now) := by
  rw [Config.portFrom]
  cases given with
  | none =>
    rw [Option.eq_none_iff_forall_ne_some.mpr h]
    rfl
  | some p =>
    obtain ⟨v, hv, hp⟩ := h
    rw [hv]
    dsimp only
    rw [isPortText_iff.mp hp]
    simp

/-- A variable that is no port is refused with its name and its text. -/
theorem portFrom_of_garbles (h : Garbles env name IsPortText v) (now : UInt16) :
    Config.portFrom env name now = .error (.invalidVariable name v) := by
  obtain ⟨hv, hno⟩ := h
  rw [Config.portFrom, hv]
  dsimp only
  rcases hparse : (Numeral.Range.unsigned 16).parse v.toList with e | i
  · rfl
  · -- whatever is in the range is the number of a port
    obtain ⟨-, hlow, hhigh⟩ := Numeral.Range.parse_eq_ok_iff.mp hparse
    obtain ⟨n, rfl⟩ := Int.eq_ofNat_of_zero_le hlow
    have hn : n < UInt16.size := Nat.lt_succ_of_le (Int.ofNat_le.mp hhigh)
    obtain ⟨p, rfl⟩ := (lt_size_port n).mp hn
    exact absurd (isPortText_iff.mpr hparse) (hno p)

theorem flagFrom_of_yields {given : Option Bool}
    (h : Yields (fun v => env name = some v) IsFlagText given) (now : Bool) :
    Config.flagFrom env name now = .ok (given.getD now) := by
  rw [Config.flagFrom]
  cases given with
  | none =>
    rw [Option.eq_none_iff_forall_ne_some.mpr h]
    rfl
  | some b =>
    obtain ⟨v, hv, hb⟩ := h
    rw [hv]
    cases hb <;> rfl

theorem flagFrom_of_garbles (h : Garbles env name IsFlagText v) (now : Bool) :
    Config.flagFrom env name now = .error (.invalidVariable name v) := by
  obtain ⟨hv, hno⟩ := h
  have htrue : v ≠ "true" := fun h => hno true (h ▸ .yes)
  have hfalse : v ≠ "false" := fun h => hno false (h ▸ .no)
  rw [Config.flagFrom, hv]
  dsimp only
  rw [if_neg htrue, if_neg hfalse]

end Variables

namespace Config

variable {env : Environment} {c : Config}

/-- An environment whose variables are readable overrides by the layer that it is. -/
theorem override_of_layer {l : Layer} (h : l.OfEnvironment env) (c : Config) :
    c.override env = .ok (l.onto c) := by
  obtain ⟨hversion, htime, hdriver, hlevel⟩ := h.others
  rw [override, portFrom_of_yields h.port, portFrom_of_yields h.metadataPort,
    flagFrom_of_yields h.json, Layer.onto, h.name, h.host, h.profilesDir, h.metadataHost,
    hversion, htime, hdriver, hlevel]
  rfl

/-- An environment with unreadable variables is refused for the first of them. -/
theorem override_of_malformed {e : ConfigError} (h : Malformed env e) (c : Config) :
    c.override env = .error e := by
  rw [override]
  cases h with
  | port h => rw [portFrom_of_garbles h]
  | metadataPort hport h => rw [portFrom_of_yields hport, portFrom_of_garbles h]
  | json hport hmetadata h =>
    rw [portFrom_of_yields hport, portFrom_of_yields hmetadata, flagFrom_of_garbles h]

/-- Every environment either is a layer or has a first unreadable variable. -/
theorem layer_or_malformed (env : Environment) :
    (∃ l : Layer, l.OfEnvironment env) ∨ ∃ e, Malformed env e := by
  rcases yields_or_garbles env "DEVSVC_PORT" IsPortText with ⟨port, hport⟩ | ⟨v, hv⟩
  · rcases yields_or_garbles env "DEVSVC_METADATA_PORT" IsPortText with
      ⟨metadataPort, hmetadata⟩ | ⟨v, hv⟩
    · rcases yields_or_garbles env "DEVSVC_LOG_JSON" IsFlagText with ⟨json, hjson⟩ | ⟨v, hv⟩
      · exact .inl ⟨⟨_, _, port, none, _, _, metadataPort, none, none, none, json⟩,
          ⟨rfl, rfl, hport, rfl, rfl, hmetadata, hjson, rfl, rfl, rfl, rfl⟩⟩
      · exact .inr ⟨_, .json hport hmetadata hv⟩
    · exact .inr ⟨_, .metadataPort hport hv⟩
  · exact .inr ⟨_, .port hv⟩

end Config

/-! ## The layer of a file -/

/-- A file, if there is one, has a layer. -/
inductive Layer.OfFile : Option ConfigFile → Layer → Prop
  /-- there is none, and it tells nothing -/
  | missing : OfFile none .silent
  /-- it is a text that describes a table, which has a layer -/
  | table {f : ConfigFile} {bytes : List UInt8} {s : String} {es : Toml.Entries} {l : Layer}
    (hcontent : f.content = .ok bytes) (htext : Utf8.text? bytes = some s)
    (htable : Toml.table? s.toList = some es) (hl : l.OfTable es) : OfFile (some f) l

/-- What is wrong with a file that has no layer. -/
inductive Unusable (f : ConfigFile) : ConfigError → Prop
  /-- it cannot be read -/
  | unreadable {reason : String} (h : f.content = .error reason) :
    Unusable f (.unreadable f.path reason)
  /-- it is no text -/
  | garbled {bytes : List UInt8} (hcontent : f.content = .ok bytes)
    (htext : Utf8.text? bytes = none) :
    Unusable f (.unreadable f.path "stream did not contain valid UTF-8")
  /-- the text does not describe a table with a layer -/
  | unparsable {bytes : List UInt8} {s : String} (hcontent : f.content = .ok bytes)
    (htext : Utf8.text? bytes = some s)
    (h : ∀ es, Toml.table? s.toList = some es → ∀ l : Layer, ¬ l.OfTable es) :
    Unusable f .unparsable

namespace Config

variable {file : Option ConfigFile} {env : Environment} {l : Layer}

/-- A file that is a layer gives the standard configuration with that layer onto it. -/
theorem ofFile?_of_layer (h : l.OfFile file) :
    file.elim (.ok standard) ofFile? = .ok (l.onto standard) := by
  cases h with
  | missing => rfl
  | table hcontent htext htable hl =>
    have hread := ofTable?_eq_some_iff.mpr ⟨l, hl, rfl⟩
    simp [ofFile?, hcontent, htext, ofText?, htable, hread]

/-- An unusable file is refused with its trouble. -/
theorem ofFile?_of_unusable {f : ConfigFile} {e : ConfigError} (h : Unusable f e) :
    ofFile? f = .error e := by
  cases h with
  | unreadable h => rw [ofFile?, h]
  | garbled hcontent htext => simp [ofFile?, hcontent, htext]
  | @unparsable bytes s hcontent htext h =>
    have hnone : Toml.table? s.toList >>= ofTable? = none := by
      rw [Option.bind_eq_bind, Option.bind_eq_none_iff]
      intro es hes
      refine Option.eq_none_iff_forall_ne_some.mpr fun c hc => ?_
      obtain ⟨l, hl, -⟩ := ofTable?_eq_some_iff.mp hc
      exact h es hes l hl
    simp [ofFile?, hcontent, htext, ofText?, hnone]

/-- Every file either is a layer or is unusable for some trouble. -/
theorem layer_or_unusable (f : ConfigFile) :
    (∃ l : Layer, l.OfFile (some f)) ∨ ∃ e, Unusable f e := by
  rcases hcontent : f.content with reason | bytes
  · exact .inr ⟨_, .unreadable hcontent⟩
  · rcases htext : Utf8.text? bytes with _ | s
    · exact .inr ⟨_, .garbled hcontent htext⟩
    · by_cases h : ∃ es, Toml.table? s.toList = some es ∧ ∃ l : Layer, l.OfTable es
      · obtain ⟨es, htable, l, hl⟩ := h
        exact .inl ⟨l, .table hcontent htext htable hl⟩
      · exact .inr ⟨_, .unparsable hcontent htext fun es hes l hl => h ⟨es, hes, l, hl⟩⟩

/-! ## All layers together -/

/-- A text has nothing but blanks. -/
def Blank (s : String) : Prop := ∀ c ∈ s.toList, Text.isBlank c = true

/-- The rules that a configuration has to keep. -/
structure Valid (c : Config) : Prop where
  /-- the service has a name -/
  named : ¬ Blank c.service.name
  /-- and a port of its own -/
  reachable : c.service.port ≠ 0
  /-- and the authority has a host -/
  hosted : ¬ Blank c.metadata.host

/-- A rule is broken; of several ones the first. -/
inductive Breaks (c : Config) : String → Prop
  | named (h : Blank c.service.name) : Breaks c "service name must not be empty"
  | reachable (hname : ¬ Blank c.service.name) (h : c.service.port = 0) :
    Breaks c "service port must not be 0"
  | hosted (hname : ¬ Blank c.service.name) (hport : c.service.port ≠ 0)
    (h : Blank c.metadata.host) : Breaks c "metadata host must not be empty"

/-- The configuration of a file and an environment: the standard, under what the file tells, under
what the environment tells. -/
def Combines (file : Option ConfigFile) (env : Environment) (c : Config) : Prop :=
  ∃ l m : Layer, l.OfFile file ∧ m.OfEnvironment env ∧ c = m.onto (l.onto standard)

/-- Why there is no configuration; of several troubles the first one. -/
inductive Refused (file : Option ConfigFile) (env : Environment) : ConfigError → Prop
  /-- the file has no layer -/
  | file {f : ConfigFile} {e : ConfigError} (hfile : file = some f) (h : Unusable f e) :
    Refused file env e
  /-- the environment has none -/
  | environment {l : Layer} {e : ConfigError} (hfile : l.OfFile file) (h : Malformed env e) :
    Refused file env e
  /-- the configuration breaks a rule -/
  | rule {c : Config} {reason : String} (hc : Combines file env c) (h : Breaks c reason) :
    Refused file env (.invalid reason)

theorem isBlankText_iff {s : String} : isBlankText s = true ↔ Blank s := by
  rw [isBlankText, List.all_eq_true, Blank]

/-- A valid configuration passes unchanged. -/
theorem validate_of_valid {c : Config} (h : c.Valid) : c.validate = .ok c := by
  have hname := mt isBlankText_iff.mp h.named
  have hhost := mt isBlankText_iff.mp h.hosted
  simp [validate, flaw?, hname, h.reachable, hhost]

/-- A configuration that breaks a rule is refused with the reason of the first one. -/
theorem validate_of_breaks {c : Config} {reason : String} (h : Breaks c reason) :
    c.validate = .error (.invalid reason) := by
  cases h with
  | named h => simp [validate, flaw?, isBlankText_iff.mpr h]
  | reachable hname h => simp [validate, flaw?, mt isBlankText_iff.mp hname, h]
  | hosted hname hport h =>
    simp [validate, flaw?, mt isBlankText_iff.mp hname, hport, isBlankText_iff.mpr h]

/-- Every configuration is valid or breaks a first rule. -/
theorem valid_or_breaks (c : Config) : c.Valid ∨ ∃ reason, Breaks c reason := by
  by_cases hname : Blank c.service.name
  · exact .inr ⟨_, .named hname⟩
  · by_cases hport : c.service.port = 0
    · exact .inr ⟨_, .reachable hname hport⟩
    · by_cases hhost : Blank c.metadata.host
      · exact .inr ⟨_, .hosted hname hport hhost⟩
      · exact .inl ⟨hname, hport, hhost⟩

/-- Layers that combine are loaded as their combination, if that is valid. -/
theorem load_of_combines {c : Config} (hc : Combines file env c) : load file env = c.validate := by
  obtain ⟨l, m, hl, hm, rfl⟩ := hc
  rw [load, ofFile?_of_layer hl]
  dsimp only
  rw [override_of_layer hm]

/-- What is refused is loaded as that refusal. -/
theorem load_of_refused {e : ConfigError} (h : Refused file env e) :
    load file env = .error e := by
  cases h with
  | file hfile h => rw [hfile, load, Option.elim_some, ofFile?_of_unusable h]
  | environment hfile h =>
    rw [load, ofFile?_of_layer hfile]
    dsimp only
    rw [override_of_malformed h]
  | rule hc h => rw [load_of_combines hc, validate_of_breaks h]

/-- Every file and environment either combine to a valid configuration or are refused for a
reason. -/
theorem combines_or_refused (file : Option ConfigFile) (env : Environment) :
    (∃ c, Combines file env c ∧ c.Valid) ∨ ∃ e, Refused file env e := by
  have hfile : (∃ l : Layer, l.OfFile file) ∨ ∃ e, Refused file env e := by
    rcases file with _ | f
    · exact .inl ⟨_, .missing⟩
    · exact (layer_or_unusable f).imp_right fun ⟨e, he⟩ => ⟨e, .file rfl he⟩
  rcases hfile with ⟨l, hl⟩ | hrefused
  · rcases layer_or_malformed env with ⟨m, hm⟩ | ⟨e, he⟩
    · have hc : Combines file env (m.onto (l.onto standard)) := ⟨l, m, hl, hm, rfl⟩
      rcases valid_or_breaks (m.onto (l.onto standard)) with hvalid | ⟨reason, h⟩
      · exact .inl ⟨_, hc, hvalid⟩
      · exact .inr ⟨_, .rule hc h⟩
    · exact .inr ⟨e, .environment hl he⟩
  · exact .inr hrefused

/-- **A configuration is loaded from its layers**: of every field, what the environment tells, else
what the file tells, else the standard. This succeeds if and only if the file and the environment
can be read and the result keeps the rules, and otherwise the first trouble is reported: that of the
file, that of the first variable, that with the first rule. -/
theorem load_spec (file : Option ConfigFile) (env : Environment) :
    (∀ c, load file env = .ok c ↔ Combines file env c ∧ c.Valid) ∧
      ∀ e, load file env = .error e ↔ Refused file env e := by
  have hok {c : Config} (h : Combines file env c ∧ c.Valid) : load file env = .ok c :=
    (load_of_combines h.1).trans (validate_of_valid h.2)
  rcases combines_or_refused file env with ⟨c, hc⟩ | ⟨e, he⟩
  · refine ⟨fun c' => ⟨fun h => ?_, hok⟩, fun e => ⟨fun h => ?_, load_of_refused⟩⟩
    · obtain rfl := Except.ok.inj ((hok hc).symm.trans h)
      exact hc
    · cases (hok hc).symm.trans h
  · refine ⟨fun c => ⟨fun h => ?_, hok⟩, fun e' => ⟨fun h => ?_, load_of_refused⟩⟩
    · cases (load_of_refused he).symm.trans h
    · obtain rfl := Except.error.inj ((load_of_refused he).symm.trans h)
      exact he

end Config

end DeviceHost
