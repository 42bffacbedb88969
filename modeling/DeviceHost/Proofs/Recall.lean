import DeviceHost.Proofs.Reachable
import DeviceHost.Proofs.Reading
import DeviceHost.Proofs.Table
import DeviceHost.Proofs.Traffic
import DeviceHost.Proofs.ValueText
import DeviceHost.Proofs.Writing

/-!
# What is written is what is read

Between a caller who writes a text and a caller who reads one stand the names of a profile, the
types that it declares, the batches of two commands, and the driver. If the driver does no more than
remember, nothing of this shows.

* `Driver.Recalls` — a driver that remembers what is put, with `Driver.echo` for an example;
* `Holds` — a memory has the values that texts spell for resources;
* `holds_of_write`, `read_of_holds`, `holds_textsOf`, `write_of_holds` — a command that is written
  makes the memory hold its texts; one that is read finds them; the readings are such texts again;
  and writing what is held changes nothing;
* `Service.read_of_write` — all of them in a row.

A profile may define a name more than once, and a command may name a resource more than once.
Neither matters, since one and the same resource is found under a name whenever it is looked up
(`Resolves.resource?_eq`), and so one and the same text is read for it.
-/

namespace DeviceHost

/-! ## Drivers that remember -/

/-- What is put for requests: the values under the names of their resources. -/
def Driver.entries (requests : List ResourceRequest) (values : List Value) :
    List (String × Value) :=
  (requests.zip values).map fun p => (p.1.resource, p.2)

/-- A memory after values have been put for requests, in their order. -/
def Driver.keep (memory : Table Value) (requests : List ResourceRequest) (values : List Value) :
    Table Value :=
  (entries requests values).foldl (fun t e => t.insert e.1 e.2) memory

/-- A driver remembers what is put, and answers from that memory, a part of its state. -/
structure Driver.Recalls {δ : Type} (dr : Driver δ) (memory : δ → Table Value) : Prop where
  /-- it may produce values of every type -/
  supports : ∀ st t, dr.supports st t = true
  /-- it takes everything that is put -/
  put_value : ∀ target requests values st, (dr.put target requests values st).value = .ok ()
  /-- it remembers that, and nothing else -/
  put_memory : ∀ target requests values st,
    memory (dr.put target requests values st).state = keep (memory st) requests values
  /-- it answers with what it remembers -/
  get_value : ∀ target requests values st,
    List.Forall₂ (fun (q : ResourceRequest) v => (memory st).get? q.resource = some v) requests
      values → (dr.get target requests st).value = .ok values
  /-- it forgets nothing on that occasion -/
  get_memory : ∀ target requests st,
    memory (dr.get target requests st).state = memory st

/-- A driver that is nothing but its memory. A resource that was never put reads as its own name. -/
def Driver.echo : Driver (Table Value) where
  name := "echo"
  init _ _ := DriverAct.idle
  discover := DriverAct.idle
  get _ requests memory :=
    ⟨.ok (requests.map fun q => (memory.get? q.resource).getD (.string q.resource)), memory, []⟩
  put _ requests values memory := ⟨.ok (), keep memory requests values, []⟩
  disconnect _ := DriverAct.idle
  stop _ := DriverAct.idle
  supports _ _ := true

theorem Driver.recalls_echo : echo.Recalls id where
  supports _ _ := rfl
  put_value _ _ _ _ := rfl
  put_memory _ _ _ _ := rfl
  get_value _ requests values memory h := by
    change Except.ok _ = Except.ok values
    congr 1
    induction h with
    | nil => rfl
    | cons hv _ ih =>
      have hheld : memory.get? _ = some _ := hv
      rw [List.map_cons, ih, hheld]
      rfl
  get_memory _ _ _ := rfl

namespace Command

variable {d : Device} {command : String} {a : Access} {rs : List Resource} {vs : List Value}
  {texts : Table String} {m : Table Value}

/-! ## Names -/

/-- A granted resource is the first one of its name. -/
theorem Grants.resource?_eq {p : Profile} {name : String} {r : Resource} (h : Grants p a name r) :
    p.resource? r.name = some r := by
  obtain ⟨hfound, -⟩ := h
  obtain rfl : r.name = name := by simpa using List.find?_some hfound
  exact hfound

/-- A resource of a command is the one that the profile has under the name of the resource. -/
theorem Resolves.resource?_eq (h : Resolves d command a rs) {r : Resource} (hr : r ∈ rs) :
    d.profile.resource? r.name = some r := by
  obtain ⟨⟨names, -, hgranted⟩, -⟩ := h
  obtain ⟨name, -, hname⟩ := exists_mem_of_forall₂ hgranted hr
  exact hname.resource?_eq

/-- A command may name a resource more than once, but it has no two resources of one name. -/
theorem Resolves.eq_of_name_eq (h : Resolves d command a rs) {r r' : Resource} (hr : r ∈ rs)
    (hr' : r' ∈ rs) (hname : r.name = r'.name) : r = r' := by
  have hfound := h.resource?_eq hr
  rw [hname, h.resource?_eq hr'] at hfound
  exact (Option.some.inj hfound).symm

/-- Texts spell at most one value for a resource. -/
theorem Spells.unique {r : Resource} {v w : Value} (hv : Spells texts r v) (hw : Spells texts r w) :
    v = w := by
  obtain ⟨raw, hraw, hparse⟩ := hv
  obtain ⟨raw', hraw', hparse'⟩ := hw
  obtain rfl := Option.some.inj (hraw.symm.trans hraw')
  exact Except.ok.inj (hparse.symm.trans hparse')

/-! ## What a memory holds -/

/-- A memory has the values that texts spell for resources. -/
def Holds (m : Table Value) (texts : Table String) (rs : List Resource) : Prop :=
  ∀ r ∈ rs, ∃ v, Spells texts r v ∧ m.get? r.name = some v

/-- A batch leaves one entry in the memory for each request, by the name of its resource. -/
theorem mem_entries {e : String × Value} :
    e ∈ Driver.entries (rs.map requestOf) vs ↔ ∃ r v, (r, v) ∈ rs.zip vs ∧ e = (r.name, v) := by
  rw [Driver.entries, List.zip_map_left, List.map_map, List.mem_map]
  constructor
  · rintro ⟨⟨r, v⟩, hmem, rfl⟩
    exact ⟨r, v, hmem, rfl⟩
  · rintro ⟨r, v, hmem, rfl⟩
    exact ⟨(r, v), hmem, rfl⟩

/-- The values of a command that is written are held afterwards, whatever the memory held before. -/
theorem holds_keep (hresolves : Resolves d command a rs)
    (hspelled : List.Forall₂ (Spells texts) rs vs) (m : Table Value) :
    Holds (Driver.keep m (rs.map requestOf) vs) texts rs := by
  obtain ⟨hlength, hzip⟩ := List.forall₂_iff_zip.mp hspelled
  intro r hr
  have hentry : ∃ v, (r.name, v) ∈ Driver.entries (rs.map requestOf) vs := by
    rw [← List.map_fst_zip (Nat.le_of_eq hlength)] at hr
    obtain ⟨⟨r', v⟩, hmem, rfl⟩ := List.mem_map.mp hr
    exact ⟨v, mem_entries.mpr ⟨r', v, hmem, rfl⟩⟩
  obtain ⟨v, hmem, hget⟩ := Table.exists_mem_get?_foldl_insert hentry m
  obtain ⟨r', v', hmem, he⟩ := mem_entries.mp hmem
  obtain ⟨hname, rfl⟩ := Prod.mk.inj he
  -- the entry may be that of another place of the command, but not of another resource
  obtain rfl := hresolves.eq_of_name_eq hr (List.of_mem_zip hmem).1 hname
  exact ⟨v, hzip hmem, hget⟩

/-- Values that are held already change nothing. -/
theorem keep_of_holds (hholds : Holds m texts rs) (hspelled : List.Forall₂ (Spells texts) rs vs) :
    Driver.keep m (rs.map requestOf) vs = m := by
  obtain ⟨-, hzip⟩ := List.forall₂_iff_zip.mp hspelled
  refine Table.foldl_insert_of_get? fun e he => ?_
  obtain ⟨r, v, hmem, rfl⟩ := mem_entries.mp he
  obtain ⟨w, hw, hget⟩ := hholds r (List.of_mem_zip hmem).1
  rw [(hzip hmem).unique hw]
  exact hget

/-! ## Commands of a driver that remembers -/

section Commands

variable {δ : Type} {dr : Driver δ} {memory : δ → Table Value} (hdr : dr.Recalls memory) {st : δ}

include hdr

/-- A driver that remembers takes every ready command and keeps its values. -/
theorem write_of_recalls (h : Ready d command texts rs vs) (st : δ) :
    (write dr d command texts st).value = .ok () ∧
      memory (write dr d command texts st).state =
        Driver.keep (memory st) (rs.map requestOf) vs := by
  obtain ⟨-, hstate, hvalue⟩ := write_of_ready dr h st
  rw [hvalue, hstate, hdr.put_value, hdr.put_memory]
  exact ⟨rfl, rfl⟩

/-- A command that has been written is held. -/
theorem holds_of_write (hresolves : Resolves d command .write rs)
    (hwrite : (write dr d command texts st).value = .ok ()) :
    d.admin = .unlocked ∧ Holds (memory (write dr d command texts st).state) texts rs := by
  obtain ⟨rs', vs, hready, -⟩ := write_eq_ok_iff.mp hwrite
  obtain rfl : rs' = rs := by
    have hready' := resolve_eq_ok_iff.mpr hready.resolves
    exact Except.ok.inj (hready'.symm.trans (resolve_eq_ok_iff.mpr hresolves))
  obtain ⟨-, hmemory⟩ := write_of_recalls hdr hready st
  rw [hmemory]
  exact ⟨hready.unlocked, holds_keep hresolves hready.spelled (memory st)⟩

/-- A command whose values are held is written without a change. -/
theorem write_of_holds (hresolves : Resolves d command .write rs) (hunlocked : d.admin = .unlocked)
    (hholds : Holds (memory st) texts rs) :
    (write dr d command texts st).value = .ok () ∧
      memory (write dr d command texts st).state = memory st := by
  obtain ⟨vs, hspelled⟩ : ∃ vs, List.Forall₂ (Spells texts) rs vs :=
    exists_forall₂ fun r hr => (hholds r hr).imp fun _ hv => hv.1
  obtain ⟨hvalue, hmemory⟩ := write_of_recalls hdr ⟨hresolves, hspelled, hunlocked⟩ st
  rw [keep_of_holds hholds hspelled] at hmemory
  exact ⟨hvalue, hmemory⟩

/-- A reading has the name of a resource and the value that texts spell for it. -/
def GivesBack (texts : Table String) (r : Resource) (reading : Reading) : Prop :=
  reading.resource = r.name ∧ Spells texts r reading.value

omit hdr in
/-- Values that texts spell are given back as readings of these texts. -/
theorem givesBack_readingsOf (h : List.Forall₂ (Spells texts) rs vs) :
    List.Forall₂ (GivesBack texts) rs (readingsOf rs vs) := by
  induction h with
  | nil => exact .nil
  | cons hv _ ih => exact .cons ⟨rfl, hv⟩ ih

/-- A command whose values are held is read as they are. -/
theorem read_of_holds (h : Asked d command rs) (hholds : Holds (memory st) texts rs) :
    ∃ readings, (read dr d command st).value = .ok readings ∧
      List.Forall₂ (GivesBack texts) rs readings ∧
      memory (read dr d command st).state = memory st := by
  obtain ⟨vs, hvs⟩ := exists_forall₂ hholds
  have hanswer : (answer dr d rs st).value = .ok vs :=
    hdr.get_value _ _ _ _ (List.forall₂_map_left_iff.mpr (hvs.imp fun _ _ hv => hv.2))
  have hsound : Sound (dr.supports (answer dr d rs st).state) rs.length vs :=
    ⟨hvs.length_eq.symm, fun _ _ => hdr.supports _ _⟩
  refine ⟨readingsOf rs vs, read_of_sound h hanswer hsound,
    givesBack_readingsOf (hvs.imp fun _ _ hv => hv.1), ?_⟩
  rw [state_read_of_asked dr h]
  exact hdr.get_memory _ _ _

end Commands

/-! ## Readings as texts -/

/-- The texts of readings, by the names of the resources. -/
def textsOf (readings : List Reading) : Table String :=
  .ofList (readings.map fun reading => (reading.resource, reading.value.text))

/-- The text of a reading spells the value again, unless that is a floating point number. -/
theorem spells_textsOf (hresolves : Resolves d command a rs) {readings : List Reading}
    (hback : List.Forall₂ (GivesBack texts) rs readings) {r : Resource} (hr : r ∈ rs)
    (hfloat : r.valueType.isFloat = false) {v : Value} (hv : Spells texts r v) :
    Spells (textsOf readings) r v := by
  obtain ⟨-, hzip⟩ := List.forall₂_iff_zip.mp hback
  have hentry : ∃ raw, (r.name, raw) ∈
      readings.map fun reading => (reading.resource, reading.value.text) := by
    obtain ⟨reading, hreading, hname, -⟩ := exists_mem_of_forall₂ hback.flip hr
    exact ⟨reading.value.text, List.mem_map.mpr ⟨reading, hreading, by rw [hname]⟩⟩
  obtain ⟨raw, hmem, hget⟩ := Table.exists_mem_get?_foldl_insert hentry .empty
  obtain ⟨reading, hreading, he⟩ := List.mem_map.mp hmem
  obtain ⟨hname, rfl⟩ := Prod.mk.inj he
  -- another reading of the name is one of the same resource
  obtain ⟨r', hr', hname', hspells⟩ := exists_mem_of_forall₂ hback hreading
  obtain rfl := hresolves.eq_of_name_eq hr hr' (hname.symm.trans hname')
  obtain rfl := hspells.unique hv
  refine ⟨reading.value.text, hget, ?_⟩
  rw [← hv.type_eq] at hfloat ⊢
  exact Value.parse_text hfloat

/-- What is held is held for the texts of its readings as well. -/
theorem holds_textsOf (hresolves : Resolves d command a rs) {readings : List Reading}
    (hback : List.Forall₂ (GivesBack texts) rs readings) (hholds : Holds m texts rs)
    {rs' : List Resource} (hsub : ∀ r ∈ rs', r ∈ rs ∧ r.valueType.isFloat = false) :
    Holds m (textsOf readings) rs' := by
  intro r hr
  obtain ⟨hmem, hfloat⟩ := hsub r hr
  obtain ⟨v, hv, hget⟩ := hholds r hmem
  exact ⟨v, spells_textsOf hresolves hback hmem hfloat hv, hget⟩

end Command

/-! ## Commands of a service -/

namespace Service

open Activity Command

variable {δ α : Type} {s : Service δ α} {st : State δ α}

/-- A command finds its device exactly if the service runs and has it. -/
theorem commandDevice_eq_ok_iff {k : DeviceKey} {d : Device} :
    commandDevice st k = .ok d ↔ st.running = true ∧ device? st k = some d := by
  rw [commandDevice]
  rcases st.running with _ | _
  · simp
  · rcases device? st k with _ | d' <;> simp

/-- A command that is written is written by the driver, and nothing else changes. -/
theorem write_of_device {k : DeviceKey} {d : Device} (hd : commandDevice st k = .ok d)
    (command : String) (texts : Table String) :
    let o := Command.write s.driver d command texts st.driver
    (s.write k command texts st).value = o.value.mapError .command ∧
      (s.write k command texts st).state = { st with driver := o.state } := by
  intro o
  have hvalue : ((Command.write s.driver d command texts).on driverPart st).value = o.value := rfl
  rw [write, look_bind, hd]
  dsimp only
  rw [value_bind, state_bind, hvalue]
  rcases o.value with e | ⟨⟩ <;> exact ⟨rfl, rfl⟩

/-- A command that is read is read by the driver, and nothing else changes. -/
theorem read_of_device {k : DeviceKey} {d : Device} (hd : commandDevice st k = .ok d)
    (command : String) :
    let o := Command.read s.driver d command st.driver
    (s.read k command st).value = (o.value.map (d, ·)).mapError .command ∧
      (s.read k command st).state = { st with driver := o.state } := by
  intro o
  have hvalue : ((Command.read s.driver d command).on driverPart st).value = o.value := rfl
  rw [read, look_bind, hd]
  dsimp only
  rw [value_bind, state_bind, hvalue]
  rcases o.value with e | readings <;> exact ⟨rfl, rfl⟩

/-- What a command that is written must have come to. -/
theorem write_of_ok {k : DeviceKey} {command : String} {texts : Table String}
    (h : (s.write k command texts st).value = .ok ()) :
    ∃ d, commandDevice st k = .ok d ∧
      (Command.write s.driver d command texts st.driver).value = .ok () := by
  rcases hd : commandDevice st k with e | d
  · rw [write, look_bind, hd] at h
    cases h
  · obtain ⟨hvalue, -⟩ := write_of_device hd command texts
    rw [hvalue] at h
    rcases hwrite : (Command.write s.driver d command texts st.driver).value with e | ⟨⟩
    · rw [hwrite] at h
      cases h
    · exact ⟨d, rfl, hwrite⟩

/-- **What is written is what is read**, if the driver remembers. After a command has been written,
every command that reads none but its resources returns, in its own order, what the texts spell for
them. If these readings are written again as they are shown, through any command that sets none but
those resources and no floating point number, the driver's memory stays as it is. -/
theorem read_of_write {memory : δ → Table Value} (hdriver : s.driver.Recalls memory)
    {k k' : DeviceKey} {d : Device} (hk : device? st k = some d) (hk' : device? st k' = some d)
    {command command' : String} {texts : Table String} {rs rs' : List Resource}
    (hwrite : (s.write k command texts st).value = .ok ())
    (hset : Resolves d command .write rs) (hget : Resolves d command' .read rs')
    (hsub : ∀ r ∈ rs', r ∈ rs) :
    let written := (s.write k command texts st).state
    let seen := (s.read k' command' written).state
    ∃ readings, (s.read k' command' written).value = .ok (d, readings) ∧
      List.Forall₂ (GivesBack texts) rs' readings ∧
      ∀ k'' command'' rs'', device? st k'' = some d → Resolves d command'' .write rs'' →
        (∀ r ∈ rs'', r ∈ rs' ∧ r.valueType.isFloat = false) →
          let again := s.write k'' command'' (textsOf readings) seen
          again.value = .ok () ∧ memory again.state.driver = memory written.driver := by
  intro written seen
  obtain ⟨d', hd, hok⟩ := write_of_ok hwrite
  obtain ⟨hrun, hfound⟩ := commandDevice_eq_ok_iff.mp hd
  obtain rfl := Option.some.inj (hfound.symm.trans hk)
  obtain ⟨hunlocked, hholds⟩ := holds_of_write hdriver hset hok
  have hwritten : written = { st with driver := _ } := (write_of_device hd command texts).2
  -- the device is found after a command as it was before
  have hd' : commandDevice written k' = .ok d' := by
    rw [commandDevice_eq_ok_iff, hwritten]
    exact ⟨hrun, hk'⟩
  have hheld : Holds (memory written.driver) texts rs' := by
    rw [hwritten]
    exact fun r hr => hholds r (hsub r hr)
  obtain ⟨readings, hread, hback, hmemory⟩ := read_of_holds hdriver ⟨hget, hunlocked⟩ hheld
  have hvalue : (s.read k' command' written).value = .ok (d', readings) := by
    rw [(read_of_device hd' command').1, hread]
    rfl
  have hseen : seen = { written with driver := _ } := (read_of_device hd' command').2
  have hkept : memory seen.driver = memory written.driver := by
    rw [hseen]
    exact hmemory
  refine ⟨readings, hvalue, hback, fun k'' command'' rs'' hk'' hset' hsub' => ?_⟩
  have hd'' : commandDevice seen k'' = .ok d' := by
    rw [commandDevice_eq_ok_iff, hseen, hwritten]
    exact ⟨hrun, hk''⟩
  have hagain : Holds (memory seen.driver) (textsOf readings) rs'' := by
    rw [hkept]
    exact holds_textsOf hget hback hheld hsub'
  obtain ⟨hok', hsame⟩ := write_of_holds hdriver hset' hunlocked hagain
  obtain ⟨hvalue', hstate⟩ := write_of_device hd'' command'' (textsOf readings)
  refine ⟨?_, ?_⟩
  · rw [hvalue', hok']
    rfl
  · rw [hstate]
    exact hsame.trans hkept

/-- A pump whose speed is defined twice, and whose command `label` hides the resource of that name.
It is written by its identifier, read by its name, and its speed is written again by itself. -/
theorem read_of_write_of_script :
    let s : Service (Table Value) (List (List UInt8)) := ⟨.standard, .echo, .scripted, none⟩
    let resources := Utf8.ofString "\"deviceResources\":["
      ++ Utf8.ofString "\x7b\"name\":\"speed\",\"valueType\":\"Uint8\"\x7d,"
      ++ Utf8.ofString "\x7b\"name\":\"label\",\"valueType\":\"String\"\x7d,"
      ++ Utf8.ofString "\x7b\"name\":\"speed\",\"valueType\":\"Bool\"\x7d],"
    let commands := Utf8.ofString "\"deviceCommands\":["
      ++ Utf8.ofString "\x7b\"name\":\"all\",\"set\":[\"speed\",\"label\",\"speed\"]\x7d,"
      ++ Utf8.ofString "\x7b\"name\":\"label\",\"get\":[\"speed\",\"label\",\"speed\"]\x7d]"
    let listed := Utf8.ofString "[\x7b\"id\":\"1\",\"name\":\"pump\","
      ++ Utf8.ofString "\"service\":\x7b\"name\":\"device-service\"\x7d,\"profile\":\x7b"
      ++ resources ++ commands ++ Utf8.ofString "\x7d\x7d]"
    let st := s.run [.start (.ok [])] (.initial .empty [listed])
    let speed := Resource.ofName "speed" .uint8
    let label := Resource.ofName "label" .string
    let d := (Device.ofName "1" "pump" "device-service").withProfile
      ⟨"", [speed, label, .ofName "speed" .bool],
        [⟨"all", [], ["speed", "label", "speed"]⟩, ⟨"label", ["speed", "label", "speed"], []⟩]⟩
    let texts := Table.ofList [("speed", " 007 "), ("label", " up ")]
    let written := (s.write (.id "1") "all" texts st).state
    let seen := (s.read (.name "pump") "label" written).state
    (device? st (.id "1") = some d ∧ device? st (.name "pump") = some d ∧
      (s.write (.id "1") "all" texts st).value = .ok () ∧ written.driver.size = 2) ∧
      ∃ readings, (s.read (.name "pump") "label" written).value = .ok (d, readings) ∧
        List.Forall₂ (GivesBack texts) [speed, label, speed] readings ∧
        let again := s.write (.id "1") "speed" (textsOf readings) seen
        again.value = .ok () ∧ again.state.driver = written.driver := by
  intro s resources commands listed st speed label d texts written seen
  obtain ⟨hrun, hid, hname, hempty⟩ : st.running = true ∧ device? st (.id "1") = some d ∧
      device? st (.name "pump") = some d ∧ st.driver = .empty := by decide +kernel
  have hput : (Command.write Driver.echo d "all" texts .empty).value = .ok () ∧
      (Command.write Driver.echo d "all" texts .empty).state.size = 2 := by decide +kernel
  have hset : resolve d "all" .write = .ok [speed, label, speed] := by decide +kernel
  have hget : resolve d "label" .read = .ok [speed, label, speed] := by decide +kernel
  have hset' : resolve d "speed" .write = .ok [speed] := by decide +kernel
  have hsub : ∀ r ∈ [speed], r ∈ [speed, label, speed] ∧ r.valueType.isFloat = false := by
    decide +kernel
  clear_value st d
  have hd : commandDevice st (.id "1") = .ok d := commandDevice_eq_ok_iff.mpr ⟨hrun, hid⟩
  have hdevice := write_of_device (s := s) hd "all" texts
  rw [hempty] at hdevice
  obtain ⟨hvalue, hstate⟩ := hdevice
  have hwrite : (s.write (.id "1") "all" texts st).value = .ok () := by
    rw [hvalue]
    exact congrArg (Except.mapError ServiceError.command) hput.1
  have hwritten : written = { st with driver := _ } := hstate
  have hsize : written.driver.size = 2 := by
    rw [hwritten]
    exact hput.2
  obtain ⟨readings, hread, hback, hagain⟩ := read_of_write Driver.recalls_echo hid hname hwrite
    (resolve_eq_ok_iff.mp hset) (resolve_eq_ok_iff.mp hget) fun r hr => hr
  refine ⟨⟨hid, hname, hwrite, hsize⟩, readings, hread, hback, ?_⟩
  exact hagain (.id "1") "speed" [speed] hid (resolve_eq_ok_iff.mp hset') hsub

end Service

end DeviceHost
