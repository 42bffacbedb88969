import DeviceHost.Device.Decode
import DeviceHost.Proofs.Json
import DeviceHost.Proofs.Octets
import DeviceHost.Proofs.Table

/-!
# Device documents are read back

A device that is written as a document and read again is the same device: every text with every
character, the protocols in their order with repeated names, every list in its order, and the
unordered tables as tables. `documents_readBack` says so for devices and for profiles.

* `Json.Spells j read a` — the reader `read` makes the value `a` of the document `j`, also when `j`
  is written out and read back first. There is one lemma for each kind of value (`spells_text`,
  `spells_variant`, `spells_list`, …), and one for all kinds of records (`Schema.spells_record`);
* `Device.WrittenAs`, `Profile.WrittenAs` — the documents of a device and of a profile. There may be
  several, since nothing says in which order the entries of a table are written; `Device.json` and
  `Profile.json` are among them, with the entries in the order of their keys.
-/

namespace DeviceHost

open Json

variable {α : Type}

/-- A document that is read back as it was written, and of which a reader makes a value. -/
structure Json.Spells (j : Json) (read : Node → Except Problem α) (a : α) : Prop where
  /-- it is read back as it was written -/
  numberless : j.Numberless
  /-- what the reader makes of it -/
  read : read j.node = .ok a

namespace Json

/-- The octets of a document spell that document. -/
theorem read?_ofString_text {j : Json} (h : j.Numberless) :
    Node.read? (Utf8.decode (Utf8.ofString j.text)) = some j.node := by
  rw [Utf8.ofString, Utf8.decode_encode, Json.text, String.toList_ofList]
  exact Node.read?_chars h

/-! ### Plain values -/

theorem spells_text (s : String) : (string s).Spells readText s :=
  ⟨.string s, rfl⟩

theorem spells_bool (b : Bool) : (bool b).Spells readBool b :=
  ⟨.bool b, rfl⟩

/-- A word spells the variant that it is read as. -/
theorem spells_variant {words : List (String × α)} {s : String} {a : α}
    (h : readWord words s = .ok a) : (string s).Spells (readVariant words) a :=
  ⟨.string s, h⟩

theorem spells_valueType (t : ValueType) : (string t.name).Spells readValueType t :=
  ⟨.string _, by cases t <;> rfl⟩

/-! ### Lists -/

theorem forall_of_forall₂ {β γ : Type} {R : β → γ → Prop} {P : β → Prop} {xs : List β}
    {ys : List γ} (h : List.Forall₂ R xs ys) (hP : ∀ x y, R x y → P x) : ∀ x ∈ xs, P x :=
  ((List.forall₂_and_left xs ys).mp (h.imp fun x y hxy => ⟨hP x y hxy, hxy⟩)).1

/-- Items that are read one by one are read as a list. -/
theorem readItems_eq_ok {item : Node → Except Problem α} {ns : List Node} {as : List α}
    (h : List.Forall₂ (fun n a => item n = .ok a) ns as) : readItems item ns = .ok as := by
  induction h with
  | nil => rfl
  | cons hn _ ih =>
    simp only [readItems, hn, ih]
    rfl

/-- A list of documents spells the list of what each of them spells. -/
theorem spells_list {item : Node → Except Problem α} {js : List Json} {as : List α}
    (h : List.Forall₂ (fun j a => j.Spells item a) js as) :
    (array js).Spells (readList item) as := by
  refine ⟨.array (forall_of_forall₂ h fun _ _ hj => hj.numberless), ?_⟩
  rw [node, itemNodes_eq_map, readList]
  exact readItems_eq_ok (List.forall₂_map_left_iff.mpr (h.imp fun _ _ hj => hj.read))

/-- If each element is spelled by its document, a list is spelled by the list of documents. -/
theorem spells_map {item : Node → Except Problem α} {document : α → Json}
    (h : ∀ a, (document a).Spells item a) (as : List α) :
    (array (as.map document)).Spells (readList item) as :=
  spells_list (List.forall₂_map_left_iff.mpr (List.forall₂_same.mpr fun a _ => h a))

end Json

/-! ### Records -/

namespace Schema

variable {s : Schema α}

/-- The fields of a schema can be told apart by their names. -/
structure Distinct (s : Schema α) : Prop where
  /-- no field is listed twice -/
  nodup : s.fields.Nodup
  /-- each field is found under its name -/
  field?_name : ∀ f, s.field? (s.name f) = some f

theorem Draft.set_self (d : s.Draft) (f : s.Field) (c : s.Content f) : d.set f c f = some c := by
  simp only [set]
  split
  · rfl
  · contradiction

theorem Draft.set_of_ne (d : s.Draft) {f g : s.Field} (h : f ≠ g) (c : s.Content f) :
    d.set f c g = d g := by
  simp only [set]
  split
  · contradiction
  · rfl

/-- A draft with every field filled in is a record; no default is needed. -/
theorem Draft.finish_of_full {d : s.Draft} {c : (f : s.Field) → s.Content f}
    (h : ∀ f, d f = some (c f)) : d.finish = .ok (s.make c) := by
  have hvalue : ∀ f, d.value? f = some (c f) := fun f => by rw [value?, h, Option.some_or]
  have hall : ∀ f ∈ s.fields, (d.value? f).isSome := fun f _ => by rw [hvalue]; rfl
  rw [finish, dif_pos hall]
  congr
  funext f
  simp only [hvalue, Option.get_some]

/-- Members that are fields not filled in yet, none of them twice, are all taken. -/
theorem takeMembers_fields (hs : s.Distinct) {c : (f : s.Field) → s.Content f}
    {fs : List s.Field} {members : List (Option String × Node)}
    (h : List.Forall₂ (fun f m => m.1 = some (s.name f) ∧ s.readField f m.2 = .ok (c f)) fs members)
    (hfs : fs.Nodup) {d : s.Draft} (hd : ∀ f ∈ fs, d f = none) :
    ∃ d', s.takeMembers d members = .ok d' ∧ (∀ f ∈ fs, d' f = some (c f)) ∧
      ∀ f, f ∉ fs → d' f = d f := by
  induction h generalizing d with
  | nil => exact ⟨d, rfl, nofun, fun _ _ => rfl⟩
  | @cons f m fs members hm _ ih =>
    obtain ⟨k, n⟩ := m
    obtain ⟨rfl, hread⟩ := hm
    obtain ⟨hnew, hrest⟩ := List.nodup_cons.mp hfs
    have htake : s.takeMember d (some (s.name f), n) = .ok (d.set f (c f)) := by
      have hfree : d f = none := hd f (List.mem_cons_self ..)
      simp only [takeMember, hs.field?_name, hfree, hread]
      rfl
    -- no name comes twice, so the other fields are still free
    have hd' : ∀ g ∈ fs, d.set f (c f) g = none := by
      intro g hg
      have hne : f ≠ g := fun heq => hnew (heq ▸ hg)
      rw [d.set_of_ne hne]
      exact hd g (List.mem_cons_of_mem f hg)
    obtain ⟨d', htaken, hfilled, hother⟩ := ih hrest hd'
    refine ⟨d', ?_, ?_, ?_⟩
    · simp only [takeMembers, htake, htaken]
    · intro g hg
      rcases List.mem_cons.mp hg with rfl | hg
      · rw [hother g hnew, d.set_self]
      · exact hfilled g hg
    · intro g hg
      rw [List.mem_cons, not_or] at hg
      rw [hother g hg.2, d.set_of_ne (Ne.symm hg.1)]

/-- A record that gives every field once, in the order of declaration, is read as the record of
these fields. -/
theorem spells_record (hs : s.Distinct) {c : (f : s.Field) → s.Content f}
    {members : List (String × Json)}
    (h : List.Forall₂ (fun f m => m.1 = s.name f ∧ m.2.Spells (s.readField f) (c f)) s.fields
      members) : (object members).Spells s.read (s.make c) := by
  have hnumberless : ∀ m ∈ members, m.2.Numberless :=
    forall_of_forall₂ h.flip fun _ _ hm => hm.2.numberless
  have hmembers : List.Forall₂ (fun f m => m.1 = some (s.name f) ∧ s.readField f m.2 = .ok (c f))
      s.fields (memberNodes members) := by
    rw [memberNodes_eq_map, List.forall₂_map_right_iff]
    exact h.imp fun f m hm => ⟨congrArg some hm.1, hm.2.read⟩
  obtain ⟨d, htaken, hfilled, -⟩ :=
    takeMembers_fields hs hmembers hs.nodup (d := .empty s) fun _ _ => rfl
  refine ⟨.object hnumberless, ?_⟩
  simp only [node, read, htaken]
  exact Draft.finish_of_full fun f => hfilled f (s.mem_fields f)

/-- The octets of a document give the record that the document spells. -/
theorem decode_text {j : Json} {a : α} (h : j.Spells s.read a) :
    s.decode (Utf8.ofString j.text) = .ok a := by
  simp only [decode, Json.read?_ofString_text h.numberless, h.read]

end Schema

/-! ### Tables and protocols -/

/-- A document of a table: its entries, in any order. -/
def Table.WrittenAs (t : Table String) (j : Json) : Prop :=
  ∃ es : List (String × String), es.Perm t.toList ∧
    j = .object (es.map fun e => (e.1, .string e.2))

/-- The document of a table is one of the ways in which the table may be written. -/
theorem Table.writtenAs_json (t : Table String) : t.WrittenAs t.json :=
  ⟨t.toList, .refl _, rfl⟩

theorem readTextMembers_entries (es : List (String × String)) :
    readTextMembers (memberNodes (es.map fun e => (e.1, .string e.2))) = .ok es := by
  induction es with
  | nil => rfl
  | cons e es ih =>
    simp only [List.map_cons, memberNodes, node, readTextMembers, readText, ih]
    rfl

/-- A table is read back from its entries in any order. -/
theorem Table.WrittenAs.spells {t : Table String} {j : Json} (h : t.WrittenAs j) :
    j.Spells readTable t := by
  obtain ⟨es, hes, rfl⟩ := h
  constructor
  case numberless =>
    refine .object fun m hm => ?_
    obtain ⟨e, -, rfl⟩ := List.mem_map.mp hm
    exact .string e.2
  case read =>
    rw [node, readTable, readTextMembers_entries]
    exact congrArg Except.ok (ofList_of_perm hes)

/-- A document of a list of protocols: an object whose members are the protocols, in order. -/
def ProtocolsWrittenAs (ps : List Protocol) (j : Json) : Prop :=
  ∃ members : List (String × Json),
    List.Forall₂ (fun m p => m.1 = Protocol.name p ∧ p.properties.WrittenAs m.2) members ps ∧
      j = .object members

theorem protocolsWrittenAs_json (ps : List Protocol) :
    ProtocolsWrittenAs ps (protocolsJson ps) := by
  refine ⟨_, List.forall₂_map_left_iff.mpr (List.forall₂_same.mpr fun p _ => ?_), rfl⟩
  exact ⟨rfl, p.properties.writtenAs_json⟩

/-- Protocols that are read one by one are read as the protocols of a device. -/
theorem readProtocolMembers_eq_ok {members : List (Option String × Node)} {ps : List Protocol}
    (h : List.Forall₂ (fun m p => m.1 = some (Protocol.name p) ∧
      readTable m.2 = .ok p.properties) members ps) : readProtocolMembers members = .ok ps := by
  induction h with
  | nil => rfl
  | @cons m p members ps hm _ ih =>
    obtain ⟨k, n⟩ := m
    obtain ⟨rfl, hn⟩ := hm
    simp only [readProtocolMembers, hn, ih]
    rfl

/-- Protocols are read back in their order, from the properties in any order. -/
theorem ProtocolsWrittenAs.spells {ps : List Protocol} {j : Json} (h : ProtocolsWrittenAs ps j) :
    j.Spells readProtocols ps := by
  obtain ⟨members, hmembers, rfl⟩ := h
  refine ⟨.object (forall_of_forall₂ hmembers fun _ _ hm => hm.2.spells.numberless), ?_⟩
  rw [node, memberNodes_eq_map, readProtocols]
  refine readProtocolMembers_eq_ok (List.forall₂_map_left_iff.mpr (hmembers.imp fun m p hm => ?_))
  exact ⟨congrArg some hm.1, hm.2.spells.read⟩

/-! ### Resources, commands and profiles -/

theorem AccessMode.readWord_name (m : AccessMode) :
    readWord words m.name = .ok m := by
  cases m <;> rfl

/-- What a resource holds in each field. -/
def Resource.content (r : Resource) : (f : ResourceField) → schema.Content f
  | .name => r.name
  | .description => r.description
  | .attributes => r.attributes
  | .valueType => r.valueType
  | .readWrite => r.mode

theorem Resource.schema_distinct : schema.Distinct :=
  ⟨by simp [schema], by rintro ⟨⟩ <;> rfl⟩

/-- A document of a resource. -/
def Resource.WrittenAs (r : Resource) (j : Json) : Prop :=
  ∃ attributes, r.attributes.WrittenAs attributes ∧
    j = .object [("name", .string r.name), ("description", .string r.description),
      ("attributes", attributes), ("valueType", .string r.valueType.name),
      ("readWrite", .string r.mode.name)]

theorem Resource.writtenAs_json (r : Resource) : r.WrittenAs r.json :=
  ⟨_, r.attributes.writtenAs_json, rfl⟩

/-- A resource is read back from each way of writing it. -/
theorem Resource.WrittenAs.spells {r : Resource} {j : Json} (h : r.WrittenAs j) :
    j.Spells schema.read r := by
  obtain ⟨attributes, hattributes, rfl⟩ := h
  refine Schema.spells_record schema_distinct (c := r.content) ?_
  refine .cons ⟨rfl, spells_text _⟩ (.cons ⟨rfl, spells_text _⟩ ?_)
  refine .cons ⟨rfl, hattributes.spells⟩ (.cons ⟨rfl, spells_valueType _⟩ ?_)
  exact .cons ⟨rfl, spells_variant r.mode.readWord_name⟩ .nil

/-- What a command holds in each field. -/
def ProfileCommand.content (c : ProfileCommand) : (f : CommandField) → schema.Content f
  | .name => c.name
  | .get => c.get
  | .set => c.set

theorem ProfileCommand.schema_distinct : schema.Distinct :=
  ⟨by simp [schema], by rintro ⟨⟩ <;> rfl⟩

theorem ProfileCommand.spells_json (c : ProfileCommand) : c.json.Spells schema.read c := by
  refine Schema.spells_record schema_distinct (c := c.content) ?_
  refine .cons ⟨rfl, spells_text _⟩ (.cons ⟨rfl, spells_map spells_text _⟩ ?_)
  exact .cons ⟨rfl, spells_map spells_text _⟩ .nil

/-- What a profile holds in each field. -/
def Profile.content (p : Profile) : (f : ProfileField) → schema.Content f
  | .name => p.name
  | .resources => p.resources
  | .commands => p.commands

theorem Profile.schema_distinct : schema.Distinct :=
  ⟨by simp [schema], by rintro ⟨⟩ <;> rfl⟩

/-- A document of a profile. -/
def Profile.WrittenAs (p : Profile) (j : Json) : Prop :=
  ∃ resources, List.Forall₂ (fun j r => Resource.WrittenAs r j) resources p.resources ∧
    j = .object [("name", .string p.name), ("deviceResources", .array resources),
      ("deviceCommands", .array (p.commands.map ProfileCommand.json))]

theorem Profile.writtenAs_json (p : Profile) : p.WrittenAs p.json := by
  refine ⟨_, List.forall₂_map_left_iff.mpr (List.forall₂_same.mpr fun r _ => ?_), rfl⟩
  exact r.writtenAs_json

theorem Profile.WrittenAs.spells {p : Profile} {j : Json} (h : p.WrittenAs j) :
    j.Spells schema.read p := by
  obtain ⟨resources, hresources, rfl⟩ := h
  refine Schema.spells_record schema_distinct (c := p.content) ?_
  refine .cons ⟨rfl, spells_text _⟩ (.cons ⟨rfl, ?_⟩ ?_)
  · exact spells_list (hresources.imp fun _ _ hr => hr.spells)
  · exact .cons ⟨rfl, spells_map ProfileCommand.spells_json _⟩ .nil

/-! ### Devices -/

theorem AdminState.readWord_name (s : AdminState) :
    readWord words s.name = .ok s := by
  cases s <;> rfl

theorem OperatingState.readWord_name (s : OperatingState) :
    readWord words s.name = .ok s := by
  cases s <;> rfl

/-- What an automatic reading holds in each field. -/
def AutoEvent.content (e : AutoEvent) : (f : AutoEventField) → schema.Content f
  | .resource => e.resource
  | .frequency => e.frequency
  | .onChange => e.onChange

theorem AutoEvent.schema_distinct : schema.Distinct :=
  ⟨by simp [schema], by rintro ⟨⟩ <;> rfl⟩

theorem AutoEvent.spells_json (e : AutoEvent) : e.json.Spells schema.read e := by
  refine Schema.spells_record schema_distinct (c := e.content) ?_
  refine .cons ⟨rfl, spells_text _⟩ (.cons ⟨rfl, spells_text _⟩ ?_)
  exact .cons ⟨rfl, spells_bool _⟩ .nil

theorem ownerSchema_distinct : ownerSchema.Distinct :=
  ⟨by simp [ownerSchema], fun _ => rfl⟩

theorem spells_owner (service : String) :
    (object [("name", .string service)]).Spells ownerSchema.read service := by
  refine Schema.spells_record ownerSchema_distinct (c := fun _ => service) ?_
  exact .cons ⟨rfl, spells_text service⟩ .nil

/-- What a device holds in each field. -/
def Device.content (d : Device) : (f : DeviceField) → schema.Content f
  | .id => d.id
  | .name => d.name
  | .description => d.description
  | .labels => d.labels
  | .adminState => d.admin
  | .operatingState => d.operating
  | .service => d.service
  | .protocols => d.protocols
  | .profile => d.profile
  | .autoEvents => d.autoEvents

theorem Device.schema_distinct : schema.Distinct :=
  ⟨by simp [schema], by rintro ⟨⟩ <;> rfl⟩

/-- A document of a device. -/
def Device.WrittenAs (d : Device) (j : Json) : Prop :=
  ∃ protocols profile, ProtocolsWrittenAs d.protocols protocols ∧ d.profile.WrittenAs profile ∧
    j = .object [("id", .string d.id), ("name", .string d.name),
      ("description", .string d.description), ("labels", .array (d.labels.map .string)),
      ("adminState", .string d.admin.name), ("operatingState", .string d.operating.name),
      ("service", .object [("name", .string d.service)]), ("protocols", protocols),
      ("profile", profile), ("autoEvents", .array (d.autoEvents.map AutoEvent.json))]

theorem Device.writtenAs_json (d : Device) : d.WrittenAs d.json :=
  ⟨_, _, protocolsWrittenAs_json d.protocols, d.profile.writtenAs_json, rfl⟩

/-- A device is read back from each way of writing it. -/
theorem Device.WrittenAs.spells {d : Device} {j : Json} (h : d.WrittenAs j) :
    j.Spells schema.read d := by
  obtain ⟨protocols, profile, hprotocols, hprofile, rfl⟩ := h
  refine Schema.spells_record schema_distinct (c := d.content) ?_
  refine .cons ⟨rfl, spells_text _⟩ (.cons ⟨rfl, spells_text _⟩ (.cons ⟨rfl, spells_text _⟩ ?_))
  refine .cons ⟨rfl, spells_map spells_text _⟩ ?_
  refine .cons ⟨rfl, spells_variant d.admin.readWord_name⟩ ?_
  refine .cons ⟨rfl, spells_variant d.operating.readWord_name⟩ ?_
  refine .cons ⟨rfl, spells_owner _⟩ ?_
  refine .cons ⟨rfl, hprotocols.spells⟩ (.cons ⟨rfl, hprofile.spells⟩ ?_)
  exact .cons ⟨rfl, spells_map AutoEvent.spells_json _⟩ .nil

/-- **Documents of devices and profiles are read back**: whatever a device or a profile holds, and
in whatever order the entries of its tables are written, its document is read as that very device
or profile. -/
theorem documents_readBack :
    (∀ d : Device, d.WrittenAs d.json ∧
      ∀ j, d.WrittenAs j → Device.decode (Utf8.ofString j.text) = .ok d) ∧
    (∀ p : Profile, p.WrittenAs p.json ∧
      ∀ j, p.WrittenAs j → Profile.decode (Utf8.ofString j.text) = .ok p) := by
  refine ⟨fun d => ⟨d.writtenAs_json, fun j hj => ?_⟩, fun p => ⟨p.writtenAs_json, fun j hj => ?_⟩⟩
  · exact Schema.decode_text hj.spells
  · exact Schema.decode_text hj.spells

/-- A meter with two protocols of one name, and with a quotation mark and a line end in texts. -/
def Device.meter : Device :=
  (ofName "m\"1" "meter" "device-modbus")
    |>.withProtocol (((Protocol.ofName "modbus").withProperty "addr" "1").withProperty "unit" "3")
    |>.withProtocol (.ofName "modbus")
    |>.withProfile ((Profile.ofName "energy").withResource
      (((Resource.ofName "power" .float32).withAttribute "register" "40\n001").withAttribute
        "unit" "kW"))

/-- The profile of the meter, the attributes of its resource in descending order. -/
def Device.meterProfile : Json :=
  .object [("name", .string "energy"), ("deviceResources", .array [.object [
      ("name", .string "power"), ("description", .string ""),
      ("attributes", .object [("unit", .string "kW"), ("register", .string "40\n001")]),
      ("valueType", .string "Float32"), ("readWrite", .string "RW")]]),
    ("deviceCommands", .array [])]

/-- The meter, the properties of its first protocol in descending order. -/
def Device.meterDocument : Json :=
  .object [("id", .string "m\"1"), ("name", .string "meter"), ("description", .string ""),
    ("labels", .array []), ("adminState", .string "UNLOCKED"),
    ("operatingState", .string "ENABLED"), ("service", .object [("name", .string "device-modbus")]),
    ("protocols", .object [("modbus", .object [("unit", .string "3"), ("addr", .string "1")]),
      ("modbus", .object [])]),
    ("profile", meterProfile), ("autoEvents", .array [])]

theorem Device.meter_writtenAs : meter.profile.WrittenAs meterProfile ∧
    meter.WrittenAs meterDocument := by
  have hprofile : meter.profile.WrittenAs meterProfile :=
    ⟨_, .cons ⟨_, ⟨[("unit", "kW"), ("register", "40\n001")], by decide +kernel, rfl⟩, rfl⟩ .nil,
      rfl⟩
  have hprotocols : ProtocolsWrittenAs meter.protocols (.object [("modbus", .object [
      ("unit", .string "3"), ("addr", .string "1")]), ("modbus", .object [])]) :=
    ⟨_, .cons ⟨rfl, [("unit", "3"), ("addr", "1")], by decide +kernel, rfl⟩
      (.cons ⟨rfl, [], .nil, rfl⟩ .nil), rfl⟩
  exact ⟨hprofile, _, _, hprotocols, hprofile, rfl⟩

/-- The device and the profile of a meter, whose properties are written in another order. -/
theorem documents_readBack_of_meter :
    (Device.meter.profile.WrittenAs Device.meterProfile ∧
      Device.meter.WrittenAs Device.meterDocument) ∧
    Device.decode (Utf8.ofString Device.meterDocument.text) = .ok Device.meter ∧
    Profile.decode (Utf8.ofString Device.meterProfile.text) = .ok Device.meter.profile :=
  ⟨Device.meter_writtenAs, (documents_readBack.1 _).2 _ Device.meter_writtenAs.2,
    (documents_readBack.2 _).2 _ Device.meter_writtenAs.1⟩

end DeviceHost
