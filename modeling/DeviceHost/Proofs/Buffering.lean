import DeviceHost.Device.Decode
import DeviceHost.Proofs.Json

/-!
# The buffer makes no difference

A device is read straight from its document, or it is looked for in the buffer that an entry of a
list was put into. These are two readers of their own: the one takes the tree apart and stops at the
first problem, the other one looks into a generic value and only answers whether there is a device.

`Json.Agree` says that two readers find the same. There is one lemma for each kind of value
(`agree_text`, `agree_table`, `agree_variant`, …) and one for all kinds of records
(`Schema.agree_read`), given as objects or as arrays. So `Device.agree_read` covers what may be
wrong at any depth: members that no record knows, fields given twice or under their second name,
null, and values of the wrong kind.
-/

namespace DeviceHost

open Json

variable {α : Type}

/-- A reader finds in a document what another one finds in the buffer with the same value. -/
def Json.Agree (read : Node → Except Problem α) (buffered? : Json → Option α) : Prop :=
  ∀ j : Json, buffered? j = (read j.node).toOption

namespace Json

/-! ### Plain values -/

theorem agree_text : Agree readText asText? := by
  intro j
  cases j <;> rfl

theorem agree_bool : Agree readBool asBool? := by
  intro j
  cases j <;> rfl

theorem agree_valueType : Agree readValueType asValueType? := by
  intro j
  rw [asValueType?, agree_text j, readValueType]
  rcases readText j.node with e | s
  · rfl
  · simp only [Except.toOption, Option.bind_some]
    cases ValueType.ofName? s <;> rfl

/-- Looking up a buffered word succeeds exactly where reading it from the document does. -/
theorem lookup_eq_readWord (words : List (String × α)) (s : String) :
    words.lookup s = (readWord words s).toOption := by
  have hfind : words.lookup s = (words.find? fun w => w.1 == s).map Prod.snd := by
    induction words with
    | nil => rfl
    | cons w words ih =>
      rw [List.lookup_cons, List.find?_cons, BEq.comm, ih]
      cases w.1 == s <;> rfl
  rw [hfind, readWord]
  cases words.find? fun w => w.1 == s <;> rfl

/-- An object with more than one member is no word: in the document its first member is read before
the second one is noticed, in the buffer the members are counted first. -/
theorem agree_variant (words : List (String × α)) :
    Agree (readVariant words) (asVariant? words) := by
  intro j
  cases j with
  | string s => exact lookup_eq_readWord words s
  | object members =>
    rw [node, memberNodes_eq_map]
    rcases members with _ | ⟨⟨k, v⟩, r⟩
    · rfl
    · simp only [List.map_cons, readVariant]
      rcases hword : readWord words k with e | a <;> cases v <;> cases r <;>
        simp [asVariant?, node, lookup_eq_readWord, hword, Except.toOption]
  | _ => rfl

/-! ### Lists and tables -/

/-- Items are taken from a buffer as they are read, if each single one is. -/
theorem mapM_eq_readItems {item : Node → Except Problem α} {item? : Json → Option α}
    (h : Agree item item?) (js : List Json) :
    js.mapM item? = (readItems item (js.map node)).toOption := by
  induction js with
  | nil => rfl
  | cons j js ih =>
    rw [List.mapM_cons, h j, ih, List.map_cons, readItems]
    rcases item j.node with e | a
    · rfl
    · cases readItems item (js.map node) <;> rfl

/-- A list is taken from a buffer as it is read, if its items are. -/
theorem agree_list {item : Node → Except Problem α} {item? : Json → Option α}
    (h : Agree item item?) : Agree (readList item) (asList? item?) := by
  intro j
  cases j with
  | array js =>
    rw [node, itemNodes_eq_map]
    exact mapM_eq_readItems h js
  | _ => rfl

/-- Filling a table member by member comes to the same as reading all members and putting them into
a table afterwards. -/
theorem foldlM_insert_eq_readTextMembers (members : List (String × Json)) (t : Table String) :
    members.foldlM (fun t m => m.2.asText?.map fun v => t.insert m.1 v) t
      = ((readTextMembers (memberNodes members)).map fun es =>
          es.foldl (fun t e => t.insert e.1 e.2) t).toOption := by
  induction members generalizing t with
  | nil => rfl
  | cons m members ih =>
    rw [List.foldlM_cons, memberNodes, readTextMembers, agree_text m.2]
    rcases readText m.2.node with e | v
    · rfl
    · simp only [Except.toOption, Option.map_some, Option.bind_eq_bind, Option.bind_some, ih]
      cases readTextMembers (memberNodes members) <;> rfl

/-- A table of texts is taken from a buffer as it is read. -/
theorem agree_table : Agree readTable asTable? := by
  intro j
  cases j with
  | object members => exact foldlM_insert_eq_readTextMembers members Table.empty
  | _ => rfl

/-- Protocols keep the order of their members in a buffer, as in the document. -/
theorem mapM_eq_readProtocolMembers (members : List (String × Json)) :
    (members.mapM fun m => m.2.asTable?.map fun t => (⟨m.1, t⟩ : Protocol))
      = (readProtocolMembers (memberNodes members)).toOption := by
  induction members with
  | nil => rfl
  | cons m members ih =>
    rw [List.mapM_cons, memberNodes, readProtocolMembers, agree_table m.2, ih]
    rcases readTable m.2.node with e | t
    · rfl
    · cases readProtocolMembers (memberNodes members) <;> rfl

/-- The protocols keep their order and the names that come twice on their way through the buffer. -/
theorem agree_protocols : Agree readProtocols asProtocols? := by
  intro j
  cases j with
  | object members => exact mapM_eq_readProtocolMembers members
  | _ => rfl

end Json

/-! ### Records -/

namespace Schema

variable {s : Schema α}

/-- Every field of a schema has two readers that agree. -/
def FieldsAgree (s : Schema α) : Prop :=
  ∀ f, Agree (s.readField f) (s.bufferedField? f)

/-- One member of a buffered object changes the draft as the member of the document does. -/
theorem addMember?_eq (h : s.FieldsAgree) (d : s.Draft) (m : String × Json) :
    s.addMember? d m = (s.takeMember d (some m.1, m.2.node)).toOption := by
  simp only [addMember?, takeMember]
  rcases s.field? m.1 with _ | f
  · rfl
  · rcases hf : d f with _ | c
    · simp only [hf, h f m.2]
      cases s.readField f m.2.node <;> rfl
    · simp only [hf]
      rfl

/-- All members of a buffered object, one after the other. -/
theorem foldlM_addMember?_eq (h : s.FieldsAgree) (members : List (String × Json)) (d : s.Draft) :
    members.foldlM s.addMember? d = (s.takeMembers d (memberNodes members)).toOption := by
  induction members generalizing d with
  | nil => rfl
  | cons m members ih =>
    rw [List.foldlM_cons, memberNodes, takeMembers, addMember?_eq h]
    rcases s.takeMember d (some m.1, m.2.node) with e | d'
    · rfl
    · exact ih d'

/-- The items of a buffered array fill the fields in their order, as those of the document do. -/
theorem addItems?_eq (h : s.FieldsAgree) (fs : List s.Field) (js : List Json) (d : s.Draft)
    (n : Nat) : s.addItems? d fs js = (s.takeItems d n fs (js.map node)).toOption := by
  induction fs generalizing js d n with
  | nil => cases js <;> rfl
  | cons f fs ih =>
    cases js with
    | nil =>
      simp only [addItems?, List.map_nil, takeItems]
      -- no items are left: the remaining fields need standards
      split
      · exact ih [] d (n + 1)
      · rfl
    | cons j js =>
      rw [addItems?, List.map_cons, takeItems, h f j]
      rcases s.readField f j.node with e | c
      · rfl
      · exact ih js (d.set f c) (n + 1)

/-- Records are found in the buffer as they are read from the document, if that holds of the values
of their fields. -/
theorem agree_read (h : s.FieldsAgree) : Agree s.read s.ofBuffered? := by
  intro j
  cases j with
  | object members =>
    rw [node, read, ofBuffered?, foldlM_addMember?_eq h]
    cases s.takeMembers (.empty s) (memberNodes members) <;> rfl
  | array js =>
    rw [node, itemNodes_eq_map, read, ofBuffered?, addItems?_eq h s.fields js (.empty s) 0]
    cases s.takeItems (.empty s) 0 s.fields (js.map node) <;> rfl
  | _ => rfl

end Schema

/-! ### Devices -/

theorem Resource.agree_read : Agree schema.read schema.ofBuffered? := by
  refine Schema.agree_read fun f => ?_
  cases f with
  | name => exact agree_text
  | description => exact agree_text
  | attributes => exact agree_table
  | valueType => exact agree_valueType
  | readWrite => exact agree_variant AccessMode.words

theorem ProfileCommand.agree_read : Agree schema.read schema.ofBuffered? := by
  refine Schema.agree_read fun f => ?_
  cases f with
  | name => exact agree_text
  | get => exact agree_list agree_text
  | set => exact agree_list agree_text

theorem Profile.agree_read : Agree schema.read schema.ofBuffered? := by
  refine Schema.agree_read fun f => ?_
  cases f with
  | name => exact agree_text
  | resources => exact agree_list Resource.agree_read
  | commands => exact agree_list ProfileCommand.agree_read

theorem AutoEvent.agree_read : Agree schema.read schema.ofBuffered? := by
  refine Schema.agree_read fun f => ?_
  cases f with
  | resource => exact agree_text
  | frequency => exact agree_text
  | onChange => exact agree_bool

theorem agree_owner : Agree ownerSchema.read ownerSchema.ofBuffered? :=
  Schema.agree_read fun _ => agree_text

/-- **A device is found in the buffer exactly if it is read from the document**, and it is the same
device. -/
theorem Device.agree_read : Agree schema.read schema.ofBuffered? := by
  refine Schema.agree_read fun f => ?_
  cases f with
  | id => exact agree_text
  | name => exact agree_text
  | description => exact agree_text
  | labels => exact agree_list agree_text
  | adminState => exact agree_variant AdminState.words
  | operatingState => exact agree_variant OperatingState.words
  | service => exact agree_owner
  | protocols => exact agree_protocols
  | profile => exact Profile.agree_read
  | autoEvents => exact agree_list AutoEvent.agree_read

end DeviceHost
