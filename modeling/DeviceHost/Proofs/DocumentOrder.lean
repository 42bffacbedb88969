import DeviceHost.Device.Decode
import DeviceHost.Proofs.Documents
import DeviceHost.Proofs.Start
import DeviceHost.Proofs.Table
import DeviceHost.Store

/-!
# The order of a document

The protocols of a device are a list, and the properties of each are a table. So a document says
something by the order of its protocols, and by each one that it repeats, but nothing by the order
of the properties inside a protocol.

* `Schema.given?` — what a document gives for a field, with `Schema.read_eq_ok`: every field of a
  record was read from what was given for it, or nothing was given and it has its default;
* `Json.Node.protocols` — the protocols of a document, seen without reading it;
* `protocols_of_read` — a document that is read has these protocols;
* `Store.put_judges` — a device that is put in again is judged by them, and by nothing else.
-/

namespace DeviceHost

open Json

/-! ### What is given for a field -/

namespace Schema

variable {α : Type} {s : Schema α}

instance (s : Schema α) : DecidableEq s.Field := s.decEq

/-- Whether the name of a member stands for a field. -/
def meansField (s : Schema α) (f : s.Field) (k : Option String) : Bool :=
  k.bind s.field? = some f

/-- What a document gives for a field: the value of the first member that stands for it, or the item
in its place. -/
def given? (s : Schema α) (f : s.Field) : Node → Option Node
  | .object members => (members.find? fun m => s.meansField f m.1).map Prod.snd
  | .array items => ((s.fields.zip items).find? fun p => p.1 = f).map Prod.snd
  | _ => none

/-- A draft holds for a field what was given for it, or what an earlier draft held. -/
def Draft.Filled (f : s.Field) (given : Option Node) (d d' : s.Draft) : Prop :=
  match given with
  | some n => ∃ c, s.readField f n = .ok c ∧ d' f = some c
  | none => d' f = d f

theorem Draft.Filled.of_eq {f : s.Field} {given : Option Node} {d d₁ d' : s.Draft}
    (h : Filled f given d₁ d') (hd : d₁ f = d f) : Filled f given d d' := by
  rcases given with _ | n
  · exact h.trans hd
  · exact h

/-- A member is either foreign and changes nothing, or fills a field that was still free. -/
theorem takeMember_eq_ok {d d' : s.Draft} {m : Option String × Node}
    (h : s.takeMember d m = .ok d') :
    (m.1.bind s.field? = none ∧ d' = d) ∨
      ∃ f c, m.1.bind s.field? = some f ∧ d f = none ∧ s.readField f m.2 = .ok c ∧
        d' = d.set f c := by
  obtain ⟨k, n⟩ := m
  rcases k with _ | k
  · cases h
  rw [takeMember] at h
  rcases hf : s.field? k with _ | f
  · simp only [hf] at h
    exact .inl ⟨hf, (Except.ok.inj h).symm⟩
  · simp only [hf] at h
    split at h
    · cases h
    · rename_i hfree
      rcases hread : s.readField f n with e | c
      · rw [hread] at h
        cases h
      · rw [hread] at h
        refine .inr ⟨f, c, hf, ?_, hread, (Except.ok.inj h).symm⟩
        simpa using hfree

/-- Members are taken from the first to the last. -/
theorem takeMembers_cons {d d' : s.Draft} {m : Option String × Node}
    {members : List (Option String × Node)} (h : s.takeMembers d (m :: members) = .ok d') :
    ∃ d₁, s.takeMember d m = .ok d₁ ∧ s.takeMembers d₁ members = .ok d' := by
  rw [takeMembers] at h
  rcases hm : s.takeMember d m with e | d₁
  · rw [hm] at h
    cases h
  · rw [hm] at h
    exact ⟨d₁, rfl, h⟩

/-- A field that has been filled in is not filled in again. -/
theorem kept_of_takeMembers {f : s.Field} {c : s.Content f} {members : List (Option String × Node)}
    {d d' : s.Draft} (h : s.takeMembers d members = .ok d') (hd : d f = some c) :
    d' f = some c := by
  induction members generalizing d with
  | nil =>
    obtain rfl := Except.ok.inj h
    exact hd
  | cons m members ih =>
    obtain ⟨d₁, hm, hmembers⟩ := takeMembers_cons h
    refine ih hmembers ?_
    rcases takeMember_eq_ok hm with ⟨-, rfl⟩ | ⟨g, c', -, hfree, -, rfl⟩
    · exact hd
    · -- a field that is filled takes no further member
      have hne : g ≠ f := by
        rintro rfl
        cases hfree.symm.trans hd
      rw [d.set_of_ne hne, hd]

/-- Members fill a field from the member that is given for it, and leave it if there is none. -/
theorem filled_of_takeMembers (f : s.Field) {members : List (Option String × Node)}
    {d d' : s.Draft} (h : s.takeMembers d members = .ok d') :
    Draft.Filled f (s.given? f (.object members)) d d' := by
  induction members generalizing d with
  | nil =>
    obtain rfl := Except.ok.inj h
    exact rfl
  | cons m members ih =>
    obtain ⟨d₁, hm, hmembers⟩ := takeMembers_cons h
    have hrest := ih hmembers
    rw [given?] at hrest ⊢
    rcases takeMember_eq_ok hm with ⟨hskipped, rfl⟩ | ⟨g, c, hg, -, hread, rfl⟩
    · rwa [List.find?_cons_of_neg (by simp [meansField, hskipped])]
    · by_cases hgf : g = f
      · subst hgf
        rw [List.find?_cons_of_pos (by simp [meansField, hg])]
        exact ⟨c, hread, kept_of_takeMembers hmembers (d.set_self g c)⟩
      · rw [List.find?_cons_of_neg (by simp [meansField, hg, hgf])]
        exact hrest.of_eq (d.set_of_ne hgf c)

/-- The first item fills the first field, the other items the other fields. -/
theorem takeItems_cons_iff {d d' : s.Draft} {n : Nat} {f : s.Field} {fs : List s.Field} {v : Node}
    {vs : List Node} :
    s.takeItems d n (f :: fs) (v :: vs) = .ok d' ↔
      ∃ c, s.readField f v = .ok c ∧ s.takeItems (d.set f c) (n + 1) fs vs = .ok d' := by
  rw [takeItems]
  rcases s.readField f v with e | c <;> simp

/-- Items fill a field from the item at its place, and leave it if there is none. -/
theorem filled_of_takeItems (f : s.Field) {fs : List s.Field} (hfs : fs.Nodup) {items : List Node}
    {n : Nat} {d d' : s.Draft} (h : s.takeItems d n fs items = .ok d') :
    Draft.Filled f (((fs.zip items).find? fun p => p.1 = f).map Prod.snd) d d' := by
  induction fs generalizing items n d with
  | nil =>
    cases items with
    | nil =>
      obtain rfl := Except.ok.inj h
      exact rfl
    | cons v vs => cases h
  | cons g fs ih =>
    obtain ⟨hnew, hrest⟩ := List.nodup_cons.mp hfs
    cases items with
    | nil =>
      rw [takeItems] at h
      split at h
      · have hnone := ih hrest h
        rwa [List.zip_nil_right] at hnone ⊢
      · cases h
    | cons v vs =>
      obtain ⟨c, hread, hvs⟩ := takeItems_cons_iff.mp h
      have hlater := ih hrest hvs
      rw [List.zip_cons_cons]
      by_cases hgf : g = f
      · subst hgf
        -- each field has one place, so no later item is given for it
        have habsent : ((fs.zip vs).find? fun p => p.1 = g) = none := by
          refine List.find?_eq_none.mpr fun p hp hpg => ?_
          obtain rfl : p.1 = g := by simpa using hpg
          exact hnew (List.of_mem_zip hp).1
        rw [habsent] at hlater
        rw [List.find?_cons_of_pos (by simp)]
        exact ⟨c, hread, Eq.trans hlater (d.set_self g c)⟩
      · rw [List.find?_cons_of_neg (by simp [hgf])]
        exact hlater.of_eq (d.set_of_ne hgf c)

/-- A draft is finished with the content, given or standard, of all its fields. -/
theorem finish_eq_ok {d : s.Draft} {a : α} (h : d.finish = .ok a) :
    ∃ c : (f : s.Field) → s.Content f, (∀ f, d.value? f = some (c f)) ∧ a = s.make c := by
  rw [Draft.finish] at h
  split at h
  · rename_i hall
    obtain rfl := Except.ok.inj h
    exact ⟨_, fun f => (Option.some_get (hall f (s.mem_fields f))).symm, rfl⟩
  · split at h <;> cases h

theorem read_object_iff {ms : List (Option String × Node)} {a : α} :
    s.read (.object ms) = .ok a ↔ ∃ d, s.takeMembers (.empty s) ms = .ok d ∧ d.finish = .ok a := by
  rw [read]
  rcases s.takeMembers (.empty s) ms with e | d <;> simp

theorem read_array_iff {items : List Node} {a : α} :
    s.read (.array items) = .ok a ↔
      ∃ d, s.takeItems (.empty s) 0 s.fields items = .ok d ∧ d.finish = .ok a := by
  rw [read]
  rcases s.takeItems (.empty s) 0 s.fields items with e | d <;> simp

/-- **A field of a record** was read from what the document gives for it; if that is nothing, it has
its default. -/
theorem read_eq_ok (hs : s.Distinct) {n : Node} {a : α} (h : s.read n = .ok a) :
    ∃ c : (f : s.Field) → s.Content f, a = s.make c ∧ ∀ f,
      match s.given? f n with
      | some v => s.readField f v = .ok (c f)
      | none => s.default? f = some (c f) := by
  obtain ⟨d, hd, hfinish⟩ : ∃ d : s.Draft, (∀ f, Draft.Filled f (s.given? f n) (.empty s) d) ∧
      d.finish = .ok a := by
    cases n with
    | object members =>
      obtain ⟨d, htaken, hfinish⟩ := read_object_iff.mp h
      exact ⟨d, fun f => filled_of_takeMembers f htaken, hfinish⟩
    | array items =>
      obtain ⟨d, htaken, hfinish⟩ := read_array_iff.mp h
      exact ⟨d, fun f => filled_of_takeItems f hs.nodup htaken, hfinish⟩
    | _ => cases h
  -- a field without a value in the document has its standard one
  obtain ⟨c, hc, rfl⟩ := finish_eq_ok hfinish
  refine ⟨c, rfl, fun f => ?_⟩
  have hf := hd f
  have hvalue := hc f
  rw [Draft.value?] at hvalue
  generalize s.given? f n = given at hf ⊢
  rcases given with _ | v
  · have hempty : d f = none := hf
    rwa [hempty, Option.none_or] at hvalue
  · obtain ⟨c', hread, hfilled⟩ := hf
    rw [hfilled, Option.some_or] at hvalue
    exact hread.trans (congrArg Except.ok (Option.some.inj hvalue))

end Schema

/-! ### The protocols of a document -/

namespace Json.Node

/-- The members of an object; anything else has none. -/
def members : Node → List (Option String × Node)
  | .object members => members
  | _ => []

/-- The characters of a text. -/
def text? : Node → Option String
  | .string s => s
  | _ => none

/-- The text of a property; of members with the same name the last one counts. -/
def property? (n : Node) (k : String) : Option String :=
  (n.members.reverse.find? fun m => m.1 = some k).bind fun m => m.2.text?

/-- What the document of a device gives for its protocols: the member of that name, or the eighth
item of an array. -/
def givenProtocols? : Node → Option Node
  | .object members => (members.find? fun m => m.1 = some "protocols").map Prod.snd
  | .array items => items[7]?
  | _ => none

/-- The protocols in the document of a device, as they stand there: each with its name and, as a
function of their names, the texts of its properties. -/
def protocols (n : Node) : List (Option String × (String → Option String)) :=
  (n.givenProtocols?.map members).getD [] |>.map fun m => (m.1, m.2.property?)

end Json.Node

theorem readText_eq_ok {n : Node} {v : String} (h : readText n = .ok v) : n = .string (some v) := by
  unfold readText at h
  split at h
  · obtain rfl := Except.ok.inj h
    rfl
  · cases h
  · cases h

theorem readTextMembers_eq_ok {ms : List (Option String × Node)} {es : List (String × String)}
    (h : readTextMembers ms = .ok es) : ms = es.map fun e => (some e.1, .string (some e.2)) := by
  induction ms generalizing es with
  | nil =>
    obtain rfl := Except.ok.inj h
    rfl
  | cons m ms ih =>
    obtain ⟨k, n⟩ := m
    rcases k with _ | k
    · cases h
    rw [readTextMembers] at h
    rcases hn : readText n with e | v
    · rw [hn] at h
      cases h
    · rcases hms : readTextMembers ms with e | es'
      · rw [hn, hms] at h
        cases h
      · rw [hn, hms] at h
        obtain rfl := Except.ok.inj h
        rw [ih hms, readText_eq_ok hn]
        rfl

/-- A table that is read has the properties that stand in the document. -/
theorem property?_of_readTable {n : Node} {t : Table String} (h : readTable n = .ok t) :
    n.property? = t.get? := by
  unfold readTable at h
  split at h
  · rename_i ms
    rcases hms : readTextMembers ms with e | es
    · rw [hms] at h
      cases h
    · rw [hms] at h
      obtain rfl := Except.ok.inj h
      obtain rfl := readTextMembers_eq_ok hms
      funext k
      have hsame : ((fun m : Option String × Node => decide (m.1 = some k)) ∘
          fun e : String × String => (some e.1, .string (some e.2))) =
            fun e => decide (e.1 = k) := by
        funext e
        simp
      rw [Table.get?_ofList, Node.property?, Node.members, ← List.map_reverse, List.find?_map,
        hsame, Option.bind_map, Option.map_eq_bind]
      rfl
  · cases h

/-- Protocols are read from the members, one for each and in their order. -/
theorem protocols_of_readProtocolMembers {ms : List (Option String × Node)} {ps : List Protocol}
    (h : readProtocolMembers ms = .ok ps) :
    ms.map (fun m => (m.1, m.2.property?)) = ps.map fun p => (some p.name, p.properties.get?) := by
  induction ms generalizing ps with
  | nil =>
    obtain rfl := Except.ok.inj h
    rfl
  | cons m ms ih =>
    obtain ⟨k, n⟩ := m
    rcases k with _ | k
    · cases h
    rw [readProtocolMembers] at h
    rcases hn : readTable n with e | t
    · rw [hn] at h
      cases h
    · rcases hms : readProtocolMembers ms with e | ps'
      · rw [hn, hms] at h
        cases h
      · rw [hn, hms] at h
        obtain rfl := Except.ok.inj h
        rw [List.map_cons, ih hms, property?_of_readTable hn]
        rfl

/-- The protocols of a device are the members of the object that is given for them. -/
theorem protocols_of_readProtocols {n : Node} {ps : List Protocol} (h : readProtocols n = .ok ps) :
    n.members.map (fun m => (m.1, m.2.property?)) =
      ps.map fun p => (some p.name, p.properties.get?) := by
  cases n with
  | null =>
    obtain rfl := Except.ok.inj h
    rfl
  | object ms => exact protocols_of_readProtocolMembers h
  | _ => cases h

/-- No other name stands for the protocols. -/
theorem Device.meansField_protocols (k : Option String) :
    schema.meansField .protocols k = decide (k = some "protocols") := by
  rcases k with _ | k
  · rfl
  refine decide_eq_decide.mpr ⟨fun h => ?_, fun h => ?_⟩
  · have hfound := List.find?_some h
    have hname : ("protocols" == k || (none : Option String) == some k) = true := hfound
    rcases (Bool.or_eq_true ..).mp hname with hname | hname
    · rw [beq_iff_eq.mp hname]
    · cases hname
  · rw [h]
    rfl

theorem Device.given?_protocols (n : Node) : schema.given? .protocols n = n.givenProtocols? := by
  cases n with
  | object members =>
    have hsame : (fun m : Option String × Node => schema.meansField .protocols m.1) =
        fun m => decide (m.1 = some "protocols") := funext fun m => meansField_protocols m.1
    exact congrArg (fun p => (members.find? p).map Prod.snd) hsame
  | array items =>
    -- seven other fields are declared before the protocols
    match items with
    | [] | [_] | [_, _] | [_, _, _] | [_, _, _, _] | [_, _, _, _, _] | [_, _, _, _, _, _]
    | [_, _, _, _, _, _, _] => rfl
    | _ :: _ :: _ :: _ :: _ :: _ :: _ :: v :: _ => rfl
  | _ => rfl

/-- A document that is read has the protocols of the device. -/
theorem protocols_of_read {n : Node} {d : Device} (h : Device.schema.read n = .ok d) :
    n.protocols = d.protocols.map fun p => (some p.name, p.properties.get?) := by
  obtain ⟨c, rfl, hc⟩ := Schema.read_eq_ok Device.schema_distinct h
  have hprotocols := hc .protocols
  rw [Device.given?_protocols] at hprotocols
  rw [Node.protocols]
  generalize n.givenProtocols? = given at hprotocols ⊢
  rcases given with _ | v
  · have hnone : [] = c .protocols := Option.some.inj hprotocols
    change [] = List.map _ (c .protocols)
    rw [← hnone]
    rfl
  · exact protocols_of_readProtocols hprotocols

/-- A decoded record is read from the tree of its octets. -/
theorem Schema.decode_eq_ok {α : Type} {s : Schema α} {body : List UInt8} {a : α}
    (h : s.decode body = .ok a) :
    ∃ n, Node.read? (Utf8.decode body) = some n ∧ s.read n = .ok a := by
  rw [decode] at h
  rcases hn : Node.read? (Utf8.decode body) with _ | n
  · rw [hn] at h
    cases h
  · rw [hn] at h
    rcases hread : s.read n with e | a'
    · simp only [hread] at h
      split at h <;> cases h
    · simp only [hread] at h
      obtain rfl := Except.ok.inj h
      exact ⟨n, rfl, hread⟩

/-! ### The store -/

/-- The protocols in the octets of a document of a device, in the order of the document: the name of
each, and its properties as a function of their names. -/
def documentProtocols (body : List UInt8) : List (Option String × (String → Option String)) :=
  ((Node.read? (Utf8.decode body)).map Node.protocols).getD []

/-- A decoded device has the protocols that its document gives, in the order of the document. -/
theorem documentProtocols_of_decode {body : List UInt8} {d : Device}
    (h : Device.decode body = .ok d) :
    documentProtocols body = d.protocols.map fun p => (some p.name, p.properties.get?) := by
  obtain ⟨n, hn, hread⟩ := Schema.decode_eq_ok h
  rw [documentProtocols, hn]
  exact protocols_of_read hread

/-- Two devices have the same protocols if their documents do. -/
theorem documentProtocols_eq_iff {body body' : List UInt8} {a b : Device}
    (ha : Device.decode body = .ok a) (hb : Device.decode body' = .ok b) :
    documentProtocols body = documentProtocols body' ↔ a.protocols = b.protocols := by
  rw [documentProtocols_of_decode ha, documentProtocols_of_decode hb]
  refine List.map_inj_right fun p q hpq => ?_
  obtain ⟨name, properties⟩ := p
  obtain ⟨name', properties'⟩ := q
  obtain ⟨hname, hproperties⟩ := Prod.mk.inj hpq
  obtain rfl := Option.some.inj hname
  obtain rfl : properties = properties' := Table.ext_get? (congrFun hproperties)
  rfl

/-- **A device that is put in again is judged by the order of its document.** If the two documents
give the same protocols in the same order, repeated ones included, nothing has changed for the
driver; otherwise something has, and nothing else in the documents counts. -/
theorem Store.put_judges {body body' : List UInt8} {a b : Device}
    (ha : Device.decode body = .ok a) (hb : Device.decode body' = .ok b) (hid : a.id = b.id)
    (s : Store) :
    let answer := ((s.put a).2.put b).1
    (answer = .updatedRemoteOnly ↔ documentProtocols body = documentProtocols body') ∧
      (answer = .updatedLocally ↔ documentProtocols body ≠ documentProtocols body') := by
  intro answer
  have hstored : (s.put a).2.get? b.id = some a := by rw [get?_put, if_pos hid]
  have hanswer : answer = if a.sameProtocols b then .updatedRemoteOnly else .updatedLocally := by
    change (s.put a).2.outcomeOf b = _
    rw [outcomeOf, hstored]
  rw [hanswer, ne_eq, documentProtocols_eq_iff ha hb, ← Device.sameProtocols_iff]
  cases a.sameProtocols b <;> decide

/-- Properties in another order, one of them given twice, and a new name of the device make no
difference; protocols in another order do, even if they have one name. -/
theorem Store.put_judges_of_pump :
    let first := Utf8.ofString "\x7b\"id\":\"1\",\"name\":\"pump\",\"protocols\":\x7b"
      ++ Utf8.ofString "\"bus\":\x7b\"unit\":\"7\",\"host\":\"h\",\"unit\":\"1\"\x7d,"
      ++ Utf8.ofString "\"bus\":\x7b\x7d\x7d\x7d"
    let second := Utf8.ofString "\x7b\"protocols\":\x7b"
      ++ Utf8.ofString "\"bus\":\x7b\"host\":\"h\",\"unit\":\"1\"\x7d,\"bus\":\x7b\x7d\x7d,"
      ++ Utf8.ofString "\"name\":\"drain\",\"id\":\"1\"\x7d"
    let third := Utf8.ofString "\x7b\"id\":\"1\",\"name\":\"pump\",\"protocols\":\x7b"
      ++ Utf8.ofString "\"bus\":\x7b\x7d,"
      ++ Utf8.ofString "\"bus\":\x7b\"host\":\"h\",\"unit\":\"1\"\x7d\x7d\x7d"
    let p := ((Protocol.ofName "bus").withProperty "host" "h").withProperty "unit" "1"
    let q := Protocol.ofName "bus"
    let a := ((Device.ofName "1" "pump" "").withProtocol p).withProtocol q
    let b := ((Device.ofName "1" "drain" "").withProtocol p).withProtocol q
    let c := ((Device.ofName "1" "pump" "").withProtocol q).withProtocol p
    (Device.decode first = .ok a ∧ Device.decode second = .ok b ∧ Device.decode third = .ok c) ∧
      documentProtocols first = documentProtocols second ∧
      documentProtocols first ≠ documentProtocols third := by
  intro first second third p q a b c
  have ha : Device.decode first = .ok a := eq_ok_of_toOption (by decide +kernel)
  have hb : Device.decode second = .ok b := eq_ok_of_toOption (by decide +kernel)
  have hc : Device.decode third = .ok c := eq_ok_of_toOption (by decide +kernel)
  have hsame : ((Store.empty.put a).2.put b).1 = .updatedRemoteOnly := by decide +kernel
  have hother : ((Store.empty.put a).2.put c).1 = .updatedLocally := by decide +kernel
  exact ⟨⟨ha, hb, hc⟩, (put_judges ha hb rfl .empty).1.mp hsame,
    (put_judges ha hc rfl .empty).2.mp hother⟩

end DeviceHost
