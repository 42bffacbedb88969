import DeviceHost.Http.Server
import DeviceHost.Proofs.JsonNumbers
import DeviceHost.Proofs.Octets
import DeviceHost.Proofs.Recall

/-!
# Integers on their way to the driver

A caller who writes an integer may give it as a number or as a text. Between the body of the request
and the driver, a number is read into 64 bits or a floating point number, written out again, and
read once more as the type of the resource. None of this shows.

* `Value.spells_intText_iff`, `Value.not_spells_real` — which integers the text of a number spells;
* `Command.Writable` — a resource that is written by its own name;
* `assignment` — a body that gives one value to one resource, with `writeValues_text` and
  `writeValues_number` for the two ways to give an integer;
* `writeCommand_of_spells`, `writeCommand_of_not_spells` — what comes of the text of the value;
* `put_integer` — an integer comes to the driver as it is, or not at all;
* `assigned_handle` — the same, from the octets of a request and its path.
-/

namespace DeviceHost

/-- 64 bits can hold the integers of every type. -/
theorem ValueType.fitsWord {t : ValueType} {low high : Int} (h : t.bounds? = some (low, high))
    {n : Int} (hn : low ≤ n ∧ n ≤ high) : Json.FitsWord n := by
  rw [Json.FitsWord]
  cases t <;> cases h <;> omega

namespace Value

variable {t : ValueType} {low high : Int} {raw : String}

/-- An integer is spelled with blanks, digits and signs only. -/
theorem Spells.char {i : Int} (h : Spells raw low high i) :
    ∀ c ∈ raw.toList,
      Text.isBlank c = true ∨ Numeral.isDigit c = true ∨ c = '+' ∨ c = '-' := by
  obtain ⟨⟨cs, ⟨⟨before, after, hblank, hraw⟩, -, -⟩, hi⟩, -, -⟩ := h
  intro c hc
  rw [hraw] at hc
  simp only [List.mem_append] at hc hblank
  rcases hc with (hc | hc) | hc
  · exact .inl (hblank c (.inl hc))
  · exact .inr (hi.isDigit_or_isSign c hc)
  · exact .inl (hblank c (.inr hc))

/-- The text of an integer spells that integer, if it is within the bounds, and no other one. -/
theorem spells_intText_iff {n i : Int} :
    Spells (Numeral.intText n) low high i ↔ n = i ∧ low ≤ n ∧ n ≤ high := by
  have htrim : Text.trim (Numeral.intText n).toList = Numeral.ofInt n := by
    rw [Numeral.intText, String.toList_ofList, Text.trim_eq_self (Text.not_blank_ofInt n)]
  constructor
  · rintro ⟨⟨cs, hcs, hi⟩, hlow, hhigh⟩
    obtain rfl : Numeral.ofInt n = cs := htrim.symm.trans (Text.trim_eq_iff.mpr hcs)
    have hn : Numeral.IsNumeral True (Numeral.ofInt n) n := Numeral.isNumeral_ofInt fun _ => trivial
    obtain rfl : n = i := hn.unique (hi.mono fun _ => trivial)
    exact ⟨rfl, hlow, hhigh⟩
  · rintro ⟨rfl, hlow, hhigh⟩
    have hn : Numeral.IsNumeral (low < 0) (Numeral.ofInt n) n :=
      Numeral.isNumeral_ofInt fun hneg => by omega
    exact ⟨⟨_, Text.trim_eq_iff.mp htrim, hn⟩, hlow, hhigh⟩

/-- The text of a floating point number spells no integer. -/
theorem not_spells_real (x : Json.Real) (i : Int) :
    ¬ Spells (Json.Number.real x).text low high i := by
  intro h
  obtain ⟨c, hc, hmark⟩ := Json.exists_mark x
  have hchar := h.char c (by rwa [Json.Number.text, String.toList_ofList])
  -- no such character is blank, a digit or a sign
  simp only [Json.marks, List.mem_cons, List.not_mem_nil, or_false] at hmark
  rcases hmark with rfl | rfl | rfl | rfl <;> exact absurd hchar (by decide)

end Value

namespace Command

variable {δ : Type} {d : Device} {r : Resource} {raw : String}

/-- A resource that callers may write by its own name. -/
structure Writable (d : Device) (r : Resource) : Prop where
  /-- the profile has the resource -/
  found : d.profile.resource? r.name = some r
  /-- and no command of that name, which would come first -/
  uncommanded : d.profile.command? r.name = none
  /-- it may be written -/
  writable : r.mode.writable = true
  /-- the device is unlocked -/
  unlocked : d.admin = .unlocked

/-- A writable resource is a command of its own that resolves to itself. -/
theorem Writable.resolves (h : Writable d r) : Resolves d r.name .write [r] := by
  have hnames : namesOf? d.profile .write r.name = some [r.name] := by
    rw [namesOf?, h.uncommanded, h.found]
    rfl
  exact ⟨⟨[r.name], hnames, .cons ⟨h.found, h.writable⟩ .nil⟩, List.cons_ne_nil r []⟩

/-- A text that is read as a value is written as that value. -/
theorem ready_of_parse (h : Writable d r) {v : Value} (hv : Value.parse r.valueType raw = .ok v) :
    Ready d r.name (.ofList [(r.name, raw)]) [r] [v] := by
  have hget : (Table.ofList [(r.name, raw)]).get? r.name = some raw := if_pos rfl
  exact ⟨h.resolves, .cons ⟨raw, hget, hv⟩ .nil, h.unlocked⟩

/-- A text that is not read as a value is not written. -/
theorem refused_of_unread (h : Writable d r) {e : ValueError}
    (he : Value.parse r.valueType raw = .error e) :
    Refused d r.name (.ofList [(r.name, raw)]) (.invalidValue r.name e.message) := by
  have hget : (Table.ofList [(r.name, raw)]).get? r.name = some raw := if_pos rfl
  have hresolves : Resolves d r.name .write ([] ++ r :: []) := h.resolves
  exact .invalid hresolves nofun (.unreadable hget he)

end Command

theorem Service.trace_write_of_device {δ α : Type} {s : Service δ α} {st : Service.State δ α}
    {k : DeviceKey} {d : Device} (hd : Service.commandDevice st k = .ok d) (command : String)
    (texts : Table String) :
    (s.write k command texts st).trace =
      (Command.write s.driver d command texts st.driver).trace := by
  have hvalue : ((Command.write s.driver d command texts).on Service.driverPart st).value =
      (Command.write s.driver d command texts st.driver).value := rfl
  rw [write, Activity.look_bind, hd]
  dsimp only
  rw [Activity.trace_bind, hvalue]
  rcases (Command.write s.driver d command texts st.driver).value with e | ⟨⟩ <;>
    exact List.append_nil _

/-! ## Bodies -/

namespace Http

open Json

/-- The text of a body that gives a value to a resource, with blanks before the value. -/
def assignment (resource : String) (gap value : List Char) : List Char :=
  '{' :: (quoted resource ++ ':' :: (gap ++ value ++ ['}']))

section Bodies

variable {resource : String} {gap value : List Char}

theorem ofText?_assignment {n : Node} (h : Node.read? ((gap ++ value).map some) = some n) :
    Json.ofText? (String.ofList (assignment resource gap value)) =
      (n.jsonWithin? 126).map fun j => .object [(resource, j)] := by
  have hread : Node.read? ((assignment resource gap value).map some) =
      some (.object [(some resource, n)]) := by
    have hmember : List.Forall₂ (fun m n => m.1 = n.1 ∧ Node.read? m.2 = some n.2)
        [(resource, (gap ++ value).map some)] [(resource, n)] := .cons ⟨rfl, h⟩ .nil
    simpa [assignment] using Node.read?_object hmember
  rw [Json.ofText?, Json.read?, String.toList_ofList, hread]
  change (membersWithin? 126 [(some resource, n)]).map _ = _
  rcases hj : n.jsonWithin? 126 with _ | j <;> simp [membersWithin?, hj]

/-- The body of one assignment is read as a table of one value, the text of its scalar. -/
theorem writeValues_assignment {n : Node} {j : Json} {s : String}
    (h : Node.read? ((gap ++ value).map some) = some n) (hj : n.jsonWithin? 126 = some j)
    (hs : scalarText? j = some s) :
    writeValues (String.ofList (assignment resource gap value)) =
      .ok (.ofList [(resource, s)]) := by
  have hmembers : (Table.ofList [(resource, j)]).toList = [(resource, j)] := rfl
  rw [writeValues, ofText?_assignment h, hj]
  simp only [Option.map_some, hmembers, scalarMembers, hs]
  rfl

end Bodies

/-! ## Requests -/

variable {δ α : Type} {s : Service δ α} {st : Service.State δ α} {k : DeviceKey} {d : Device}
  {r : Resource} {body : String}

/-- The reply to a caller whose values were written. -/
def writeReply : Except ServiceError Unit → Reply
  | .ok () => .ofStatus 200
  | .error e => .ofRefusal (.ofService e)

/-- A request with a readable body is the write of its values, and the reply tells its result. -/
theorem writeCommand_of_values {values : Table String} (h : writeValues body = .ok values)
    (s : Service δ α) (k : DeviceKey) (command : String) (st : Service.State δ α) :
    let o := writeCommand s k command body st
    let w := s.write k command values st
    o.value = writeReply w.value ∧ o.state = w.state ∧ o.trace = w.trace := by
  intro o w
  have hcommand : writeCommand s k command body =
      s.write k command values >>= fun r => pure (writeReply r) := by
    rw [writeCommand, h]
    refine congrArg (s.write k command values >>= ·) (funext fun r => ?_)
    rcases r with e | ⟨⟩ <;> rfl
  dsimp only [o]
  rw [hcommand]
  exact ⟨rfl, rfl, List.append_nil _⟩

section Requests

variable (hd : Service.commandDevice st k = .ok d) (hr : Command.Writable d r) {raw : String}
  (hvalues : writeValues body = .ok (.ofList [(r.name, raw)]))

include hd hr hvalues

/-- A text that is read as a value comes to the driver as that value. -/
theorem writeCommand_of_parse {v : Value} (hv : Value.parse r.valueType raw = .ok v) :
    let o := writeCommand s k r.name body st
    let answer := s.driver.put (Command.targetOf d) [Command.requestOf r] [v] st.driver
    contacts o.trace = [.called (.put (Command.targetOf d) [Command.requestOf r] [v])] ∧
      o.state = { st with driver := answer.state } ∧
      o.value = writeReply (answer.value.mapError fun e => .command (.driver e)) := by
  intro o answer
  have hready := Command.ready_of_parse hr hv
  obtain ⟨hcontacts, hstate, hvalue⟩ := Command.write_of_ready s.driver hready st.driver
  obtain ⟨hwritten, hkept⟩ := Service.write_of_device (s := s) hd r.name (.ofList [(r.name, raw)])
  have htrace := Service.trace_write_of_device (s := s) hd r.name (.ofList [(r.name, raw)])
  obtain ⟨hreply, hsame, hevents⟩ := writeCommand_of_values hvalues s k r.name st
  refine ⟨?_, ?_, ?_⟩
  · rw [hevents, htrace]
    exact hcontacts
  · rw [hsame, hkept, hstate]
    rfl
  · rw [hreply, hwritten, hvalue]
    change writeReply ((answer.value.mapError .driver).mapError .command) = _
    rcases answer.value with e | ⟨⟩ <;> rfl

/-- A text that is not read as a value comes to nothing. -/
theorem writeCommand_of_unread {e : ValueError} (he : Value.parse r.valueType raw = .error e) :
    let o := writeCommand s k r.name body st
    o.value.status = 400 ∧ o.state = st ∧ o.trace = [] := by
  intro o
  have hrefused : Command.write s.driver d r.name (.ofList [(r.name, raw)]) st.driver = _ :=
    Command.write_of_refused (Command.refused_of_unread hr he) st.driver
  obtain ⟨hwritten, hkept⟩ := Service.write_of_device (s := s) hd r.name (.ofList [(r.name, raw)])
  have htrace := Service.trace_write_of_device (s := s) hd r.name (.ofList [(r.name, raw)])
  obtain ⟨hreply, hsame, hevents⟩ := writeCommand_of_values hvalues s k r.name st
  rw [hrefused] at hwritten hkept htrace
  refine ⟨?_, ?_, ?_⟩
  · rw [hreply, hwritten]
    rfl
  · rw [hsame, hkept]
  · rw [hevents, htrace]

variable {low high : Int} (ht : r.valueType.bounds? = some (low, high))

include ht

/-- A text that spells an integer comes to the driver as that integer. -/
theorem writeCommand_of_spells {n : Int} (hn : Value.Spells raw low high n)
    (honly : ∀ i, Value.Spells raw low high i → i = n) :
    ∃ v, v.type = r.valueType ∧ v.integer? = some n ∧
      let o := writeCommand s k r.name body st
      let answer := s.driver.put (Command.targetOf d) [Command.requestOf r] [v] st.driver
      contacts o.trace = [.called (.put (Command.targetOf d) [Command.requestOf r] [v])] ∧
        o.state = { st with driver := answer.state } ∧
        o.value = writeReply (answer.value.mapError fun e => .command (.driver e)) := by
  obtain ⟨v, hv⟩ := (Value.exists_parse_iff_spells ht).mpr ⟨n, hn⟩
  obtain ⟨htype, i, hi, hspells⟩ := (Value.parse_eq_ok_iff_spells ht).mp hv
  obtain rfl := honly i hspells
  exact ⟨v, htype, hi, writeCommand_of_parse hd hr hvalues hv⟩

/-- A text that spells no integer comes to nothing. -/
theorem writeCommand_of_not_spells (hno : ∀ i, ¬ Value.Spells raw low high i) :
    let o := writeCommand s k r.name body st
    o.value.status = 400 ∧ o.state = st ∧ o.trace = [] := by
  rcases hraw : Value.parse r.valueType raw with e | v
  · exact writeCommand_of_unread hd hr hvalues hraw
  · obtain ⟨i, hi⟩ := (Value.exists_parse_iff_spells ht).mp ⟨v, hraw⟩
    exact absurd hi (hno i)

end Requests

/-- A route leads to a command of a device. -/
inductive Route.LeadsTo : Route → DeviceKey → String → Prop
  /-- the device is given by its identifier -/
  | byId {i c id command : String} (h : readParts "id" i c = .ok (id, command)) :
    LeadsTo (.byId i c) (.id id) command
  /-- the device is given by its name -/
  | byName {n c name command : String} (h : readParts "name" n c = .ok (name, command)) :
    LeadsTo (.byName n c) (.name name) command

/-- A request to write comes to the command, unless its body is too long. -/
theorem handle_put {address : String} {route : Route}
    (hroute : Route.ofSegments? (segments address) = some route) {name : String}
    (hleads : route.LeadsTo k name) (s : Service δ α) (stamp : Stamp) (body : List UInt8)
    (st : Service.State δ α) :
    handle s stamp ⟨"PUT", address, body⟩ st =
      if bodyLimit < body.length then ⟨tooLong, st, []⟩
      else command s stamp ⟨"PUT", address, body⟩ k name st := by
  have hcarried : carryOut s stamp ⟨"PUT", address, body⟩ route =
      command s stamp ⟨"PUT", address, body⟩ k name := by
    cases hleads with
    | byId h => rw [carryOut, h]
    | byName h => rw [carryOut, h]
  have htakes : route.takes "PUT" = true := by
    cases hleads <;> rfl
  have hhandle : handle s stamp ⟨"PUT", address, body⟩ =
      if bodyLimit < body.length then pure tooLong
      else carryOut s stamp ⟨"PUT", address, body⟩ route := by
    simp [handle, hroute, htakes, goesBare, -Activity.pure_eq, -Activity.bind_eq]
  rw [hhandle, hcarried]
  split <;> rfl

/-- The body of a request is read as the text that it was made of. -/
theorem command_put (s : Service δ α) (stamp : Stamp) (address : String) (body : List Char)
    (k : DeviceKey) (name : String) :
    command s stamp ⟨"PUT", address, Utf8.encode body⟩ k name =
      writeCommand s k name (String.ofList body) := by
  have hread : readBody (Utf8.encode body) = .ok (String.ofList body) := by
    rw [readBody, Utf8.text?, Utf8.chars?_eq_some_iff.mpr rfl]
    rfl
  rw [command, if_pos rfl, hread]

/-- The body that gives an integer as a number. -/
def numberBody (resource : String) (gap : List Char) (n : Int) : List UInt8 :=
  Utf8.encode (assignment resource gap (Numeral.ofInt n))

/-- The body that gives an integer as a text. -/
def textBody (resource : String) (gap : List Char) (n : Int) : List UInt8 :=
  Utf8.encode (assignment resource gap (quoted (Numeral.intText n)))

/-- What comes of writing an integer to a resource whose values have bounds, once as a number and
once as a text. -/
structure Assigned (s : Service δ α) (st : Service.State δ α) (d : Device) (r : Resource)
    (low high n : Int) (number text : Outcome Event (Service.State δ α) Reply) : Prop where
  /-- within the bounds both come to one call of the driver, with the integer as the value -/
  inside : low ≤ n ∧ n ≤ high → number = text ∧
    ∃ v, v.type = r.valueType ∧ v.integer? = some n ∧
      let answer := s.driver.put (Command.targetOf d) [Command.requestOf r] [v] st.driver
      contacts number.trace = [.called (.put (Command.targetOf d) [Command.requestOf r] [v])] ∧
        number.state = { st with driver := answer.state } ∧
        number.value = writeReply (answer.value.mapError fun e => .command (.driver e))
  /-- otherwise both are refused, and nothing is done -/
  outside : ¬(low ≤ n ∧ n ≤ high) → ∀ o ∈ [number, text],
    o.value.status = 400 ∧ o.state = st ∧ o.trace = []

section Integers

variable {gap : List Char} (hgap : ∀ c ∈ gap, isSpace c = true)

include hgap

/-- An integer in quotes is taken as the text between them. -/
theorem writeValues_text (resource : String) (n : Int) :
    writeValues (String.ofList (assignment resource gap (quoted (Numeral.intText n)))) =
      .ok (.ofList [(resource, Numeral.intText n)]) := by
  have hread : Node.read? ((gap ++ quoted (Numeral.intText n)).map some) =
      some (.string (some (Numeral.intText n))) := by
    rw [List.map_append]
    refine Node.read?_eq_some.mpr ⟨[.text (some (Numeral.intText n))], ?_, rfl⟩
    rw [Token.scan?_spaces hgap, Token.scan?_quoted]
  exact writeValues_assignment hread rfl rfl

/-- A number is written out again as the document keeps it, or the document is refused. -/
theorem writeValues_number (resource : String) (n : Int) :
    ∃ x, Kept n x ∧
      writeValues (String.ofList (assignment resource gap (Numeral.ofInt n))) =
        match x with
        | some x => .ok (.ofList [(resource, x.text)])
        | none => .error ⟨.badRequest, "Invalid JSON"⟩ := by
  obtain ⟨x, hkept, hread⟩ := Node.read?_ofInt hgap n
  refine ⟨x, hkept, ?_⟩
  rcases x with _ | x
  · rw [writeValues, ofText?_assignment hread]
    rfl
  · exact writeValues_assignment hread rfl rfl

variable (hrun : st.running = true) (hd : Service.device? st k = some d)
  (hr : Command.Writable d r) {low high : Int} (ht : r.valueType.bounds? = some (low, high))

include hrun hd hr ht

/-- A number outside of the bounds is refused, however the document keeps it. -/
theorem writeCommand_number_of_outside (s : Service δ α) {n : Int}
    (hout : ¬(low ≤ n ∧ n ≤ high)) :
    let o := writeCommand s k r.name
      (String.ofList (assignment r.name gap (Numeral.ofInt n))) st
    o.value.status = 400 ∧ o.state = st ∧ o.trace = [] := by
  have hdevice : Service.commandDevice st k = .ok d :=
    Service.commandDevice_eq_ok_iff.mpr ⟨hrun, hd⟩
  obtain ⟨x, hkept, hvalues⟩ := writeValues_number hgap r.name n
  cases hkept with
  | exact =>
    have hno (i : Int) : ¬ Value.Spells (Numeral.intText n) low high i := fun h =>
      hout (Value.spells_intText_iff.mp h).2
    exact writeCommand_of_not_spells hdevice hr hvalues ht hno
  | rounded _ x =>
    have hreal (i : Int) : ¬ Value.Spells (Json.Number.real x).text low high i :=
      Value.not_spells_real x i
    exact writeCommand_of_not_spells hdevice hr hvalues ht hreal
  | refused _ =>
    rw [writeCommand, hvalues]
    exact ⟨rfl, rfl, rfl⟩

/-- The two bodies of an integer come to what the bounds of the resource say. -/
theorem assigned_command (s : Service δ α) (stamp : Stamp) (address : String) (n : Int) :
    let send body := command s stamp ⟨"PUT", address, body⟩ k r.name st
    Assigned s st d r low high n (send (numberBody r.name gap n))
      (send (textBody r.name gap n)) := by
  intro send
  have hdevice : Service.commandDevice st k = .ok d :=
    Service.commandDevice_eq_ok_iff.mpr ⟨hrun, hd⟩
  have htext : send (textBody r.name gap n) = writeCommand s k r.name _ st :=
    congrFun (command_put ..) st
  have hnumber : send (numberBody r.name gap n) = writeCommand s k r.name _ st :=
    congrFun (command_put ..) st
  have hvalues := writeValues_text hgap r.name n
  constructor
  · rintro ⟨hlow, hhigh⟩
    obtain ⟨x, hkept, hvalues'⟩ := writeValues_number hgap r.name n
    have hfits : FitsWord n := ValueType.fitsWord ht ⟨hlow, hhigh⟩
    -- so the number is written out again as the text
    obtain rfl : x = some (.integer n) := by
      cases hkept with
      | exact => rfl
      | rounded h => exact absurd hfits h
      | refused h => exact absurd hfits h
    have hspells : Value.Spells (Numeral.intText n) low high n :=
      Value.spells_intText_iff.mpr ⟨rfl, hlow, hhigh⟩
    have honly (i : Int) (h : Value.Spells (Numeral.intText n) low high i) : i = n :=
      (Value.spells_intText_iff.mp h).1.symm
    rw [htext, hnumber]
    refine ⟨?_, writeCommand_of_spells hdevice hr hvalues' ht hspells honly⟩
    rw [writeCommand, writeCommand, hvalues, hvalues']
    rfl
  · intro hout
    have hno (i : Int) : ¬ Value.Spells (Numeral.intText n) low high i := fun h =>
      hout (Value.spells_intText_iff.mp h).2
    refine List.forall_mem_cons.mpr ⟨?_, List.forall_mem_singleton.mpr ?_⟩
    · rw [hnumber]
      exact writeCommand_number_of_outside hgap hrun hd hr ht s hout
    · rw [htext]
      exact writeCommand_of_not_spells hdevice hr hvalues ht hno

/-- **An integer comes to the driver as it is, or not at all**, whether it is given as a number or
as a text. If it is within the bounds of the type of the resource, both bodies come to the same: one
call of the driver, with the value that the integer is. Otherwise both are refused, and the driver
is not called. -/
theorem put_integer (s : Service δ α) (stamp : Stamp) (address : String) (n : Int) :
    let send body := command s stamp ⟨"PUT", address, body⟩ k r.name st
    let number := send (numberBody r.name gap n)
    let text := send (textBody r.name gap n)
    (low ≤ n ∧ n ≤ high → number = text ∧
      ∃ v, v.type = r.valueType ∧ v.integer? = some n ∧
        let answer := s.driver.put (Command.targetOf d) [Command.requestOf r] [v] st.driver
        contacts number.trace = [.called (.put (Command.targetOf d) [Command.requestOf r] [v])] ∧
          number.state = { st with driver := answer.state } ∧
          number.value = writeReply (answer.value.mapError fun e => .command (.driver e))) ∧
    (¬(low ≤ n ∧ n ≤ high) → ∀ o ∈ [number, text],
      o.value.status = 400 ∧ o.state = st ∧ o.trace = []) := by
  intro send number text
  have hassigned := assigned_command hgap hrun hd hr ht s stamp address n
  exact ⟨hassigned.inside, hassigned.outside⟩

/-- **The same of the request as it arrives**, if its path leads to the resource and neither body is
too long. -/
theorem assigned_handle {address : String} {route : Route}
    (hroute : Route.ofSegments? (segments address) = some route)
    (hleads : route.LeadsTo k r.name) (s : Service δ α) (stamp : Stamp) (n : Int)
    (hnumber : (numberBody r.name gap n).length ≤ bodyLimit)
    (htext : (textBody r.name gap n).length ≤ bodyLimit) :
    let send body := handle s stamp ⟨"PUT", address, body⟩ st
    Assigned s st d r low high n (send (numberBody r.name gap n))
      (send (textBody r.name gap n)) := by
  have hcommand {body : List UInt8} (hlength : body.length ≤ bodyLimit) :
      handle s stamp ⟨"PUT", address, body⟩ st =
        command s stamp ⟨"PUT", address, body⟩ k r.name st := by
    rw [handle_put hroute hleads, if_neg (Nat.not_lt.mpr hlength)]
  dsimp only
  rw [hcommand hnumber, hcommand htext]
  exact assigned_command hgap hrun hd hr ht s stamp address n

end Integers

/-- The greatest integer of 64 bits is given as a number and as a text; the one after it is
refused. -/
theorem put_integer_of_meter :
    let s : Service (Table Value) (List (List UInt8)) := ⟨.standard, .echo, .scripted, none⟩
    let r := Resource.ofName "total" .uint64
    let d := (Device.ofName "1" "meter" "device-service").withProfile
      ((Profile.ofName "meter").withResource r)
    let st : Service.State (Table Value) (List (List UInt8)) :=
      { Service.State.initial .empty [] with store := .ofList [d], running := true }
    let send (body : List UInt8) := command s ⟨"", 0⟩ ⟨"PUT", "", body⟩ (.name "meter") "total" st
    (st.running = true ∧ Service.device? st (.name "meter") = some d ∧ Command.Writable d r ∧
      r.valueType.bounds? = some (0, 18446744073709551615)) ∧
    send (numberBody "total" [' '] 18446744073709551615) =
      send (textBody "total" [' '] 18446744073709551615) ∧
    contacts (send (numberBody "total" [' '] 18446744073709551615)).trace =
      [.called (.put ⟨"meter", []⟩ [⟨"total", .empty, some .uint64⟩]
        [.uint64 18446744073709551615])] ∧
    (send (numberBody "total" [' '] 18446744073709551616)).value.status = 400 := by
  intro s r d st send
  have hd : Service.device? st (.name "meter") = some d := by decide +kernel
  have hr : Command.Writable d r := by
    refine ⟨?_, ?_, ?_, ?_⟩ <;> decide +kernel
  have hgap : ∀ c ∈ [' '], isSpace c = true := List.forall_mem_singleton.mpr rfl
  have hput := put_integer hgap (k := .name "meter") rfl hd hr rfl s ⟨"", 0⟩ ""
  obtain ⟨hsame, v, htype, hi, hcontacts, -, -⟩ :=
    (hput 18446744073709551615).1 ⟨by decide, by decide⟩
  obtain rfl : v = .uint64 18446744073709551615 := Value.eq_of_integer? htype hi (by decide)
  have hrefused := (hput 18446744073709551616).2 (by decide)
  exact ⟨⟨rfl, hd, hr, rfl⟩, hsame, hcontacts, (hrefused _ (List.mem_cons_self ..)).1⟩

end Http

end DeviceHost
