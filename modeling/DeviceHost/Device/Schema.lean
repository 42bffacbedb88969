import DeviceHost.Device.Problem

/-!
# Records in documents

A record is given by an object, in any order of its members, or by an array of its fields in the
order in which the record declares them. A `Schema` says which fields a kind of record has, what
each one holds, and how the record is made of them. `Schema.read` is the reader that follows from
it; `Schema.ofBuffered?` is the one for a record that was put into a buffer as a generic value.

* Members that the schema does not know are skipped, whatever they hold.
* A field that is given twice is refused, even if its second value is unreadable.
* The values are read in the order of the document, so the first problem of the document is found.
* Fields that are not given take their default; one without a default is reported at the end.
-/

namespace DeviceHost

open Json

/-- The fields of a kind of record, and what the record makes of them. -/
structure Schema (α : Type) where
  /-- the name of the record, as refusals give it -/
  title : String
  /-- the fields -/
  Field : Type
  /-- fields can be told apart -/
  decEq : DecidableEq Field
  /-- the fields in the order of declaration -/
  fields : List Field
  /-- no field is left out -/
  mem_fields : ∀ f, f ∈ fields
  /-- the name of a field; refusals use it too -/
  name : Field → String
  /-- a second name by which a field may be given -/
  otherName? : Field → Option String
  /-- what a field holds -/
  Content : Field → Type
  /-- how the value of a field is read -/
  readField : (f : Field) → Node → Except Problem (Content f)
  /-- how the value of a field is found in the buffer -/
  bufferedField? : (f : Field) → Json → Option (Content f)
  /-- what a field holds when it is not given -/
  default? : (f : Field) → Option (Content f)
  /-- the record of its fields -/
  make : ((f : Field) → Content f) → α

namespace Schema

variable {α : Type}

/-- The field that a member's name stands for. -/
def field? (s : Schema α) (k : String) : Option s.Field :=
  s.fields.find? fun f => s.name f == k || s.otherName? f == some k

/-- The fields read so far. -/
def Draft (s : Schema α) := (f : s.Field) → Option (s.Content f)

/-- The draft without any field. -/
def Draft.empty (s : Schema α) : s.Draft := fun _ => none

/-- Fill in a field. -/
def Draft.set {s : Schema α} (d : s.Draft) (f : s.Field) (v : s.Content f) : s.Draft := fun g =>
  match s.decEq f g with
  | .isTrue h => some (h ▸ v)
  | .isFalse _ => d g

/-- Read one member of an object. -/
def takeMember (s : Schema α) (d : s.Draft) (m : Option String × Node) : Except Problem s.Draft :=
  match m.1 with
  | none => .error .malformed
  | some k =>
    match s.field? k with
    | none => .ok d
    | some f =>
      if (d f).isSome then .error (.duplicateField (s.name f))
      else (s.readField f m.2).map (d.set f)

/-- Read the members of an object. -/
def takeMembers (s : Schema α) (d : s.Draft) : List (Option String × Node) → Except Problem s.Draft
  | [] => .ok d
  | m :: r =>
    match s.takeMember d m with
    | .ok d' => s.takeMembers d' r
    | .error e => .error e

/-- Read the items of an array as fields in order, after `n` other fields. -/
def takeItems (s : Schema α) (d : s.Draft) (n : Nat) :
    List s.Field → List Node → Except Problem s.Draft
  | [], [] => .ok d
  | [], _ :: _ => .error .tooLong
  | f :: fs, [] =>
    if (s.default? f).isSome then s.takeItems d (n + 1) fs []
    else .error (.tooShort n s.title s.fields.length)
  | f :: fs, v :: vs =>
    match s.readField f v with
    | .ok c => s.takeItems (d.set f c) (n + 1) fs vs
    | .error e => .error e

/-- The value of a field: the one given, or else its default. -/
def Draft.value? {s : Schema α} (d : s.Draft) (f : s.Field) : Option (s.Content f) :=
  (d f).or (s.default? f)

/-- The record of a draft, or the first field that is missing. -/
def Draft.finish {s : Schema α} (d : s.Draft) : Except Problem α :=
  if h : ∀ f ∈ s.fields, (d.value? f).isSome then
    .ok (s.make fun f => (d.value? f).get (h f (s.mem_fields f)))
  else
    match s.fields.find? fun f => (d.value? f).isNone with
    | some f => .error (.missingField (s.name f))
    | none => .error .malformed

/-- Read a record. -/
def read (s : Schema α) : Node → Except Problem α
  | .object members =>
    match s.takeMembers (.empty s) members with
    | .ok d => d.finish
    | .error e => .error e
  | .array items =>
    match s.takeItems (.empty s) 0 s.fields items with
    | .ok d => d.finish
    | .error e => .error e
  | n => .error (.wrongKind n s!"struct {s.title}")

/-! ### Records out of the buffer -/

/-- Take one member of an object in the buffer: skip it, refuse it as a repeated one, or fill in the
field that it gives. -/
def addMember? (s : Schema α) (d : s.Draft) (m : String × Json) : Option s.Draft :=
  match s.field? m.1 with
  | none => some d
  | some f =>
    match d f with
    | some _ => none
    | none => (s.bufferedField? f m.2).map (d.set f)

/-- Take the items of an array in the buffer, one for each field. Fields without an item must have a
default, and no item may be left over. -/
def addItems? (s : Schema α) (d : s.Draft) : List s.Field → List Json → Option s.Draft
  | [], items => if items.isEmpty then some d else none
  | f :: fs, [] => if (s.default? f).isSome then s.addItems? d fs [] else none
  | f :: fs, j :: js =>
    match s.bufferedField? f j with
    | none => none
    | some c => s.addItems? (d.set f c) fs js

/-- The record that a value in the buffer is. -/
def ofBuffered? (s : Schema α) : Json → Option α
  | .object members => (members.foldlM s.addMember? (.empty s)).bind fun d => d.finish.toOption
  | .array items => (s.addItems? (.empty s) s.fields items).bind fun d => d.finish.toOption
  | _ => none

end Schema

end DeviceHost
