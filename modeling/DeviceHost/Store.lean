import DeviceHost.Device.Basic

/-!
# The store of devices

The devices that the service manages, found by identifier and by name. A name leads to the device
that took it last; it leads nowhere once that device has another name or is gone, even if another
device of that name is still there.

* `put`, `remove`, `load`, `get?`, `find?`, `list` — the operations;
* `get?_put`, `get?_remove` — the store, read through `get?`.
-/

namespace DeviceHost

/-- Devices by identifier, and identifiers by name. -/
structure Store where
  /-- the devices, under their identifiers -/
  devices : Table Device
  /-- which identifier each name leads to -/
  names : Table String
  deriving DecidableEq

/-- What putting a device into the store has changed. -/
inductive PutOutcome
  /-- the device was not there -/
  | created
  /-- the device was there with other protocols -/
  | updatedLocally
  /-- the device was there with the same protocols -/
  | updatedRemoteOnly
  deriving Repr, DecidableEq

namespace Store

/-- The store without devices. -/
def empty : Store := ⟨.empty, .empty⟩

instance : Inhabited Store := ⟨empty⟩

/-- The device of an identifier. -/
def get? (s : Store) (id : String) : Option Device :=
  s.devices.get? id

/-- The device that a name leads to. -/
def find? (s : Store) (name : String) : Option Device :=
  (s.names.get? name).bind s.get?

/-- The names after a device has given up its name, if that led to it. -/
def release (s : Store) (id name : String) : Table String :=
  if s.names.get? name = some id then s.names.erase name else s.names

/-- The names that stay when a device is about to be replaced by another record. -/
def namesBefore (s : Store) (d : Device) : Table String :=
  match s.get? d.id with
  | some previous => if previous.name = d.name then s.names else s.release d.id previous.name
  | none => s.names

/-- Put a device in; an earlier record of its identifier is replaced, and its name now leads to
it. -/
def insert (s : Store) (d : Device) : Store :=
  ⟨s.devices.insert d.id d, (s.namesBefore d).insert d.name d.id⟩

/-- The other identifier that the name of a new record led to so far. -/
def displaced? (s : Store) (d : Device) : Option String :=
  (s.names.get? d.name).filter fun id => id != d.id

/-- What putting a device in changes. -/
def outcomeOf (s : Store) (d : Device) : PutOutcome :=
  match s.get? d.id with
  | none => .created
  | some previous => if previous.sameProtocols d then .updatedRemoteOnly else .updatedLocally

/-- Put a device in, and say what that has changed. -/
def put (s : Store) (d : Device) : PutOutcome × Store :=
  (s.outcomeOf d, s.insert d)

/-- Take a device out. -/
def remove (s : Store) (id : String) : Option Device × Store :=
  match s.get? id with
  | none => (none, s)
  | some d => (some d, ⟨s.devices.erase id, s.release id d.name⟩)

/-- The store that holds the given devices, put in one after the other. -/
def ofList (ds : List Device) : Store :=
  ds.foldl insert empty

/-- Names that move to another device while the given devices are put in: the name, the identifier
that it led to and the one that it leads to now. -/
def moves : Store → List Device → List (String × String × String)
  | _, [] => []
  | s, d :: ds =>
    ((s.displaced? d).toList.map fun id => (d.name, id, d.id)) ++ moves (s.insert d) ds

/-- The number of devices. -/
def size (s : Store) : Nat := s.devices.size

/-- Whether there are no devices. -/
def isEmpty (s : Store) : Bool := s.devices.isEmpty

/-- All devices, by name, and those of one name by identifier. -/
def list (s : Store) : List Device :=
  s.devices.values.mergeSort fun a b => a.name ≤ b.name

/-! ### The store, read through `get?` -/

@[simp] theorem get?_empty (id : String) : empty.get? id = none := rfl

/-- After an insertion the identifier of the device leads to it, every other one where it led
before. -/
@[simp] theorem get?_insert (s : Store) (d : Device) (id : String) :
    (s.insert d).get? id = if d.id = id then some d else s.get? id :=
  Table.get?_insert ..

@[simp] theorem get?_put (s : Store) (d : Device) (id : String) :
    (s.put d).2.get? id = if d.id = id then some d else s.get? id :=
  get?_insert s d id

/-- After a removal its identifier leads nowhere, every other one where it led before. -/
@[simp] theorem get?_remove (s : Store) (id i : String) :
    (s.remove id).2.get? i = if id = i then none else s.get? i := by
  unfold remove
  split
  case h_1 h => by_cases hi : id = i <;> simp_all
  case h_2 => exact Table.get?_erase ..

/-- A removal answers the device that was stored under the identifier. -/
theorem remove_fst (s : Store) (id : String) : (s.remove id).1 = s.get? id := by
  unfold remove
  split <;> simp_all

end Store

end DeviceHost
