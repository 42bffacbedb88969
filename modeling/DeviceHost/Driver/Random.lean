import DeviceHost.Driver.Basic
import DeviceHost.Value.Text

/-!
# The random driver

A driver without devices behind it. A resource with the attribute `SensorType` is read as a random
number, below 100 or below 1000; one with the attribute `SwitchID` is read as the state of a switch.
The resource `Switch` sets the state of the switch.

The random numbers come from a source that is part of the driver's state. Of the source is known
what it promises, that a number is below the bound that was asked for, and nothing about which
number it is.
-/

namespace DeviceHost.Random

/-- A source of random numbers, with a state of type `γ`. -/
structure Source (γ : Type) where
  /-- a number below a bound, and the next state -/
  below : (bound : Nat) → γ → Nat × γ
  /-- the number is below the bound, unless there is none below it -/
  below_lt : ∀ {bound : Nat} (g : γ), 0 < bound → (below bound g).1 < bound

/-- A source whose state is a number: each state is a multiple of the one before it and a constant,
and numbers are taken from its upper half. -/
def congruential : Source Nat where
  below bound s :=
    let next := (s * 6364136223846793005 + 1442695040888963407) % Nat.pow 2 64
    (next / Nat.pow 2 33 % bound, next)
  below_lt _ h := Nat.mod_lt _ h

/-- The state of the driver. -/
structure State (γ : Type) where
  /-- whether the switch is on -/
  switch : Bool
  /-- the state of the source of random numbers -/
  source : γ

variable {γ : Type}

/-- The bound of the numbers of a kind of sensor. -/
def bound? (sensor : String) : Option Nat :=
  if sensor = "1" then some 100 else if sensor = "2" then some 1000 else none

/-- Read one resource. -/
def readOne (src : Source γ) (s : State γ) (r : ResourceRequest) :
    Except DriverError (Value × State γ) :=
  match r.attributes.get? "SensorType" with
  | some sensor =>
    match bound? sensor with
    | some b =>
      let n := src.below b s.source
      .ok (.uint64 (UInt64.ofNat n.1), { s with source := n.2 })
    | none => .error (.configuration s!"{sensor} is not a valid SensorType")
  | none =>
    if r.attributes.contains "SwitchID" then .ok (.bool s.switch, s)
    else .error (.unsupportedResource r.resource)

/-- Read resources, up to the first one that cannot be read. -/
def readAll (src : Source γ) (s : State γ) :
    List ResourceRequest → Except DriverError (List Value) × State γ
  | [] => (.ok [], s)
  | r :: rs =>
    match readOne src s r with
    | .error e => (.error e, s)
    | .ok (v, s) =>
      let rest := readAll src s rs
      (rest.1.map (v :: ·), rest.2)

/-- Write resources in order, up to the first one that cannot be written; those before it stay
written. -/
def writeAll (device : String) : List (ResourceRequest × Value) → DriverAct (State γ) Unit
  | [], s => ⟨.ok (), s, []⟩
  | (r, v) :: rest, s =>
    if r.resource = "Switch" then
      match v with
      | .bool on =>
        let o := writeAll device rest { s with switch := on }
        ⟨o.value, o.state,
          ⟨.debug, s!"Switch on {device} set to {Value.boolText on}"⟩ :: o.trace⟩
      | v => ⟨.error (.communication s!"Switch expects Bool, got {v.type.name}"), s, []⟩
    else
      ⟨.error (.unsupportedResource r.resource), s,
        [⟨.error, s!"PUT not valid for resource {r.resource}"⟩]⟩

/-- Whether the driver produces values of a type. -/
def supportsType : ValueType → Bool
  | .uint64 => true
  | .bool => true
  | _ => false

/-- The driver. -/
def driver (src : Source γ) : Driver (State γ) where
  name := "random"
  init _ _ := fun s => ⟨.ok (), { s with switch := false }, [⟨.debug, "Init"⟩]⟩
  discover := .idle
  get t requests := fun s =>
    let r := readAll src s requests
    ⟨r.1, r.2,
      [⟨.debug, s!"GET {Numeral.natText requests.length} resources on {t.name}"⟩]⟩
  put t requests values := writeAll t.name (requests.zip values)
  disconnect _ := .idle
  stop _ := .idle
  supports _ t := supportsType t

end DeviceHost.Random
