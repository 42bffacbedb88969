import DeviceHost.Base64
import DeviceHost.Numeral.Integer
import DeviceHost.Numeral.Shortest
import DeviceHost.Text.Blank
import DeviceHost.Text.Utf8
import DeviceHost.Value.Basic

/-!
# The text form of values

A reading carries its value as text, and a caller writes a value as text. `Value.text` writes and
`Value.parse` reads, given the declared type of the resource. Blanks around a value do not count,
except in a `String`, which is taken as it is.
-/

namespace DeviceHost

/-- Why a text is no value of the declared type. -/
inductive ValueError
  /-- neither `true` nor `false`; the text is given in lower case and without the blanks around it
  -/
  | notBoolean (text : String)
  /-- not base 64 -/
  | base64 (e : Base64.Error)
  /-- no integer of the width -/
  | integer (e : Numeral.IntegerError)
  /-- no floating point number -/
  | float (e : Numeral.FloatError)
  deriving Repr, DecidableEq

/-- The wording of a value error. -/
def ValueError.message : ValueError → String
  | notBoolean s => s!"'{s}' is not a boolean"
  | base64 e => e.message
  | integer e => e.message
  | float e => e.message

namespace Value

open Numeral

/-- Floating point readings have no exponent, no `.0`, and take the greater of two equally near
digits. -/
def floatLayout : Layout := ⟨.away, false, none⟩

/-- An integer of a width, from the text without its outer blanks. -/
def parseInteger (r : Numeral.Range) (make : Int → Value) (cs : List Char) :
    Except ValueError Value :=
  match r.parse cs with
  | .ok i => .ok (make i)
  | .error e => .error (.integer e)

/-- The value of a declared type that a text spells. -/
def parse (t : ValueType) (raw : String) : Except ValueError Value :=
  let cs := Text.trim raw.toList
  match t with
  | .bool =>
    let word := String.ofList (Text.lower cs)
    if word = "true" then .ok (.bool true)
    else if word = "false" then .ok (.bool false)
    else .error (.notBoolean word)
  | .string => .ok (.string raw)
  | .binary =>
    match Base64.decode (Utf8.encode cs) with
    | .ok v => .ok (.binary v)
    | .error e => .error (.base64 e)
  | .uint8 => parseInteger (.unsigned 8) (fun i => .uint8 (UInt8.ofNat i.toNat)) cs
  | .uint16 => parseInteger (.unsigned 16) (fun i => .uint16 (UInt16.ofNat i.toNat)) cs
  | .uint32 => parseInteger (.unsigned 32) (fun i => .uint32 (UInt32.ofNat i.toNat)) cs
  | .uint64 => parseInteger (.unsigned 64) (fun i => .uint64 (UInt64.ofNat i.toNat)) cs
  | .int8 => parseInteger (.signed 8) (fun i => .int8 (Int8.ofInt i)) cs
  | .int16 => parseInteger (.signed 16) (fun i => .int16 (Int16.ofInt i)) cs
  | .int32 => parseInteger (.signed 32) (fun i => .int32 (Int32.ofInt i)) cs
  | .int64 => parseInteger (.signed 64) (fun i => .int64 (Int64.ofInt i)) cs
  | .float32 =>
    match Floating.parse .single cs with
    | .ok v => .ok (.float32 v)
    | .error e => .error (.float e)
  | .float64 =>
    match Floating.parse .double cs with
    | .ok v => .ok (.float64 v)
    | .error e => .error (.float e)

/-- The text of a truth value. -/
def boolText (b : Bool) : String := if b then "true" else "false"

/-- The base 64 text of octets. -/
def base64Text (bs : List UInt8) : String :=
  String.ofList ((Base64.encode bs).map fun b => Char.ofNat b.toNat)

/-- The text of a value. -/
def text : Value → String
  | bool v => boolText v
  | string v => v
  | binary v => base64Text v
  | uint8 v => natText v.toNat
  | uint16 v => natText v.toNat
  | uint32 v => natText v.toNat
  | uint64 v => natText v.toNat
  | int8 v => intText v.toInt
  | int16 v => intText v.toInt
  | int32 v => intText v.toInt
  | int64 v => intText v.toInt
  | float32 v => String.ofList (floatLayout.text v)
  | float64 v => String.ofList (floatLayout.text v)

end Value

end DeviceHost
