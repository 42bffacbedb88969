import DeviceHost.Numeral.Integer
import DeviceHost.Text.Ascii

/-!
# Endpoints

A server listens at an endpoint: a host, a colon, and the number of a port. The host is a name or an
address. An address of the older kind is given by one to four numbers, of which the last one fills
what the others leave of its 32 bits; each is hexadecimal after `0x`, octal after `0`, and decimal
otherwise.
-/

namespace DeviceHost.Http

/-- Where a server listens. -/
structure Endpoint where
  /-- the name or the address of the host -/
  host : String
  /-- the port -/
  port : UInt16
  deriving Repr, DecidableEq

/-- The endpoint of a text: the last colon parts the host from the port. -/
def Endpoint.read? (text : String) : Option Endpoint :=
  let backwards := text.toList.reverse
  let port := (backwards.takeWhile fun c => c != ':').reverse
  match backwards.dropWhile fun c => c != ':', (Numeral.Range.unsigned 16).parse port with
  | _ :: host, .ok n => some ⟨String.ofList host.reverse, UInt16.ofNat n.toNat⟩
  | _, _ => none

/-- The value of digits in a system, after the value of those before them. -/
def digitsIn? (base : Nat) : Nat → List Char → Option Nat
  | acc, [] => some acc
  | acc, c :: cs =>
    match Numeral.hexDigit? c with
    | none => none
    | some d => if d < base then digitsIn? base (acc * base + d) cs else none

/-- A number in an address. -/
def addressNumber? (s : String) : Option Nat :=
  match s.toList with
  | [] => none
  | ['0', 'x'] | ['0', 'X'] => none
  | '0' :: 'x' :: cs | '0' :: 'X' :: cs => digitsIn? 16 0 cs
  | '0' :: cs => digitsIn? 8 0 cs
  | cs => digitsIn? 10 0 cs

/-- The address of its numbers, after the numbers before them; `room` is what is left for them. -/
def joinNumbers? (acc room : Nat) : List Nat → Option Nat
  | [] => none
  | [n] => if n < room then some (acc * room + n) else none
  | n :: ns => if n < 256 then joinNumbers? (acc * 256 + n) (room / 256) ns else none

/-- The 32 bits of an address that is given by numbers. -/
def addressOf? (host : String) : Option Nat := do
  let ns ← (host.splitOn ".").mapM addressNumber?
  if ns.length ≤ 4 then joinNumbers? 0 4294967296 ns else none

/-- The hosts that stand for the machine itself, or for all its addresses. -/
def ownNames : List String := ["localhost", "[::]", "[::1]", "::", "::1"]

/-- Whether the machine itself is the host: by one of its names, by the address zero, which stands
for all its addresses, or by one of the addresses that begin with 127. -/
def Endpoint.isLocal (e : Endpoint) : Bool :=
  ownNames.contains (String.ofList (Text.lower e.host.toList)) ||
    match addressOf? e.host with
    | some n => n == 0 || n / 16777216 == 127
    | none => false

end DeviceHost.Http
