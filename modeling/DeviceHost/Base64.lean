/-!
# Base 64

Octets written with 64 symbols, six bits each, in groups of four, the last group padded with `=`
(RFC 4648, section 4). The reader takes only the canonical text: padding is required, nothing
follows it, and the bits that padding leaves unused are zero. So every accepted text is the one that
`encode` writes.

The offset in an error counts octets of the text.
-/

namespace DeviceHost.Base64

/-- Why a text is not base 64. -/
inductive Error
  /-- an octet outside the alphabet, or padding in a wrong place -/
  | symbol (octet : UInt8) (offset : Nat)
  /-- a last group of a single symbol -/
  | length (n : Nat)
  /-- a last symbol with bits that the padding leaves unused -/
  | lastSymbol (octet : UInt8) (offset : Nat)
  /-- a last group that is not padded to four -/
  | padding
  deriving Repr, DecidableEq

/-- The wording of an error. -/
def Error.message : Error → String
  | symbol b i => s!"Invalid symbol {b.toNat}, offset {i}."
  | length n => s!"Invalid input length: {n}"
  | lastSymbol b i => s!"Invalid last symbol {b.toNat}, offset {i}."
  | padding => "Invalid padding"

/-- The padding symbol `=`. -/
def pad : UInt8 := 61

/-- The six bits that a symbol stands for. -/
def sextet? (b : UInt8) : Option Nat :=
  if 65 ≤ b ∧ b ≤ 90 then some (b.toNat - 65)
  else if 97 ≤ b ∧ b ≤ 122 then some (b.toNat - 71)
  else if 48 ≤ b ∧ b ≤ 57 then some (b.toNat + 4)
  else if b = 43 then some 62
  else if b = 47 then some 63
  else none

/-- The symbol of six bits. -/
def symbol (n : Nat) : UInt8 :=
  if n < 26 then UInt8.ofNat (n + 65)
  else if n < 52 then UInt8.ofNat (n + 71)
  else if n < 62 then UInt8.ofNat (n - 4)
  else if n = 62 then 43
  else 47

/-! ### Writing -/

/-- The text of octets. -/
def encode : List UInt8 → List UInt8
  | a :: b :: c :: r =>
    let n := a.toNat * 65536 + b.toNat * 256 + c.toNat
    symbol (n / 262144) :: symbol (n / 4096 % 64) :: symbol (n / 64 % 64) :: symbol (n % 64) ::
      encode r
  | [a, b] =>
    let n := a.toNat * 1024 + b.toNat * 4
    [symbol (n / 4096), symbol (n / 64 % 64), symbol (n % 64), pad]
  | [a] =>
    let n := a.toNat * 16
    [symbol (n / 64), symbol (n % 64), pad, pad]
  | [] => []

/-! ### Reading -/

/-- The six bits of a symbol at an offset. -/
def sextet (offset : Nat) (b : UInt8) : Except Error Nat :=
  match sextet? b with
  | some n => .ok n
  | none => .error (.symbol b offset)

/-- The three octets of a group that more text follows. -/
def group (offset : Nat) (a b c d : UInt8) : Except Error (List UInt8) := do
  let w ← sextet offset a
  let x ← sextet (offset + 1) b
  let y ← sextet (offset + 2) c
  let z ← sextet (offset + 3) d
  let n := w * 262144 + x * 4096 + y * 64 + z
  return [UInt8.ofNat (n / 65536), UInt8.ofNat (n / 256 % 256), UInt8.ofNat (n % 256)]

/-- What a last group has shown so far. -/
structure Ending where
  /-- the symbols and their bits, in order -/
  sextets : List (UInt8 × Nat) := []
  /-- where its padding starts -/
  padStart : Option Nat := none
  /-- how many octets of it are padding -/
  pads : Nat := 0

/-- The octets of a last group whose text is used up; `offset` is where the group starts. -/
def Ending.octets (e : Ending) (offset : Nat) : Except Error (List UInt8) :=
  if (e.sextets.length + e.pads) % 4 ≠ 0 ∧ 2 ≤ e.sextets.length then .error .padding
  else match e.sextets with
    | [] => .error (.length offset)
    | [_] => .error (.length (offset + 1))
    | [(_, w), (b, x)] =>
      if x % 16 = 0 then .ok [UInt8.ofNat (w * 4 + x / 16)]
      else .error (.lastSymbol b (offset + 1))
    | [(_, w), (_, x), (b, y)] =>
      if y % 4 = 0 then
        let n := w * 1024 + x * 16 + y / 4
        .ok [UInt8.ofNat (n / 256), UInt8.ofNat (n % 256)]
      else .error (.lastSymbol b (offset + 2))
    | (a, _) :: (b, _) :: (c, _) :: (d, _) :: _ => group offset a b c d

/-- Read a last group, which has at most four octets, from its octet number `i` on. -/
def ending (offset : Nat) (e : Ending) : Nat → List UInt8 → Except Error (List UInt8)
  | _, [] => e.octets offset
  | i, b :: r =>
    if b = pad then
      if i < 2 then .error (.symbol b (offset + i))
      else ending offset
        { e with pads := e.pads + 1, padStart := e.padStart.or (some (offset + i)) } (i + 1) r
    else match e.padStart with
      | some p => .error (.symbol pad p)
      | none =>
        match sextet? b with
        | some n => ending offset { e with sextets := e.sextets ++ [(b, n)] } (i + 1) r
        | none => .error (.symbol b (offset + i))

/-- Read groups; the group starts at an offset. -/
def groups (offset : Nat) : List UInt8 → Except Error (List UInt8)
  | a :: b :: c :: d :: e :: r => do
    let front ← group offset a b c d
    let back ← groups (offset + 4) (e :: r)
    return front ++ back
  | [] => .ok []
  | r => ending offset {} 0 r

/-- The octets that a text stands for. A text with a single octet over that is neither a symbol nor
padding is refused for that octet before anything else. -/
def decode (text : List UInt8) : Except Error (List UInt8) :=
  match text.length % 4, text.getLast? with
  | 1, some b =>
    if b ≠ pad ∧ (sextet? b).isNone then .error (.symbol b (text.length - 1)) else groups 0 text
  | _, _ => groups 0 text

end DeviceHost.Base64
