import DeviceHost.Numeral.Shortest

/-!
# Numbers of JSON documents

A number without a fraction and an exponent that fits 64 bits, signed or unsigned, is kept as an
integer. Every other number becomes a floating point number of 64 bits, and so does `-0`; a number
too great for the format is refused.

The conversion keeps as many leading digits as fit an unsigned integer of 64 bits, rounds that
integer, and then multiplies or divides it by a power of ten that is itself rounded, so its last bit
can differ from that of the number nearest to the text.
-/

namespace DeviceHost.Json

open Numeral

/-- The floating point numbers of documents. -/
abbrev Real := Floating .double

/-- A number. -/
inductive Number
  /-- an integer of 64 bits, signed or unsigned -/
  | integer (i : Int)
  /-- a finite floating point number -/
  | real (x : Real)
  deriving Repr, DecidableEq

/-- The parts of a number as it is written. -/
structure Literal where
  /-- whether it starts with a minus sign -/
  negative : Bool
  /-- the digits before the point -/
  whole : List Nat
  /-- the digits after the point, if there is one -/
  fraction : Option (List Nat)
  /-- the power of ten, if one is written: whether it is negative, and its digits -/
  exponent : Option (Bool × List Nat)
  deriving Repr, DecidableEq

/-- The power of ten at the end of a number: nothing, or a letter, a sign if any, and digits. -/
def spanExponent? : List Char → Option (Option (Bool × List Nat))
  | [] => some none
  | c :: cs =>
    if c = 'e' ∨ c = 'E' then
      let s := spanSign cs
      let ds := spanDigits s.2
      if ds.1.isEmpty || !ds.2.isEmpty then none else some (some (s.1, ds.1))
    else none

/-- The parts of a number: an optional minus sign, digits without a leading zero, and then a
fraction and a power of ten, if any. -/
def Literal.ofChars? (cs : List Char) : Option Literal :=
  let (negative, unsigned) := match cs with
    | '-' :: r => (true, r)
    | r => (false, r)
  let whole := spanDigits unsigned
  if whole.1.isEmpty || (whole.1.head? == some 0 && whole.1.length != 1) then none
  else match whole.2 with
    | '.' :: r =>
      let fraction := spanDigits r
      if fraction.1.isEmpty then none
      else (spanExponent? fraction.2).map fun e => ⟨negative, whole.1, some fraction.1, e⟩
    | r => (spanExponent? r).map fun e => ⟨negative, whole.1, none, e⟩

/-! ### Conversion -/

/-- The greatest integer that a number may be. -/
def greatest : Nat := Nat.pow 2 64 - 1

/-- The leading digits of a number and the power of ten that is due to the others. -/
structure Leading where
  /-- the digits kept, as a number -/
  significand : Nat
  /-- the power of ten -/
  power : Int
  /-- whether a digit did not fit -/
  full : Bool
  deriving Repr, DecidableEq

/-- Take a digit before the point. -/
def Leading.takeWhole (s : Leading) (d : Nat) : Leading :=
  if !s.full && s.significand * 10 + d ≤ greatest then
    { s with significand := s.significand * 10 + d }
  else { s with power := s.power + 1, full := true }

/-- Take a digit after the point; one that does not fit is left out with all after it. -/
def Leading.takeFraction (s : Leading) (d : Nat) : Leading :=
  if !s.full && s.significand * 10 + d ≤ greatest then
    { s with significand := s.significand * 10 + d, power := s.power - 1 }
  else { s with full := true }

/-- A power of ten, rounded. -/
def powerOfTen (n : Nat) : Real := .ofScientific .double false 1 n

/-- Divide a number by `10 ^ n`, at most 308 powers at a time. -/
def divideByPower (x : Real) (n : Nat) : Real :=
  if n ≤ 308 then x.div (powerOfTen n)
  else if x.isZero then x
  else divideByPower (x.div (powerOfTen 308)) (n - 308)
  termination_by n

/-- The size of a number from its significand and a power of ten; none if it is not finite. -/
def scale? (significand : Nat) : Int → Option Real
  | .ofNat n =>
    if n ≤ 308 then
      let x := (Floating.nearest .double false significand 1).mul (powerOfTen n)
      if x.isFinite then some x else none
    else if significand = 0 then some (.zero false) else none
  | .negSucc n => some (divideByPower (.nearest .double false significand 1) (n + 1))

/-- The greatest magnitude of a power of ten that is read. -/
def exponentLimit : Nat := Nat.pow 2 31 - 1

/-- The size of a number that has a fraction, a power of ten or too many digits. A power of ten
beyond the limit makes the number too great, or zero. -/
def realSize? (leading : Leading) (exponent : Option (Bool × List Nat)) : Option Real :=
  match exponent with
  | none => scale? leading.significand leading.power
  | some (negative, ds) =>
    if exponentLimit < value ds then
      if leading.significand ≠ 0 ∧ negative = false then none else some (.zero false)
    else
      scale? leading.significand
        (leading.power + if negative then -(value ds : Int) else value ds)

/-- The number that a literal stands for; none if it is too great. -/
def Literal.number? (l : Literal) : Option Number :=
  let whole := l.whole.foldl Leading.takeWhole ⟨0, 0, false⟩
  let sign (x : Real) : Number := .real (if l.negative then x.neg else x)
  match l.fraction, l.exponent with
  | none, none =>
    if whole.full then (realSize? whole none).map sign
    else if !l.negative then some (.integer whole.significand)
    else if whole.significand = 0 ∨ Nat.pow 2 63 < whole.significand then
      some (sign (.nearest .double false whole.significand 1))
    else some (.integer (-(whole.significand : Int)))
  | fraction, exponent =>
    let leading := (fraction.getD []).foldl Leading.takeFraction { whole with full := false }
    (realSize? leading exponent).map sign

/-! ### Writing -/

/-- Numbers with a fraction keep their point, and from `10 ^ 16` up and below `10 ^ -5` they are
written with an exponent; of two equally near digits the even one is taken. -/
def layout : Layout := ⟨.even, true, some (-5, 15)⟩

/-- The text of a number. -/
def Number.chars : Number → List Char
  | integer i => ofInt i
  | real x => layout.text x

/-- The text of a number. -/
def Number.text (n : Number) : String := String.ofList n.chars

end DeviceHost.Json
