import DeviceHost.Numeral.Digits
import DeviceHost.Text.Ascii

/-!
# Binary floating point numbers

A floating point number of a format is a sign, a significand and a power of two, or an infinity, or
the value that is no number. All arithmetic is done on natural numbers and is exact until the single
rounding at its end, to the nearest number of the format and to an even significand from half-way.

* `Floating.nearest` — the number of the format nearest to a quotient;
* `Floating.ofScientific` — the number nearest to a decimal one;
* `Floating.parse` — the number that a text spells.
-/

namespace DeviceHost.Numeral

/-- A format: its finite numbers are `m * 2 ^ q` with `m < 2 ^ precision` and
`least ≤ q ≤ greatest`. -/
structure FloatFormat where
  /-- how many bits a significand has -/
  precision : Nat
  /-- the least power of two -/
  least : Int
  /-- the greatest power of two -/
  greatest : Int
  deriving Repr, DecidableEq

/-- The format of 32 bits. -/
def FloatFormat.single : FloatFormat := ⟨24, -149, 104⟩

/-- The format of 64 bits. -/
def FloatFormat.double : FloatFormat := ⟨53, -1074, 971⟩

/-- A floating point number. -/
inductive Floating (f : FloatFormat)
  /-- the value that is no number -/
  | nan
  /-- an infinity -/
  | infinite (negative : Bool)
  /-- the number `significand * 2 ^ exponent`, or its negative -/
  | finite (negative : Bool) (significand : Nat) (exponent : Int)
  deriving Repr, DecidableEq

/-- The greatest natural number in a quotient and its neighbour, whichever is nearer, and the even
one of the two from half-way. -/
def roundHalfEven (num den : Nat) : Nat :=
  let n := num / den
  let r := num % den
  if den < 2 * r ∨ (den = 2 * r ∧ n % 2 = 1) then n + 1 else n

/-- A quotient, divided by a power of two. -/
def overPower (num den : Nat) : Int → Nat × Nat
  | .ofNat k => (num, den * Nat.pow 2 k)
  | .negSucc k => (num * Nat.pow 2 (k + 1), den)

namespace Floating

variable {f : FloatFormat}

/-- A zero of either sign. -/
def zero (negative : Bool) : Floating f := finite negative 0 f.least

/-- A finite number, or an infinity if its power of two is too great for the format. -/
def ofParts (negative : Bool) (m : Nat) (q : Int) : Floating f :=
  if m = Nat.pow 2 f.precision then
    if q + 1 ≤ f.greatest then finite negative (Nat.pow 2 (f.precision - 1)) (q + 1)
    else infinite negative
  else if q ≤ f.greatest then finite negative m q else infinite negative

/-- The number nearest to a quotient. -/
def nearest (f : FloatFormat) (negative : Bool) (num den : Nat) : Floating f :=
  if num = 0 then zero negative
  else
    let e : Int := (Nat.log2 num : Int) - Nat.log2 den
    let low := max f.least (e - f.precision)
    let atLow := overPower num den low
    let q := if atLow.1 / atLow.2 < Nat.pow 2 f.precision then low else low + 1
    let atQ := overPower num den q
    ofParts negative (roundHalfEven atQ.1 atQ.2) q

/-- Both formats lie between these powers of ten. -/
def decimalSpan : Int := 400

/-- The number nearest to `d * 10 ^ e`. -/
def ofScientific (f : FloatFormat) (negative : Bool) (d : Nat) (e : Int) : Floating f :=
  if d = 0 then zero negative
  else
    let size := (digits d).length + e
    if decimalSpan < size then infinite negative
    else if size < -decimalSpan then zero negative
    else match e with
      | .ofNat k => nearest f negative (d * Nat.pow 10 k) 1
      | .negSucc k => nearest f negative d (Nat.pow 10 (k + 1))

/-- The size of a finite number as a quotient. -/
def ratio (m : Nat) : Int → Nat × Nat
  | .ofNat k => (m * Nat.pow 2 k, 1)
  | .negSucc k => (m, Nat.pow 2 (k + 1))

/-- The product of two numbers, rounded once. -/
def mul : Floating f → Floating f → Floating f
  | finite a m q, finite b n r =>
    let x := ratio m q
    let y := ratio n r
    nearest f (a != b) (x.1 * y.1) (x.2 * y.2)
  | finite a m _, infinite b => if m = 0 then nan else infinite (a != b)
  | infinite a, finite b n _ => if n = 0 then nan else infinite (a != b)
  | infinite a, infinite b => infinite (a != b)
  | nan, _ => nan
  | _, nan => nan

/-- The quotient of two numbers, rounded once. -/
def div : Floating f → Floating f → Floating f
  | finite a m q, finite b n r =>
    if n = 0 then (if m = 0 then nan else infinite (a != b))
    else
      let x := ratio m q
      let y := ratio n r
      nearest f (a != b) (x.1 * y.2) (x.2 * y.1)
  | finite a _ _, infinite b => zero (a != b)
  | infinite a, finite b _ _ => infinite (a != b)
  | infinite _, infinite _ => nan
  | nan, _ => nan
  | _, nan => nan

/-- Whether a number is finite. -/
def isFinite : Floating f → Bool
  | finite .. => true
  | _ => false

/-- Whether a number is a zero. -/
def isZero : Floating f → Bool
  | finite _ m _ => m == 0
  | _ => false

/-- The number with the other sign. -/
def neg : Floating f → Floating f
  | nan => nan
  | infinite a => infinite (!a)
  | finite a m q => finite (!a) m q

end Floating

/-! ### Reading -/

/-- Why a text is no floating point number. -/
inductive FloatError
  /-- there is no text -/
  | empty
  /-- the text is not of the grammar -/
  | invalid
  deriving Repr, DecidableEq

/-- The wording of a floating point error. -/
def FloatError.message : FloatError → String
  | empty => "cannot parse float from empty string"
  | invalid => "invalid float literal"

/-- The digits at the front of a text, and the text after them. -/
def spanDigits (cs : List Char) : List Nat × List Char :=
  ((cs.takeWhile isDigit).filterMap digit?, cs.dropWhile isDigit)

/-- A sign at the front of a text (whether it is a minus), and the text after it. -/
def spanSign : List Char → Bool × List Char
  | '-' :: cs => (true, cs)
  | '+' :: cs => (false, cs)
  | cs => (false, cs)

/-- The power of ten that a text gives, if it is empty or `e`, a sign if any, and digits. -/
def exponent? : List Char → Option Int
  | [] => some 0
  | c :: cs =>
    if c = 'e' ∨ c = 'E' then
      let s := spanSign cs
      let ds := spanDigits s.2
      if ds.1.isEmpty || !ds.2.isEmpty then none
      else some (if s.1 then -(value ds.1 : Int) else value ds.1)
    else none

/-- The decimal number `d * 10 ^ e` that an unsigned text spells: digits with at most one point
among or around them, and a power of ten if any. -/
def scientific? (cs : List Char) : Option (Nat × Int) :=
  let whole := spanDigits cs
  let fraction := match whole.2 with
    | '.' :: r => spanDigits r
    | r => ([], r)
  let ds := whole.1 ++ fraction.1
  if ds.isEmpty then none
  else (exponent? fraction.2).map fun e => (value ds, e - fraction.1.length)

/-- The floating point number that a text spells. -/
def Floating.parse (f : FloatFormat) (cs : List Char) : Except FloatError (Floating f) :=
  if cs.isEmpty then .error .empty
  else
    let s := spanSign cs
    let word := String.ofList (Text.lower s.2)
    if word = "inf" ∨ word = "infinity" then .ok (.infinite s.1)
    else if word = "nan" then .ok .nan
    else match scientific? s.2 with
      | some (d, e) => .ok (.ofScientific f s.1 d e)
      | none => .error .invalid

end DeviceHost.Numeral
