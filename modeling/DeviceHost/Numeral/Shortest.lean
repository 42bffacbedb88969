import DeviceHost.Numeral.Floating

/-!
# The shortest decimal text of a floating point number

A finite number is written with the fewest digits that read back as the same number; of equally
short ones with the nearest. The reals that read back as `m * 2 ^ q` form an interval around it that
reaches half-way to its two neighbours, ends included exactly when `m` is even.

`shortest` looks at coarser and then finer decimal grids. If any point of a grid lies in the
interval, then one of the two points next to the number does, so only these two are tried; the first
grid with a hit has the fewest digits.

How the digits are laid out (where the point goes, when a power of ten is written, which of two
equally near digits is taken) is up to a `Layout`, which the format that writes the number states.
-/

namespace DeviceHost.Numeral

/-- Which of two equally short and equally near decimals is taken. -/
inductive Tie
  /-- the one farther from zero -/
  | away
  /-- the one whose last digit is even -/
  | even
  deriving Repr, DecidableEq

/-- The part of `4 * m * 2 ^ (q - 2)` that is measured on the grid of multiples of `10 ^ e`: the
factor of the number and the factor of the grid. -/
def gridFactors (q e : Int) : Nat × Nat :=
  let x := q - 2
  (Nat.pow 2 x.toNat * Nat.pow 10 (-e).toNat, Nat.pow 10 e.toNat * Nat.pow 2 (-x).toNat)

/-- The point of the grid of multiples of `10 ^ e` that stands for `m * 2 ^ q`, if one reads
back. -/
def gridPoint? (f : FloatFormat) (tie : Tie) (m : Nat) (q e : Int) : Option Nat :=
  let (v, u) := gridFactors q e
  let isLeast := m = Nat.pow 2 (f.precision - 1) ∧ f.least < q
  let low := (4 * m - (if isLeast then 1 else 2)) * v
  let high := (4 * m + 2) * v
  let readsBack (n : Nat) : Bool :=
    if m % 2 = 0 then low ≤ n * u && n * u ≤ high else low < n * u && n * u < high
  let n := 4 * m * v / u
  let below := 4 * m * v - n * u
  let above := (n + 1) * u - 4 * m * v
  match readsBack n && n != 0, readsBack (n + 1) with
  | true, true =>
    if below < above then some n
    else if above < below then some (n + 1)
    else match tie with
      | .away => some (n + 1)
      | .even => some (if n % 2 = 0 then n else n + 1)
  | true, false => some n
  | false, true => some (n + 1)
  | false, false => none

/-- The first point that reads back on the grids `10 ^ e`, `10 ^ (e - 1)`, and so on. -/
def firstGridPoint (f : FloatFormat) (tie : Tie) (m : Nat) (q : Int) : Nat → Int → Nat × Int
  | 0, e => (0, e)
  | fuel + 1, e =>
    match gridPoint? f tie m q e with
    | some n => (n, e)
    | none => firstGridPoint f tie m q fuel (e - 1)

/-- A power of ten above `m * 2 ^ q`. -/
def powerAbove (m : Nat) (q : Int) : Int :=
  ((Nat.log2 m : Int) + 1 + q) * 30103 / 100000 + 2

/-- The shortest decimal `d * 10 ^ e` that reads back as `m * 2 ^ q`. The search starts above the
number, and no format needs more than 17 digits. -/
def shortest (f : FloatFormat) (tie : Tie) (m : Nat) (q : Int) : Nat × Int :=
  firstGridPoint f tie m q 24 (powerAbove m q)

/-! ### Layout -/

/-- How a finite number is written. -/
structure Layout where
  /-- which of two equally near digits is taken -/
  tie : Tie
  /-- whether a whole number is written with `.0` -/
  keepPoint : Bool
  /-- the powers of ten of the first digit that are written without an exponent; all if absent -/
  positional : Option (Int × Int)
  deriving Repr, DecidableEq

/-- Digits with the point before the last `-e` of them, or followed by `e` zeros. -/
def pointed (keepPoint : Bool) (ds : List Char) (e : Int) : List Char :=
  match e with
  | .ofNat k => ds ++ List.replicate k '0' ++ (if keepPoint then ['.', '0'] else [])
  | .negSucc k =>
    let places := k + 1
    if places < ds.length then
      ds.take (ds.length - places) ++ '.' :: ds.drop (ds.length - places)
    else '0' :: '.' :: (List.replicate (places - ds.length) '0' ++ ds)

/-- Digits with a point after the first one and an exponent, which always has a sign. -/
def withExponent (ds : List Char) (e : Int) : List Char :=
  let mantissa := match ds with
    | [] => []
    | [d] => [d]
    | d :: r => d :: '.' :: r
  mantissa ++ 'e' :: (if 0 ≤ e then ['+'] else []) ++ ofInt e

/-- The text of a decimal that is not zero. -/
def Layout.decimal (l : Layout) (d : Nat) (e : Int) : List Char :=
  let ds := digits d
  let first := ds.length - 1 + e
  match l.positional with
  | none => pointed l.keepPoint ds e
  | some (low, high) =>
    if low ≤ first ∧ first ≤ high then pointed l.keepPoint ds e else withExponent ds first

/-- The text of a floating point number. -/
def Layout.text {f : FloatFormat} (l : Layout) : Floating f → List Char
  | .nan => ['N', 'a', 'N']
  | .infinite negative => (if negative then ['-'] else []) ++ ['i', 'n', 'f']
  | .finite negative m q =>
    let size :=
      if m = 0 then pointed l.keepPoint ['0'] 0
      else
        let (d, e) := shortest f l.tie m q
        l.decimal d e
    if negative then '-' :: size else size

end DeviceHost.Numeral
