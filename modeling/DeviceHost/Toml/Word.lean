import DeviceHost.Numeral.Integer
import DeviceHost.Toml.Value

/-!
# Words of TOML

A value that is neither a text nor in brackets is one word: a truth value, an integer, a floating
point number, or a date and a time of day. Which of them it is can be told from the word alone, and
a word that is none of them is no value.

* Digits may be grouped by single underscores between two digits.
* A decimal number starts with no zero that could be left out.
* A date must exist; a second may be the sixtieth, for leap seconds.
-/

namespace DeviceHost.Toml

open Numeral

/-- A character that words are made of. -/
def isWordChar (c : Char) : Bool :=
  isDigit c || ('a' ≤ c && c ≤ 'z') || ('A' ≤ c && c ≤ 'Z') ||
    c == '+' || c == '-' || c == '_' || c == '.' || c == ':'

/-! ### Numbers -/

/-- The digits of a group of digits, if every underscore in it stands between two of them; `after`
says whether a digit stands before the group. -/
def ungroup (isDigit : Char → Bool) : Bool → List Char → Option (List Char)
  | after, [] => if after then some [] else none
  | after, c :: cs =>
    if isDigit c then (ungroup isDigit true cs).map (c :: ·)
    else if c == '_' && after then ungroup isDigit false cs
    else none

/-- The digits of a decimal number without sign, point and power. -/
def wholeDigits? : List Char → Option (List Char)
  | '0' :: _ :: _ => none
  | cs => ungroup isDigit false cs

/-- A sign at the front of a word, and the word after it. -/
def takeSign : List Char → List Char × List Char
  | '+' :: cs => (['+'], cs)
  | '-' :: cs => (['-'], cs)
  | cs => ([], cs)

/-- The number that digits of a base spell. -/
def valueIn (base : Nat) (cs : List Char) : Nat :=
  cs.foldl (fun n c => n * base + (hexDigit? c).getD 0) 0

/-- Whether a character is a digit of a base. -/
def isDigitIn (base : Nat) (c : Char) : Bool :=
  (hexDigit? c).any (· < base)

/-- The integer that the digits of a base spell. -/
def radix? (base : Nat) (cs : List Char) : Option Int :=
  match ungroup (isDigitIn base) false cs with
  | none => none
  | some ds =>
    if valueIn base ds ≤ (Range.signed 64).above then some (valueIn base ds) else none

/-- The integer that a word spells. -/
def integer? : List Char → Option Int
  | '0' :: 'x' :: cs => radix? 16 cs
  | '0' :: 'o' :: cs => radix? 8 cs
  | '0' :: 'b' :: cs => radix? 2 cs
  | cs =>
    let s := takeSign cs
    match wholeDigits? s.2 with
    | none => none
    | some ds => ((Range.signed 64).parse (s.1 ++ ds)).toOption

/-- A digit or the underscore. -/
def isGrouped (c : Char) : Bool := isDigit c || c == '_'

/-- The power of ten at the end of a number, without underscores; nothing, if there is none. -/
def power? : List Char → Option (List Char)
  | [] => some []
  | c :: cs =>
    if c == 'e' || c == 'E' then
      let s := takeSign cs
      (ungroup isDigit false s.2).map fun ds => c :: (s.1 ++ ds)
    else none

/-- A number with a point or a power of ten, without its underscores. -/
def fractional? (cs : List Char) : Option (List Char) :=
  match wholeDigits? (cs.takeWhile isGrouped), cs.dropWhile isGrouped with
  | some whole, '.' :: r =>
    match ungroup isDigit false (r.takeWhile isGrouped), power? (r.dropWhile isGrouped) with
    | some fraction, some power => some (whole ++ '.' :: (fraction ++ power))
    | _, _ => none
  | some whole, c :: r => (power? (c :: r)).map (whole ++ ·)
  | _, _ => none

/-- The floating point number that a word spells. A number above all numbers of the format is
refused; one below all of them becomes the negative infinity. -/
def float? (cs : List Char) : Option (Floating .double) :=
  let s := takeSign cs
  let negative := s.1 == ['-']
  if s.2 == ['i', 'n', 'f'] then some (.infinite negative)
  else if s.2 == ['n', 'a', 'n'] then some .nan
  else
    match fractional? s.2 with
    | none => none
    | some digits =>
      match Floating.parse .double (s.1 ++ digits) with
      | .ok (.infinite false) => none
      | .ok x => some x
      | .error _ => none

/-! ### Dates and times of day -/

/-- The number that a text of digits spells. -/
def number? (cs : List Char) : Option Nat :=
  (cs.mapM digit?).map value

/-- Whether a text of two digits is a number of a range. -/
def isBetween (low high : Nat) (cs : List Char) : Bool :=
  (number? cs).any fun n => low ≤ n && n ≤ high

/-- Whether a year has a leap day. -/
def isLeap (year : Nat) : Bool :=
  year % 4 == 0 && (year % 100 != 0 || year % 400 == 0)

/-- How many days a month has. -/
def daysIn (year month : Nat) : Nat :=
  if month == 2 then (if isLeap year then 29 else 28)
  else if month == 4 || month == 6 || month == 9 || month == 11 then 30
  else 31

/-- Whether a text is a date that exists. -/
def isDate : List Char → Bool
  | [y, y', y'', y''', '-', m, m', '-', d, d'] =>
    match number? [y, y', y'', y'''], number? [m, m'] with
    | some year, some month =>
      1 ≤ month && month ≤ 12 && isBetween 1 (daysIn year month) [d, d']
    | _, _ => false
  | _ => false

/-- Whether a text is an hour and a minute. -/
def isHourMinute : List Char → Bool
  | [h, h', ':', m, m'] => isBetween 0 23 [h, h'] && isBetween 0 59 [m, m']
  | _ => false

/-- Whether a text is a time of day to the second. -/
def isClock (cs : List Char) : Bool :=
  match cs.drop 5 with
  | [':', s, s'] => isHourMinute (cs.take 5) && isBetween 0 60 [s, s']
  | _ => false

/-- A fraction of a second at the front of a text, in its normal form, and the text after it. Nine
digits are kept, and zeros at the end are left out. -/
def takeFraction : List Char → Option (List Char × List Char)
  | '.' :: r =>
    let ds := r.takeWhile isDigit
    let kept := ((ds.take 9).reverse.dropWhile (· == '0')).reverse
    if ds.isEmpty then none
    else some (if kept.isEmpty then [] else '.' :: kept, r.dropWhile isDigit)
  | r => some ([], r)

/-- The normal form of a distance from the zero meridian. -/
def offset? : List Char → Option (List Char)
  | [] => some []
  | [c] => if c == 'Z' || c == 'z' then some ['Z'] else none
  | c :: r =>
    if (c == '+' || c == '-') && isHourMinute r then
      some ((if r.all fun d => d == '0' || d == ':' then '+' else c) :: r)
    else none

/-- The normal form of a time of day; `placed` says whether it may give a distance from the zero
meridian. -/
def time? (placed : Bool) (cs : List Char) : Option (List Char) :=
  if isClock (cs.take 8) then
    match takeFraction (cs.drop 8) with
    | none => none
    | some (fraction, r) =>
      if r.isEmpty || placed then
        (offset? r).map fun o => cs.take 8 ++ (fraction ++ o)
      else none
  else none

/-- The normal form of a date, a time of day, or both. -/
def moment? (cs : List Char) : Option (List Char) :=
  if isDate (cs.take 10) then
    match cs.drop 10 with
    | [] => some cs
    | c :: r =>
      if c == 'T' || c == 't' || c == ' ' then
        (time? true r).map fun t => cs.take 10 ++ 'T' :: t
      else none
  else time? false cs

/-! ### Words -/

/-- The value that a word is. -/
def Value.ofWord? (cs : List Char) : Option Value :=
  if cs == ['t', 'r', 'u', 'e'] then some (.flag true)
  else if cs == ['f', 'a', 'l', 's', 'e'] then some (.flag false)
  else
    match integer? cs with
    | some i => some (.integer i)
    | none =>
      match float? cs with
      | some x => some (.float x)
      | none => (moment? cs).map fun m => .moment (String.ofList m)

/-- The value that is the word at the front of a text, and the text after it. A date may be
followed, after one space, by a time of day. -/
def readWord (cs : List Char) : Option (Value × List Char) :=
  let word := cs.takeWhile isWordChar
  let rest := cs.dropWhile isWordChar
  let long : Option (Value × List Char) :=
    match rest with
    | ' ' :: r =>
      if isDate word then
        (moment? (word ++ ' ' :: r.takeWhile isWordChar)).map fun m =>
          (.moment (String.ofList m), r.dropWhile isWordChar)
      else none
    | _ => none
  match long with
  | some found => some found
  | none => (Value.ofWord? word).map fun v => (v, rest)

end DeviceHost.Toml
