import DeviceHost.Numeral.Digits

/-!
# Integers of a fixed width

An integer literal is an optional sign and one or more ASCII digits, with any number of leading
zeros. A plus sign is always allowed, a minus sign only if the width holds negative numbers. The
digits are read from left to right and the first trouble wins: a character that is no digit, or the
digit that takes the value out of the range.
-/

namespace DeviceHost.Numeral

/-- Why a text is no integer of the wanted width. -/
inductive IntegerError
  /-- there is no text -/
  | empty
  /-- a character is no digit, or there is only a sign -/
  | invalidDigit
  /-- the value is above the range -/
  | tooLarge
  /-- the value is below the range -/
  | tooSmall
  deriving Repr, DecidableEq

/-- The wording of an integer error. -/
def IntegerError.message : IntegerError → String
  | empty => "cannot parse integer from empty string"
  | invalidDigit => "invalid digit found in string"
  | tooLarge => "number too large to fit in target type"
  | tooSmall => "number too small to fit in target type"

/-- The range of a width: from `-below` to `above`. -/
structure Range where
  /-- the magnitude of the least value; zero for an unsigned width -/
  below : Nat
  /-- the greatest value -/
  above : Nat
  deriving Repr, DecidableEq

/-- The range of unsigned integers of `n` bits. -/
def Range.unsigned (n : Nat) : Range := ⟨0, Nat.pow 2 n - 1⟩

/-- The range of signed integers of `n` bits. -/
def Range.signed (n : Nat) : Range := ⟨Nat.pow 2 (n - 1), Nat.pow 2 (n - 1) - 1⟩

/-- Whether an integer lies in the range. -/
def Range.Holds (r : Range) (i : Int) : Prop := -(r.below : Int) ≤ i ∧ i ≤ r.above

instance (r : Range) (i : Int) : Decidable (r.Holds i) := inferInstanceAs (Decidable (_ ∧ _))

/-- The magnitude that digits spell, after the magnitude of the digits before them, if it never
exceeds the limit. -/
def magnitude (limit : Nat) (excess : IntegerError) : Nat → List Char → Except IntegerError Nat
  | acc, [] => .ok acc
  | acc, c :: cs =>
    match digit? c with
    | none => .error .invalidDigit
    | some d =>
      if acc * 10 + d ≤ limit then magnitude limit excess (acc * 10 + d) cs else .error excess

/-- The magnitude that one or more digits spell. -/
def magnitude? (limit : Nat) (excess : IntegerError) (cs : List Char) : Except IntegerError Nat :=
  if cs.isEmpty then .error .invalidDigit else magnitude limit excess 0 cs

/-- The integer that a text spells, if it lies in the range. -/
def Range.parse (r : Range) : List Char → Except IntegerError Int
  | [] => .error .empty
  | c :: cs =>
    if c = '+' then (magnitude? r.above .tooLarge cs).map Int.ofNat
    else if c = '-' ∧ 0 < r.below then (magnitude? r.below .tooSmall cs).map fun n => -(n : Int)
    else (magnitude? r.above .tooLarge (c :: cs)).map Int.ofNat

end DeviceHost.Numeral
