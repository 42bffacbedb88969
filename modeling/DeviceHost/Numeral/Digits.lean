/-!
# Decimal digits

Reading and writing of natural numbers and integers in the decimal system, over the ASCII digits
only: the digits of other scripts are not digits here.
-/

namespace DeviceHost.Numeral

/-- The value of an ASCII digit. -/
def digit? (c : Char) : Option Nat :=
  if '0' ≤ c ∧ c ≤ '9' then some (c.toNat - 48) else none

/-- Whether a character is an ASCII digit. -/
def isDigit (c : Char) : Bool := (digit? c).isSome

/-- The ASCII digit of a value below ten. -/
def digitChar (d : Nat) : Char := Char.ofNat (48 + d)

/-- The value of an ASCII digit of the sixteen-digit system. -/
def hexDigit? (c : Char) : Option Nat :=
  if '0' ≤ c ∧ c ≤ '9' then some (c.toNat - 48)
  else if 'a' ≤ c ∧ c ≤ 'f' then some (c.toNat - 87)
  else if 'A' ≤ c ∧ c ≤ 'F' then some (c.toNat - 55)
  else none

/-- The lower-case digit of a value below sixteen. -/
def hexDigitLower (d : Nat) : Char :=
  if d < 10 then digitChar d else Char.ofNat (87 + d)

/-- The upper-case digit of a value below sixteen. -/
def hexDigitUpper (d : Nat) : Char :=
  if d < 10 then digitChar d else Char.ofNat (55 + d)

/-- The digits of a number in front of digits that are already written. -/
def digitsOnto (n : Nat) (written : List Char) : List Char :=
  if n < 10 then digitChar n :: written
  else digitsOnto (n / 10) (digitChar (n % 10) :: written)
  termination_by n

/-- The decimal digits of a number, without leading zeros. -/
def digits (n : Nat) : List Char := digitsOnto n []

/-- The lower-case sixteen-system digits of a number, in front of digits that are already
written. -/
def hexDigitsOnto (n : Nat) (written : List Char) : List Char :=
  if n < 16 then hexDigitLower n :: written
  else hexDigitsOnto (n / 16) (hexDigitLower (n % 16) :: written)
  termination_by n

/-- The lower-case sixteen-system digits of a number, without leading zeros. -/
def hexDigits (n : Nat) : List Char := hexDigitsOnto n []

/-- The decimal text of an integer: a minus sign for a negative one, never a plus sign. -/
def ofInt : Int → List Char
  | .ofNat n => digits n
  | .negSucc n => '-' :: digits (n + 1)

/-- The decimal text of a natural number. -/
def natText (n : Nat) : String := String.ofList (digits n)

/-- The decimal text of an integer. -/
def intText (i : Int) : String := String.ofList (ofInt i)

/-- The value of a run of digits, after the value of the digits before them. -/
def valueFrom (acc : Nat) : List Nat → Nat
  | [] => acc
  | d :: ds => valueFrom (acc * 10 + d) ds

/-- The value of a run of digits. -/
def value (ds : List Nat) : Nat := valueFrom 0 ds

/-! ### Laws -/

theorem digitsOnto_of_lt {n : Nat} (h : n < 10) (a : List Char) :
    digitsOnto n a = digitChar n :: a := by
  rw [digitsOnto, if_pos h]

theorem digitsOnto_of_ge {n : Nat} (h : 10 ≤ n) (a : List Char) :
    digitsOnto n a = digitsOnto (n / 10) (digitChar (n % 10) :: a) := by
  rw [digitsOnto, if_neg (by omega)]

/-- What stands behind the digits does not matter for them. -/
theorem digitsOnto_append (n : Nat) (a b : List Char) :
    digitsOnto n (a ++ b) = digitsOnto n a ++ b := by
  induction n using Nat.strongRecOn generalizing a with
  | _ n ih =>
    by_cases h : n < 10
    · simp [digitsOnto_of_lt h]
    · have hn : 10 ≤ n := by omega
      rw [digitsOnto_of_ge hn, digitsOnto_of_ge hn a, ← List.cons_append, ih (n / 10) (by omega)]

theorem digits_of_lt {n : Nat} (h : n < 10) : digits n = [digitChar n] :=
  digitsOnto_of_lt h []

/-- The digits of a number are those of its tenth part and then its last one. -/
theorem digits_of_ge {n : Nat} (h : 10 ≤ n) :
    digits n = digits (n / 10) ++ [digitChar (n % 10)] := by
  rw [digits, digitsOnto_of_ge h, digits, ← digitsOnto_append, List.nil_append]

/-- A written digit is read back. -/
theorem digit?_digitChar {d : Nat} (h : d < 10) : digit? (digitChar d) = some d := by
  match d, h with
  | 0, _ | 1, _ | 2, _ | 3, _ | 4, _ | 5, _ | 6, _ | 7, _ | 8, _ | 9, _ => rfl
  | n + 10, h => omega

theorem isDigit_of_digit? {c : Char} {d : Nat} (h : digit? c = some d) : isDigit c = true := by
  rw [isDigit, h]
  rfl

/-- A hexadecimal digit written in lower case is read back. -/
theorem hexDigit?_hexDigitLower {d : Nat} (h : d < 16) : hexDigit? (hexDigitLower d) = some d := by
  have hall : ∀ d < 16, hexDigit? (hexDigitLower d) = some d := by decide
  exact hall d h

theorem hexDigit?_hexDigitUpper {d : Nat} (h : d < 16) : hexDigit? (hexDigitUpper d) = some d := by
  have hall : ∀ d < 16, hexDigit? (hexDigitUpper d) = some d := by decide
  exact hall d h

/-- The value of digits is that of the later ones, begun with that of the earlier ones. -/
theorem valueFrom_append (acc : Nat) (a b : List Nat) :
    valueFrom acc (a ++ b) = valueFrom (valueFrom acc a) b := by
  induction a generalizing acc with
  | nil => rfl
  | cons d ds ih => exact ih _

end DeviceHost.Numeral
