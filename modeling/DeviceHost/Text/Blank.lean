/-!
# Blank characters

A character is *blank* when Unicode gives it the property `White_Space`. There are 25 of them, and
they are the characters that are cut off both ends of a text before it is read as a value or
checked for being empty.

* `isBlank` — membership in the table;
* `trim` — a text without the blanks at its two ends; the text between them is kept as it is.
-/

namespace DeviceHost.Text

/-- The characters with the Unicode property `White_Space`. -/
def isBlank (c : Char) : Bool :=
  let n := c.toNat
  (9 ≤ n && n ≤ 13) || n == 0x20 || n == 0x85 || n == 0xA0 || n == 0x1680 ||
    (0x2000 ≤ n && n ≤ 0x200A) || n == 0x2028 || n == 0x2029 || n == 0x202F || n == 0x205F ||
    n == 0x3000

/-- A text without its leading blanks. -/
def trimLeft (cs : List Char) : List Char :=
  cs.dropWhile isBlank

/-- A text without the blanks at its two ends. -/
def trim (cs : List Char) : List Char :=
  (trimLeft (trimLeft cs).reverse).reverse

/-! ### Laws -/

@[simp] theorem trimLeft_nil : trimLeft [] = [] := rfl

@[simp] theorem trim_nil : trim [] = [] := rfl

/-- A text that starts with no blank is not shortened from the left. -/
theorem trimLeft_cons_of_not_blank {c : Char} {cs : List Char} (h : isBlank c = false) :
    trimLeft (c :: cs) = c :: cs := by
  simp [trimLeft, List.dropWhile, h]

/-- Nothing is left of a text exactly when all of it is blank. -/
theorem trimLeft_eq_nil_iff {cs : List Char} : trimLeft cs = [] ↔ ∀ c ∈ cs, isBlank c = true := by
  induction cs with
  | nil => simp
  | cons c cs ih => by_cases h : isBlank c <;> simp_all [trimLeft, List.dropWhile]

end DeviceHost.Text
