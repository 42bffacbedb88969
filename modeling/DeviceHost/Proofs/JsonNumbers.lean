import DeviceHost.Proofs.Integers
import DeviceHost.Proofs.Json

/-!
# Integers in JSON documents

An integer that is written as a number of a document may be of any size. What becomes of it depends
on whether 64 bits can hold it, signed or unsigned.

* `Token.scan?_number`, `Token.scan?_spaces` — the characters of a number are one lexeme, and the
  blanks before it are none;
* `spanDigits_append` — digits are found up to where none comes next;
* `Literal.ofChars?_ofInt` — its parts are a sign and digits, and there is nothing else;
* `Kept` — what a document makes of an integer;
* `Node.read?_ofInt` — this is made of every integer;
* `exists_mark` — a floating point number is never shown with digits alone, so it cannot be taken
  for an integer.
-/

namespace DeviceHost.Json

open Numeral

/-! ### The lexeme -/

/-- Blanks between lexemes do not count. -/
theorem Token.scan?_spaces {gap : List Char} (h : ∀ c ∈ gap, isSpace c = true)
    (d : List (Option Char)) : scan? (gap.map some ++ d) = scan? d := by
  induction gap with
  | nil => rfl
  | cons c gap ih =>
    obtain ⟨hc, hgap⟩ := List.forall_mem_cons.mp h
    have hstep : Scan.step ⟨[], .gap⟩ (some c) = ⟨[], .gap⟩ := if_pos hc
    rw [← ih hgap, List.map_cons, List.cons_append, scan?, List.foldl_cons, hstep, scan?]

/-- Characters of numbers are gathered in one lexeme. -/
theorem Scan.foldl_numeric (found : List Token) {cs : List Char}
    (h : ∀ c ∈ cs, isNumeric c = true) (chars : List Char) :
    (cs.map some).foldl step ⟨found, .number chars⟩ = ⟨found, .number (cs.reverse ++ chars)⟩ := by
  induction cs generalizing chars with
  | nil => rfl
  | cons c cs ih =>
    obtain ⟨hc, hcs⟩ := List.forall_mem_cons.mp h
    have hstep : step ⟨found, .number chars⟩ (some c) = ⟨found, .number (c :: chars)⟩ := if_pos hc
    rw [List.map_cons, List.foldl_cons, hstep, ih hcs, List.reverse_cons, List.append_assoc]
    rfl

theorem isNumeric_of_isDigit {c : Char} (h : isDigit c = true) : isNumeric c = true := by
  simp [isNumeric, h]

/-- A digit or a minus sign begins a number. -/
theorem Scan.begin_number {c : Char} (h : isDigit c = true ∨ c = '-') (found : List Token) :
    begin found c = ⟨found, .number [c]⟩ := by
  have hnumeric : isNumeric c = true := by
    rcases h with h | rfl
    · exact isNumeric_of_isDigit h
    · rfl
  -- a character of numbers is neither a blank nor a quote nor punctuation
  have hspace : isSpace c = false := by
    by_contra hspace
    simp only [isSpace, Bool.not_eq_false, Bool.or_eq_true, beq_iff_eq, or_assoc] at hspace
    rcases hspace with rfl | rfl | rfl | rfl <;> cases hnumeric
  have hquote : c ≠ '"' := by
    rintro rfl
    cases hnumeric
  have hpunctuation : Token.ofPunctuation? c = none := by
    rw [Option.eq_none_iff_forall_ne_some]
    intro t ht
    obtain ⟨-, -, -, hno⟩ := of_punctuation ht
    cases hno.symm.trans hnumeric
  have hbegin : (isDigit c || c == '-') = true := by simpa using h
  rw [begin, if_neg (by simp [hspace]), if_neg hquote, hpunctuation]
  exact if_pos hbegin

/-- The characters of a number are one lexeme. -/
theorem Token.scan?_number {c : Char} {cs : List Char} (hc : isDigit c = true ∨ c = '-')
    (hcs : ∀ c ∈ cs, isNumeric c = true) :
    scan? ((c :: cs).map some) = (ofNumber? (c :: cs)).map fun t => [t] := by
  have hfirst : Scan.step ⟨[], .gap⟩ (some c) = ⟨[], .number [c]⟩ := Scan.begin_number hc []
  rw [scan?, List.map_cons, List.foldl_cons, hfirst, Scan.foldl_numeric [] hcs, Scan.tokens?]
  simp

/-- The text of an integer begins with a digit or a minus sign and is numeric. -/
theorem exists_cons_ofInt (n : Int) :
    ∃ c cs, ofInt n = c :: cs ∧ (isDigit c = true ∨ c = '-') ∧ ∀ c ∈ cs, isNumeric c = true := by
  cases n with
  | ofNat n =>
    have hdigits := (isDecimal_digits n).all_digits
    rcases hcs : digits n with _ | ⟨c, cs⟩
    · exact absurd hcs (isDecimal_digits n).1
    · rw [hcs] at hdigits
      obtain ⟨hc, hrest⟩ := List.forall_mem_cons.mp hdigits
      exact ⟨c, cs, hcs, .inl hc, fun c hc => isNumeric_of_isDigit (hrest c hc)⟩
  | negSucc n =>
    have hdigits := (isDecimal_digits (n + 1)).all_digits
    exact ⟨'-', digits (n + 1), rfl, .inr rfl, fun c hc => isNumeric_of_isDigit (hdigits c hc)⟩

/-! ### The parts -/

/-- No digit comes next. -/
def EndsDigits (rest : List Char) : Prop := ∀ c, rest.head? = some c → isDigit c = false

theorem endsDigits_nil : EndsDigits [] := nofun

/-- Digits are taken off up to where they end. -/
theorem spanDigits_append {cs : List Char} {ds : List Nat} (h : AreDigits cs ds)
    {rest : List Char} (hrest : EndsDigits rest) : spanDigits (cs ++ rest) = (ds, rest) := by
  induction h with
  | nil =>
    cases rest with
    | nil => rfl
    | cons c r =>
      have hc : isDigit c = false := hrest c rfl
      simp [spanDigits, hc]
  | @cons c d cs ds hc _ ih =>
    have hdigit : isDigit c = true := isDigit_of_digit? hc
    obtain ⟨hdigits, hrest⟩ := Prod.mk.inj ih
    rw [List.cons_append, spanDigits, List.takeWhile_cons_of_pos hdigit,
      List.dropWhile_cons_of_pos hdigit, List.filterMap_cons_some hc, hdigits, hrest]

theorem spanDigits_eq {cs : List Char} {ds : List Nat} (h : AreDigits cs ds) :
    spanDigits cs = (ds, []) := by
  simpa using spanDigits_append h endsDigits_nil

/-- An integer has a sign and digits, and nothing else. -/
theorem Literal.ofChars?_ofInt (n : Int) :
    ∃ ds, ofChars? (ofInt n) = some ⟨decide (n < 0), ds, none, none⟩ ∧ value ds = n.natAbs := by
  obtain ⟨ds, hds, hvalue, hne, hzero⟩ := exists_digits n.natAbs
  refine ⟨ds, ?_, hvalue⟩
  have hspan : spanDigits (digits n.natAbs) = (ds, []) := spanDigits_eq hds
  have hwhole : ¬(ds.isEmpty || (ds.head? == some 0 && ds.length != 1)) = true := by
    simpa [hne] using hzero
  cases n with
  | ofNat n =>
    have hspan : spanDigits (digits n) = (ds, []) := hspan
    have hunsigned : ∀ r, digits n ≠ '-' :: r := by
      intro r hr
      have hminus : '-' ∈ digits n := by simp [hr]
      cases (isDecimal_digits n).all_digits '-' hminus
    have hsign : decide (Int.ofNat n < 0) = false := decide_eq_false (by simp)
    rw [ofInt, ofChars?, hspan, hsign]
    · exact if_neg hwhole
    · exact hunsigned
  | negSucc n =>
    have hspan : spanDigits (digits (n + 1)) = (ds, []) := hspan
    have hsign : decide (Int.negSucc n < 0) = true := decide_eq_true (Int.negSucc_lt_zero n)
    rw [ofInt, ofChars?, hspan, hsign]
    exact if_neg hwhole

/-! ### The number -/

/-- Leading digits that are full stay so, whatever digits follow. -/
theorem foldl_takeWhole_of_full {s : Leading} (h : s.full = true) (ds : List Nat) :
    (ds.foldl Leading.takeWhole s).full = true := by
  induction ds generalizing s with
  | nil => exact h
  | cons d ds ih =>
    refine ih ?_
    rw [Leading.takeWhole, h]
    rfl

/-- All digits are kept, or they stand for too great a number. -/
theorem foldl_takeWhole {acc : Nat} (h : acc ≤ greatest) (ds : List Nat) :
    (valueFrom acc ds ≤ greatest ∧
        ds.foldl Leading.takeWhole ⟨acc, 0, false⟩ = ⟨valueFrom acc ds, 0, false⟩) ∨
      (greatest < valueFrom acc ds ∧ (ds.foldl Leading.takeWhole ⟨acc, 0, false⟩).full = true) := by
  induction ds generalizing acc with
  | nil => exact .inl ⟨h, rfl⟩
  | cons d ds ih =>
    rw [List.foldl_cons, valueFrom]
    by_cases hfits : acc * 10 + d ≤ greatest
    · have hkept : Leading.takeWhole ⟨acc, 0, false⟩ d = ⟨acc * 10 + d, 0, false⟩ := by
        rw [Leading.takeWhole, if_pos (by simpa using hfits)]
      rw [hkept]
      exact ih hfits
    · -- the first digit without room fills the leading digits
      have hdropped : Leading.takeWhole ⟨acc, 0, false⟩ d = ⟨acc, 1, true⟩ := by
        rw [Leading.takeWhole, if_neg (by simpa using hfits)]
        rfl
      rw [hdropped]
      exact .inr ⟨Nat.lt_of_lt_of_le (Nat.lt_of_not_le hfits) (le_valueFrom _ ds),
        foldl_takeWhole_of_full rfl ds⟩

/-- 64 bits can hold an integer, signed or unsigned. -/
def FitsWord (n : Int) : Prop :=
  -9223372036854775808 ≤ n ∧ n ≤ 18446744073709551615

/-- What a document makes of an integer. -/
inductive Kept (n : Int) : Option Number → Prop
  /-- it is kept as it is -/
  | exact : Kept n (some (.integer n))
  /-- 64 bits cannot hold it, and it becomes a floating point number -/
  | rounded (h : ¬ FitsWord n) (x : Real) : Kept n (some (.real x))
  /-- it is too great even for these -/
  | refused (h : ¬ FitsWord n) : Kept n none

/-- A number without fraction and exponent is kept as its size allows: whole, rounded or not. -/
theorem kept_number? {n : Int} {ds : List Nat} (h : value ds = n.natAbs) :
    Kept n (Literal.number? ⟨decide (n < 0), ds, none, none⟩) := by
  have hgreatest : greatest = 18446744073709551615 := rfl
  rw [Literal.number?]
  dsimp only
  rcases foldl_takeWhole (Nat.zero_le greatest) ds with ⟨hle, hwhole⟩ | ⟨hgt, hfull⟩
  · rw [← value, h] at hle hwhole
    rw [hwhole, if_neg Bool.false_ne_true]
    by_cases hneg : n < 0
    · have habs : -(n.natAbs : Int) = n := by omega
      rw [if_neg (by simp [hneg])]
      split
      · -- zero with a sign and what lies below 64 bits become floating point numbers
        rename_i hbelow
        have hbelow : n.natAbs = 0 ∨ 9223372036854775808 < n.natAbs := hbelow
        exact .rounded (by rw [FitsWord]; omega) _
      · rw [habs]
        exact .exact
    · have habs : (n.natAbs : Int) = n := by omega
      rw [if_pos (by simp [hneg]), habs]
      exact .exact
  · rw [← value, h] at hgt
    rw [if_pos hfull]
    have hout : ¬ FitsWord n := by rw [FitsWord]; omega
    rcases realSize? (ds.foldl Leading.takeWhole ⟨0, 0, false⟩) none with _ | x
    · exact .refused hout
    · exact .rounded hout _

/-- **An integer in a document** is kept if 64 bits can hold it, and otherwise it is no integer any
more. -/
theorem Node.read?_ofInt {gap : List Char} (hgap : ∀ c ∈ gap, isSpace c = true) (n : Int) :
    ∃ x, Kept n x ∧ Node.read? ((gap ++ ofInt n).map some) = some (.number x) := by
  obtain ⟨ds, hparts, hvalue⟩ := Literal.ofChars?_ofInt n
  let l : Literal := ⟨decide (n < 0), ds, none, none⟩
  have hnumber : Token.ofNumber? (ofInt n) = some (.number l.number?) := by
    rw [Token.ofNumber?, hparts]
    rfl
  obtain ⟨c, cs, hcs, hfirst, hrest⟩ := exists_cons_ofInt n
  refine ⟨l.number?, kept_number? hvalue, read?_eq_some.mpr ⟨[.number l.number?], ?_, rfl⟩⟩
  rw [List.map_append, Token.scan?_spaces hgap, hcs, Token.scan?_number hfirst hrest, ← hcs,
    hnumber]
  rfl

/-! ### The text of a floating point number -/

/-- The characters by which a floating point number can be told from an integer. -/
def marks : List Char := ['.', 'e', 'N', 'i']

theorem exists_mark_pointed (ds : List Char) (e : Int) : '.' ∈ pointed true ds e := by
  cases e with
  | ofNat k => simp [pointed]
  | negSucc k =>
    rw [pointed]
    split <;> simp

/-- The text of a floating point number holds a mark that no integer has. -/
theorem exists_mark_decimal (d : Nat) (e : Int) : ∃ c ∈ layout.decimal d e, c ∈ marks := by
  rw [Layout.decimal]
  dsimp only [layout]
  split
  · exact ⟨'.', exists_mark_pointed _ _, by decide⟩
  · exact ⟨'e', by simp [withExponent], by decide⟩

/-- A floating point number has a point, an exponent, or no digits at all. -/
theorem exists_mark (x : Real) : ∃ c ∈ layout.text x, c ∈ marks := by
  cases x with
  | nan => exact ⟨'N', by decide, by decide⟩
  | infinite negative => exact ⟨'i', by simp [Layout.text], by decide⟩
  | finite negative m q =>
    have hsize : ∃ c ∈ (if m = 0 then pointed layout.keepPoint ['0'] 0
        else layout.decimal (shortest .double layout.tie m q).1
          (shortest .double layout.tie m q).2), c ∈ marks := by
      split
      · exact ⟨'.', exists_mark_pointed _ _, by decide⟩
      · exact exists_mark_decimal _ _
    obtain ⟨c, hc, hmark⟩ := hsize
    refine ⟨c, ?_, hmark⟩
    cases negative with
    | false => exact hc
    | true => exact List.mem_cons_of_mem '-' hc

end DeviceHost.Json
