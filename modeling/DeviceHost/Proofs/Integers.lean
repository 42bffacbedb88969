import DeviceHost.Numeral.Integer
import Mathlib.Data.List.Forall2

/-!
# Integers in the decimal system

What digits stand for, apart from any width and any order of reading them, and what a width makes of
it.

* `IsDecimal` — one or more digits stand for a natural number;
* `isDecimal_digits` — the digits that are written for a number stand for it;
* `magnitude?_eq_ok_iff` — digits are read as what they stand for, if that is within the limit;
* `IsNumeral` — digits, with a sign in front or without, stand for an integer;
* `Range.parse_eq_ok_iff` — a width reads those of its range, and nothing else;
* `Range.parse_ofInt` — so an integer that a width holds is read as it was written.
-/

namespace DeviceHost.Numeral

/-! ### What digits stand for -/

/-- The characters are one or more digits that stand for a number; it does not matter how many zeros
are in front. -/
def IsDecimal (cs : List Char) (n : Nat) : Prop :=
  cs ≠ [] ∧ ∃ ds, List.Forall₂ (fun c d => digit? c = some d) cs ds ∧ value ds = n

/-- The characters are digits of these values. -/
def AreDigits (cs : List Char) (ds : List Nat) : Prop :=
  List.Forall₂ (fun c d => digit? c = some d) cs ds

/-- Characters that are read as digits are digits. -/
theorem AreDigits.all_isDigit {cs : List Char} {ds : List Nat} (h : AreDigits cs ds) :
    ∀ c ∈ cs, isDigit c = true := by
  induction h with
  | nil => nofun
  | cons hc _ ih => exact List.forall_mem_cons.mpr ⟨isDigit_of_digit? hc, ih⟩

/-- The digits that are written for a number stand for it, and have no zero in front unless it is
the only one. -/
theorem exists_digits (n : Nat) :
    ∃ ds, List.Forall₂ (fun c d => digit? c = some d) (digits n) ds ∧ value ds = n ∧
      ds ≠ [] ∧ (ds.head? = some 0 → ds.length = 1) := by
  induction n using Nat.strongRecOn with
  | _ n ih =>
    rcases Nat.lt_or_ge n 10 with hn | hn
    · rw [digits_of_lt hn]
      refine ⟨[n], .cons (digit?_digitChar hn) .nil, ?_, List.cons_ne_nil n [], fun _ => rfl⟩
      change 0 * 10 + n = n
      omega
    · obtain ⟨ds, hds, hvalue, hne, hzero⟩ := ih (n / 10) (by omega)
      have hlast : digit? (digitChar (n % 10)) = some (n % 10) :=
        digit?_digitChar (Nat.mod_lt n (by decide))
      refine ⟨ds ++ [n % 10], ?_, ?_, by simp, fun hhead => ?_⟩
      · rw [digits_of_ge hn]
        exact List.rel_append hds (.cons hlast .nil)
      · rw [value, valueFrom_append, ← value, hvalue]
        exact Nat.div_add_mod' n 10
      · -- a single zero in front would stand for the tenth part, which is not zero
        rw [List.head?_append_of_ne_nil ds hne] at hhead
        obtain ⟨d, rfl⟩ := List.length_eq_one_iff.mp (hzero hhead)
        obtain rfl := Option.some.inj hhead
        have htenth : 0 = n / 10 := hvalue
        omega

/-- The digits of a number are a decimal of that number. -/
theorem isDecimal_digits (n : Nat) : IsDecimal (digits n) n := by
  obtain ⟨ds, hds, hvalue, hne, -⟩ := exists_digits n
  refine ⟨fun hnil => ?_, ds, hds, hvalue⟩
  rw [hnil] at hds
  exact hne (List.forall₂_nil_left_iff.mp hds)

theorem IsDecimal.all_digits {cs : List Char} {n : Nat} (h : IsDecimal cs n) :
    ∀ c ∈ cs, isDigit c = true := by
  obtain ⟨-, ds, hds, -⟩ := h
  exact AreDigits.all_isDigit hds

/-! ### Reading up to a limit -/

/-- Digits only add to what is in front of them. -/
theorem le_valueFrom (acc : Nat) (ds : List Nat) : acc ≤ valueFrom acc ds := by
  induction ds generalizing acc with
  | nil => exact Nat.le_refl acc
  | cons d ds ih => exact Nat.le_trans (by omega) (ih (acc * 10 + d))

/-- Digits are taken up to a limit exactly if their value does not exceed it. -/
theorem magnitude_eq_ok_iff {limit acc n : Nat} {excess : IntegerError} {cs : List Char}
    (hacc : acc ≤ limit) :
    magnitude limit excess acc cs = .ok n ↔
      ∃ ds, List.Forall₂ (fun c d => digit? c = some d) cs ds ∧ valueFrom acc ds = n ∧
        n ≤ limit := by
  induction cs generalizing acc with
  | nil =>
    constructor
    · intro h
      obtain rfl := Except.ok.inj h
      exact ⟨[], .nil, rfl, hacc⟩
    · rintro ⟨ds, hds, rfl, -⟩
      obtain rfl := List.forall₂_nil_left_iff.mp hds
      rfl
  | cons c cs ih =>
    rw [magnitude]
    rcases hc : digit? c with _ | d
    · constructor
      · nofun
      · rintro ⟨ds, hds, -⟩
        obtain ⟨d, _, hd, -, -⟩ := List.forall₂_cons_left_iff.mp hds
        cases hc.symm.trans hd
    · dsimp only
      split
      · rename_i hnext
        rw [ih hnext]
        constructor
        · rintro ⟨ds, hds, hvalue, hn⟩
          exact ⟨d :: ds, .cons hc hds, hvalue, hn⟩
        · rintro ⟨ds, hds, hvalue, hn⟩
          obtain ⟨d', ds', hd, htail, rfl⟩ := List.forall₂_cons_left_iff.mp hds
          obtain rfl := Option.some.inj (hc.symm.trans hd)
          exact ⟨ds', htail, hvalue, hn⟩
      · -- once the limit is passed, no later digit leads back below it
        rename_i hpast
        constructor
        · nofun
        · rintro ⟨ds, hds, rfl, hn⟩
          obtain ⟨d', ds', hd, -, rfl⟩ := List.forall₂_cons_left_iff.mp hds
          obtain rfl := Option.some.inj (hc.symm.trans hd)
          exact absurd (Nat.le_trans (le_valueFrom (acc * 10 + d) ds') hn) hpast

/-- **Digits are read as what they stand for**, if that is within the limit, and never as anything
else. -/
theorem magnitude?_eq_ok_iff {limit n : Nat} {excess : IntegerError} {cs : List Char} :
    magnitude? limit excess cs = .ok n ↔ IsDecimal cs n ∧ n ≤ limit := by
  rw [magnitude?]
  rcases cs with _ | ⟨c, cs⟩
  · constructor
    · nofun
    · rintro ⟨⟨hne, -⟩, -⟩
      exact absurd rfl hne
  · rw [if_neg (by simp), magnitude_eq_ok_iff (Nat.zero_le limit)]
    constructor
    · rintro ⟨ds, hds, hvalue, hn⟩
      exact ⟨⟨List.cons_ne_nil c cs, ds, hds, hvalue⟩, hn⟩
    · rintro ⟨⟨-, ds, hds, hvalue⟩, hn⟩
      exact ⟨ds, hds, hvalue, hn⟩

/-! ### Integers of a width -/

theorem not_isSign_of_isDigit {c : Char} (h : isDigit c = true) : c ≠ '+' ∧ c ≠ '-' := by
  constructor
  · rintro rfl
    cases h
  · rintro rfl
    cases h

/-- A text without a sign. -/
theorem Range.parse_of_isDecimal {r : Range} {cs : List Char} {n : Nat} (h : IsDecimal cs n)
    (hn : n ≤ r.above) : r.parse cs = .ok (Int.ofNat n) := by
  have hread : magnitude? r.above .tooLarge cs = .ok n := magnitude?_eq_ok_iff.mpr ⟨h, hn⟩
  rcases cs with _ | ⟨c, cs⟩
  · exact absurd rfl h.1
  · obtain ⟨hplus, hminus⟩ := not_isSign_of_isDigit (h.all_digits c (List.mem_cons_self ..))
    rw [parse, if_neg hplus, if_neg fun hm => hminus hm.1, hread]
    rfl

/-- The characters are digits that stand for an integer, with at most one sign in front of them. A
plus sign is always allowed, a minus sign only where numbers have a sign. -/
inductive IsNumeral (signed : Prop) : List Char → Int → Prop
  /-- no sign -/
  | plain {cs : List Char} {n : Nat} : IsDecimal cs n → IsNumeral signed cs n
  /-- a plus sign -/
  | plus {cs : List Char} {n : Nat} : IsDecimal cs n → IsNumeral signed ('+' :: cs) n
  /-- a minus sign, which turns the number into its opposite -/
  | minus {cs : List Char} {n : Nat} : signed → IsDecimal cs n → IsNumeral signed ('-' :: cs) (-n)

/-- A numeral stays one where the minus sign is allowed more often. -/
theorem IsNumeral.mono {p q : Prop} (h : p → q) {cs : List Char} {i : Int}
    (hi : IsNumeral p cs i) : IsNumeral q cs i := by
  cases hi with
  | plain hn => exact .plain hn
  | plus hn => exact .plus hn
  | minus hp hn => exact .minus (h hp) hn

/-- A numeral consists of digits and signs. -/
theorem IsNumeral.isDigit_or_isSign {p : Prop} {cs : List Char} {i : Int} (h : IsNumeral p cs i) :
    ∀ c ∈ cs, isDigit c = true ∨ c = '+' ∨ c = '-' := by
  cases h with
  | plain hn => exact fun c hc => .inl (hn.all_digits c hc)
  | plus hn =>
    exact List.forall_mem_cons.mpr ⟨.inr (.inl rfl), fun c hc => .inl (hn.all_digits c hc)⟩
  | minus _ hn =>
    exact List.forall_mem_cons.mpr ⟨.inr (.inr rfl), fun c hc => .inl (hn.all_digits c hc)⟩

/-- What is written for an integer stands for it. -/
theorem isNumeral_ofInt {signed : Prop} {i : Int} (h : i < 0 → signed) :
    IsNumeral signed (ofInt i) i := by
  cases i with
  | ofNat n => exact .plain (isDecimal_digits n)
  | negSucc n => exact .minus (h (Int.negSucc_lt_zero n)) (isDecimal_digits (n + 1))

/-- A magnitude with a sign is taken exactly if its decimal does not exceed the limit. -/
theorem map_magnitude?_eq_ok_iff {limit : Nat} {excess : IntegerError} {cs : List Char}
    {sign : Nat → Int} {i : Int} :
    (magnitude? limit excess cs).map sign = .ok i ↔
      ∃ n, IsDecimal cs n ∧ n ≤ limit ∧ sign n = i := by
  constructor
  · intro h
    rcases hread : magnitude? limit excess cs with e | n
    · rw [hread] at h
      cases h
    · rw [hread] at h
      obtain ⟨hn, hle⟩ := magnitude?_eq_ok_iff.mp hread
      exact ⟨n, hn, hle, Except.ok.inj h⟩
  · rintro ⟨n, hn, hle, rfl⟩
    rw [magnitude?_eq_ok_iff.mpr ⟨hn, hle⟩]
    rfl

/-- Behind a minus sign stands the magnitude of a negative integer, where there are any. -/
theorem Range.parse_minus {r : Range} (h : 0 < r.below) (cs : List Char) :
    r.parse ('-' :: cs) = (magnitude? r.below .tooSmall cs).map fun n : Nat => (-n : Int) := by
  rw [parse, if_neg (by decide), if_pos ⟨rfl, h⟩]
  cases magnitude? r.below .tooSmall cs <;> rfl

/-- **A width reads the integers of its range**, and nothing else. -/
theorem Range.parse_eq_ok_iff {r : Range} {cs : List Char} {i : Int} :
    r.parse cs = .ok i ↔ IsNumeral (0 < r.below) cs i ∧ r.Holds i := by
  have hnat {n : Nat} (h : n ≤ r.above) : r.Holds n := ⟨by omega, Int.ofNat_le.mpr h⟩
  constructor
  · intro h
    rcases cs with _ | ⟨c, cs⟩
    · cases h
    by_cases hplus : c = '+'
    · rw [parse, if_pos hplus] at h
      obtain ⟨n, hn, hle, rfl⟩ := map_magnitude?_eq_ok_iff.mp h
      rw [hplus]
      exact ⟨.plus hn, hnat hle⟩
    by_cases hminus : c = '-' ∧ 0 < r.below
    · obtain ⟨rfl, hsigned⟩ := hminus
      rw [parse_minus hsigned] at h
      obtain ⟨n, hn, hle, rfl⟩ := map_magnitude?_eq_ok_iff.mp h
      exact ⟨.minus hsigned hn, by omega, by omega⟩
    · rw [parse, if_neg hplus, if_neg hminus] at h
      obtain ⟨n, hn, hle, rfl⟩ := map_magnitude?_eq_ok_iff.mp h
      exact ⟨.plain hn, hnat hle⟩
  · rintro ⟨hi, hbelow, habove⟩
    cases hi with
    | plain hn => exact parse_of_isDecimal hn (Int.ofNat_le.mp habove)
    | plus hn =>
      rw [parse, if_pos rfl]
      exact map_magnitude?_eq_ok_iff.mpr ⟨_, hn, Int.ofNat_le.mp habove, rfl⟩
    | minus hsigned hn =>
      rw [parse_minus hsigned]
      have hfits := Int.ofNat_le.mp (Int.neg_le_neg_iff.mp hbelow)
      exact map_magnitude?_eq_ok_iff.mpr ⟨_, hn, hfits, rfl⟩

/-- Characters stand for one integer at most: a range that is wide enough reads them. -/
theorem IsNumeral.unique {p : Prop} {cs : List Char} {i j : Int} (hi : IsNumeral p cs i)
    (hj : IsNumeral p cs j) : i = j := by
  let r : Range := ⟨i.natAbs + j.natAbs + 1, i.natAbs + j.natAbs⟩
  have hsigned : p → 0 < r.below := fun _ => Nat.succ_pos _
  have hreadᵢ : r.parse cs = .ok i :=
    Range.parse_eq_ok_iff.mpr ⟨hi.mono hsigned, by simp only [Range.Holds, r]; omega⟩
  have hreadⱼ : r.parse cs = .ok j :=
    Range.parse_eq_ok_iff.mpr ⟨hj.mono hsigned, by simp only [Range.Holds, r]; omega⟩
  exact Except.ok.inj (hreadᵢ.symm.trans hreadⱼ)

/-- **An integer that a width holds is read as it was written.** -/
theorem Range.parse_ofInt {r : Range} {i : Int} (h : r.Holds i) : r.parse (ofInt i) = .ok i := by
  have hsigned (hi : i < 0) : 0 < r.below := by
    have hbelow : -(r.below : Int) ≤ i := h.1
    omega
  exact parse_eq_ok_iff.mpr ⟨isNumeral_ofInt hsigned, h⟩

example : (Range.signed 8).parse "-128".toList = .ok (-128) := by decide

end DeviceHost.Numeral
