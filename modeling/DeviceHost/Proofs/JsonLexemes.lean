import DeviceHost.Proofs.JsonNumbers
import Mathlib.Data.List.TakeWhile
import Mathlib.Tactic.SplitIfs

/-!
# Lexemes of JSON documents, as they are spelled

The grammar of words, numbers and texts is given by rules, and the machine that finds the lexemes of
a document is shown to keep to them: it finds what the characters spell, and nothing else.

* `Literal.Spelled` and `Literal.ofChars?_eq_some_iff` — the parts of a number;
* `SpelledUnits`, `StandFor` and `joinUnits_eq_some_iff` — the units of a text, and the characters
  that they stand for;
* `Token.Spelled` and `Token.scan?_of_spelled` — a lexeme by itself is found;
* `Mode.Leaves` — what the rest of a document has to spell, in the middle of a lexeme;
* `Scan.leaves_step` — one character keeps account of that;
* `Token.lexes_of_scan?` — the lexemes that were found are those that the document spells.
-/

namespace DeviceHost.Json

open Numeral

/-! ### Digits -/

theorem areDigits_filterMap {cs : List Char} (h : ∀ c ∈ cs, isDigit c = true) :
    AreDigits cs (cs.filterMap digit?) := by
  induction cs with
  | nil => exact .nil
  | cons c cs ih =>
    rw [List.forall_mem_cons] at h
    obtain ⟨d, hd⟩ := Option.isSome_iff_exists.mp h.1
    rw [List.filterMap_cons_some hd]
    exact .cons hd (ih h.2)

/-- The digits at the front end where the first other character stands. -/
theorem exists_of_spanDigits {cs rest : List Char} {ds : List Nat}
    (h : spanDigits cs = (ds, rest)) : ∃ w, cs = w ++ rest ∧ AreDigits w ds ∧ EndsDigits rest := by
  obtain ⟨rfl, rfl⟩ := Prod.mk.inj h
  refine ⟨cs.takeWhile isDigit, List.takeWhile_append_dropWhile.symm, ?_, fun c hc => ?_⟩
  · exact areDigits_filterMap fun c hc => List.mem_takeWhile_imp hc
  · simpa [hc] using List.head?_dropWhile_not isDigit cs

/-! ### The parts of a number -/

/-- A fraction, if there is one. -/
inductive IsFraction : List Char → Option (List Nat) → Prop
  | missing : IsFraction [] none
  | given {cs : List Char} {ds : List Nat} (h : AreDigits cs ds) (hne : ds ≠ []) :
    IsFraction ('.' :: cs) (some ds)

/-- A sign, if there is one: whether it is a minus. -/
inductive IsSign : List Char → Bool → Prop
  | missing : IsSign [] false
  | plus : IsSign ['+'] false
  | minus : IsSign ['-'] true

/-- A power of ten, if there is one. -/
inductive IsExponent : List Char → Option (Bool × List Nat) → Prop
  | missing : IsExponent [] none
  | given {c : Char} {sign cs : List Char} {negative : Bool} {ds : List Nat}
    (hc : c = 'e' ∨ c = 'E') (hsign : IsSign sign negative) (h : AreDigits cs ds) (hne : ds ≠ []) :
    IsExponent (c :: (sign ++ cs)) (some (negative, ds))

/-- A number without its sign: digits without a leading zero, and then a fraction and a power of
ten, if there are any. -/
inductive IsMagnitude : List Char → Literal → Prop
  | mk {whole fraction exponent : List Char} {l : Literal} (hwhole : AreDigits whole l.whole)
    (hne : l.whole ≠ []) (hzero : l.whole.head? = some 0 → l.whole.length = 1)
    (hfraction : IsFraction fraction l.fraction) (hexponent : IsExponent exponent l.exponent) :
    IsMagnitude (whole ++ (fraction ++ exponent)) l

/-- A number, with a minus sign if it is negative. -/
inductive Literal.Spelled : List Char → Literal → Prop
  | plain {cs : List Char} {l : Literal} (hl : l.negative = false) (h : IsMagnitude cs l) :
    Spelled cs l
  | minus {cs : List Char} {l : Literal} (hl : l.negative = true) (h : IsMagnitude cs l) :
    Spelled ('-' :: cs) l

/-- What was taken as a sign is a sign, in front of the rest. -/
theorem exists_of_spanSign {cs rest : List Char} {negative : Bool}
    (h : spanSign cs = (negative, rest)) : ∃ sign, IsSign sign negative ∧ cs = sign ++ rest := by
  rw [spanSign.eq_def] at h
  split at h
  · obtain ⟨rfl, rfl⟩ := Prod.mk.inj h
    exact ⟨['-'], .minus, rfl⟩
  · obtain ⟨rfl, rfl⟩ := Prod.mk.inj h
    exact ⟨['+'], .plus, rfl⟩
  · obtain ⟨rfl, rfl⟩ := Prod.mk.inj h
    exact ⟨[], .missing, rfl⟩

/-- A sign in front of digits is taken off. -/
theorem IsSign.spanSign_append {sign : List Char} {negative : Bool} (h : IsSign sign negative)
    {cs : List Char} {ds : List Nat} (hcs : AreDigits cs ds) (hne : ds ≠ []) :
    spanSign (sign ++ cs) = (negative, cs) := by
  cases h with
  | plus => rfl
  | minus => rfl
  | missing =>
    cases hcs with
    | nil => exact absurd rfl hne
    | @cons c d cs ds hc _ =>
      obtain ⟨hplus, hminus⟩ := not_isSign_of_isDigit (isDigit_of_digit? hc)
      rw [List.nil_append, spanSign]
      · rintro _ ⟨⟩
        exact hminus rfl
      · rintro _ ⟨⟩
        exact hplus rfl

/-- The exponent is read exactly as the rules spell it. -/
theorem spanExponent?_eq_some_iff {cs : List Char} {e : Option (Bool × List Nat)} :
    spanExponent? cs = some e ↔ IsExponent cs e := by
  constructor
  · intro h
    cases cs with
    | nil =>
      obtain rfl := Option.some.inj h
      exact .missing
    | cons c cs =>
      rw [spanExponent?] at h
      split at h
      case isFalse => cases h
      case isTrue hc =>
        rcases hcs : spanSign cs with ⟨negative, r⟩
        rcases hspan : spanDigits r with ⟨ds, rest⟩
        simp only [hcs, hspan] at h
        obtain ⟨sign, hsign, rfl⟩ := exists_of_spanSign hcs
        obtain ⟨w, rfl, hds, -⟩ := exists_of_spanDigits hspan
        split at h
        case isTrue => cases h
        case isFalse hdigits =>
          obtain rfl := Option.some.inj h
          simp only [Bool.or_eq_true, Bool.not_eq_true', List.isEmpty_iff, not_or,
            Bool.not_eq_false] at hdigits
          obtain ⟨hne, rfl⟩ := hdigits
          rw [List.append_nil]
          exact .given hc hsign hds hne
  · rintro (_ | ⟨hc, hsign, hcs, hne⟩)
    · rfl
    · have hspan := spanDigits_append hcs endsDigits_nil
      rw [List.append_nil] at hspan
      rw [spanExponent?, if_pos hc, hsign.spanSign_append hcs hne]
      dsimp only
      rw [hspan]
      simp [hne]

/-- The parts of a number behind its sign. -/
def Literal.ofUnsigned? (negative : Bool) (cs : List Char) : Option Literal :=
  let whole := spanDigits cs
  if whole.1.isEmpty || (whole.1.head? == some 0 && whole.1.length != 1) then none
  else match whole.2 with
    | '.' :: r =>
      let fraction := spanDigits r
      if fraction.1.isEmpty then none
      else (spanExponent? fraction.2).map fun e => ⟨negative, whole.1, some fraction.1, e⟩
    | r => (spanExponent? r).map fun e => ⟨negative, whole.1, none, e⟩

theorem Literal.ofChars?_minus (cs : List Char) : ofChars? ('-' :: cs) = ofUnsigned? true cs := rfl

theorem Literal.ofChars?_plain {cs : List Char} (h : cs.head? ≠ some '-') :
    ofChars? cs = ofUnsigned? false cs := by
  rw [ofChars?]
  · rfl
  · rintro r rfl
    exact h rfl

/-- An exponent ends the digits in front of it. -/
theorem endsDigits_exponent {cs : List Char} {e : Option (Bool × List Nat)}
    (h : IsExponent cs e) : EndsDigits cs := by
  cases h with
  | missing => exact endsDigits_nil
  | given hc =>
    rintro _ ⟨⟩
    rcases hc with rfl | rfl <;> decide

theorem endsDigits_fraction {cs rest : List Char} {f : Option (List Nat)} (h : IsFraction cs f)
    (hrest : EndsDigits rest) : EndsDigits (cs ++ rest) := by
  cases h with
  | missing => exact hrest
  | given =>
    rintro _ ⟨⟩
    decide

/-- What is read behind the sign is a magnitude by the rules. -/
theorem Literal.isMagnitude_of_ofUnsigned? {negative : Bool} {cs : List Char} {l : Literal}
    (h : ofUnsigned? negative cs = some l) : l.negative = negative ∧ IsMagnitude cs l := by
  rcases hspan : spanDigits cs with ⟨ds, rest⟩
  simp only [ofUnsigned?, hspan] at h
  obtain ⟨whole, rfl, hwhole, -⟩ := exists_of_spanDigits hspan
  split at h
  case isTrue => cases h
  case isFalse hds =>
    obtain ⟨hne, hzero⟩ : ds ≠ [] ∧ (ds.head? = some 0 → ds.length = 1) := by
      simpa using hds
    split at h
    case h_1 r =>
      rcases hspan : spanDigits r with ⟨fs, rest⟩
      simp only [hspan] at h
      obtain ⟨fraction, rfl, hfraction, -⟩ := exists_of_spanDigits hspan
      split at h
      case isTrue => cases h
      case isFalse hfs =>
        have hfs : fs ≠ [] := by simpa using hfs
        obtain ⟨e, he, rfl⟩ := Option.map_eq_some_iff.mp h
        rw [← List.cons_append]
        exact ⟨rfl, .mk hwhole hne hzero (.given hfraction hfs)
          (spanExponent?_eq_some_iff.mp he)⟩
    case h_2 =>
      obtain ⟨e, he, rfl⟩ := Option.map_eq_some_iff.mp h
      have hmagnitude : IsMagnitude (whole ++ ([] ++ rest)) ⟨negative, ds, none, e⟩ :=
        .mk hwhole hne hzero .missing (spanExponent?_eq_some_iff.mp he)
      exact ⟨rfl, hmagnitude⟩

/-- A magnitude by the rules is read behind either sign. -/
theorem IsMagnitude.ofUnsigned?_eq {cs : List Char} {l : Literal} (h : IsMagnitude cs l) :
    Literal.ofUnsigned? l.negative cs = some l := by
  cases h with
  | @mk whole fraction exponent _ hwhole hne hzero hfraction hexponent =>
    have hends := endsDigits_exponent hexponent
    have hspan := spanDigits_append hwhole (endsDigits_fraction hfraction hends)
    have hexp := spanExponent?_eq_some_iff.mpr hexponent
    have hds : ¬(l.whole.isEmpty || (l.whole.head? == some 0 && l.whole.length != 1)) = true := by
      simpa [hne] using hzero
    rw [Literal.ofUnsigned?, hspan]
    simp only [if_neg hds]
    obtain ⟨negative, whole, f, e⟩ := l
    cases hfraction with
    | missing =>
      rw [List.nil_append]
      split
      case h_1 r =>
        -- a power of ten starts with no point
        cases hexponent with
        | given hc => rcases hc with hc | hc <;> cases hc
      case h_2 => rw [hexp, Option.map_some]
    | @given _ fs hdigits hfs =>
      have hfs' : ¬ fs.isEmpty = true := by simpa using hfs
      rw [List.cons_append]
      simp only [spanDigits_append hdigits hends, if_neg hfs', hexp, Option.map_some]

/-- What follows the sign is read exactly as the rules spell a magnitude. -/
theorem Literal.ofUnsigned?_eq_some_iff {negative : Bool} {cs : List Char} {l : Literal} :
    ofUnsigned? negative cs = some l ↔ l.negative = negative ∧ IsMagnitude cs l := by
  refine ⟨isMagnitude_of_ofUnsigned?, ?_⟩
  rintro ⟨rfl, h⟩
  exact h.ofUnsigned?_eq

/-- A magnitude begins with a digit. -/
theorem IsMagnitude.exists_digit {cs : List Char} {l : Literal} (h : IsMagnitude cs l) :
    ∃ c r, cs = c :: r ∧ isDigit c = true := by
  obtain ⟨hwhole, hne⟩ := h
  generalize l.whole = ds at hwhole hne
  cases hwhole with
  | nil => exact absurd rfl hne
  | cons hc => exact ⟨_, _, rfl, isDigit_of_digit? hc⟩

/-- **The parts of a number are those that its characters spell.** -/
theorem Literal.ofChars?_eq_some_iff {cs : List Char} {l : Literal} :
    ofChars? cs = some l ↔ l.Spelled cs := by
  constructor
  · intro h
    by_cases hminus : cs.head? = some '-'
    · obtain ⟨r, rfl⟩ := List.head?_eq_some_iff.mp hminus
      rw [ofChars?_minus] at h
      obtain ⟨hl, h⟩ := ofUnsigned?_eq_some_iff.mp h
      exact .minus hl h
    · rw [ofChars?_plain hminus] at h
      obtain ⟨hl, h⟩ := ofUnsigned?_eq_some_iff.mp h
      exact .plain hl h
  · rintro (⟨hl, h⟩ | ⟨hl, h⟩)
    · rw [ofChars?_plain, ofUnsigned?_eq_some_iff]
      · exact ⟨hl, h⟩
      · obtain ⟨c, r, rfl, hc⟩ := h.exists_digit
        have hne : c ≠ '-' := (not_isSign_of_isDigit hc).2
        simpa using hne
    · rw [ofChars?_minus]
      exact ofUnsigned?_eq_some_iff.mpr ⟨hl, h⟩

/-! ### Texts -/

/-- Digits of the sixteen-digit system make a number, behind others that made a number before. -/
inductive HexFrom : Nat → List Char → Nat → Prop
  | nil {n : Nat} : HexFrom n [] n
  | cons {n d m : Nat} {c : Char} {cs : List Char} (hc : hexDigit? c = some d)
    (h : HexFrom (n * 16 + d) cs m) : HexFrom n (c :: cs) m

/-- A unit of a text: a character that stands for itself, a short escape, or the number of a unit of
UTF-16 in four digits. -/
inductive TextUnit.Spelled : List Char → TextUnit → Prop
  | plain {c : Char} (hquote : c ≠ '"') (hslash : c ≠ '\\') (hcontrol : ¬ c.toNat < 0x20) :
    Spelled [c] (.char c)
  | short {e c : Char} (h : escapeChar? e = some c) : Spelled ['\\', e] (.char c)
  | number {cs : List Char} {n : Nat} (hlength : cs.length = 4) (h : HexFrom 0 cs n) :
    Spelled ('\\' :: 'u' :: cs) (.escaped n)

/-- The units of a text, one after the other. -/
inductive SpelledUnits : List Char → List TextUnit → Prop
  | nil : SpelledUnits [] []
  | cons {w cs : List Char} {u : TextUnit} {us : List TextUnit} (hu : u.Spelled w)
    (h : SpelledUnits cs us) : SpelledUnits (w ++ cs) (u :: us)

/-- The characters that units stand for. A unit of UTF-16 stands for a character by itself or
together with the next one. -/
inductive StandFor : List TextUnit → List Char → Prop
  | nil : StandFor [] []
  | char {c : Char} {us : List TextUnit} {s : List Char} (h : StandFor us s) :
    StandFor (.char c :: us) (c :: s)
  | single {n : Nat} {us : List TextUnit} {s : List Char} (hhigh : isHighHalf n = false)
    (hlow : isLowHalf n = false) (h : StandFor us s) :
    StandFor (.escaped n :: us) (Char.ofNat n :: s)
  | pair {n m : Nat} {us : List TextUnit} {s : List Char} (hhigh : isHighHalf n = true)
    (hlow : isLowHalf m = true) (h : StandFor us s) :
    StandFor (.escaped n :: .escaped m :: us) (pairChar n m :: s)

/-- Units are joined to the characters that they stand for. -/
theorem joinUnits_of_standFor {us : List TextUnit} {s : List Char} (h : StandFor us s)
    (acc : List Char) : joinUnits acc us = some (acc.reverse ++ s) := by
  induction h generalizing acc with
  | nil => simp [joinUnits]
  | char h ih => simp [joinUnits, ih]
  | single hhigh hlow h ih =>
    rw [joinUnits.eq_def]
    simp [hhigh, hlow, ih]
  | pair hhigh hlow h ih => simp [joinUnits, hhigh, hlow, ih]

/-- Units that can be joined stand for the characters that come of it. -/
theorem standFor_of_joinUnits {us : List TextUnit} {acc s : List Char}
    (h : joinUnits acc us = some s) : ∃ s', s = acc.reverse ++ s' ∧ StandFor us s' := by
  fun_induction joinUnits acc us with
  | case1 acc =>
    obtain rfl := Option.some.inj h
    exact ⟨[], (List.append_nil _).symm, .nil⟩
  | case2 acc c us ih =>
    obtain ⟨s, rfl, hs⟩ := ih h
    exact ⟨c :: s, by simp, .char hs⟩
  | case4 =>
    rename_i hhigh _ _ hlow ih
    obtain ⟨s, rfl, hs⟩ := ih h
    exact ⟨_, by simp, .pair hhigh hlow hs⟩
  | case8 =>
    rename_i hhigh hlow ih
    obtain ⟨s, rfl, hs⟩ := ih h
    exact ⟨_, by simp, .single (by simpa using hhigh) (by simpa using hlow) hs⟩
  | _ => cases h

/-- Units are joined to a text exactly if they stand for it. -/
theorem joinUnits_eq_some_iff {us : List TextUnit} {s : List Char} :
    joinUnits [] us = some s ↔ StandFor us s := by
  refine ⟨fun h => ?_, fun h => joinUnits_of_standFor h []⟩
  obtain ⟨s, rfl, hs⟩ := standFor_of_joinUnits h
  exact hs

/-- A text in quotation marks, and what it stands for, if its units stand for characters. -/
inductive SpelledText : List Char → Option String → Prop
  | sound {cs : List Char} {us : List TextUnit} {s : String} (h : SpelledUnits cs us)
    (hs : StandFor us s.toList) : SpelledText ('"' :: (cs ++ ['"'])) (some s)
  | garbled {cs : List Char} {us : List TextUnit} (h : SpelledUnits cs us)
    (hs : ∀ s, ¬ StandFor us s) : SpelledText ('"' :: (cs ++ ['"'])) none

/-- Spelled units between quotes are a text, possibly one of broken pairs. -/
theorem SpelledUnits.text {cs : List Char} {us : List TextUnit} (h : SpelledUnits cs us) :
    ∃ o, SpelledText ('"' :: (cs ++ ['"'])) o ∧ Token.ofUnits us.reverse = .text o := by
  rw [Token.ofUnits, List.reverse_reverse]
  rcases hs : joinUnits [] us with _ | s
  · refine ⟨none, .garbled h fun s hs' => ?_, rfl⟩
    cases hs.symm.trans (joinUnits_eq_some_iff.mpr hs')
  · refine ⟨some (String.ofList s), .sound h ?_, rfl⟩
    rw [String.toList_ofList]
    exact joinUnits_eq_some_iff.mp hs

/-- A spelled text consists of spelled units between quotes. -/
theorem ofUnits_of_spelledText {w : List Char} {o : Option String} (h : SpelledText w o) :
    ∃ cs us, w = '"' :: (cs ++ ['"']) ∧ SpelledUnits cs us ∧
      Token.ofUnits us.reverse = .text o := by
  cases h with
  | @sound cs us s h hs =>
    refine ⟨cs, us, rfl, h, ?_⟩
    rw [Token.ofUnits, List.reverse_reverse, joinUnits_eq_some_iff.mpr hs]
    simp
  | @garbled cs us h hs =>
    have hnone : joinUnits [] us = none :=
      Option.eq_none_iff_forall_ne_some.mpr fun s hs' => hs s (joinUnits_eq_some_iff.mp hs')
    refine ⟨cs, us, rfl, h, ?_⟩
    rw [Token.ofUnits, List.reverse_reverse, hnone]
    rfl

/-! ### Scanning what is spelled -/

namespace Scan

/-- The remaining hexadecimal digits of an escape end its unit. -/
theorem foldl_hexFrom {n m : Nat} {cs : List Char} (h : HexFrom n cs m) {missing : Nat}
    (hlength : cs.length = missing + 1) (found : List Token) (units : List TextUnit) :
    (cs.map some).foldl step ⟨found, .unicode missing n units⟩
      = ⟨found, .text (.escaped m :: units)⟩ := by
  induction h generalizing missing with
  | nil => cases hlength
  | @cons n d m c cs hc h ih =>
    rw [List.map_cons, List.foldl_cons]
    cases missing with
    | zero =>
      obtain rfl := List.eq_nil_of_length_eq_zero (Nat.succ.inj hlength)
      cases h
      simp [step, hc]
    | succ missing =>
      have hstep : step ⟨found, .unicode (missing + 1) n units⟩ (some c)
          = ⟨found, .unicode missing (n * 16 + d) units⟩ := by
        simp [step, hc]
      rw [hstep, ih (Nat.succ.inj hlength)]

/-- A spelled unit inside of a text is scanned as that unit. -/
theorem foldl_unit {w : List Char} {u : TextUnit} (h : u.Spelled w) (found : List Token)
    (units : List TextUnit) :
    (w.map some).foldl step ⟨found, .text units⟩ = ⟨found, .text (u :: units)⟩ := by
  cases h with
  | plain hquote hslash hcontrol => simp [step, hquote, hslash, hcontrol]
  | @short e c h =>
    have hu : e ≠ 'u' := by
      rintro rfl
      cases h
    simp [step, hu, h]
  | @number cs n hlength h => exact foldl_hexFrom h hlength found units

/-- Spelled units inside of a text are scanned one after the other. -/
theorem foldl_units {cs : List Char} {us : List TextUnit} (h : SpelledUnits cs us)
    (found : List Token) (units : List TextUnit) :
    (cs.map some).foldl step ⟨found, .text units⟩ = ⟨found, .text (us.reverse ++ units)⟩ := by
  induction h generalizing units with
  | nil => rfl
  | cons hu h ih =>
    rw [List.map_append, List.foldl_append, foldl_unit hu, ih]
    simp

end Scan

/-- Punctuation, and its characters. -/
inductive Token.IsPunctuation : Char → Token → Prop
  | braceOpen : IsPunctuation '{' .braceOpen
  | braceClose : IsPunctuation '}' .braceClose
  | bracketOpen : IsPunctuation '[' .bracketOpen
  | bracketClose : IsPunctuation ']' .bracketClose
  | colon : IsPunctuation ':' .colon
  | comma : IsPunctuation ',' .comma

/-- Exactly the six characters of punctuation are lexemes of their own. -/
theorem Token.ofPunctuation?_eq_some_iff {c : Char} {t : Token} :
    ofPunctuation? c = some t ↔ IsPunctuation c t := by
  constructor
  · intro h
    rw [ofPunctuation?] at h
    split_ifs at h with hc hc hc hc hc hc <;> cases h <;> rw [hc] <;> constructor
  · rintro (_ | _ | _ | _ | _ | _) <;> rfl

theorem Token.IsPunctuation.unique {c c' : Char} {t : Token} (h : IsPunctuation c t)
    (h' : IsPunctuation c' t) : c = c' := by
  cases h <;> cases h' <;> rfl

/-- A lexeme, as it is spelled. -/
inductive Token.Spelled : List Char → Token → Prop
  | punctuation {c : Char} {t : Token} (h : IsPunctuation c t) : Spelled [c] t
  | null : Spelled ['n', 'u', 'l', 'l'] .null
  | yes : Spelled ['t', 'r', 'u', 'e'] (.bool true)
  | no : Spelled ['f', 'a', 'l', 's', 'e'] (.bool false)
  | number {cs : List Char} {l : Literal} (h : l.Spelled cs) : Spelled cs (.number l.number?)
  | text {w : List Char} {o : Option String} (h : SpelledText w o) : Spelled w (.text o)

/-- A lexeme of punctuation is spelled by its character only. -/
theorem Token.Spelled.eq_of_isPunctuation {w : List Char} {t : Token} (h : t.Spelled w) {c : Char}
    (ht : IsPunctuation c t) : w = [c] := by
  cases h with
  | punctuation h => rw [ht.unique h]
  | _ => cases ht

/-- A word is taken only for the lexeme that it spells. -/
theorem Token.spelled_of_ofWord? {w : List Char} {t : Token} (h : ofWord? w = some t) :
    t.Spelled w := by
  rw [ofWord?] at h
  split at h
  case isTrue hw => exact hw ▸ Option.some.inj h ▸ .null
  case isFalse =>
    split at h
    case isTrue hw => exact hw ▸ Option.some.inj h ▸ .yes
    case isFalse =>
      split at h
      case isTrue hw => exact hw ▸ Option.some.inj h ▸ .no
      case isFalse => cases h

theorem Token.spelled_of_ofNumber? {cs : List Char} {t : Token} (h : ofNumber? cs = some t) :
    t.Spelled cs := by
  obtain ⟨l, hl, rfl⟩ := Option.map_eq_some_iff.mp h
  exact .number (Literal.ofChars?_eq_some_iff.mp hl)

theorem all_isNumeric_of_areDigits {cs : List Char} {ds : List Nat} (h : AreDigits cs ds) :
    ∀ c ∈ cs, isNumeric c = true :=
  fun c hc => isNumeric_of_isDigit (h.all_isDigit c hc)

/-- A magnitude consists of characters that may stand in numbers. -/
theorem IsMagnitude.all_isNumeric {cs : List Char} {l : Literal} (h : IsMagnitude cs l) :
    ∀ c ∈ cs, isNumeric c = true := by
  obtain ⟨hwhole, -, -, hfraction, hexponent⟩ := h
  simp only [List.forall_mem_append]
  refine ⟨all_isNumeric_of_areDigits hwhole, ?_, ?_⟩
  · generalize l.fraction = f at hfraction
    cases hfraction with
    | missing => nofun
    | given h => exact List.forall_mem_cons.mpr ⟨rfl, all_isNumeric_of_areDigits h⟩
  · generalize l.exponent = e at hexponent
    cases hexponent with
    | missing => nofun
    | given hc hsign h =>
      have hdigits := all_isNumeric_of_areDigits h
      refine List.forall_mem_cons.mpr ⟨?_, List.forall_mem_append.mpr ⟨?_, hdigits⟩⟩
      · rcases hc with rfl | rfl <;> rfl
      · cases hsign with
        | missing => nofun
        | plus => exact List.forall_mem_singleton.mpr rfl
        | minus => exact List.forall_mem_singleton.mpr rfl

/-- A number starts with a digit or a minus sign, and goes on with characters of numbers. -/
theorem Literal.Spelled.exists_cons {cs : List Char} {l : Literal} (h : l.Spelled cs) :
    ∃ c r, cs = c :: r ∧ (isDigit c = true ∨ c = '-') ∧ ∀ c ∈ r, isNumeric c = true := by
  cases h with
  | plain hl h =>
    have hall := h.all_isNumeric
    obtain ⟨c, r, rfl, hc⟩ := h.exists_digit
    exact ⟨c, r, rfl, .inl hc, (List.forall_mem_cons.mp hall).2⟩
  | minus hl h => exact ⟨'-', _, rfl, .inr rfl, h.all_isNumeric⟩

/-- A lexeme by itself is found as it is spelled. -/
theorem Token.scan?_of_spelled {w : List Char} {t : Token} (h : t.Spelled w) :
    scan? (w.map some) = some [t] := by
  cases h with
  | @punctuation c t h =>
    have hnil : scan? [] = some [] := rfl
    have hscan := scan?_append_punctuation hnil (ofPunctuation?_eq_some_iff.mpr h) []
    simpa [hnil] using hscan
  | null => rfl
  | yes => rfl
  | no => rfl
  | @number cs l h =>
    have hnumber : ofNumber? w = some (.number l.number?) := by
      rw [ofNumber?, Literal.ofChars?_eq_some_iff.mpr h]
      rfl
    obtain ⟨c, r, rfl, hc, hr⟩ := h.exists_cons
    rw [scan?_number hc hr, hnumber]
    rfl
  | @text w o h =>
    obtain ⟨cs, us, rfl, hunits, htoken⟩ := ofUnits_of_spelledText h
    have hopen : Scan.step ⟨[], .gap⟩ (some '"') = ⟨[], .text []⟩ := rfl
    rw [scan?, List.map_cons, List.foldl_cons, hopen, List.map_append, List.foldl_append,
      Scan.foldl_units hunits]
    simp [Scan.step, Scan.tokens?, htoken]

/-! ### Spelling what was scanned -/

/-- Characters that spell lexemes, with blanks between and around them. -/
inductive Lexes : List Char → List Token → Prop
  | nil {gap : List Char} (h : ∀ c ∈ gap, isSpace c = true) : Lexes gap []
  | cons {gap w cs : List Char} {t : Token} {ts : List Token} (hgap : ∀ c ∈ gap, isSpace c = true)
    (hw : t.Spelled w) (h : Lexes cs ts) : Lexes (gap ++ (w ++ cs)) (t :: ts)

theorem Lexes.space {c : Char} (hc : isSpace c = true) {cs : List Char} {ts : List Token}
    (h : Lexes cs ts) : Lexes (c :: cs) ts := by
  cases h with
  | nil hgap => exact .nil (List.forall_mem_cons.mpr ⟨hc, hgap⟩)
  | @cons gap w cs t ts hgap hw h =>
    rw [← List.cons_append]
    exact .cons (List.forall_mem_cons.mpr ⟨hc, hgap⟩) hw h

/-- A spelled lexeme in front is the first one. -/
theorem Lexes.lexeme {w cs : List Char} {t : Token} {ts : List Token} (hw : t.Spelled w)
    (h : Lexes cs ts) : Lexes (w ++ cs) (t :: ts) :=
  .cons (List.forall_mem_nil _) hw h

/-- What the rest of a document spells, when it is reached in a mode: what completes the lexeme that
is under way, and lexemes behind it. -/
def Mode.Leaves : Mode → List Char → List Token → Prop
  | .gap, cs, ts => Lexes cs ts
  | .word letters, cs, ts =>
    ∃ w rest t later, cs = w ++ rest ∧ ts = t :: later ∧ t.Spelled (letters.reverse ++ w) ∧
      Lexes rest later
  | .number chars, cs, ts =>
    ∃ w rest t later, cs = w ++ rest ∧ ts = t :: later ∧ t.Spelled (chars.reverse ++ w) ∧
      Lexes rest later
  | .text units, cs, ts =>
    ∃ w us rest later, cs = w ++ '"' :: rest ∧ SpelledUnits w us ∧
      ts = .ofUnits (us.reverse ++ units) :: later ∧ Lexes rest later
  | .escape units, cs, ts =>
    ∃ w us rest later, cs = w ++ '"' :: rest ∧ SpelledUnits ('\\' :: w) us ∧
      ts = .ofUnits (us.reverse ++ units) :: later ∧ Lexes rest later
  | .unicode missing n units, cs, ts =>
    ∃ digits m w us rest later, cs = digits ++ (w ++ '"' :: rest) ∧ digits.length = missing + 1 ∧
      HexFrom n digits m ∧ SpelledUnits w us ∧
      ts = .ofUnits (us.reverse ++ .escaped m :: units) :: later ∧ Lexes rest later
  | .failed, _, _ => False

namespace Scan

/-- The lexemes that a scan has found, together with what the rest of the document spells. -/
def Leaves (s : Scan) (cs : List Char) (ts : List Token) : Prop :=
  ∃ later, ts = s.found.reverse ++ later ∧ s.mode.Leaves cs later

theorem not_leaves_fail {cs : List Char} {ts : List Token} : ¬ fail.Leaves cs ts :=
  fun ⟨_, _, h⟩ => h

/-- A lexeme that begins with a character, or a blank. -/
theorem leaves_begin {found : List Token} {c : Char} {cs : List Char} {ts : List Token}
    (h : (begin found c).Leaves cs ts) :
    ∃ later, ts = found.reverse ++ later ∧ Lexes (c :: cs) later := by
  rw [begin] at h
  split at h
  case isTrue hspace =>
    obtain ⟨later, rfl, hlater⟩ := h
    exact ⟨later, rfl, hlater.space hspace⟩
  case isFalse =>
    split at h
    case isTrue hquote =>
      obtain ⟨_, rfl, w, us, rest, later, rfl, hw, rfl, hlater⟩ := h
      obtain ⟨o, ho, htoken⟩ := hw.text
      refine ⟨_, rfl, ?_⟩
      rw [List.append_nil, htoken, hquote]
      simpa using Lexes.lexeme (.text ho) hlater
    case isFalse =>
      split at h
      case h_1 t ht =>
        obtain ⟨later, rfl, hlater⟩ := h
        have hmark := Token.ofPunctuation?_eq_some_iff.mp ht
        exact ⟨t :: later, by simp, .lexeme (.punctuation hmark) hlater⟩
      case h_2 =>
        split at h
        · obtain ⟨_, rfl, w, rest, t, later, rfl, rfl, ht, hlater⟩ := h
          exact ⟨_, rfl, .lexeme ht hlater⟩
        · split at h
          · obtain ⟨_, rfl, w, rest, t, later, rfl, rfl, ht, hlater⟩ := h
            exact ⟨_, rfl, .lexeme ht hlater⟩
          · exact absurd h not_leaves_fail

/-- A lexeme that a character ends has been spelled before that character. -/
theorem leaves_ended {found : List Token} {t : Token} {begun : List Char} (ht : t.Spelled begun)
    {c : Char} {cs : List Char} {ts : List Token} (h : (begin (t :: found) c).Leaves cs ts) :
    ∃ later, ts = found.reverse ++ later ∧ ∃ w rest t' behind, c :: cs = w ++ rest ∧
      later = t' :: behind ∧ t'.Spelled (begun ++ w) ∧ Lexes rest behind := by
  obtain ⟨later, rfl, hlater⟩ := leaves_begin h
  refine ⟨t :: later, by simp, [], c :: cs, t, later, rfl, rfl, ?_, hlater⟩
  rwa [List.append_nil]

section Modes

variable {found : List Token} {c : Char} {cs : List Char} {ts : List Token}

/-- A word goes on with a letter, and anything else has to end it. -/
theorem leaves_word {letters : List Char}
    (h : (step ⟨found, .word letters⟩ (some c)).Leaves cs ts) :
    Leaves ⟨found, .word letters⟩ (c :: cs) ts := by
  simp only [step] at h
  split at h
  case isTrue =>
    obtain ⟨_, rfl, w, rest, t, later, rfl, rfl, ht, hlater⟩ := h
    refine ⟨_, rfl, c :: w, rest, t, later, rfl, rfl, ?_, hlater⟩
    simpa using ht
  case isFalse =>
    split at h
    case h_1 t ht => exact leaves_ended (Token.spelled_of_ofWord? ht) h
    case h_2 => exact absurd h not_leaves_fail

/-- A number goes on with a character of numbers, and anything else has to end it. -/
theorem leaves_number {chars : List Char}
    (h : (step ⟨found, .number chars⟩ (some c)).Leaves cs ts) :
    Leaves ⟨found, .number chars⟩ (c :: cs) ts := by
  simp only [step] at h
  split at h
  case isTrue =>
    obtain ⟨_, rfl, w, rest, t, later, rfl, rfl, ht, hlater⟩ := h
    refine ⟨_, rfl, c :: w, rest, t, later, rfl, rfl, ?_, hlater⟩
    simpa using ht
  case isFalse =>
    split at h
    case h_1 t ht => exact leaves_ended (Token.spelled_of_ofNumber? ht) h
    case h_2 => exact absurd h not_leaves_fail

/-- A text ends with a quote; a backslash begins an escape, and no control character may stand. -/
theorem leaves_text {units : List TextUnit}
    (h : (step ⟨found, .text units⟩ (some c)).Leaves cs ts) :
    Leaves ⟨found, .text units⟩ (c :: cs) ts := by
  simp only [step] at h
  split at h
  case isTrue hquote =>
    obtain ⟨later, rfl, hlater⟩ := h
    exact ⟨_, by simp, [], [], cs, later, by rw [hquote]; rfl, .nil, rfl, hlater⟩
  case isFalse hquote =>
    split at h
    case isTrue hslash =>
      obtain ⟨_, rfl, w, us, rest, later, rfl, hw, rfl, hlater⟩ := h
      exact ⟨_, rfl, '\\' :: w, us, rest, later, by rw [hslash]; rfl, hw, rfl, hlater⟩
    case isFalse hslash =>
      split at h
      case isTrue => exact absurd h not_leaves_fail
      case isFalse hcontrol =>
        obtain ⟨_, rfl, w, us, rest, later, rfl, hw, rfl, hlater⟩ := h
        refine ⟨_, rfl, c :: w, .char c :: us, rest, later, rfl, ?_, by simp, hlater⟩
        exact .cons (.plain hquote hslash hcontrol) hw

/-- Behind a backslash stands a short escape, or the mark of a number of four digits. -/
theorem leaves_escape {units : List TextUnit}
    (h : (step ⟨found, .escape units⟩ (some c)).Leaves cs ts) :
    Leaves ⟨found, .escape units⟩ (c :: cs) ts := by
  simp only [step] at h
  split at h
  case isTrue hu =>
    obtain ⟨_, rfl, digits, m, w, us, rest, later, rfl, hlength, hdigits, hw, rfl, hlater⟩ := h
    refine ⟨_, rfl, c :: (digits ++ w), .escaped m :: us, rest, later, by simp, ?_, by simp,
      hlater⟩
    rw [hu]
    exact .cons (.number hlength hdigits) hw
  case isFalse =>
    split at h
    case h_1 e he =>
      obtain ⟨_, rfl, w, us, rest, later, rfl, hw, rfl, hlater⟩ := h
      exact ⟨_, rfl, c :: w, .char e :: us, rest, later, rfl, .cons (.short he) hw, by simp,
        hlater⟩
    case h_2 => exact absurd h not_leaves_fail

/-- A number of four digits goes on with a digit, of which the last one ends the escape. -/
theorem leaves_unicode {missing n : Nat} {units : List TextUnit}
    (h : (step ⟨found, .unicode missing n units⟩ (some c)).Leaves cs ts) :
    Leaves ⟨found, .unicode missing n units⟩ (c :: cs) ts := by
  simp only [step] at h
  split at h
  case h_1 => exact absurd h not_leaves_fail
  case h_2 d hd =>
    split at h
    case h_1 =>
      obtain ⟨_, rfl, w, us, rest, later, rfl, hw, rfl, hlater⟩ := h
      exact ⟨_, rfl, [c], _, w, us, rest, later, rfl, rfl, .cons hd .nil, hw, rfl, hlater⟩
    case h_2 =>
      obtain ⟨_, rfl, digits, m, w, us, rest, later, rfl, hlength, hdigits, hw, rfl, hlater⟩ := h
      exact ⟨_, rfl, c :: digits, m, w, us, rest, later, rfl, by rw [List.length_cons, hlength],
        .cons hd hdigits, hw, rfl, hlater⟩

/-- **One step of the scan** keeps account of what the document spells. -/
theorem leaves_step {s : Scan} (h : (s.step (some c)).Leaves cs ts) : s.Leaves (c :: cs) ts := by
  obtain ⟨found, mode⟩ := s
  cases mode with
  | gap => exact leaves_begin h
  | word letters => exact leaves_word h
  | number chars => exact leaves_number h
  | text units => exact leaves_text h
  | escape units => exact leaves_escape h
  | unicode missing n units => exact leaves_unicode h
  | failed => exact h

end Modes

/-- The lexemes of a whole scan are spelled by the document. -/
theorem leaves_of_tokens? {s : Scan} {cs : List Char} {ts : List Token}
    (h : ((cs.map some).foldl step s).tokens? = some ts) : s.Leaves cs ts := by
  induction cs generalizing s with
  | nil =>
    obtain ⟨found, mode⟩ := s
    cases mode with
    | gap => exact ⟨[], by rw [List.append_nil]; exact (Option.some.inj h).symm, .nil nofun⟩
    | word letters =>
      obtain ⟨t, ht, rfl⟩ := Option.map_eq_some_iff.mp h
      refine ⟨[t], by simp, [], [], t, [], rfl, rfl, ?_, .nil nofun⟩
      rw [List.append_nil]
      exact Token.spelled_of_ofWord? ht
    | number chars =>
      obtain ⟨t, ht, rfl⟩ := Option.map_eq_some_iff.mp h
      refine ⟨[t], by simp, [], [], t, [], rfl, rfl, ?_, .nil nofun⟩
      rw [List.append_nil]
      exact Token.spelled_of_ofNumber? ht
    | _ => cases h
  | cons c cs ih => exact leaves_step (ih h)

end Scan

/-- **The lexemes that are found in a document are those that it spells.** -/
theorem Token.lexes_of_scan? {cs : List Char} {ts : List Token}
    (h : scan? (cs.map some) = some ts) : Lexes cs ts := by
  obtain ⟨later, rfl, hlater⟩ := Scan.leaves_of_tokens? h
  exact hlater

end DeviceHost.Json
