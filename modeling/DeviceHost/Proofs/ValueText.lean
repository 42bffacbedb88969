import DeviceHost.Proofs.Base64
import DeviceHost.Proofs.Integers
import DeviceHost.Proofs.Octets
import DeviceHost.Value.Text
import Mathlib.Data.List.TakeWhile

/-!
# Values, written and read

A value is read from its text as it was written, at its width, its sign and its length:
`Value.parse_text`. Floating point values are left out; theirs is another kind of text.

Blanks around a text do not count when it is read, except for a `String`; so the texts of the others
must have no blanks of their own (`Text.trim_eq_self`).

What else is read depends on the type:

* `Text.IsTrimmed` — what is left of a text without the blanks at its two ends;
* `Value.canonical_text` — octets are read from the very text that is written for them, so no two
  texts without outer blanks stand for the same octets;
* `Value.parse_integer` — an integer is read from each of its numerals, if it is within the bounds
  of the type; it is never wrapped around or moved to a bound.
-/

namespace DeviceHost

/-! ### Blanks at the ends -/

namespace Text

/-- The characters are what is left of a text without the blanks at its two ends. -/
structure IsTrimmed (cs core : List Char) : Prop where
  /-- nothing is taken away but blanks -/
  outside : ∃ before after, (∀ c ∈ before ++ after, isBlank c = true) ∧ cs = before ++ core ++ after
  /-- nothing is left to be taken away in front -/
  first : ∀ c ∈ core.head?, isBlank c = false
  /-- nor at the end -/
  last : ∀ c ∈ core.getLast?, isBlank c = false

/-- A text that starts with no blank is not shortened from the left. -/
theorem trimLeft_eq_self {cs : List Char} (h : ∀ c ∈ cs.head?, isBlank c = false) :
    trimLeft cs = cs := by
  rcases cs with _ | ⟨c, cs⟩
  · rfl
  · exact trimLeft_cons_of_not_blank (h c rfl)

/-- Trimming takes off exactly the blanks at the front. -/
theorem takeWhile_append_trimLeft (cs : List Char) : cs.takeWhile isBlank ++ trimLeft cs = cs :=
  List.takeWhile_append_dropWhile

theorem not_blank_trimLeft (cs : List Char) : ∀ c ∈ (trimLeft cs).head?, isBlank c = false := by
  intro c hc
  have hhead := List.head?_dropWhile_not isBlank cs
  rw [← trimLeft, Option.mem_def.mp hc] at hhead
  exact hhead

/-- Trimming takes off the blanks at both ends and nothing else. -/
theorem isTrimmed_trim (cs : List Char) : IsTrimmed cs (trim cs) := by
  have hleft : trimLeft cs = trim cs ++ ((trimLeft cs).reverse.takeWhile isBlank).reverse := by
    rw [trim, ← List.reverse_append, takeWhile_append_trimLeft, List.reverse_reverse]
  refine ⟨⟨cs.takeWhile isBlank, ((trimLeft cs).reverse.takeWhile isBlank).reverse, ?_, ?_⟩, ?_, ?_⟩
  · intro c hc
    rcases List.mem_append.mp hc with hc | hc
    · exact List.mem_takeWhile_imp hc
    · exact List.mem_takeWhile_imp (List.mem_reverse.mp hc)
  · rw [List.append_assoc, ← hleft, takeWhile_append_trimLeft]
  · intro c hc
    -- the first character of the trimmed text is that of the text without leading blanks
    apply not_blank_trimLeft cs c
    rw [hleft, List.head?_append, Option.mem_def.mp hc]
    rfl
  · rw [trim, List.getLast?_reverse]
    exact not_blank_trimLeft (trimLeft cs).reverse

/-- What lies between the blanks at both ends is unique. -/
theorem trim_of_isTrimmed {cs core : List Char} (h : IsTrimmed cs core) : trim cs = core := by
  obtain ⟨⟨before, after, hblank, rfl⟩, hfirst, hlast⟩ := h
  have hbefore : ∀ c ∈ before, isBlank c = true := fun c hc =>
    hblank c (List.mem_append_left _ hc)
  have hafter : ∀ c ∈ after.reverse, isBlank c = true := fun c hc =>
    hblank c (List.mem_append_right _ (List.mem_reverse.mp hc))
  have hleft : trimLeft (before ++ core ++ after) = trimLeft (core ++ after) := by
    rw [List.append_assoc]
    exact List.dropWhile_append_of_pos hbefore
  rcases core with _ | ⟨c, core⟩
  · -- only blanks: they all go from the front
    have hnil : trimLeft after = [] := trimLeft_eq_nil_iff.mpr fun c hc =>
      hafter c (List.mem_reverse.mpr hc)
    rw [trim, hleft, List.nil_append, hnil]
    rfl
  · have hstart : trimLeft (c :: core ++ after) = c :: core ++ after :=
      trimLeft_cons_of_not_blank (hfirst c rfl)
    have hright : trimLeft (after.reverse ++ (c :: core).reverse) = trimLeft (c :: core).reverse :=
      List.dropWhile_append_of_pos hafter
    rw [List.getLast?_eq_head?_reverse] at hlast
    rw [trim, hleft, hstart, List.reverse_append, hright, trimLeft_eq_self hlast,
      List.reverse_reverse]

/-- **Trimming takes away the blanks at the two ends**, all of them and nothing else. -/
theorem trim_eq_iff {cs core : List Char} : trim cs = core ↔ IsTrimmed cs core := by
  constructor
  · rintro rfl
    exact isTrimmed_trim cs
  · exact trim_of_isTrimmed

theorem trim_eq_self {cs : List Char} (h : ∀ c ∈ cs, isBlank c = false) : trim cs = cs :=
  trim_of_isTrimmed ⟨⟨[], [], nofun, (List.append_nil cs).symm⟩,
    fun c hc => h c (List.mem_of_head? hc), fun c hc => h c (List.mem_of_getLast? hc)⟩

theorem isBlank_of_isDigit {c : Char} (h : Numeral.isDigit c = true) : isBlank c = false := by
  rw [Numeral.isDigit, Numeral.digit?] at h
  split at h
  · rename_i hbounds
    obtain ⟨hlow, hhigh⟩ := hbounds
    have h₀ : 48 ≤ c.toNat := hlow
    have h₉ : c.toNat ≤ 57 := hhigh
    simp [isBlank]
    omega
  · cases h

/-- The text of an integer has no blanks. -/
theorem not_blank_ofInt (i : Int) : ∀ c ∈ Numeral.ofInt i, isBlank c = false := by
  have hdigits (n : Nat) : ∀ c ∈ Numeral.digits n, isBlank c = false := fun c hc =>
    isBlank_of_isDigit ((Numeral.isDecimal_digits n).all_digits c hc)
  cases i with
  | ofNat n => exact hdigits n
  | negSucc n => exact List.forall_mem_cons.mpr ⟨by decide, hdigits (n + 1)⟩

end Text

/-! ### One type after the other -/

/-- Whether the values of a type are floating point numbers. -/
def ValueType.isFloat : ValueType → Bool
  | float32 | float64 => true
  | _ => false

namespace Value

/-- An integer of the range is read back from its text. -/
theorem parseInteger_intText {r : Numeral.Range} {i : Int} (make : Int → Value) (h : r.Holds i) :
    parseInteger r make (Text.trim (Numeral.intText i).toList) = .ok (make i) := by
  rw [Numeral.intText, String.toList_ofList, Text.trim_eq_self (Text.not_blank_ofInt i),
    parseInteger, Numeral.Range.parse_ofInt h]

theorem parseInteger_natText {r : Numeral.Range} {n : Nat} (make : Int → Value)
    (h : n ≤ r.above) :
    parseInteger r make (Text.trim (Numeral.natText n).toList) = .ok (make n) := by
  have htext : Numeral.natText n = Numeral.intText n := rfl
  have hholds : r.Holds n := ⟨by omega, Int.ofNat_le.mpr h⟩
  rw [htext, parseInteger_intText make hholds]

/-- What base 64 is written with is ASCII, and nothing of it is blank. -/
theorem base64_char (bs : List UInt8) :
    ∀ b ∈ Base64.encode bs, b < 0x80 ∧ Text.isBlank (Char.ofNat b.toNat) = false := by
  refine Base64.forall_mem_encode ?_ ?_ bs
  · decide +kernel
  · decide +kernel

/-- Octets are read back from their text. -/
theorem parse_base64Text (bs : List UInt8) : parse .binary (base64Text bs) = .ok (.binary bs) := by
  have hblank : ∀ c ∈ (Base64.encode bs).map fun b => Char.ofNat b.toNat,
      Text.isBlank c = false := by
    intro c hc
    obtain ⟨b, hb, rfl⟩ := List.mem_map.mp hc
    exact (base64_char bs b hb).2
  have hascii : ∀ b ∈ Base64.encode bs, b < 0x80 := fun b hb => (base64_char bs b hb).1
  rw [parse, base64Text, String.toList_ofList, Text.trim_eq_self hblank,
    Utf8.encode_map_ascii hascii, Base64.decode_encode]

/-- **A value is read from its text as it was written**, unless it is a floating point number. -/
theorem parse_text {v : Value} (h : v.type.isFloat = false) : parse v.type v.text = .ok v := by
  cases v with
  | bool b => cases b <;> decide
  | string s => rfl
  | binary bs => exact parse_base64Text bs
  | uint8 v =>
    have hread := parseInteger_natText (r := .unsigned 8) (fun i => .uint8 (UInt8.ofNat i.toNat))
      (Nat.le_pred_of_lt v.toNat_lt)
    rw [Int.toNat_natCast, UInt8.ofNat_toNat] at hread
    exact hread
  | uint16 v =>
    have hread := parseInteger_natText (r := .unsigned 16) (fun i => .uint16 (UInt16.ofNat i.toNat))
      (Nat.le_pred_of_lt v.toNat_lt)
    rw [Int.toNat_natCast, UInt16.ofNat_toNat] at hread
    exact hread
  | uint32 v =>
    have hread := parseInteger_natText (r := .unsigned 32) (fun i => .uint32 (UInt32.ofNat i.toNat))
      (Nat.le_pred_of_lt v.toNat_lt)
    rw [Int.toNat_natCast, UInt32.ofNat_toNat] at hread
    exact hread
  | uint64 v =>
    have hread := parseInteger_natText (r := .unsigned 64) (fun i => .uint64 (UInt64.ofNat i.toNat))
      (Nat.le_pred_of_lt v.toNat_lt)
    rw [Int.toNat_natCast, UInt64.ofNat_toNat] at hread
    exact hread
  | int8 v =>
    have hread := parseInteger_intText (r := .signed 8) (fun i => .int8 (Int8.ofInt i))
      ⟨v.le_toInt, Int.le_sub_one_of_lt v.toInt_lt⟩
    rw [Int8.ofInt_toInt] at hread
    exact hread
  | int16 v =>
    have hread := parseInteger_intText (r := .signed 16) (fun i => .int16 (Int16.ofInt i))
      ⟨v.le_toInt, Int.le_sub_one_of_lt v.toInt_lt⟩
    rw [Int16.ofInt_toInt] at hread
    exact hread
  | int32 v =>
    have hread := parseInteger_intText (r := .signed 32) (fun i => .int32 (Int32.ofInt i))
      ⟨v.le_toInt, Int.le_sub_one_of_lt v.toInt_lt⟩
    rw [Int32.ofInt_toInt] at hread
    exact hread
  | int64 v =>
    have hread := parseInteger_intText (r := .signed 64) (fun i => .int64 (Int64.ofInt i))
      ⟨v.le_toInt, Int.le_sub_one_of_lt v.toInt_lt⟩
    rw [Int64.ofInt_toInt] at hread
    exact hread
  | float32 v => cases h
  | float64 v => cases h

/-! ### Octets -/

theorem toList_base64Text (bs : List UInt8) :
    (base64Text bs).toList = (Base64.encode bs).map fun b => Char.ofNat b.toNat :=
  String.toList_ofList

/-- The text of octets is their encoding. -/
theorem encode_base64Text (bs : List UInt8) :
    Utf8.encode (base64Text bs).toList = Base64.encode bs := by
  rw [toList_base64Text, Utf8.encode_map_ascii fun b hb => (base64_char bs b hb).1]

/-- Octets are read from the text that is written for them, blanks around it apart. -/
theorem parse_binary_eq_ok_iff {raw : String} {v : Value} :
    parse .binary raw = .ok v ↔
      v.type = .binary ∧ Text.IsTrimmed raw.toList v.text.toList := by
  rw [← Text.trim_eq_iff]
  constructor
  · intro h
    rw [parse] at h
    rcases hread : Base64.decode (Utf8.encode (Text.trim raw.toList)) with e | bs
    · rw [hread] at h
      cases h
    · rw [hread] at h
      obtain rfl := Except.ok.inj h
      -- canonical: two texts of the same octets would be the same text
      have hsame : Utf8.encode (Text.trim raw.toList) = Utf8.encode (base64Text bs).toList := by
        rw [encode_base64Text, Base64.decode_eq_ok_iff.mp hread]
      exact ⟨rfl, Utf8.encode_injective hsame⟩
  · rintro ⟨htype, htrim⟩
    cases v with
    | binary bs =>
      have hread : Base64.decode (Utf8.encode (Text.trim raw.toList)) = .ok bs := by
        rw [htrim, text, encode_base64Text, Base64.decode_encode]
      rw [parse, hread]
    | _ => cases htype

/-- **The text of a value is read as that value**, floating point numbers apart, and the text of
octets is the only one that is read as them. -/
theorem canonical_text :
    (∀ v : Value, v.type.isFloat = false → parse v.type v.text = .ok v) ∧
      ∀ (raw : String) (v : Value), parse .binary raw = .ok v ↔
        v.type = .binary ∧ Text.IsTrimmed raw.toList v.text.toList :=
  ⟨fun _ => parse_text, fun _ _ => parse_binary_eq_ok_iff⟩

theorem canonical_text_of_extremes :
    parse .int64 "-9223372036854775808" = .ok (.int64 Int64.minValue) ∧
      parse .string " on " = .ok (.string " on ") ∧
      Text.IsTrimmed " /w==\n".toList "/w==".toList := by
  have htext : (Value.int64 Int64.minValue).text = "-9223372036854775808" := by decide +kernel
  have hleast := canonical_text.1 (.int64 Int64.minValue) rfl
  rw [htext] at hleast
  refine ⟨hleast, canonical_text.1 (.string " on ") rfl, ?_⟩
  have hread : parse .binary " /w==\n" = .ok (.binary [0xFF]) := by decide +kernel
  exact ((canonical_text.2 " /w==\n" (.binary [0xFF])).mp hread).2

end Value

/-! ### Integers -/

/-- The least and the greatest value of a type of integers. -/
def ValueType.bounds? : ValueType → Option (Int × Int)
  | uint8 => some (0, 255)
  | uint16 => some (0, 65535)
  | uint32 => some (0, 4294967295)
  | uint64 => some (0, 18446744073709551615)
  | int8 => some (-128, 127)
  | int16 => some (-32768, 32767)
  | int32 => some (-2147483648, 2147483647)
  | int64 => some (-9223372036854775808, 9223372036854775807)
  | bool | string | binary | float32 | float64 => none

namespace Value

/-- The integer that a value is. -/
def integer? : Value → Option Int
  | uint8 v => some v.toNat
  | uint16 v => some v.toNat
  | uint32 v => some v.toNat
  | uint64 v => some v.toNat
  | int8 v => some v.toInt
  | int16 v => some v.toInt
  | int32 v => some v.toInt
  | int64 v => some v.toInt
  | bool _ | string _ | binary _ | float32 _ | float64 _ => none

/-- A value of an integer type has the text of its integer. -/
theorem text_of_integer? {v : Value} {i : Int} (h : v.integer? = some i) :
    v.type.isFloat = false ∧ v.text = Numeral.intText i := by
  cases v with
  | bool _ | string _ | binary _ | float32 _ | float64 _ => cases h
  | _ => exact ⟨rfl, congrArg Numeral.intText (Option.some.inj h)⟩

/-- A type has one value at most for an integer, since the text of it is read as one value. -/
theorem eq_of_integer? {v w : Value} {i : Int} (htype : v.type = w.type)
    (hv : v.integer? = some i) (hw : w.integer? = some i) : v = w := by
  obtain ⟨hfloat, hvtext⟩ := text_of_integer? hv
  obtain ⟨hfloat', hwtext⟩ := text_of_integer? hw
  have hreadᵥ : parse v.type v.text = .ok v := parse_text hfloat
  have hread_w : parse w.type w.text = .ok w := parse_text hfloat'
  rw [hvtext, htype, ← hwtext, hread_w] at hreadᵥ
  exact (Except.ok.inj hreadᵥ).symm

/-- How the integers of a type are read: as the numerals of a range, which is that of the type, and
each of them as its own value. -/
structure ReadsIntegers (t : ValueType) (r : Numeral.Range) (make : Int → Value) : Prop where
  /-- the text without its outer blanks is read with the range -/
  parse : ∀ raw, Value.parse t raw = parseInteger r make (Text.trim raw.toList)
  /-- the range is that of the type -/
  bounds : t.bounds? = some (-(r.below : Int), (r.above : Int))
  /-- what is read has the type -/
  type : ∀ i, (make i).type = t
  /-- an integer of the range is neither wrapped around nor moved -/
  integer? : ∀ i, r.Holds i → (make i).integer? = some i

theorem toNat_of_holds {n : Nat} {i : Int} (h : (Numeral.Range.unsigned n).Holds i) :
    i.toNat < Nat.pow 2 n ∧ (i.toNat : Int) = i := by
  obtain ⟨hlow, hhigh⟩ : 0 ≤ i ∧ i ≤ ((Nat.pow 2 n - 1 : Nat) : Int) := h
  have hpos : 0 < Nat.pow 2 n := Nat.two_pow_pos n
  omega

theorem lt_of_holds {n : Nat} {i : Int} (h : (Numeral.Range.signed n).Holds i) :
    -(Nat.pow 2 (n - 1) : Int) ≤ i ∧ i < (Nat.pow 2 (n - 1) : Int) := by
  obtain ⟨hlow, hhigh⟩ :
      -(Nat.pow 2 (n - 1) : Int) ≤ i ∧ i ≤ ((Nat.pow 2 (n - 1) - 1 : Nat) : Int) := h
  have hpos : 0 < Nat.pow 2 (n - 1) := Nat.two_pow_pos (n - 1)
  omega

/-- Every type with bounds reads integers. -/
theorem exists_readsIntegers {t : ValueType} {low high : Int} (h : t.bounds? = some (low, high)) :
    ∃ r make, ReadsIntegers t r make := by
  cases t with
  | bool | string | binary | float32 | float64 => cases h
  | uint8 =>
    refine ⟨.unsigned 8, _, fun _ => rfl, by decide, fun _ => rfl, fun i hi => ?_⟩
    obtain ⟨hlt, heq⟩ := toNat_of_holds hi
    rw [integer?, UInt8.toNat_ofNat_of_lt' hlt, heq]
  | uint16 =>
    refine ⟨.unsigned 16, _, fun _ => rfl, by decide, fun _ => rfl, fun i hi => ?_⟩
    obtain ⟨hlt, heq⟩ := toNat_of_holds hi
    rw [integer?, UInt16.toNat_ofNat_of_lt' hlt, heq]
  | uint32 =>
    refine ⟨.unsigned 32, _, fun _ => rfl, by decide, fun _ => rfl, fun i hi => ?_⟩
    obtain ⟨hlt, heq⟩ := toNat_of_holds hi
    rw [integer?, UInt32.toNat_ofNat_of_lt' hlt, heq]
  | uint64 =>
    refine ⟨.unsigned 64, _, fun _ => rfl, by decide, fun _ => rfl, fun i hi => ?_⟩
    obtain ⟨hlt, heq⟩ := toNat_of_holds hi
    rw [integer?, UInt64.toNat_ofNat_of_lt' hlt, heq]
  | int8 =>
    refine ⟨.signed 8, _, fun _ => rfl, by decide, fun _ => rfl, fun i hi => ?_⟩
    obtain ⟨hlow, hhigh⟩ := lt_of_holds hi
    exact congrArg some (Int8.toInt_ofInt_of_le hlow hhigh)
  | int16 =>
    refine ⟨.signed 16, _, fun _ => rfl, by decide, fun _ => rfl, fun i hi => ?_⟩
    obtain ⟨hlow, hhigh⟩ := lt_of_holds hi
    exact congrArg some (Int16.toInt_ofInt_of_le hlow hhigh)
  | int32 =>
    refine ⟨.signed 32, _, fun _ => rfl, by decide, fun _ => rfl, fun i hi => ?_⟩
    obtain ⟨hlow, hhigh⟩ := lt_of_holds hi
    exact congrArg some (Int32.toInt_ofInt_of_le hlow hhigh)
  | int64 =>
    refine ⟨.signed 64, _, fun _ => rfl, by decide, fun _ => rfl, fun i hi => ?_⟩
    obtain ⟨hlow, hhigh⟩ := lt_of_holds hi
    exact congrArg some (Int64.toInt_ofInt_of_le hlow hhigh)

/-- A type that reads integers takes exactly the trimmed texts of its range. -/
theorem ReadsIntegers.parse_eq_ok_iff {t : ValueType} {r : Numeral.Range} {make : Int → Value}
    (h : ReadsIntegers t r make) {raw : String} {v : Value} :
    Value.parse t raw = .ok v ↔ ∃ i, r.parse (Text.trim raw.toList) = .ok i ∧ make i = v := by
  rw [h.parse, parseInteger]
  rcases r.parse (Text.trim raw.toList) with e | i
  · simp
  · simp

/-- The text is a numeral of an integer within the bounds, with any blanks around it; it has a minus
sign only if there are negative integers within the bounds. -/
structure Spells (raw : String) (low high i : Int) : Prop where
  /-- what is left without the blanks -/
  numeral : ∃ cs, Text.IsTrimmed raw.toList cs ∧ Numeral.IsNumeral (low < 0) cs i
  /-- the lower bound -/
  least : low ≤ i
  /-- the upper bound -/
  greatest : i ≤ high

/-- A text spells an integer of the type exactly if its trimmed form is read in the range. -/
theorem ReadsIntegers.spells_iff {t : ValueType} {r : Numeral.Range} {make : Int → Value}
    (h : ReadsIntegers t r make) {low high : Int} (ht : t.bounds? = some (low, high))
    {raw : String} {i : Int} :
    Spells raw low high i ↔ r.parse (Text.trim raw.toList) = .ok i := by
  obtain ⟨rfl, rfl⟩ : -(r.below : Int) = low ∧ (r.above : Int) = high :=
    Prod.mk.inj (Option.some.inj (h.bounds.symm.trans ht))
  have hsigned : -(r.below : Int) < 0 ↔ 0 < r.below := by omega
  rw [Numeral.Range.parse_eq_ok_iff]
  constructor
  · rintro ⟨⟨cs, htrim, hi⟩, hlow, hhigh⟩
    rw [Text.trim_eq_iff.mpr htrim]
    exact ⟨hi.mono hsigned.mp, hlow, hhigh⟩
  · rintro ⟨hi, hlow, hhigh⟩
    exact ⟨⟨_, Text.isTrimmed_trim raw.toList, hi.mono hsigned.mpr⟩, hlow, hhigh⟩

section

variable {t : ValueType} {low high : Int} (ht : t.bounds? = some (low, high)) {raw : String}

include ht

/-- A value is read from a text exactly if the text spells its integer. -/
theorem parse_eq_ok_iff_spells {v : Value} :
    parse t raw = .ok v ↔ v.type = t ∧ ∃ i, v.integer? = some i ∧ Spells raw low high i := by
  obtain ⟨r, make, h⟩ := exists_readsIntegers ht
  rw [h.parse_eq_ok_iff]
  constructor
  · rintro ⟨i, hread, rfl⟩
    have hholds : r.Holds i := (Numeral.Range.parse_eq_ok_iff.mp hread).2
    exact ⟨h.type i, i, h.integer? i hholds, (h.spells_iff ht).mpr hread⟩
  · rintro ⟨htype, i, hi, hspells⟩
    have hread : r.parse (Text.trim raw.toList) = .ok i := (h.spells_iff ht).mp hspells
    have hholds : r.Holds i := (Numeral.Range.parse_eq_ok_iff.mp hread).2
    have hmake : make i = v :=
      eq_of_integer? ((h.type i).trans htype.symm) (h.integer? i hholds) hi
    exact ⟨i, hread, hmake⟩

/-- A text is taken for some value of the type exactly if it spells some integer. -/
theorem exists_parse_iff_spells :
    (∃ v, parse t raw = .ok v) ↔ ∃ i, Spells raw low high i := by
  obtain ⟨r, make, h⟩ := exists_readsIntegers ht
  constructor
  · rintro ⟨v, hv⟩
    obtain ⟨i, hread, -⟩ := h.parse_eq_ok_iff.mp hv
    exact ⟨i, (h.spells_iff ht).mpr hread⟩
  · rintro ⟨i, hi⟩
    exact ⟨make i, h.parse_eq_ok_iff.mpr ⟨i, (h.spells_iff ht).mp hi, rfl⟩⟩

/-- **An integer is read from exactly the texts that spell one within the bounds of the type**, and
as that very integer. -/
theorem parse_integer (raw : String) :
    (∀ v, parse t raw = .ok v ↔
        v.type = t ∧ ∃ i, v.integer? = some i ∧ Spells raw low high i) ∧
      ((∃ v, parse t raw = .ok v) ↔ ∃ i, Spells raw low high i) :=
  ⟨fun _ => parse_eq_ok_iff_spells ht, exists_parse_iff_spells ht⟩

end

/-- Leading zeros are allowed and so is the least integer, but not the one after the greatest. -/
theorem parse_integer_of_extremes :
    ValueType.int8.bounds? = some (-128, 127) ∧
      parse .int8 "\t-0128 " = .ok (.int8 (-128)) ∧
      ¬∃ i, Spells "128" (-128) 127 i := by
  have hbounds : ValueType.int8.bounds? = some (-128, 127) := rfl
  refine ⟨hbounds, ?_, ?_⟩
  · have htrim : Text.IsTrimmed "\t-0128 ".toList "-0128".toList :=
      Text.trim_eq_iff.mp (by decide)
    have hdigits : Numeral.IsDecimal "0128".toList 128 :=
      ⟨by decide, [0, 1, 2, 8], by simp [Numeral.digit?], rfl⟩
    have hspells : Spells "\t-0128 " (-128) 127 (-128) :=
      ⟨⟨_, htrim, .minus (by decide) hdigits⟩, by decide, by decide⟩
    exact ((parse_integer hbounds "\t-0128 ").1 (.int8 (-128))).mpr ⟨rfl, -128, rfl, hspells⟩
  · rintro hspells
    obtain ⟨v, hv⟩ := (parse_integer hbounds "128").2.mpr hspells
    have hrefused : parse .int8 "128" = .error (.integer .tooLarge) := by decide
    cases hrefused.symm.trans hv

end Value

end DeviceHost
