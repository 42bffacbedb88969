import DeviceHost.Proofs.Octets
import DeviceHost.Text.Percent

/-!
# Segments stand for texts

A text that is made a segment is found again in it, so different texts have different segments. The
characters of a segment are plain ones and `%`, which is never taken for an octet by mistake, since
it is written as an octet itself.

* `text?_encode` — the text of the segment of a text;
* `encode_injective` — different texts have different segments;
* `forall_mem_encode` — what segments are made of.
-/

namespace DeviceHost.Percent

theorem isPlain_hexDigitUpper {d : Nat} (h : d < 16) :
    isPlain (Numeral.hexDigitUpper d) = true := by
  have hall : ∀ d < 16, isPlain (Numeral.hexDigitUpper d) = true := by decide
  exact hall d h

theorem digits_lt (b : UInt8) : b.toNat / 16 < 16 ∧ b.toNat % 16 < 16 := by
  have hb : b.toNat < 256 := b.toNat_lt
  omega

/-! ### What segments are made of -/

/-- A character of segments. -/
def IsSegmentChar (c : Char) : Prop := isPlain c = true ∨ c = '%'

/-- A character that is not plain does not occur in a segment, apart from the percent sign. -/
theorem IsSegmentChar.ne {c d : Char} (h : IsSegmentChar c) (hd : isPlain d = false)
    (hpercent : d ≠ '%') : c ≠ d := by
  rintro rfl
  rcases h with h | h
  · cases hd.symm.trans h
  · exact hpercent h

/-- An escaped octet consists of characters of segments. -/
theorem forall_mem_escape (b : UInt8) : ∀ c ∈ escape b, IsSegmentChar c := by
  obtain ⟨hhigh, hlow⟩ := digits_lt b
  intro c hc
  simp only [escape, List.mem_cons, List.not_mem_nil, or_false] at hc
  rcases hc with rfl | rfl | rfl
  · exact .inr rfl
  · exact .inl (isPlain_hexDigitUpper hhigh)
  · exact .inl (isPlain_hexDigitUpper hlow)

theorem forall_mem_encode (cs : List Char) : ∀ c ∈ encode cs, IsSegmentChar c := by
  intro c hc
  obtain ⟨d, -, hd⟩ := List.mem_flatMap.mp hc
  rw [encodeChar] at hd
  split at hd
  case isTrue hplain =>
    obtain rfl := List.mem_singleton.mp hd
    exact .inl hplain
  case isFalse =>
    obtain ⟨b, -, hb⟩ := List.mem_flatMap.mp hd
    exact forall_mem_escape b c hb

/-! ### What they stand for -/

/-- An escaped octet stands for itself. -/
theorem decode_escape (b : UInt8) (cs : List Char) : decode (escape b ++ cs) = b :: decode cs := by
  obtain ⟨hhigh, hlow⟩ := digits_lt b
  have hoctet : UInt8.ofNat (b.toNat / 16 * 16 + b.toNat % 16) = b := by
    rw [Nat.div_add_mod', UInt8.ofNat_toNat]
  simp only [escape, List.cons_append, List.nil_append, decode,
    Numeral.hexDigit?_hexDigitUpper hhigh, Numeral.hexDigit?_hexDigitUpper hlow, hoctet]

theorem decode_flatMap_escape (bs : List UInt8) (cs : List Char) :
    decode (bs.flatMap escape ++ cs) = bs ++ decode cs := by
  induction bs with
  | nil => rfl
  | cons b bs ih =>
    rw [List.flatMap_cons, List.append_assoc, decode_escape, ih, List.cons_append]

theorem decode_cons {c : Char} (h : c ≠ '%') (cs : List Char) :
    decode (c :: cs) = Utf8.encodeChar c ++ decode cs := by
  rw [decode]
  rintro a b r rfl
  exact absurd rfl h

/-- An encoded character stands for its octets. -/
theorem decode_encodeChar (c : Char) (cs : List Char) :
    decode (encodeChar c ++ cs) = Utf8.encodeChar c ++ decode cs := by
  rw [encodeChar]
  split
  case isTrue hplain =>
    refine decode_cons ?_ cs
    rintro rfl
    cases hplain
  case isFalse => exact decode_flatMap_escape _ cs

/-- The octets of a segment are those of its text. -/
theorem decode_encode (cs : List Char) : decode (encode cs) = Utf8.encode cs := by
  induction cs with
  | nil => rfl
  | cons c cs ih =>
    rw [encode, List.flatMap_cons, decode_encodeChar, ← encode, ih]
    rfl

/-- The text of the segment of a text is that text. -/
theorem text?_encode (s : String) : text? (encode s.toList) = some s := by
  rw [text?, decode_encode, Utf8.text?, Utf8.chars?_eq_some_iff.mpr rfl, Option.map_some,
    String.ofList_toList]

/-- Different texts are encoded differently. -/
theorem encode_injective {cs ds : List Char} (h : encode cs = encode ds) : cs = ds :=
  Utf8.encode_injective (by rw [← decode_encode, h, decode_encode])

end DeviceHost.Percent
