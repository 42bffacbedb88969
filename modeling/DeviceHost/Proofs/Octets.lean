import DeviceHost.Text.Utf8
import Mathlib.Data.List.Induction

/-!
# Octets, put together and taken apart

What `Utf8.decode` does on octets that are put together of parts, and what texts and their octets
say about each other.

* `decode_encode` — the octets of a text are read as its characters;
* `chars?_eq_some_iff` — and a text is read from no other octets: those of a well-formed sequence
  are the octets of its character (`Begun.encodeChar`);
* `decode_append_ascii` — an ASCII octet belongs to no sequence, so octets may be cut there: what is
  before it and what is behind it are read as if the other part were not there. A sequence that is
  cut off by it is ill-formed with and without the rest. So parts with ASCII octets between them are
  read part by part (`decode_intercalate`).

The first and the last rest on the fact that the characters already found have no influence on the
reading (`Progress.step_onto`).
-/

namespace DeviceHost.Utf8

/-! ### What was found before -/

/-- A reading that goes on behind characters found earlier, given last one first. -/
def Progress.onto (base : List (Option Char)) (s : Progress) : Progress :=
  ⟨s.found ++ base, s.pending⟩

theorem Progress.lead_onto (base found : List (Option Char)) (b : UInt8) :
    lead (found ++ base) b = (lead found b).onto base := by
  simp only [lead]
  split
  · rfl
  · split <;> rfl

theorem Progress.step_onto (base : List (Option Char)) (s : Progress) (b : UInt8) :
    (s.onto base).step b = (s.step b).onto base := by
  obtain ⟨found, pending⟩ := s
  cases pending with
  | none => exact lead_onto base found b
  | some p =>
    simp only [step, onto]
    split
    · cases p.more <;> rfl
    · exact lead_onto base (none :: found) b

/-- The characters found before do not matter for the octets that follow. -/
theorem Progress.foldl_onto (base : List (Option Char)) (bs : List UInt8) (s : Progress) :
    bs.foldl step (s.onto base) = (bs.foldl step s).onto base := by
  induction bs generalizing s with
  | nil => rfl
  | cons b bs ih => rw [List.foldl_cons, step_onto, ih, List.foldl_cons]

theorem Progress.chars_onto (base : List (Option Char)) (s : Progress) :
    (s.onto base).chars = base.reverse ++ s.chars := by
  simp only [chars, onto]
  split
  case isTrue h => simp [h]
  case isFalse h => simp [h]

/-- Octets behind some that leave no sequence open. -/
theorem decode_append_of_foldl {as : List UInt8} {found : List (Option Char)}
    (h : as.foldl Progress.step ⟨[], none⟩ = ⟨found, none⟩) (bs : List UInt8) :
    decode (as ++ bs) = found.reverse ++ decode bs := by
  have hbase : (⟨found, none⟩ : Progress) = Progress.onto found ⟨[], none⟩ := rfl
  rw [decode, List.foldl_append, h, hbase, Progress.foldl_onto, Progress.chars_onto, decode]

/-! ### An ASCII octet -/

/-- What continues a character lies beyond ASCII. -/
theorem low_of_begin? {a : UInt8} {p : Pending} (h : begin? a = some p) : 0x80 ≤ p.low := by
  simp only [begin?] at h
  repeat' split at h
  all_goals cases h
  all_goals exact of_decide_eq_true rfl

/-- No open sequence takes an ASCII octet. -/
def Progress.Closable (s : Progress) : Prop := ∀ p, s.pending = some p → 0x80 ≤ p.low

theorem Progress.closable_lead (found : List (Option Char)) (b : UInt8) :
    (lead found b).Closable := by
  intro p hp
  simp only [lead] at hp
  split at hp
  · cases hp
  · split at hp
    · rename_i q hq
      obtain rfl := Option.some.inj hp
      exact low_of_begin? hq
    · cases hp

/-- After any octet an open sequence takes only octets beyond ASCII. -/
theorem Progress.closable_step (s : Progress) (b : UInt8) : (s.step b).Closable := by
  obtain ⟨found, pending⟩ := s
  cases pending with
  | none => exact closable_lead found b
  | some p =>
    simp only [step]
    split
    · intro q hq
      rcases hmore : p.more with _ | n
      · simp [hmore] at hq
      · simp only [hmore, Option.some.injEq] at hq
        rw [← hq]
        exact UInt8.le_refl 0x80
    · exact closable_lead (none :: found) b

theorem Progress.closable_foldl (bs : List UInt8) {s : Progress} (hs : s.Closable) :
    (bs.foldl step s).Closable := by
  induction bs generalizing s with
  | nil => exact hs
  | cons b bs ih => exact ih (s.closable_step b)

/-- An ASCII octet ends the sequence that is open, and is a character by itself. -/
theorem Progress.step_ascii {s : Progress} (hs : s.Closable) {b : UInt8} (hb : b < 0x80) :
    s.step b = ⟨some (Char.ofNat b.toNat) :: s.chars.reverse, none⟩ := by
  obtain ⟨found, pending⟩ := s
  cases pending with
  | none => simp [step, lead, hb, chars]
  | some p =>
    -- the octet cannot come next, so it is read where a sequence may begin
    have hlow : ¬(p.low ≤ b ∧ b ≤ p.high) := by
      rintro ⟨h, -⟩
      exact absurd (UInt8.lt_of_lt_of_le hb (UInt8.le_trans (hs p rfl) h)) (UInt8.lt_irrefl b)
    simp [step, hlow, lead, hb, chars]

/-- Octets may be cut at an ASCII octet. -/
theorem decode_append_ascii (as : List UInt8) {b : UInt8} (hb : b < 0x80) (cs : List UInt8) :
    decode (as ++ b :: cs) = decode as ++ some (Char.ofNat b.toNat) :: decode cs := by
  have hclosable : (as.foldl Progress.step ⟨[], none⟩).Closable :=
    Progress.closable_foldl as fun p hp => by cases hp
  have hcut : (as ++ [b]).foldl Progress.step ⟨[], none⟩
      = ⟨some (Char.ofNat b.toNat) :: (decode as).reverse, none⟩ := by
    rw [List.foldl_append, List.foldl_cons, List.foldl_nil, Progress.step_ascii hclosable hb]
    rfl
  have h := decode_append_of_foldl hcut cs
  simpa using h

/-- Parts with an ASCII octet between them are read part by part. -/
theorem decode_intercalate {b : UInt8} (hb : b < 0x80) (parts : List (List UInt8)) :
    decode ([b].intercalate parts)
      = [some (Char.ofNat b.toNat)].intercalate (parts.map decode) := by
  induction parts with
  | nil => rfl
  | cons p parts ih =>
    cases parts with
    | nil => rw [List.intercalate_singleton, List.map_singleton, List.intercalate_singleton]
    | cons q parts =>
      rw [List.intercalate_cons_cons, List.append_assoc, List.singleton_append,
        decode_append_ascii p hb, ih]
      simp

/-! ### The octets of a character -/

theorem toNat_ofNat_of_lt {n : Nat} (h : n < 256) : (UInt8.ofNat n).toNat = n := by
  rw [UInt8.toNat_ofNat', Nat.mod_eq_of_lt h]

/-- A leading octet opens a character. -/
theorem Progress.step_lead {n : Nat} (hn : n < 256) (h : 0x80 ≤ n) {p : Pending}
    (hp : begin? (UInt8.ofNat n) = some p) (found : List (Option Char)) :
    step ⟨found, none⟩ (UInt8.ofNat n) = ⟨found, some p⟩ := by
  have hascii : ¬UInt8.ofNat n < 0x80 := by
    rw [UInt8.lt_iff_toNat_lt, toNat_ofNat_of_lt hn]
    exact Nat.not_lt.mpr h
  simp [step, lead, hascii, hp]

section Tail

variable {k : Nat} {low high : UInt8} (hk : k < 64) (hlow : low.toNat ≤ 0x80 + k)
  (hhigh : 0x80 + k ≤ high.toNat) (found : List (Option Char))

include hk hlow hhigh

theorem tail_mem : low ≤ UInt8.ofNat (0x80 + k) ∧ UInt8.ofNat (0x80 + k) ≤ high := by
  rw [UInt8.le_iff_toNat_le, UInt8.le_iff_toNat_le, toNat_ofNat_of_lt (by omega)]
  exact ⟨hlow, hhigh⟩

/-- The last octet of a sequence. -/
theorem Progress.step_last (bits : Nat) :
    step ⟨found, some ⟨low, high, 0, bits⟩⟩ (UInt8.ofNat (0x80 + k))
      = ⟨some (Char.ofNat (bits * 64 + k)) :: found, none⟩ := by
  have hbits : (UInt8.ofNat (0x80 + k)).toNat % 64 = k := by
    rw [toNat_ofNat_of_lt (by omega)]
    omega
  simp only [step, if_pos (tail_mem hk hlow hhigh), hbits]

/-- A follow-up octet before the last one. -/
theorem Progress.step_more (n bits : Nat) :
    step ⟨found, some ⟨low, high, n + 1, bits⟩⟩ (UInt8.ofNat (0x80 + k))
      = ⟨found, some ⟨0x80, 0xBF, n, bits * 64 + k⟩⟩ := by
  have hbits : (UInt8.ofNat (0x80 + k)).toNat % 64 = k := by
    rw [toNat_ofNat_of_lt (by omega)]
    omega
  simp only [step, if_pos (tail_mem hk hlow hhigh), hbits]

end Tail

/-- What the octet that begins a sequence says about the next octet, which holds the bits `k`. -/
def Admits (lead : Nat) (more bits k : Nat) : Prop :=
  ∃ low high, begin? (UInt8.ofNat lead) = some ⟨low, high, more, bits⟩ ∧
    low.toNat ≤ 0x80 + k ∧ 0x80 + k ≤ high.toNat

theorem admits_two {n k : Nat} (h : n < 32) (h' : 2 ≤ n) (hk : k < 64) :
    Admits (0xC0 + n) 0 n k := by
  have hlead : ∀ n < 32, 2 ≤ n → begin? (UInt8.ofNat (0xC0 + n)) = some ⟨0x80, 0xBF, 0, n⟩ := by
    decide
  refine ⟨_, _, hlead n h h', ?_, ?_⟩
  · exact Nat.le_add_right 0x80 k
  · change 0x80 + k ≤ 0xBF
    omega

/-- No overlong form, and no surrogate. -/
theorem admits_three {n k : Nat} (h : n < 16) (hk : k < 64) (hlong : n = 0 → 32 ≤ k)
    (hhalf : n = 13 → k < 32) : Admits (0xE0 + n) 1 n k := by
  have hlead : ∀ n < 16, begin? (UInt8.ofNat (0xE0 + n))
      = some ⟨if n = 0 then 0xA0 else 0x80, if n = 13 then 0x9F else 0xBF, 1, n⟩ := by decide
  refine ⟨_, _, hlead n h, ?_, ?_⟩
  · split
    · change 0xA0 ≤ 0x80 + k
      omega
    · exact Nat.le_add_right 0x80 k
  · split
    · change 0x80 + k ≤ 0x9F
      omega
    · change 0x80 + k ≤ 0xBF
      omega

/-- No overlong form, and nothing above U+10FFFF. -/
theorem admits_four {n k : Nat} (h : n < 5) (hk : k < 64) (hlong : n = 0 → 16 ≤ k)
    (hlast : n = 4 → k < 16) : Admits (0xF0 + n) 2 n k := by
  have hlead : ∀ n < 5, begin? (UInt8.ofNat (0xF0 + n))
      = some ⟨if n = 0 then 0x90 else 0x80, if n = 4 then 0x8F else 0xBF, 2, n⟩ := by decide
  refine ⟨_, _, hlead n h, ?_, ?_⟩
  · split
    · change 0x90 ≤ 0x80 + k
      omega
    · exact Nat.le_add_right 0x80 k
  · split
    · change 0x80 + k ≤ 0x8F
      omega
    · change 0x80 + k ≤ 0xBF
      omega

/-- The octets of a character are read as that character. -/
theorem Progress.foldl_encodeChar (c : Char) (found : List (Option Char)) :
    (encodeChar c).foldl step ⟨found, none⟩ = ⟨some c :: found, none⟩ := by
  have hvalid : c.toNat < 0xD800 ∨ 0xDFFF < c.toNat ∧ c.toNat < 0x110000 := c.valid
  -- the bits of the octets, put together, are the number of the character
  have hchar : ∀ n, n = c.toNat → Char.ofNat n = c := fun n h => h ▸ Char.ofNat_toNat c
  have hlow : ∀ k, (0x80 : UInt8).toNat ≤ 0x80 + k := fun k => Nat.le_add_right 0x80 k
  have hhigh : ∀ n, 0x80 + n % 64 ≤ (0xBF : UInt8).toNat := fun n =>
    Nat.add_le_add_left (Nat.le_of_lt_succ (Nat.mod_lt n (by decide))) 0x80
  simp only [encodeChar]
  split
  case isTrue h =>
    have htoNat : (UInt8.ofNat c.toNat).toNat = c.toNat := toNat_ofNat_of_lt (by omega)
    have hascii : UInt8.ofNat c.toNat < 0x80 := by
      rw [UInt8.lt_iff_toNat_lt, htoNat]
      exact h
    simp [step, lead, hascii, htoNat]
  case isFalse h =>
    split
    case isTrue h' =>
      obtain ⟨low, high, hlead, hl, hh⟩ :
          Admits (0xC0 + c.toNat / 64) 0 (c.toNat / 64) (c.toNat % 64) :=
        admits_two (by omega) (by omega) (by omega)
      rw [List.foldl_cons, step_lead (by omega) (by omega) hlead,
        List.foldl_cons, step_last (by omega) hl hh, List.foldl_nil, hchar _ (by omega)]
    case isFalse h' =>
      split
      case isTrue h'' =>
        obtain ⟨low, high, hlead, hl, hh⟩ :
            Admits (0xE0 + c.toNat / 4096) 1 (c.toNat / 4096) (c.toNat / 64 % 64) :=
          admits_three (by omega) (by omega) (by omega) (by omega)
        rw [List.foldl_cons, step_lead (by omega) (by omega) hlead,
          List.foldl_cons, step_more (by omega) hl hh,
          List.foldl_cons, step_last (by omega) (hlow _) (hhigh _), List.foldl_nil,
          hchar _ (by omega)]
      case isFalse h'' =>
        obtain ⟨low, high, hlead, hl, hh⟩ :
            Admits (0xF0 + c.toNat / 262144) 2 (c.toNat / 262144) (c.toNat / 4096 % 64) :=
          admits_four (by omega) (by omega) (by omega) (by omega)
        rw [List.foldl_cons, step_lead (by omega) (by omega) hlead,
          List.foldl_cons, step_more (by omega) hl hh,
          List.foldl_cons, step_more (by omega) (hlow _) (hhigh _),
          List.foldl_cons, step_last (by omega) (hlow _) (hhigh _), List.foldl_nil,
          hchar _ (by omega)]

/-- The octets of a text are read as its characters. -/
theorem decode_encode (cs : List Char) : decode (encode cs) = cs.map some := by
  induction cs with
  | nil => rfl
  | cons c cs ih =>
    have h := decode_append_of_foldl (Progress.foldl_encodeChar c []) (encode cs)
    rw [encode, List.flatMap_cons, List.map_cons, ← ih]
    exact h

/-- Different texts have different octets. -/
theorem encode_injective {cs ds : List Char} (h : encode cs = encode ds) : cs = ds := by
  have hread : cs.map some = ds.map some := by rw [← decode_encode, h, decode_encode]
  exact (List.map_inj_right fun _ _ => Option.some.inj).mp hread

/-! ### ASCII characters -/

/-- An ASCII octet is the encoding of its character. -/
theorem encodeChar_ascii {b : UInt8} (h : b < 0x80) : encodeChar (Char.ofNat b.toNat) = [b] := by
  have hb : b.toNat < 0x80 := UInt8.lt_iff_toNat_lt.mp h
  have hvalid : b.toNat.isValidChar := .inl (by omega)
  have hchar : (Char.ofNat b.toNat).toNat = b.toNat := by
    rw [Char.ofNat, dif_pos hvalid]
    rfl
  rw [encodeChar, hchar, if_pos hb, UInt8.ofNat_toNat]

/-- ASCII octets, taken for characters, have themselves for octets. -/
theorem encode_map_ascii {bs : List UInt8} (h : ∀ b ∈ bs, b < 0x80) :
    encode (bs.map fun b => Char.ofNat b.toNat) = bs := by
  induction bs with
  | nil => rfl
  | cons b bs ih =>
    obtain ⟨hb, hbs⟩ := List.forall_mem_cons.mp h
    rw [List.map_cons, encode, List.flatMap_cons, encodeChar_ascii hb, ← encode, ih hbs]
    rfl

/-! ### The octets of what was read -/

theorem toNat_ofNat_of_scalar {n : Nat} (h : n < 0xD800 ∨ 0xDFFF < n ∧ n < 0x110000) :
    (Char.ofNat n).toNat = n := by
  rw [Char.ofNat, dif_pos h]
  rfl

section Spelling

variable {n k l m : Nat}

/-- A character of eleven bits is encoded in two octets. -/
theorem encodeChar_two (h : n < 32) (h' : 2 ≤ n) (hk : k < 64) :
    encodeChar (Char.ofNat (n * 64 + k)) = [UInt8.ofNat (0xC0 + n), UInt8.ofNat (0x80 + k)] := by
  have hlead : (n * 64 + k) / 64 = n := by omega
  have hlast : (n * 64 + k) % 64 = k := by omega
  rw [encodeChar, toNat_ofNat_of_scalar (by omega), if_neg (by omega), if_pos (by omega), hlead,
    hlast]

theorem encodeChar_three (h : n < 16) (hk : k < 64) (hl : l < 64)
    (hlong : n = 0 → 32 ≤ k) (hhalf : n = 13 → k < 32) :
    encodeChar (Char.ofNat ((n * 64 + k) * 64 + l)) =
      [UInt8.ofNat (0xE0 + n), UInt8.ofNat (0x80 + k), UInt8.ofNat (0x80 + l)] := by
  have hlead : ((n * 64 + k) * 64 + l) / 4096 = n := by omega
  have hnext : ((n * 64 + k) * 64 + l) / 64 % 64 = k := by omega
  have hlast : ((n * 64 + k) * 64 + l) % 64 = l := by omega
  rw [encodeChar, toNat_ofNat_of_scalar (by omega), if_neg (by omega), if_neg (by omega),
    if_pos (by omega), hlead, hnext, hlast]

theorem encodeChar_four (h : n < 5) (hk : k < 64) (hl : l < 64) (hm : m < 64)
    (hlong : n = 0 → 16 ≤ k) (hhigh : n = 4 → k < 16) :
    encodeChar (Char.ofNat (((n * 64 + k) * 64 + l) * 64 + m)) =
      [UInt8.ofNat (0xF0 + n), UInt8.ofNat (0x80 + k), UInt8.ofNat (0x80 + l),
        UInt8.ofNat (0x80 + m)] := by
  have hlead : (((n * 64 + k) * 64 + l) * 64 + m) / 262144 = n := by omega
  have hnext : (((n * 64 + k) * 64 + l) * 64 + m) / 4096 % 64 = k := by omega
  have hthird : (((n * 64 + k) * 64 + l) * 64 + m) / 64 % 64 = l := by omega
  have hlast : (((n * 64 + k) * 64 + l) * 64 + m) % 64 = m := by omega
  rw [encodeChar, toNat_ofNat_of_scalar (by omega), if_neg (by omega), if_neg (by omega),
    if_neg (by omega), hlead, hnext, hthird, hlast]

end Spelling

/-- What an octet that begins a sequence says about it: how long it is, which bits it brings, and
what may come next. -/
def Pending.Leads (a : UInt8) (p : Pending) : Prop :=
  0x80 ≤ p.low.toNat ∧ p.high.toNat ≤ 0xBF ∧
    (p.more = 0 ∧ a.toNat = 0xC0 + p.bits ∧ 2 ≤ p.bits ∧ p.bits < 32 ∨
      p.more = 1 ∧ a.toNat = 0xE0 + p.bits ∧ p.bits < 16 ∧
        (p.bits = 0 → 0xA0 ≤ p.low.toNat) ∧ (p.bits = 13 → p.high.toNat ≤ 0x9F) ∨
      p.more = 2 ∧ a.toNat = 0xF0 + p.bits ∧ p.bits < 5 ∧
        (p.bits = 0 → 0x90 ≤ p.low.toNat) ∧ (p.bits = 4 → p.high.toNat ≤ 0x8F))

instance (a : UInt8) (p : Pending) : Decidable (p.Leads a) :=
  inferInstanceAs (Decidable (_ ∧ _))

/-- An octet opens a character only if it leads one of the three forms. -/
theorem leads_of_begin? {a : UInt8} {p : Pending} (h : begin? a = some p) : p.Leads a := by
  have hall : ∀ n < 256, ∀ p ∈ begin? (UInt8.ofNat n), p.Leads (UInt8.ofNat n) := by
    decide +kernel
  have ha := hall a.toNat a.toNat_lt
  rw [UInt8.ofNat_toNat] at ha
  exact ha p h

/-- The octets of a sequence under way. -/
inductive Begun : List UInt8 → Pending → Prop
  /-- the octet that begins it -/
  | lead {a : UInt8} {p : Pending} (h : begin? a = some p) : Begun [a] p
  /-- an octet that follows, and is not the last one -/
  | more {os : List UInt8} {low high b : UInt8} {n bits : Nat}
    (h : Begun os ⟨low, high, n + 1, bits⟩) (hb : low ≤ b ∧ b ≤ high) :
    Begun (os ++ [b]) ⟨0x80, 0xBF, n, bits * 64 + b.toNat % 64⟩

theorem Begun.more_le {os : List UInt8} {p : Pending} (h : Begun os p) : p.more ≤ 2 := by
  induction h with
  | lead h =>
    have := leads_of_begin? h
    simp only [Pending.Leads] at this
    omega
  | more h hb ih => exact Nat.le_of_succ_le ih

/-- The bits of an octet that follows. -/
theorem exists_tail {low high b : UInt8} (hlow : 0x80 ≤ low.toNat) (hhigh : high.toNat ≤ 0xBF)
    (hb : low ≤ b ∧ b ≤ high) :
    ∃ k < 64, b = UInt8.ofNat (0x80 + k) ∧ b.toNat % 64 = k ∧
      low.toNat ≤ 0x80 + k ∧ 0x80 + k ≤ high.toNat := by
  obtain ⟨hl, hh⟩ := hb
  rw [UInt8.le_iff_toNat_le] at hl hh
  refine ⟨b.toNat - 0x80, by omega, ?_, by omega, by omega, by omega⟩
  rw [Nat.add_sub_cancel' (by omega), UInt8.ofNat_toNat]

/-- With the last octet of a sequence, its octets are those of the character. -/
theorem Begun.encodeChar {os : List UInt8} {low high b : UInt8} {bits : Nat}
    (h : Begun os ⟨low, high, 0, bits⟩) (hb : low ≤ b ∧ b ≤ high) :
    encodeChar (Char.ofNat (bits * 64 + b.toNat % 64)) = os ++ [b] := by
  have hfollows : ∀ {b : UInt8}, (0x80 : UInt8) ≤ b ∧ b ≤ 0xBF →
      ∃ k < 64, b = UInt8.ofNat (0x80 + k) ∧ b.toNat % 64 = k := fun {b} hb => by
    obtain ⟨k, hk, hbyte, hbits, -, -⟩ := exists_tail (by decide) (by decide) hb
    exact ⟨k, hk, hbyte, hbits⟩
  -- a sequence has two, three or four octets
  cases h with
  | @lead a _ h =>
    obtain ⟨hlow, hhigh, hlead⟩ := leads_of_begin? h
    dsimp only at hlow hhigh hlead
    obtain ⟨k, hk, rfl, hbits, -, -⟩ := exists_tail hlow hhigh hb
    rw [hbits, encodeChar_two (by omega) (by omega) hk, ← (by omega : a.toNat = 0xC0 + bits),
      UInt8.ofNat_toNat]
    rfl
  | @more os low high c n bits h hc =>
    obtain ⟨m, hm, rfl, hlast⟩ := hfollows hb
    rw [hlast]
    cases h with
    | @lead a _ h =>
      obtain ⟨hlow, hhigh, hlead⟩ := leads_of_begin? h
      dsimp only at hlow hhigh hlead
      obtain ⟨k, hk, rfl, hbits, hl, hh⟩ := exists_tail hlow hhigh hc
      rw [hbits, encodeChar_three (by omega) hk hm (by omega) (by omega),
        ← (by omega : a.toNat = 0xE0 + bits), UInt8.ofNat_toNat]
      rfl
    | @more os low high d n bits h hd =>
      obtain ⟨l, hl, rfl, hthird⟩ := hfollows hc
      rw [hthird]
      cases h with
      | @lead a _ h =>
        obtain ⟨hlow, hhigh, hlead⟩ := leads_of_begin? h
        dsimp only at hlow hhigh hlead
        obtain ⟨k, hk, rfl, hbits, hl', hh⟩ := exists_tail hlow hhigh hd
        rw [hbits, encodeChar_four (by omega) hk hl hm (by omega) (by omega),
          ← (by omega : a.toNat = 0xF0 + bits), UInt8.ofNat_toNat]
        rfl
      | more h he => exact absurd h.more_le (by simp)

/-- If every octet belongs to a well-formed sequence so far, the octets are those of the characters
found and of the sequence under way. -/
def Progress.Spells (s : Progress) (bs : List UInt8) : Prop :=
  none ∉ s.found → ∃ os, bs = encode (s.found.reverse.filterMap id) ++ os ∧
    match s.pending with
    | none => os = []
    | some p => Begun os p

/-- One more character, and its octets. -/
theorem encode_found (c : Char) (found : List (Option Char)) :
    encode ((some c :: found).reverse.filterMap id) =
      encode (found.reverse.filterMap id) ++ encodeChar c := by
  simp [encode]

theorem Progress.spells_lead {found : List (Option Char)} {bs : List UInt8}
    (h : none ∉ found → bs = encode (found.reverse.filterMap id)) (b : UInt8) :
    (lead found b).Spells (bs ++ [b]) := by
  intro hnone
  unfold lead at hnone ⊢
  split at hnone
  · rename_i hascii
    rw [if_pos hascii, h fun hmem => hnone (List.mem_cons_of_mem _ hmem)]
    exact ⟨[], by rw [encode_found, encodeChar_ascii hascii, List.append_nil], rfl⟩
  · rename_i hascii
    rw [if_neg hascii]
    rcases hbegin : begin? b with _ | p
    · rw [hbegin] at hnone
      exact absurd (List.mem_cons_self ..) hnone
    · rw [hbegin] at hnone
      exact ⟨[b], by rw [← h hnone], .lead hbegin⟩

/-- Every octet is added to the spelling, as long as no flaw was found. -/
theorem Progress.spells_step {s : Progress} {bs : List UInt8} (h : s.Spells bs) (b : UInt8) :
    (s.step b).Spells (bs ++ [b]) := by
  obtain ⟨found, pending⟩ := s
  cases pending with
  | none =>
    refine spells_lead (fun hnone => ?_) b
    obtain ⟨os, hbs, rfl⟩ := h hnone
    rw [hbs, List.append_nil]
  | some p =>
    obtain ⟨low, high, more, bits⟩ := p
    by_cases hb : low ≤ b ∧ b ≤ high
    · cases more with
      | zero =>
        intro hnone
        simp only [step, if_pos hb] at hnone ⊢
        obtain ⟨os, hbs, hbegun⟩ := h fun hmem => hnone (List.mem_cons_of_mem _ hmem)
        refine ⟨[], ?_, rfl⟩
        rw [encode_found, hbegun.encodeChar hb, hbs, List.append_assoc, List.append_nil]
      | succ n =>
        intro hnone
        simp only [step, if_pos hb] at hnone ⊢
        obtain ⟨os, hbs, hbegun⟩ := h hnone
        exact ⟨os ++ [b], by rw [hbs, List.append_assoc], hbegun.more hb⟩
    · -- the sequence breaks off, which leaves a mark
      simp only [step, if_neg hb]
      exact spells_lead (fun hnone => absurd (List.mem_cons_self ..) hnone) b

/-- What is found without a flaw is spelled by exactly the octets that were read. -/
theorem Progress.spells_foldl (bs : List UInt8) : (bs.foldl step ⟨[], none⟩).Spells bs := by
  induction bs using List.reverseRecOn with
  | nil => exact fun _ => ⟨[], rfl, rfl⟩
  | append_singleton bs b ih =>
    rw [List.foldl_append]
    exact spells_step ih b

/-- The octets of what was read. -/
theorem encode_of_decode {bs : List UInt8} {cs : List Char} (h : decode bs = cs.map some) :
    encode cs = bs := by
  have hspells := Progress.spells_foldl bs
  rw [decode] at h
  generalize bs.foldl Progress.step ⟨[], none⟩ = s at h hspells
  obtain ⟨found, pending⟩ := s
  cases pending with
  | none =>
    have hfound : found.reverse = cs.map some := h
    have hnone : none ∉ found := by
      rw [← List.mem_reverse, hfound]
      simp
    have hchars : found.reverse.filterMap id = cs := by
      rw [hfound, List.filterMap_map]
      exact List.filterMap_some
    obtain ⟨os, hbs, rfl⟩ := hspells hnone
    rw [hbs, List.append_nil, hchars]
  | some p =>
    -- a sequence under way at the end leaves a mark
    have hmem : none ∈ cs.map some := by
      rw [← h]
      simp [Progress.chars]
    simp at hmem

theorem allSome_map_some (acc cs : List Char) :
    allSome acc (cs.map some) = some (acc.reverse ++ cs) := by
  induction cs generalizing acc with
  | nil => simp [allSome]
  | cons c cs ih => simp [allSome, ih]

/-- All characters are there only if there is no flaw. -/
theorem eq_map_of_allSome {acc : List Char} {os : List (Option Char)} {cs : List Char}
    (h : allSome acc os = some cs) : ∃ rest, os = rest.map some ∧ cs = acc.reverse ++ rest := by
  induction os generalizing acc with
  | nil => exact ⟨[], rfl, by simpa [allSome] using h.symm⟩
  | cons o os ih =>
    cases o with
    | none => cases h
    | some c =>
      obtain ⟨rest, rfl, rfl⟩ := ih h
      exact ⟨c :: rest, rfl, by simp⟩

/-- **A text is read from its own octets**, and from no others. -/
theorem chars?_eq_some_iff {bs : List UInt8} {cs : List Char} :
    chars? bs = some cs ↔ encode cs = bs := by
  constructor
  · intro h
    obtain ⟨rest, hdecode, rfl⟩ := eq_map_of_allSome h
    exact encode_of_decode hdecode
  · rintro rfl
    rw [chars?, decode_encode, allSome_map_some]
    rfl

end DeviceHost.Utf8
