import DeviceHost.Base64

/-!
# Base 64, written and read

`decode_encode`: octets that are written in base 64 are read as they were, whatever their number.
The writer takes three octets at a time and the reader four symbols, so both are compared group by
group: `group_octets` for a group that more text follows, and `groups_triple`, `groups_pair` and
`groups_single` for the last one, which is read by another function.

What is written consists of symbols and padding (`forall_mem_encode`), in whole groups
(`length_encode_mod`).

No other text is read: `decode_eq_ok_iff`. A text that is read is taken apart in the same way. Its
symbols, and the zeros that its padding asks for, leave no choice of how to write the octets
(`encode_triple`, `encode_pair`, `encode_single`).
-/

namespace DeviceHost.Base64

/-! ### Symbols -/

/-- Each of the 64 symbols stands for its own number. -/
theorem sextet?_symbol {n : Nat} (h : n < 64) : sextet? (symbol n) = some n := by
  have hall : ∀ n < 64, sextet? (symbol n) = some n := by decide
  exact hall n h

/-- The padding is none of the symbols. -/
theorem symbol_ne_pad {n : Nat} (h : n < 64) : symbol n ≠ pad := by
  have hall : ∀ n < 64, symbol n ≠ pad := by decide
  exact hall n h

/-! ### Groups -/

section Groups

variable (offset : Nat)

theorem sextet_symbol {n : Nat} (h : n < 64) : sextet offset (symbol n) = .ok n := by
  rw [sextet, sextet?_symbol h]

/-- Three octets make a group of four symbols, and the group makes the three octets again. -/
theorem group_octets (a b c : UInt8) :
    let n := a.toNat * 65536 + b.toNat * 256 + c.toNat
    group offset (symbol (n / 262144)) (symbol (n / 4096 % 64)) (symbol (n / 64 % 64))
      (symbol (n % 64)) = .ok [a, b, c] := by
  intro n
  have ha := a.toNat_lt
  have hb := b.toNat_lt
  have hc := c.toNat_lt
  have hn : n = a.toNat * 65536 + b.toNat * 256 + c.toNat := rfl
  clear_value n
  have hwhole : n / 262144 * 262144 + n / 4096 % 64 * 4096 + n / 64 % 64 * 64 + n % 64 = n := by
    omega
  have h₁ : n / 65536 = a.toNat := by omega
  have h₂ : n / 256 % 256 = b.toNat := by omega
  have h₃ : n % 256 = c.toNat := by omega
  rw [group, sextet_symbol offset (by omega), sextet_symbol _ (by omega),
    sextet_symbol _ (by omega), sextet_symbol _ (by omega)]
  change Except.ok _ = Except.ok _
  rw [hwhole, h₁, h₂, h₃, UInt8.ofNat_toNat, UInt8.ofNat_toNat, UInt8.ofNat_toNat]

/-! ### The last group -/

/-- In the last group a symbol before any padding is one more sextet. -/
theorem ending_symbol (ss : List (UInt8 × Nat)) (pads i : Nat) {n : Nat} (h : n < 64)
    (r : List UInt8) :
    ending offset ⟨ss, none, pads⟩ i (symbol n :: r) =
      ending offset ⟨ss ++ [(symbol n, n)], none, pads⟩ (i + 1) r := by
  rw [ending, if_neg (symbol_ne_pad h)]
  dsimp only
  rw [sextet?_symbol h]

/-- From the third place of the last group on padding is counted, and its first place kept. -/
theorem ending_pad (ss : List (UInt8 × Nat)) (start : Option Nat) (pads : Nat) {i : Nat}
    (hi : 2 ≤ i) (r : List UInt8) :
    ending offset ⟨ss, start, pads⟩ i (pad :: r) =
      ending offset ⟨ss, start.or (some (offset + i)), pads + 1⟩ (i + 1) r := by
  rw [ending, if_pos rfl, if_neg (by omega)]

/-- A last group without padding is read as any other one. -/
theorem groups_triple (a b c : UInt8) :
    let n := a.toNat * 65536 + b.toNat * 256 + c.toNat
    groups offset [symbol (n / 262144), symbol (n / 4096 % 64), symbol (n / 64 % 64),
      symbol (n % 64)] = .ok [a, b, c] := by
  intro n
  have ha := a.toNat_lt
  have hb := b.toNat_lt
  have hc := c.toNat_lt
  have hgroup := group_octets offset a b c
  have hn : n = a.toNat * 65536 + b.toNat * 256 + c.toNat := rfl
  rw [← hn] at hgroup
  clear_value n
  have hread : ending offset {} 0 [symbol (n / 262144), symbol (n / 4096 % 64),
      symbol (n / 64 % 64), symbol (n % 64)] = .ok [a, b, c] := by
    rw [ending_symbol offset _ _ _ (by omega), ending_symbol offset _ _ _ (by omega),
      ending_symbol offset _ _ _ (by omega), ending_symbol offset _ _ _ (by omega)]
    simpa [ending, Ending.octets] using hgroup
  exact hread

/-- Two octets make three symbols, and these make the two octets again. -/
theorem groups_pair (a b : UInt8) :
    let n := a.toNat * 1024 + b.toNat * 4
    groups offset [symbol (n / 4096), symbol (n / 64 % 64), symbol (n % 64), pad] =
      .ok [a, b] := by
  intro n
  have ha := a.toNat_lt
  have hb := b.toNat_lt
  have hn : n = a.toNat * 1024 + b.toNat * 4 := rfl
  clear_value n
  -- the two bits that are left over are zero
  have hunused : n % 64 % 4 = 0 := by omega
  have h₁ : (n / 4096 * 1024 + n / 64 % 64 * 16 + n % 64 / 4) / 256 = a.toNat := by omega
  have h₂ : (n / 4096 * 1024 + n / 64 % 64 * 16 + n % 64 / 4) % 256 = b.toNat := by omega
  have hread : ending offset {} 0 [symbol (n / 4096), symbol (n / 64 % 64), symbol (n % 64), pad] =
      .ok [UInt8.ofNat a.toNat, UInt8.ofNat b.toNat] := by
    rw [ending_symbol offset _ _ _ (by omega), ending_symbol offset _ _ _ (by omega),
      ending_symbol offset _ _ _ (by omega), ending_pad offset _ _ _ (by omega)]
    simp [ending, Ending.octets, hunused, h₁, h₂]
  rw [UInt8.ofNat_toNat, UInt8.ofNat_toNat] at hread
  exact hread

/-- An octet makes two symbols, and these make the octet again. -/
theorem groups_single (a : UInt8) :
    let n := a.toNat * 16
    groups offset [symbol (n / 64), symbol (n % 64), pad, pad] = .ok [a] := by
  intro n
  have ha := a.toNat_lt
  have hn : n = a.toNat * 16 := rfl
  clear_value n
  have hunused : n % 64 % 16 = 0 := by omega
  have h₁ : n / 64 * 4 + n % 64 / 16 = a.toNat := by omega
  have hread : ending offset {} 0 [symbol (n / 64), symbol (n % 64), pad, pad] =
      .ok [UInt8.ofNat a.toNat] := by
    rw [ending_symbol offset _ _ _ (by omega), ending_symbol offset _ _ _ (by omega),
      ending_pad offset _ _ _ (by omega), ending_pad offset _ _ _ (by omega)]
    simp [ending, Ending.octets, hunused, h₁]
  rw [UInt8.ofNat_toNat] at hread
  exact hread

end Groups

/-! ### The whole text -/

theorem encode_eq_nil_iff {bs : List UInt8} : encode bs = [] ↔ bs = [] := by
  constructor
  · intro h
    rcases bs with _ | ⟨a, _ | ⟨b, _ | ⟨c, r⟩⟩⟩
    · rfl
    · cases h
    · cases h
    · cases h
  · rintro rfl
    rfl

/-- The decoder gives back every list of octets from its encoding, with any offset for faults. -/
theorem groups_encode (bs : List UInt8) (offset : Nat) : groups offset (encode bs) = .ok bs := by
  induction bs using encode.induct generalizing offset with
  | case1 a b c r ih =>
    have hgroup := group_octets offset a b c
    rw [encode]
    dsimp only at hgroup ⊢
    rcases hr : encode r with _ | ⟨e, es⟩
    · obtain rfl := encode_eq_nil_iff.mp hr
      exact groups_triple offset a b c
    · rw [groups, hgroup, ← hr, ih]
      rfl
  | case2 a b => exact groups_pair offset a b
  | case3 a => exact groups_single offset a
  | case4 => rfl

/-- What is written consists of whole groups. -/
theorem length_encode_mod (bs : List UInt8) : (encode bs).length % 4 = 0 := by
  induction bs using encode.induct with
  | case1 a b c r ih =>
    rw [encode]
    dsimp only [List.length_cons]
    omega
  | case2 a b => simp [encode]
  | case3 a => simp [encode]
  | case4 => rfl

/-- What holds of all symbols and of the padding, holds of everything that is written. -/
theorem forall_mem_encode {P : UInt8 → Prop} (hsymbol : ∀ n < 64, P (symbol n)) (hpad : P pad)
    (bs : List UInt8) : ∀ b ∈ encode bs, P b := by
  induction bs using encode.induct with
  | case1 a b c r ih =>
    have ha := a.toNat_lt
    have hb := b.toNat_lt
    have hc := c.toNat_lt
    rw [encode]
    simp only [List.forall_mem_cons]
    exact ⟨hsymbol _ (by omega), hsymbol _ (by omega), hsymbol _ (by omega),
      hsymbol _ (by omega), ih⟩
  | case2 a b =>
    have ha := a.toNat_lt
    have hb := b.toNat_lt
    rw [encode]
    simp only [List.forall_mem_cons]
    exact ⟨hsymbol _ (by omega), hsymbol _ (by omega), hsymbol _ (by omega), hpad, nofun⟩
  | case3 a =>
    have ha := a.toNat_lt
    rw [encode]
    simp only [List.forall_mem_cons]
    exact ⟨hsymbol _ (by omega), hsymbol _ (by omega), hpad, hpad, nofun⟩
  | case4 => nofun

/-- **Octets that are written in base 64 are read as they were.** -/
theorem decode_encode (bs : List UInt8) : decode (encode bs) = .ok bs := by
  have hlength := length_encode_mod bs
  unfold decode
  split
  · rename_i hone _
    rw [hlength] at hone
    cases hone
  · exact groups_encode bs 0

/-! ### Canonical texts -/

/-- A symbol is the only one that stands for its six bits. -/
theorem symbol_of_sextet? {b : UInt8} {n : Nat} (h : sextet? b = some n) :
    n < 64 ∧ symbol n = b := by
  have hall : ∀ m < 256, ∀ n ∈ sextet? (UInt8.ofNat m), n < 64 ∧ symbol n = UInt8.ofNat m := by
    decide +kernel
  have hb := hall b.toNat b.toNat_lt n
  rw [UInt8.ofNat_toNat] at hb
  exact hb h

/-- Four symbols are the text of three octets. -/
theorem encode_triple {w x y z : Nat} (hw : w < 64) (hx : x < 64) (hy : y < 64) (hz : z < 64)
    (r : List UInt8) :
    let n := w * 262144 + x * 4096 + y * 64 + z
    encode (UInt8.ofNat (n / 65536) :: UInt8.ofNat (n / 256 % 256) :: UInt8.ofNat (n % 256) :: r) =
      symbol w :: symbol x :: symbol y :: symbol z :: encode r := by
  intro n
  have hn : n = w * 262144 + x * 4096 + y * 64 + z := rfl
  clear_value n
  have h₁ : n / 262144 = w := by omega
  have h₂ : n / 4096 % 64 = x := by omega
  have h₃ : n / 64 % 64 = y := by omega
  have h₄ : n % 64 = z := by omega
  have ha : (UInt8.ofNat (n / 65536)).toNat = n / 65536 :=
    UInt8.toNat_ofNat_of_lt' (show _ < 256 by omega)
  have hb : (UInt8.ofNat (n / 256 % 256)).toNat = n / 256 % 256 :=
    UInt8.toNat_ofNat_of_lt' (Nat.mod_lt _ (by decide))
  have hc : (UInt8.ofNat (n % 256)).toNat = n % 256 :=
    UInt8.toNat_ofNat_of_lt' (Nat.mod_lt _ (by decide))
  clear hn
  have hwhole : n / 65536 * 65536 + n / 256 % 256 * 256 + n % 256 = n := by omega
  simp only [encode, ha, hb, hc, hwhole, h₁, h₂, h₃, h₄]

/-- Three symbols whose last two bits are zero are the text of two octets. -/
theorem encode_pair {w x y : Nat} (hw : w < 64) (hx : x < 64) (hy : y < 64)
    (hunused : y % 4 = 0) :
    let n := w * 1024 + x * 16 + y / 4
    encode [UInt8.ofNat (n / 256), UInt8.ofNat (n % 256)] =
      [symbol w, symbol x, symbol y, pad] := by
  intro n
  have hn : n = w * 1024 + x * 16 + y / 4 := rfl
  clear_value n
  have ha : (UInt8.ofNat (n / 256)).toNat = n / 256 :=
    UInt8.toNat_ofNat_of_lt' (show _ < 256 by omega)
  have hb : (UInt8.ofNat (n % 256)).toNat = n % 256 :=
    UInt8.toNat_ofNat_of_lt' (Nat.mod_lt _ (by decide))
  have h₁ : (n / 256 * 1024 + n % 256 * 4) / 4096 = w := by omega
  have h₂ : (n / 256 * 1024 + n % 256 * 4) / 64 % 64 = x := by omega
  have h₃ : (n / 256 * 1024 + n % 256 * 4) % 64 = y := by omega
  simp only [encode, ha, hb, h₁, h₂, h₃]

/-- Two symbols whose last four bits are zero are the text of an octet. -/
theorem encode_single {w x : Nat} (hw : w < 64) (hx : x < 64) (hunused : x % 16 = 0) :
    encode [UInt8.ofNat (w * 4 + x / 16)] = [symbol w, symbol x, pad, pad] := by
  have ha : (UInt8.ofNat (w * 4 + x / 16)).toNat = w * 4 + x / 16 :=
    UInt8.toNat_ofNat_of_lt' (show _ < 256 by omega)
  have h₁ : (w * 4 + x / 16) * 16 / 64 = w := by omega
  have h₂ : (w * 4 + x / 16) * 16 % 64 = x := by omega
  simp only [encode, ha, h₁, h₂]

section Canonical

variable {offset : Nat} {bs : List UInt8}

/-- An octet that is accepted as a sextet is the symbol of that number. -/
theorem symbol_of_sextet {b : UInt8} {n : Nat} (h : sextet offset b = .ok n) :
    n < 64 ∧ symbol n = b := by
  unfold sextet at h
  split at h
  · rename_i m hm
    obtain rfl := Except.ok.inj h
    exact symbol_of_sextet? hm
  · cases h

/-- A group is the text of the octets that it is read as, whatever follows. -/
theorem encode_of_group {a b c d : UInt8} (h : group offset a b c d = .ok bs) (r : List UInt8) :
    encode (bs ++ r) = a :: b :: c :: d :: encode r := by
  unfold group at h
  rcases ha : sextet offset a with _ | w
  · rw [ha] at h
    cases h
  rcases hb : sextet (offset + 1) b with _ | x
  · rw [ha, hb] at h
    cases h
  rcases hc : sextet (offset + 2) c with _ | y
  · rw [ha, hb, hc] at h
    cases h
  rcases hd : sextet (offset + 3) d with _ | z
  · rw [ha, hb, hc, hd] at h
    cases h
  rw [ha, hb, hc, hd] at h
  obtain rfl := Except.ok.inj h
  obtain ⟨hw, rfl⟩ := symbol_of_sextet ha
  obtain ⟨hx, rfl⟩ := symbol_of_sextet hb
  obtain ⟨hy, rfl⟩ := symbol_of_sextet hc
  obtain ⟨hz, rfl⟩ := symbol_of_sextet hd
  exact encode_triple hw hx hy hz r

/-- Once its padding has begun, a last group consists of nothing else. -/
theorem ending_of_padStart {e : Ending} {start i : Nat} {text : List UInt8}
    (h : ending offset ⟨e.sextets, some start, e.pads⟩ i text = .ok bs) :
    ∃ n, text = List.replicate n pad ∧
      Ending.octets ⟨e.sextets, none, e.pads + n⟩ offset = .ok bs := by
  induction text generalizing e i with
  | nil => exact ⟨0, rfl, h⟩
  | cons b r ih =>
    rw [ending] at h
    split at h
    · rename_i hb
      split at h
      · cases h
      · obtain ⟨n, rfl, hoctets⟩ := ih (e := ⟨e.sextets, none, e.pads + 1⟩) h
        refine ⟨n + 1, by rw [hb, List.replicate_succ], ?_⟩
        rwa [Nat.add_assoc, Nat.add_comm 1 n] at hoctets
    · cases h

/-- A last group consists of symbols and then of padding. -/
theorem ending_eq_ok {ss : List (UInt8 × Nat)} {i : Nat} {text : List UInt8}
    (h : ending offset ⟨ss, none, 0⟩ i text = .ok bs) :
    ∃ us : List (UInt8 × Nat), (∀ u ∈ us, u.2 < 64 ∧ symbol u.2 = u.1) ∧
      ∃ n, text = us.map Prod.fst ++ List.replicate n pad ∧
        Ending.octets ⟨ss ++ us, none, n⟩ offset = .ok bs := by
  induction text generalizing ss i with
  | nil => exact ⟨[], nofun, 0, rfl, by rwa [List.append_nil]⟩
  | cons b r ih =>
    rw [ending] at h
    split at h
    · rename_i hb
      split at h
      · cases h
      · obtain ⟨n, rfl, hoctets⟩ := ending_of_padStart (e := ⟨ss, none, 1⟩) h
        refine ⟨[], nofun, n + 1, by rw [hb, List.replicate_succ]; rfl, ?_⟩
        rw [List.append_nil, Nat.add_comm n 1]
        exact hoctets
    · dsimp only at h
      split at h
      · rename_i v hv
        obtain ⟨us, hus, n, rfl, hoctets⟩ := ih h
        refine ⟨(b, v) :: us, List.forall_mem_cons.mpr ⟨symbol_of_sextet? hv, hus⟩, n, rfl, ?_⟩
        rwa [List.append_assoc] at hoctets
      · cases h

/-- A last group is the text of the octets that it is read as. -/
theorem encode_of_ending {text : List UInt8} (hlength : text.length ≤ 4)
    (h : ending offset {} 0 text = .ok bs) : encode bs = text := by
  obtain ⟨us, hus, n, rfl, hoctets⟩ := ending_eq_ok h
  rw [List.nil_append] at hoctets
  simp only [List.length_append, List.length_map, List.length_replicate] at hlength
  unfold Ending.octets at hoctets
  split at hoctets
  · cases hoctets
  rename_i hwhole
  dsimp only at hoctets hwhole
  -- by the number of symbols; symbols and padding together are four
  split at hoctets
  · cases hoctets
  · cases hoctets
  · rename_i a w b x
    obtain rfl : n = 2 := by
      simp only [List.length_cons, List.length_nil] at hwhole hlength
      omega
    obtain ⟨⟨hw, rfl⟩, hx, rfl⟩ : (w < 64 ∧ symbol w = a) ∧ x < 64 ∧ symbol x = b := by
      simpa using hus
    split at hoctets
    · rename_i hunused
      obtain rfl := Except.ok.inj hoctets
      exact encode_single hw hx hunused
    · cases hoctets
  · rename_i a w b x c y
    obtain rfl : n = 1 := by
      simp only [List.length_cons, List.length_nil] at hwhole hlength
      omega
    obtain ⟨⟨hw, rfl⟩, ⟨hx, rfl⟩, hy, rfl⟩ :
        (w < 64 ∧ symbol w = a) ∧ (x < 64 ∧ symbol x = b) ∧ y < 64 ∧ symbol y = c := by
      simpa using hus
    split at hoctets
    · rename_i hunused
      obtain rfl := Except.ok.inj hoctets
      exact encode_pair hw hx hy hunused
    · cases hoctets
  · rename_i a _ b _ c _ d _ rest
    simp only [List.length_cons] at hlength
    obtain rfl : n = 0 := by omega
    obtain rfl : rest = [] := List.length_eq_zero_iff.mp (by omega)
    have hgroup := encode_of_group hoctets []
    rwa [List.append_nil] at hgroup

/-- Groups are the text of the octets that they are read as. -/
theorem encode_of_groups {text : List UInt8} (h : groups offset text = .ok bs) :
    encode bs = text := by
  induction offset, text using groups.induct generalizing bs with
  | case1 offset a b c d e r ih =>
    rw [groups] at h
    rcases hfront : group offset a b c d with _ | front
    · rw [hfront] at h
      cases h
    rcases hback : groups (offset + 4) (e :: r) with _ | back
    · rw [hfront, hback] at h
      cases h
    rw [hfront, hback] at h
    obtain rfl := Except.ok.inj h
    rw [encode_of_group hfront, ih hback]
  | case2 offset =>
    obtain rfl := Except.ok.inj h
    rfl
  | case3 offset text hshort hne =>
    have hending : ending offset {} 0 text = .ok bs := by
      rw [groups] at h
      · exact h
      · exact hshort
      · exact hne
    have hlength : text.length ≤ 4 := by
      rcases text with _ | ⟨a, _ | ⟨b, _ | ⟨c, _ | ⟨d, _ | ⟨e, r⟩⟩⟩⟩⟩
      · exact absurd rfl hne
      · simp
      · simp
      · simp
      · simp
      · exact (hshort a b c d e r rfl).elim
    exact encode_of_ending hlength hending

end Canonical

/-- **A text in base 64 is read as the octets whose text it is**, and no other text is read. -/
theorem decode_eq_ok_iff {text bs : List UInt8} : decode text = .ok bs ↔ encode bs = text := by
  constructor
  · intro h
    unfold decode at h
    split at h
    · split at h
      · cases h
      · exact encode_of_groups h
    · exact encode_of_groups h
  · rintro rfl
    exact decode_encode bs

end DeviceHost.Base64
