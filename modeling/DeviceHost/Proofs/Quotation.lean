import DeviceHost.Toml.Key
import Mathlib.Data.List.Basic

/-!
# Texts in quotes

A text is written in quotes of one of four forms, and read from them. Whatever the text is, and
whatever form is chosen for it, reading gives the text again and leaves what follows the quotes.

* `escapes_escapeChar` — a character in double quotes stands for itself, or has an escape;
* `readBasic_writeBasic`, `readLiteral_append` — texts in one pair of quotes;
* `runLength_append_le` — quotes in a row, of which three begin and end a long text;
* `readLongBasic_writeBasic`, `readLongLiteral_append` — texts in three pairs of quotes;
* `readText_writeText`, `readPart_writeKey` — texts and keys as they are written.
-/

namespace DeviceHost.Toml

/-! ### Characters -/

/-- How a character other than the quote is written in double quotes. -/
inductive Escapes (long : Bool) (c : Char) : List Char → Prop
  /-- it stands for itself -/
  | plain (hslash : c ≠ '\\') (h : isPlain c = true ∨ long = true ∧ c = '\n') : Escapes long c [c]
  /-- it has an escape, which cannot be taken for a gap -/
  | escape (e : List Char) (hplain : ∀ d ∈ e, isPlain d = true)
    (hgap : ∀ rest, gap? (e ++ rest) = none)
    (hread : ∀ rest, escape? (e ++ rest) = some (c, e.length)) : Escapes long c ('\\' :: e)

/-- A character whose number has two digits is found by its number. -/
theorem numbered?_hexDigitUpper {c : Char} (h : c.toNat < 256) (rest : List Char) :
    numbered? 4 ('0' :: '0' :: Numeral.hexDigitUpper (c.toNat / 16) ::
      Numeral.hexDigitUpper (c.toNat % 16) :: rest) = some c := by
  have hhigh : Numeral.hexDigit? (Numeral.hexDigitUpper (c.toNat / 16)) = some (c.toNat / 16) :=
    Numeral.hexDigit?_hexDigitUpper (by omega)
  have hlow : Numeral.hexDigit? (Numeral.hexDigitUpper (c.toNat % 16)) = some (c.toNat % 16) :=
    Numeral.hexDigit?_hexDigitUpper (by omega)
  have hzero : Numeral.hexDigit? '0' = some 0 := rfl
  have hvalue : c.toNat / 16 * 16 + c.toNat % 16 = c.toNat := Nat.div_add_mod' _ _
  have hvalid : c.toNat.isValidChar := c.valid
  simp [numbered?, hhigh, hlow, hzero, hvalue, hvalid]

/-- Every character is written in a form that stands for it. -/
theorem escapes_escapeChar (long : Bool) (c : Char) : Escapes long c (escapeChar long c) := by
  by_cases hshort : c ∈ ['\x08', '\t', '\x0c', '\r', '\\']
  · simp only [List.mem_cons, List.not_mem_nil, or_false] at hshort
    rcases hshort with rfl | rfl | rfl | rfl | rfl <;>
      exact .escape [_] (List.forall_mem_singleton.mpr rfl) (fun _ => rfl) fun _ => rfl
  · simp only [List.mem_cons, List.not_mem_nil, or_false, not_or] at hshort
    obtain ⟨hback, htab, hfeed, hreturn, hslash⟩ := hshort
    by_cases hline : c = '\n'
    · subst hline
      -- a break may stand as it is between three quotes only
      cases long with
      | false =>
        exact .escape ['n'] (List.forall_mem_singleton.mpr rfl) (fun _ => rfl) fun _ => rfl
      | true => exact .plain (by decide) (.inr ⟨rfl, rfl⟩)
    · by_cases hplain : isPlain c = true
      · simp only [escapeChar, hback, htab, hline, hfeed, hreturn, hslash, hplain, if_false,
          if_true]
        exact .plain hslash (.inl hplain)
      · simp only [escapeChar, hback, htab, hline, hfeed, hreturn, hslash, hplain, if_false]
        -- only control characters are left, which two hexadecimal digits can tell
        have hsmall : c.toNat < 256 := by
          simp only [isPlain, Bool.or_eq_true, Bool.and_eq_true, decide_eq_true_eq, not_or,
            not_and_or, bne_iff_ne] at hplain
          omega
        have hdigit {d : Nat} (hd : d < 16) : isPlain (Numeral.hexDigitUpper d) = true := by
          revert d
          decide
        refine .escape _ ?_ (fun _ => rfl) fun rest => ?_
        · have hhigh := hdigit (d := c.toNat / 16) (by omega)
          have hlow := hdigit (d := c.toNat % 16) (by omega)
          have hfirst : isPlain 'u' = true ∧ isPlain '0' = true := by decide
          simp [hhigh, hlow, hfirst]
        · simp [escape?, numbered?_hexDigitUpper hsmall]

/-! ### One pair of quotes -/

/-- **A text in double quotes is read as it is**, whatever is in it. -/
theorem readBasic_writeBasic (s rest : List Char) :
    readBasic (writeBasic false 0 s ++ '"' :: rest) = some (s, rest) := by
  induction s with
  | nil => simp [writeBasic, readBasic]
  | cons c s ih =>
    by_cases hquote : c = '"'
    · subst hquote
      simp [writeBasic, readBasic, escape?, ih]
    · rw [writeBasic, if_neg hquote, List.append_assoc]
      have hw := escapes_escapeChar false c
      generalize escapeChar false c = w at hw
      cases hw with
      | plain hslash h =>
        have hplain : isPlain c = true := by simpa using h
        simp [readBasic, hquote, hslash, hplain, ih]
      | escape e hplain hgap hread => simp [readBasic, hread, ih]

/-- A text in single quotes is read as it is, if it has no control characters and no such quote. -/
theorem readLiteral_append {s : List Char} (hplain : ∀ c ∈ s, isPlain c = true)
    (htick : tick ∉ s) (rest : List Char) :
    readLiteral (s ++ tick :: rest) = some (s, rest) := by
  induction s with
  | nil => simp [readLiteral]
  | cons c s ih =>
    rw [List.forall_mem_cons] at hplain
    rw [List.mem_cons, not_or] at htick
    simp [readLiteral, Ne.symm htick.1, hplain.1, ih hplain.2 htick.2]

/-! ### Quotes in a row -/

variable {q : Char}

@[simp] theorem runLength_cons_self (cs : List Char) :
    runLength q (q :: cs) = runLength q cs + 1 := by
  simp [runLength]

theorem runLength_of_head? {cs : List Char} (h : cs.head? ≠ some q) : runLength q cs = 0 := by
  cases cs with
  | nil => rfl
  | cons c cs =>
    have hc : c ≠ q := fun hc => h (hc ▸ rfl)
    simp [runLength, hc]

/-- Joining two texts makes no longer run of a quote than both have at their fronts. -/
theorem runLength_append_le (a b : List Char) :
    runLength q (a ++ b) ≤ runLength q a + runLength q b := by
  induction a with
  | nil => simp
  | cons c a ih =>
    by_cases hc : c = q
    · subst hc
      simp only [List.cons_append, runLength_cons_self]
      omega
    · rw [runLength_of_head? (by simpa using hc)]
      exact Nat.zero_le _

/-- A row of quotes ends before what follows the characters, unless all of them are quotes. -/
theorem eq_replicate_or_runLength_append (a : List Char) :
    a = List.replicate (runLength q a) q ∨ ∀ b, runLength q (a ++ b) = runLength q a := by
  induction a with
  | nil => exact .inl rfl
  | cons c a ih =>
    by_cases hc : c = q
    · subst hc
      rw [runLength_cons_self]
      rcases ih with ha | ha
      · exact .inl (congrArg (c :: ·) ha)
      · refine .inr fun b => ?_
        rw [List.cons_append, runLength_cons_self, ha]
    · refine .inr fun b => ?_
      rw [runLength_of_head? (by simpa using hc), runLength_of_head? (by simpa using hc)]

/-! ### What is written in double quotes -/

section Basic

variable {long : Bool} {quotes : Nat}

/-- A character other than the quote is escaped on its own, and the count of quotes begins again. -/
theorem writeBasic_cons {c : Char} (hc : c ≠ '"') (s : List Char) :
    writeBasic long quotes (c :: s) = escapeChar long c ++ writeBasic long 0 s := by
  rw [writeBasic, if_neg hc]

/-- A quote stays as it is while there is room for one. -/
theorem writeBasic_quote (h : quotes < if long then 2 else 0) (s : List Char) :
    writeBasic long quotes ('"' :: s) = '"' :: writeBasic long (quotes + 1) s := by
  rw [writeBasic, if_pos rfl, if_pos h]

/-- A quote that would be one too many is escaped. -/
theorem writeBasic_quote_of_not_lt (h : ¬ quotes < if long then 2 else 0) (s : List Char) :
    writeBasic long quotes ('"' :: s) = '\\' :: '"' :: writeBasic long 0 s := by
  rw [writeBasic, if_pos rfl, if_neg h]

/-- What is written for a character starts with it, or with a backslash. -/
theorem exists_escapeChar_eq_cons (long : Bool) (c : Char) :
    ∃ d w, escapeChar long c = d :: w ∧ (d = c ∨ d = '\\') := by
  have hw := escapes_escapeChar long c
  generalize escapeChar long c = w at hw
  cases hw with
  | plain => exact ⟨c, [], rfl, .inl rfl⟩
  | escape e => exact ⟨'\\', e, rfl, .inr rfl⟩

/-- Whatever begins with another character is not written with a quote in front. -/
theorem exists_writeBasic_eq_cons (long : Bool) (quotes : Nat) {c : Char} (hc : c ≠ '"')
    (s : List Char) :
    ∃ d w, writeBasic long quotes (c :: s) = d :: w ∧ d ≠ '"' ∧ (d = c ∨ d = '\\') := by
  obtain ⟨d, w, hw, hd⟩ := exists_escapeChar_eq_cons long c
  refine ⟨d, w ++ writeBasic long 0 s, by rw [writeBasic_cons hc, hw, List.cons_append], ?_, hd⟩
  rcases hd with rfl | rfl
  · exact hc
  · decide

/-- Within three quotes no more than two double quotes in a row stand for themselves, within one
none does. -/
theorem runLength_writeBasic_le (hquotes : quotes ≤ if long then 2 else 0) (s : List Char) :
    runLength '"' (writeBasic long quotes s) + quotes ≤ if long then 2 else 0 := by
  induction s generalizing quotes with
  | nil => simpa [writeBasic, runLength] using hquotes
  | cons c s ih =>
    by_cases hc : c = '"'
    · subst hc
      by_cases hmore : quotes < if long then 2 else 0
      · rw [writeBasic_quote hmore, runLength_cons_self, Nat.add_right_comm]
        exact ih hmore
      · rw [writeBasic_quote_of_not_lt hmore, runLength_of_head? (by simp), Nat.zero_add]
        exact hquotes
    · obtain ⟨d, w, hw, hd, -⟩ := exists_writeBasic_eq_cons long quotes hc s
      rw [hw, runLength_of_head? (by simpa using hd), Nat.zero_add]
      exact hquotes

/-- Only quotes are written as quotes alone. -/
theorem eq_replicate_of_writeBasic {n : Nat} {s : List Char}
    (h : writeBasic long quotes s = List.replicate n '"') : s = List.replicate n '"' := by
  induction s generalizing quotes n with
  | nil => rwa [writeBasic] at h
  | cons c s ih =>
    by_cases hc : c = '"'
    · subst hc
      by_cases hmore : quotes < if long then 2 else 0
      · rw [writeBasic_quote hmore] at h
        cases n with
        | zero => cases h
        | succ n => exact congrArg ('"' :: ·) (ih (List.cons.inj h).2)
      · rw [writeBasic_quote_of_not_lt hmore] at h
        cases n <;> cases h
    · obtain ⟨d, w, hw, hd, -⟩ := exists_writeBasic_eq_cons long quotes hc s
      rw [hw] at h
      cases n with
      | zero => cases h
      | succ n => exact absurd (List.cons.inj h).1 hd

end Basic

/-! ### Three pairs of quotes -/

/-- The quotes at the end of a long text: three close it, and what is before them belongs to it. -/
theorem readLongBasic_replicate {n : Nat} (hn : n ≤ 2) {rest : List Char}
    (hrest : rest.head? ≠ some '"') :
    readLongBasic (List.replicate n '"' ++ '"' :: '"' :: '"' :: rest)
      = some (List.replicate n '"', rest) := by
  obtain rfl | rfl | rfl : n = 0 ∨ n = 1 ∨ n = 2 := by omega
  all_goals simp [readLongBasic, runLength_of_head? hrest, List.replicate]

/-- **A text in three double quotes is read as it is**, whatever is in it. -/
theorem readLongBasic_writeBasic {quotes : Nat} (hquotes : quotes ≤ 2) (s : List Char)
    {rest : List Char} (hrest : rest.head? ≠ some '"') :
    readLongBasic (writeBasic true quotes s ++ '"' :: '"' :: '"' :: rest) = some (s, rest) := by
  induction s generalizing quotes with
  | nil => exact readLongBasic_replicate (Nat.zero_le 2) hrest
  | cons c s ih =>
    have hrun : runLength '"' (writeBasic true quotes (c :: s)) + quotes ≤ 2 :=
      runLength_writeBasic_le hquotes _
    by_cases hc : c = '"'
    · subst hc
      by_cases hmore : quotes < 2
      · rcases eq_replicate_or_runLength_append (writeBasic true quotes ('"' :: s)) with
          hall | hsome
        · -- nothing but quotes is left, and they stand right before the closing ones
          have hs := eq_replicate_of_writeBasic hall
          generalize runLength '"' (writeBasic true quotes ('"' :: s)) = n at hall hs hrun
          rw [hall, hs]
          exact readLongBasic_replicate (by omega) hrest
        · rw [writeBasic_quote hmore] at hrun hsome ⊢
          have hfew : runLength '"' ('"' :: (writeBasic true (quotes + 1) s ++
              '"' :: '"' :: '"' :: rest)) < 3 := by
            rw [← List.cons_append, hsome]
            omega
          rw [List.cons_append, readLongBasic, if_pos rfl]
          simp only [hfew, if_true, ih hmore, Option.map_some]
      · rw [writeBasic_quote_of_not_lt hmore]
        simp [readLongBasic, gap?, escape?, ih (Nat.zero_le 2)]
    · rw [writeBasic_cons hc, List.append_assoc]
      have hw := escapes_escapeChar true c
      generalize escapeChar true c = w at hw
      cases hw with
      | plain hslash h =>
        have hplain : isPlain c = true ∨ c = '\n' := by simpa using h
        simp [readLongBasic, hc, hslash, hplain, ih (Nat.zero_le 2)]
      | escape e hplain hgap hread => simp [readLongBasic, hgap, hread, ih (Nat.zero_le 2)]

/-- Two quotes at most may stand before the three that end a long literal text. -/
theorem readLongLiteral_replicate {n : Nat} (hn : n ≤ 2) {rest : List Char}
    (hrest : rest.head? ≠ some tick) :
    readLongLiteral (List.replicate n tick ++ tick :: tick :: tick :: rest)
      = some (List.replicate n tick, rest) := by
  obtain rfl | rfl | rfl : n = 0 ∨ n = 1 ∨ n = 2 := by omega
  all_goals simp [readLongLiteral, runLength_of_head? hrest, List.replicate]

/-- A text in three single quotes is read as it is, if it has no control characters and never more
than two such quotes in a row. -/
theorem readLongLiteral_append {s : List Char} (hplain : ∀ c ∈ s, isPlain c = true ∨ c = '\n')
    (hrun : longestRun tick s ≤ 2) {rest : List Char} (hrest : rest.head? ≠ some tick) :
    readLongLiteral (s ++ tick :: tick :: tick :: rest) = some (s, rest) := by
  induction s with
  | nil => exact readLongLiteral_replicate (Nat.zero_le 2) hrest
  | cons c s ih =>
    rw [List.forall_mem_cons] at hplain
    rw [longestRun, Nat.max_le] at hrun
    have hrest := ih hplain.2 hrun.2
    by_cases hc : c = tick
    · subst hc
      rcases eq_replicate_or_runLength_append (q := tick) (tick :: s) with hall | hsome
      · rw [hall]
        exact readLongLiteral_replicate hrun.1 ‹_›
      · have hfew : runLength tick (tick :: (s ++ tick :: tick :: tick :: rest)) < 3 := by
          rw [← List.cons_append, hsome]
          omega
        rw [List.cons_append, readLongLiteral, if_pos rfl]
        simp only [hfew, if_true, hrest, Option.map_some]
    · simp [readLongLiteral, hc, hplain.1, hrest]

/-! ### Texts and keys -/

/-- The characters of a text that a form holds without escapes. -/
theorem isPlain_or_eq_of_any_isControl {s : List Char} (h : s.any isControl = false) :
    ∀ c ∈ s, isPlain c = true ∨ c = '\n' := by
  intro c hc
  have hcontrol := List.any_eq_false.mp h c hc
  simpa [isControl, or_iff_not_imp_left] using hcontrol

/-- A text that suits the literal form is read back up to its closing quote. -/
theorem readLiteral_of_suits {s : List Char} (h : Form.literal.suits s = true)
    (rest : List Char) : readLiteral (s ++ tick :: rest) = some (s, rest) := by
  simp only [Form.suits, Bool.and_eq_true, Bool.not_eq_true', List.contains_eq_mem,
    decide_eq_false_iff_not] at h
  obtain ⟨⟨hcontrol, htick⟩, hline⟩ := h
  refine readLiteral_append (fun c hc => ?_) htick rest
  exact (isPlain_or_eq_of_any_isControl hcontrol c hc).resolve_right fun h => hline (h ▸ hc)

/-- The forms without escapes are only taken for texts that they suit. -/
theorem Form.suits_of_ofText {s : List Char} {f : Form} (h : Form.ofText s = f)
    (hf : f = literal ∨ f = longLiteral) : f.suits s = true := by
  rw [ofText] at h
  split at h
  · rcases hf with rfl | rfl <;> cases h
  · split at h
    · exact h ▸ ‹_›
    · split at h
      · exact h ▸ ‹_›
      · split at h
        · exact h ▸ ‹_›
        · split at h <;> rcases hf with rfl | rfl <;> cases h

/-- The break after the opening quotes is the one that was put there. -/
theorem dropBreak_leadBreak {s w : List Char} (h : '\n' ∉ s → w.head? ≠ some '\n') :
    dropBreak (leadBreak s ++ w) = w := by
  rw [leadBreak]
  split
  case isTrue => rfl
  case isFalse hs =>
    rw [List.nil_append]
    have hw := h (by simpa using hs)
    rw [dropBreak.eq_def]
    split
    · exact absurd rfl hw
    · rfl

/-- A long text without breaks is not written with a break in front. -/
theorem head?_writeBasic_append {s rest : List Char} (hs : '\n' ∉ s)
    (hrest : rest.head? ≠ some '\n') : (writeBasic true 0 s ++ rest).head? ≠ some '\n' := by
  cases s with
  | nil => exact hrest
  | cons c s =>
    by_cases hc : c = '"'
    · subst hc
      rw [writeBasic_quote (by decide)]
      simp
    · obtain ⟨d, w, hw, -, hd⟩ := exists_writeBasic_eq_cons true 0 hc s
      rw [hw]
      rcases hd with rfl | rfl
      · have hbreak : d ≠ '\n' := fun h => hs (h ▸ List.mem_cons_self ..)
        simpa using hbreak
      · simp

/-- Every text is read back from the basic form. -/
theorem readText_basic (s : List Char) {rest : List Char} (hrest : rest.head? ≠ some '"') :
    readText (Form.basic.write s ++ rest) = some (s, rest) := by
  -- no third quote comes after the first one, or the first two
  have hfew : runLength '"' (writeBasic false 0 s ++ '"' :: rest) ≤ 1 := by
    have hinner : runLength '"' (writeBasic false 0 s) + 0 ≤ 0 :=
      runLength_writeBasic_le (Nat.le_refl 0) s
    have hle := runLength_append_le (q := '"') (writeBasic false 0 s) ('"' :: rest)
    rw [runLength_cons_self, runLength_of_head? hrest] at hle
    omega
  rw [Form.write, List.cons_append, List.append_assoc, List.singleton_append, readText, if_pos rfl,
    runLength_cons_self, if_neg (by omega), readBasic_writeBasic]

theorem readText_literal {s : List Char} (h : Form.literal.suits s = true) {rest : List Char}
    (hrest : rest.head? ≠ some tick) :
    readText (Form.literal.write s ++ rest) = some (s, rest) := by
  have hfew : runLength tick (s ++ tick :: rest) ≤ 1 := by
    have hinner : runLength tick s = 0 := by
      refine runLength_of_head? fun hhead => ?_
      have htick : tick ∈ s := List.mem_of_mem_head? hhead
      simp [Form.suits, htick] at h
    have hle := runLength_append_le (q := tick) s (tick :: rest)
    rw [runLength_cons_self, runLength_of_head? hrest] at hle
    omega
  rw [Form.write, List.cons_append, List.append_assoc, List.singleton_append, readText,
    if_neg (by decide), if_pos rfl, runLength_cons_self, if_neg (by omega), readLiteral_of_suits h]

/-- Every text is read back from the long basic form. -/
theorem readText_longBasic (s : List Char) {rest : List Char} (hrest : rest.head? ≠ some '"') :
    readText (Form.longBasic.write s ++ rest) = some (s, rest) := by
  have hmany (cs : List Char) : 3 ≤ runLength '"' ('"' :: '"' :: '"' :: cs) := by simp
  have hdrop : dropBreak (leadBreak s ++ (writeBasic true 0 s ++ '"' :: '"' :: '"' :: rest))
      = writeBasic true 0 s ++ '"' :: '"' :: '"' :: rest :=
    dropBreak_leadBreak fun hs => head?_writeBasic_append hs (by simp)
  simp only [Form.write, List.append_assoc, List.cons_append, List.nil_append]
  rw [readText, if_pos rfl, if_pos (hmany _), List.drop_succ_cons, List.drop_succ_cons,
    List.drop_succ_cons, List.drop_zero, hdrop, readLongBasic_writeBasic (Nat.zero_le 2) s hrest]

theorem readText_longLiteral {s : List Char} (h : Form.longLiteral.suits s = true)
    {rest : List Char} (hrest : rest.head? ≠ some tick) :
    readText (Form.longLiteral.write s ++ rest) = some (s, rest) := by
  simp only [Form.suits, Bool.and_eq_true, Bool.not_eq_true', decide_eq_true_eq] at h
  have hmany (cs : List Char) : 3 ≤ runLength tick (tick :: tick :: tick :: cs) := by simp
  have hdrop : dropBreak (leadBreak s ++ (s ++ tick :: tick :: tick :: rest))
      = s ++ tick :: tick :: tick :: rest := by
    refine dropBreak_leadBreak fun hs => ?_
    cases s with
    | nil => simp [tick]
    | cons c s =>
      have hbreak : c ≠ '\n' := fun h => hs (h ▸ List.mem_cons_self ..)
      simpa using hbreak
  simp only [Form.write, List.append_assoc, List.cons_append, List.nil_append]
  rw [readText, if_neg (by decide), if_pos rfl, if_pos (hmany _), List.drop_succ_cons,
    List.drop_succ_cons, List.drop_succ_cons, List.drop_zero, hdrop,
    readLongLiteral_append (isPlain_or_eq_of_any_isControl h.1) h.2 hrest]

/-- **A text is read as it was written**, and what follows it is left. -/
theorem readText_writeText (s : List Char) {rest : List Char} (hquote : rest.head? ≠ some '"')
    (htick : rest.head? ≠ some tick) : readText (writeText s ++ rest) = some (s, rest) := by
  rw [writeText]
  rcases hform : Form.ofText s with _ | _ | _ | _
  · exact readText_basic s hquote
  · exact readText_literal (Form.suits_of_ofText hform (.inl rfl)) htick
  · exact readText_longBasic s hquote
  · exact readText_longLiteral (Form.suits_of_ofText hform (.inr rfl)) htick

/-- A written text starts with a quote. -/
theorem exists_writeText_eq_cons (s : List Char) :
    ∃ c r, writeText s = c :: r ∧ (c = '"' ∨ c = tick) := by
  rw [writeText]
  rcases Form.ofText s with _ | _ | _ | _
  · exact ⟨_, _, rfl, .inl rfl⟩
  · exact ⟨_, _, rfl, .inr rfl⟩
  · exact ⟨_, _, rfl, .inl rfl⟩
  · exact ⟨_, _, rfl, .inr rfl⟩

/-! ### Keys -/

/-- Characters of a kind at the front of a text, and what follows them. -/
theorem span_append {p : Char → Bool} {s rest : List Char} (hs : ∀ c ∈ s, p c = true)
    (hrest : ∀ c, rest.head? = some c → p c = false) :
    (s ++ rest).takeWhile p = s ∧ (s ++ rest).dropWhile p = rest := by
  rw [List.takeWhile_append_of_pos hs, List.dropWhile_append_of_pos hs]
  cases rest with
  | nil => simp
  | cons c r => simp [hrest c rfl]

/-- How a key is written. -/
theorem writeKey_cases (s : List Char) :
    (writeKey s = s ∧ s ≠ [] ∧ ∀ c ∈ s, isBare c = true) ∨
      writeKey s = Form.basic.write s ∨
      (writeKey s = Form.literal.write s ∧ Form.literal.suits s = true) := by
  rw [writeKey]
  split
  case isTrue h =>
    rw [Bool.and_eq_true, Bool.not_eq_true', List.isEmpty_eq_false_iff, List.all_eq_true] at h
    exact .inl ⟨rfl, h⟩
  case isFalse =>
    split
    · exact .inr (.inl rfl)
    · split
      case isTrue h => exact .inr (.inr ⟨rfl, h⟩)
      case isFalse => exact .inr (.inl rfl)

/-- A written key starts with a quote, or with a character of bare names. -/
theorem exists_writeKey_eq_cons (s : List Char) :
    ∃ c r, writeKey s = c :: r ∧ (c = '"' ∨ c = tick ∨ isBare c = true) := by
  rcases writeKey_cases s with ⟨hw, hne, hbare⟩ | hw | ⟨hw, -⟩
  · obtain ⟨c, r, rfl⟩ := List.exists_cons_of_ne_nil hne
    exact ⟨c, r, hw, .inr (.inr (hbare c (List.mem_cons_self ..)))⟩
  · exact ⟨_, _, hw, .inl rfl⟩
  · exact ⟨_, _, hw, .inr (.inl rfl)⟩

/-- **A key is read as it was written**, and what follows it is left. -/
theorem readPart_writeKey (s : List Char) {rest : List Char}
    (hrest : ∀ c, rest.head? = some c → isBare c = false) :
    readPart (writeKey s ++ rest) = some (s, rest) := by
  rcases writeKey_cases s with ⟨hw, hne, hbare⟩ | hw | ⟨hw, hsuits⟩
  · obtain ⟨htake, hdrop⟩ := span_append hbare hrest
    obtain ⟨c, r, rfl⟩ := List.exists_cons_of_ne_nil hne
    have hc : isBare c = true := hbare c (List.mem_cons_self ..)
    have hquote : c ≠ '"' := ne_of_apply_ne isBare (by rw [hc]; decide)
    have htick : c ≠ tick := ne_of_apply_ne isBare (by rw [hc]; decide)
    rw [hw, List.cons_append] at *
    rw [readPart, if_neg hquote, if_neg htick, if_pos hc, htake, hdrop]
  · rw [hw, Form.write, List.cons_append, List.append_assoc, List.singleton_append, readPart,
      if_pos rfl, readBasic_writeBasic]
  · rw [hw, Form.write, List.cons_append, List.append_assoc, List.singleton_append, readPart,
      if_neg (by decide), if_pos rfl, readLiteral_of_suits hsuits]

/-! ### What is written -/

/-- A character that is written: a plain one, or a line break. -/
def IsWritten (c : Char) : Prop := isPlain c = true ∨ c = '\n'

instance (c : Char) : Decidable (IsWritten c) := inferInstanceAs (Decidable (_ ∨ _))

theorem forall_mem_of_all {cs : List Char} (h : cs.all isPlain = true) : ∀ c ∈ cs, IsWritten c :=
  fun c hc => .inl (List.all_eq_true.mp h c hc)

theorem isWritten_quote : IsWritten '"' ∧ IsWritten tick := by decide

theorem forall_mem_writeBasic {long : Bool} {quotes : Nat} (s : List Char) :
    ∀ c ∈ writeBasic long quotes s, IsWritten c := by
  have hslash : IsWritten '\\' := by decide
  induction s generalizing quotes with
  | nil => simp [writeBasic]
  | cons c s ih =>
    by_cases hc : c = '"'
    · subst hc
      by_cases hmore : quotes < if long then 2 else 0
      · rw [writeBasic_quote hmore]
        exact List.forall_mem_cons.mpr ⟨isWritten_quote.1, ih⟩
      · rw [writeBasic_quote_of_not_lt hmore]
        exact List.forall_mem_cons.mpr ⟨hslash, List.forall_mem_cons.mpr ⟨isWritten_quote.1, ih⟩⟩
    · rw [writeBasic_cons hc]
      refine List.forall_mem_append.mpr ⟨?_, ih⟩
      have hw := escapes_escapeChar long c
      generalize escapeChar long c = w at hw
      cases hw with
      | plain hne h => exact List.forall_mem_singleton.mpr (h.imp_right And.right)
      | escape e hplain => exact List.forall_mem_cons.mpr ⟨hslash, fun d hd => .inl (hplain d hd)⟩

theorem forall_mem_leadBreak (s : List Char) : ∀ c ∈ leadBreak s, IsWritten c := by
  rw [leadBreak]
  split
  · exact List.forall_mem_singleton.mpr (.inr rfl)
  · nofun

/-- What a form makes of a text, if the text is all right where it has no escapes. -/
theorem Form.forall_mem_write {s : List Char} {f : Form}
    (h : f = literal ∨ f = longLiteral → f.suits s = true) : ∀ c ∈ f.write s, IsWritten c := by
  obtain ⟨hquote, htick⟩ := isWritten_quote
  have hquotes : ∀ c ∈ ['"', '"', '"'], IsWritten c := forall_mem_of_all rfl
  have hticks : ∀ c ∈ [tick, tick, tick], IsWritten c := forall_mem_of_all rfl
  have hself (hf : f = literal ∨ f = longLiteral) : ∀ c ∈ s, IsWritten c := by
    refine isPlain_or_eq_of_any_isControl ?_
    have hsuits := h hf
    rcases hf with rfl | rfl <;> simp_all [suits]
  cases f with
  | basic =>
    simp only [write, List.forall_mem_cons, List.forall_mem_append]
    exact ⟨hquote, forall_mem_writeBasic s, hquote, nofun⟩
  | literal =>
    simp only [write, List.forall_mem_cons, List.forall_mem_append]
    exact ⟨htick, hself (.inl rfl), htick, nofun⟩
  | longBasic =>
    simp only [write, List.forall_mem_append]
    exact ⟨hquotes, forall_mem_leadBreak s, forall_mem_writeBasic s, hquotes⟩
  | longLiteral =>
    simp only [write, List.forall_mem_append]
    exact ⟨hticks, forall_mem_leadBreak s, hself (.inr rfl), hticks⟩

/-- A written text consists of characters that a document may hold. -/
theorem forall_mem_writeText (s : List Char) : ∀ c ∈ writeText s, IsWritten c :=
  Form.forall_mem_write (Form.suits_of_ofText rfl)

theorem isWritten_of_isBare {c : Char} (h : isBare c = true) : IsWritten c := by
  have hrange {low high : Char} (hc : low ≤ c ∧ c ≤ high) (hl : 32 ≤ low.toNat)
      (hh : high.toNat ≤ 126) : IsWritten c := by
    have hlow : low.toNat ≤ c.toNat := hc.1
    have hhigh : c.toNat ≤ high.toNat := hc.2
    refine .inl ?_
    simp only [isPlain, Bool.or_eq_true, Bool.and_eq_true, decide_eq_true_eq, bne_iff_ne]
    omega
  simp only [isBare, Bool.or_eq_true, Bool.and_eq_true, decide_eq_true_eq, beq_iff_eq] at h
  rcases h with (((h | h) | h) | rfl) | rfl
  · rw [Numeral.isDigit, Numeral.digit?] at h
    split at h
    case isTrue hc => exact hrange hc (by decide) (by decide)
    case isFalse => cases h
  · exact hrange h (by decide) (by decide)
  · exact hrange h (by decide) (by decide)
  · decide
  · decide

theorem forall_mem_writeKey (s : List Char) : ∀ c ∈ writeKey s, IsWritten c := by
  rcases writeKey_cases s with ⟨hw, -, hbare⟩ | hw | ⟨hw, hsuits⟩
  · rw [hw]
    exact fun c hc => isWritten_of_isBare (hbare c hc)
  · rw [hw]
    exact Form.forall_mem_write (by simp)
  · rw [hw]
    exact Form.forall_mem_write fun _ => hsuits

end DeviceHost.Toml
