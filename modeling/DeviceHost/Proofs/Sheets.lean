import DeviceHost.Proofs.Integers
import DeviceHost.Proofs.Quotation
import DeviceHost.Toml.Document

/-!
# Sheets

A sheet is written as a document of a certain shape, and the document is read as the table that the
sheet stands for: its sections are tables with a header, and their entries are plain values.

* `readKey_writeKey`, `readWord_append`, `readValue_write` — keys and values as they are written;
* `Sheet.lines` — the lines of a sheet, and `readLines_write` — they are the lines that are read;
* `ofLines_lines` — the sections of the lines are those of the sheet;
* `table?_write` — a sheet whose names are not repeated is read as its table.
-/

namespace DeviceHost.Toml

/-! ### Keys -/

theorem skipBlanks_cons {c : Char} (hspace : c ≠ ' ') (htab : c ≠ '\t') (r : List Char) :
    skipBlanks (c :: r) = c :: r := by
  simp [skipBlanks, hspace, htab]

/-- A written key starts with no blank, and with nothing that stands for something else at the start
of a line. -/
theorem exists_writeKey_append_eq_cons (s rest : List Char) :
    ∃ c r, writeKey s ++ rest = c :: r ∧ c ∉ [' ', '\t', '\n', '#', '['] := by
  obtain ⟨c, r, hw, hc⟩ := exists_writeKey_eq_cons s
  refine ⟨c, r ++ rest, by rw [hw, List.cons_append], fun hmem => ?_⟩
  rcases hc with rfl | rfl | hc
  · revert hmem
    decide
  · revert hmem
    decide
  · have hnone : [' ', '\t', '\n', '#', '['].all (!isBare ·) = true := by decide
    simpa [hc] using List.all_eq_true.mp hnone c hmem

/-- A written key is read back, up to the blanks behind it. -/
theorem readKey_writeKey (s : String) {rest : List Char}
    (hrest : ∀ c, rest.head? = some c → isBare c = false)
    (hdot : (skipBlanks rest).head? ≠ some '.') :
    readKey (writeKey s.toList ++ rest) = some (([], s), skipBlanks rest) := by
  have hskip : skipBlanks (writeKey s.toList ++ rest) = writeKey s.toList ++ rest := by
    obtain ⟨c, r, hw, hc⟩ := exists_writeKey_append_eq_cons s.toList rest
    simp only [List.mem_cons, not_or] at hc
    rw [hw, skipBlanks_cons hc.1 hc.2.1]
  have hparts : readParts (writeKey s.toList ++ rest) = some ([s], skipBlanks rest) := by
    rw [readParts, hskip, readPart_writeKey _ hrest]
    dsimp only
    split
    · rename_i h
      rw [h] at hdot
      exact absurd rfl hdot
    · rw [String.ofList_toList]
  rw [readKey, hparts]
  rfl

/-! ### Words -/

/-- A word up to the end of its line. -/
theorem readWord_append {w : List Char} {v : Value} (hword : ∀ c ∈ w, isWordChar c = true)
    (hv : Value.ofWord? w = some v) (rest : List Char) :
    readWord (w ++ '\n' :: rest) = some (v, '\n' :: rest) := by
  have hend : ∀ c, ('\n' :: rest).head? = some c → isWordChar c = false := by
    rintro c ⟨⟩
    decide
  obtain ⟨htake, hdrop⟩ := span_append hword hend
  rw [readWord, htake, hdrop]
  simp [hv]

/-- Digits without separators are all digits. -/
theorem ungroup_of_isDigit {ds : List Char} (h : ∀ c ∈ ds, Numeral.isDigit c = true) (after : Bool)
    (hne : ds ≠ [] ∨ after = true) : ungroup Numeral.isDigit after ds = some ds := by
  induction ds generalizing after with
  | nil => simp_all [ungroup]
  | cons c ds ih =>
    rw [List.forall_mem_cons] at h
    simp [ungroup, h.1, ih h.2 true (.inr rfl)]

/-- The digits of a number start with a zero only if there is no other one. -/
theorem digits_cases (n : Nat) :
    Numeral.digits n = ['0'] ∨
      ∃ c r, Numeral.digits n = c :: r ∧ c ≠ '0' ∧ Numeral.isDigit c = true := by
  obtain ⟨ds, hds, -, hne, hzero⟩ := Numeral.exists_digits n
  generalize Numeral.digits n = w at hds
  rcases hds with _ | @⟨c, d, r, ds, hc, hr⟩
  · exact absurd rfl hne
  · -- a zero in front stands alone
    by_cases h : c = '0'
    · subst h
      obtain rfl : 0 = d := Option.some.inj hc
      obtain rfl : ds = [] := by simpa using hzero rfl
      obtain rfl := List.forall₂_nil_right_iff.mp hr
      exact .inl rfl
    · exact .inr ⟨c, r, rfl, h, Numeral.isDigit_of_digit? hc⟩

theorem wholeDigits?_digits (n : Nat) :
    wholeDigits? (Numeral.digits n) = some (Numeral.digits n) := by
  have hungroup := ungroup_of_isDigit (Numeral.isDecimal_digits n).all_digits false
    (.inl (Numeral.isDecimal_digits n).1)
  rcases digits_cases n with h | ⟨c, r, h, hc, -⟩
  · rw [h]
    rfl
  · rw [h] at hungroup ⊢
    rw [wholeDigits?, hungroup]
    rintro _ _ ⟨⟩
    exact hc rfl

/-- A number of 64 bits is read back from its digits. -/
theorem integer?_digits {n : Nat} (h : n ≤ (Numeral.Range.signed 64).above) :
    integer? (Numeral.digits n) = some n := by
  have hparse := Numeral.Range.parse_of_isDecimal (Numeral.isDecimal_digits n) h
  have hwhole := wholeDigits?_digits n
  rcases digits_cases n with hn | ⟨c, r, hn, hc, hdigit⟩
  · rw [hn] at hparse ⊢
    exact congrArg Except.toOption hparse
  · -- neither a sign nor the mark of another base is in front
    obtain ⟨hplus, hminus⟩ := Numeral.not_isSign_of_isDigit hdigit
    rw [hn] at hparse hwhole ⊢
    have hsign : takeSign (c :: r) = ([], c :: r) := by
      rw [takeSign]
      · rintro _ ⟨⟩
        exact hplus rfl
      · rintro _ ⟨⟩
        exact hminus rfl
    rw [integer?]
    · simp only [hsign, hwhole, List.nil_append, hparse]
      rfl
    all_goals
      rintro _ ⟨⟩
      exact hc rfl

/-- The digits of a number of 64 bits are the word of that integer. -/
theorem ofWord?_digits {n : Nat} (h : n ≤ (Numeral.Range.signed 64).above) :
    Value.ofWord? (Numeral.digits n) = some (.integer n) := by
  have hne {w : List Char} (hw : ∃ c ∈ w, Numeral.isDigit c = false) : Numeral.digits n ≠ w := by
    rintro rfl
    obtain ⟨c, hc, hno⟩ := hw
    cases ((Numeral.isDecimal_digits n).all_digits c hc).symm.trans hno
  have htrue : Numeral.digits n ≠ ['t', 'r', 'u', 'e'] := hne ⟨'t', by decide, by decide⟩
  have hfalse : Numeral.digits n ≠ ['f', 'a', 'l', 's', 'e'] := hne ⟨'f', by decide, by decide⟩
  simp [Value.ofWord?, htrue, hfalse, integer?_digits h]

/-! ### Values -/

/-- A value that TOML can hold: a natural number must not be too great. -/
def Plain.Fits : Plain → Prop
  | natural n => n ≤ (Numeral.Range.signed 64).above
  | _ => True

theorem isWordChar_of_isDigit {c : Char} (h : Numeral.isDigit c = true) : isWordChar c = true := by
  simp [isWordChar, h]

/-- What is written is a text in quotes, or a word that is the value. -/
theorem Plain.write_cases {p : Plain} (h : p.Fits) :
    (∃ s, p = .text s) ∨
      (p.write ≠ [] ∧ (∀ c ∈ p.write, isWordChar c = true) ∧
        Value.ofWord? p.write = some p.value) := by
  cases p with
  | text s => exact .inl ⟨s, rfl⟩
  | natural n =>
    have hdecimal := Numeral.isDecimal_digits n
    exact .inr ⟨hdecimal.1, fun c hc => isWordChar_of_isDigit (hdecimal.all_digits c hc),
      ofWord?_digits h⟩
  | flag b =>
    cases b
    · exact .inr ⟨nofun, List.all_eq_true.mp (by decide), rfl⟩
    · exact .inr ⟨nofun, List.all_eq_true.mp (by decide), rfl⟩

/-- A written value starts with a quote, or with a character of words. -/
theorem Plain.exists_write_eq_cons {p : Plain} (h : p.Fits) :
    ∃ c r, p.write = c :: r ∧ c ∉ [' ', '\t', '[', '\x7b'] := by
  rcases write_cases h with ⟨s, rfl⟩ | ⟨hne, hword, -⟩
  · obtain ⟨c, r, hw, rfl | rfl⟩ := exists_writeText_eq_cons s.toList
    · exact ⟨_, r, hw, by decide⟩
    · exact ⟨_, r, hw, by decide⟩
  · obtain ⟨c, r, hw⟩ := List.exists_cons_of_ne_nil hne
    refine ⟨c, r, hw, fun hc => ?_⟩
    have hnone : [' ', '\t', '[', '\x7b'].all (!isWordChar ·) = true := by decide
    have hhead : isWordChar c = true := hword c (by rw [hw]; exact List.mem_cons_self ..)
    simpa [hhead] using List.all_eq_true.mp hnone c hc

/-- A plain value that fits is read back up to the end of its line. -/
theorem readScalar_write {p : Plain} (h : p.Fits) (rest : List Char) :
    readScalar (p.write ++ '\n' :: rest) = some (p.value, '\n' :: rest) := by
  rcases Plain.write_cases h with ⟨s, rfl⟩ | ⟨hne, hword, hv⟩
  · have hread : readText (writeText s.toList ++ '\n' :: rest) = some (s.toList, '\n' :: rest) :=
      readText_writeText s.toList (by simp) (by simp [tick])
    rw [Plain.write]
    obtain ⟨c, r, hw, hc⟩ := exists_writeText_eq_cons s.toList
    rw [hw, List.cons_append] at hread ⊢
    simp [readScalar, hc, hread, Plain.value]
  · have hread := readWord_append hword hv rest
    obtain ⟨c, r, hw⟩ := List.exists_cons_of_ne_nil hne
    have hc : ¬ (c = '"' ∨ c = tick) := by
      have hhead : isWordChar c = true := hword c (by rw [hw]; exact List.mem_cons_self ..)
      rintro (rfl | rfl) <;> cases hhead
    rw [hw, List.cons_append] at hread ⊢
    simp only [readScalar, if_neg hc, hread]

/-- **A value is read as it was written**, at any depth. -/
theorem readValue_write {p : Plain} (h : p.Fits) (depth : Nat) (rest : List Char) :
    readValue depth (p.write ++ '\n' :: rest) = some (p.value, '\n' :: rest) := by
  have hscalar := readScalar_write h rest
  cases depth with
  | zero => exact hscalar
  | succ depth =>
    obtain ⟨c, r, hw, hc⟩ := Plain.exists_write_eq_cons h
    simp only [List.mem_cons, not_or] at hc
    rw [hw, List.cons_append] at hscalar ⊢
    rw [readValue, if_neg hc.2.2.1, if_neg hc.2.2.2.1, hscalar]

/-! ### Lines -/

/-- The entry that is written. -/
def entryOf (e : String × Plain) : Entry := ⟨[], e.1, e.2.value⟩

theorem skipBlanks_space (r : List Char) : skipBlanks (' ' :: r) = skipBlanks r := rfl

/-- A written entry is read back up to the end of its line. -/
theorem readEntry_writeEntry {e : String × Plain} (h : e.2.Fits) (depth : Nat) (rest : List Char) :
    readEntry (readValue depth) (writeEntry e ++ rest) = some (entryOf e, '\n' :: rest) := by
  have hshape : writeEntry e ++ rest
      = writeKey e.1.toList ++ ' ' :: '=' :: ' ' :: (e.2.write ++ '\n' :: rest) := by
    simp [writeEntry]
  have hequals (r : List Char) : skipBlanks (' ' :: '=' :: r) = '=' :: r := rfl
  have hvalue : skipBlanks (' ' :: (e.2.write ++ '\n' :: rest)) = e.2.write ++ '\n' :: rest := by
    obtain ⟨c, r, hw, hc⟩ := Plain.exists_write_eq_cons h
    simp only [List.mem_cons, not_or] at hc
    rw [skipBlanks_space, hw, List.cons_append, skipBlanks_cons hc.1 hc.2.1]
  have hkey : readKey (writeKey e.1.toList ++ ' ' :: '=' :: ' ' :: (e.2.write ++ '\n' :: rest))
      = some (([], e.1), '=' :: ' ' :: (e.2.write ++ '\n' :: rest)) :=
    readKey_writeKey e.1 (by rintro c ⟨⟩; decide) (by simp [hequals])
  simp only [hshape, readEntry, hkey, hvalue, readValue_write h, Option.map_some,
    skipBlanks_cons (show '\n' ≠ ' ' by decide) (by decide), entryOf]

/-- The line of an entry. -/
theorem readLine_writeEntry {e : String × Plain} (h : e.2.Fits) (rest : List Char) :
    readLine (writeEntry e ++ rest) = some (.entry (entryOf e), rest) := by
  have hread := readEntry_writeEntry h (depthLimit - 1) rest
  obtain ⟨c, r, hw, hc⟩ := exists_writeKey_append_eq_cons e.1.toList
    ([' ', '=', ' '] ++ (e.2.write ++ ['\n']) ++ rest)
  have hshape : writeEntry e ++ rest = c :: r := by
    rw [← hw, writeEntry, List.append_assoc]
  simp only [List.mem_cons, not_or] at hc
  obtain ⟨hspace, htab, hline, hhash, hbracket, -⟩ := hc
  rw [hshape] at hread ⊢
  -- the first character is that of a key: no comment, no header and no break
  have hstart : readStart (c :: r) = some (.entry (entryOf e), '\n' :: rest) := by
    rw [readStart, skipBlanks_cons hspace htab]
    split
    case h_1 heq => cases heq
    case h_2 heq => exact absurd (List.cons.inj heq).1 hline
    case h_3 heq => exact absurd (List.cons.inj heq).1 hhash
    case h_4 heq => exact absurd (List.cons.inj heq).1 hbracket
    case h_5 heq => exact absurd (List.cons.inj heq).1 hbracket
    case h_6 => rw [hread, Option.map_some]
  rw [readLine, hstart]
  rfl

/-- The line of a header. -/
theorem readLine_header (s : String) (rest : List Char) :
    readLine ('[' :: (writeKey s.toList ++ ']' :: '\n' :: rest)) = some (.header [] s, rest) := by
  have hkey : readKey (writeKey s.toList ++ ']' :: '\n' :: rest)
      = some (([], s), ']' :: '\n' :: rest) :=
    readKey_writeKey s (by rintro c ⟨⟩; decide) (by simp [skipBlanks])
  obtain ⟨c, r, hw, hc⟩ := exists_writeKey_append_eq_cons s.toList (']' :: '\n' :: rest)
  simp only [List.mem_cons, not_or] at hc
  obtain ⟨-, -, -, -, hbracket, -⟩ := hc
  rw [hw] at hkey ⊢
  have hstart : readStart ('[' :: c :: r) = some (.header [] s, '\n' :: rest) := by
    rw [readStart, skipBlanks_cons (by decide) (by decide)]
    split
    case h_1 heq => cases heq
    case h_2 heq => cases heq
    case h_3 heq => cases heq
    -- two brackets would begin an element, but a key has no bracket in front
    case h_4 heq => exact absurd (List.cons.inj (List.cons.inj heq).2).1 hbracket
    case h_5 heq =>
      obtain rfl := (List.cons.inj heq).2
      rw [hkey]
      rfl
    case h_6 hno => exact absurd rfl (hno _)
  rw [readLine, hstart]
  rfl

/-- An empty line. -/
theorem readLine_break (rest : List Char) : readLine ('\n' :: rest) = some (.blank, rest) := rfl

/-- A line in front is the first of the lines. -/
theorem readLines_of_readLine {cs r : List Char} {l : Line} (h : readLine cs = some (l, r))
    (hlt : r.length < cs.length) : readLines cs = (readLines r).map (l :: ·) := by
  have hne : ¬ cs.isEmpty = true := by
    rw [List.isEmpty_iff]
    rintro rfl
    cases hlt
  rw [readLines, if_neg hne, h]
  exact dif_pos hlt

/-! ### Sheets -/

/-- The lines of a section. -/
def sectionLines (s : String × List (String × Plain)) : List Line :=
  .header [] s.1 :: s.2.map fun e => .entry (entryOf e)

/-- The lines of a sheet. -/
def Sheet.lines : Sheet → List Line
  | [] => []
  | [s] => sectionLines s
  | s :: ss => sectionLines s ++ .blank :: lines ss

/-- Written entries are read back as lines of entries, in front of the other lines. -/
theorem readLines_entries {es : List (String × Plain)} (h : ∀ e ∈ es, e.2.Fits)
    (rest : List Char) :
    readLines (es.flatMap writeEntry ++ rest)
      = (readLines rest).map (es.map (fun e => Line.entry (entryOf e)) ++ ·) := by
  induction es with
  | nil => simp
  | cons e es ih =>
    rw [List.forall_mem_cons] at h
    rw [List.flatMap_cons, List.append_assoc, readLines_of_readLine (readLine_writeEntry h.1 _)]
    · rw [ih h.2, Option.map_map]
      rfl
    · simp only [writeEntry, List.length_append, List.length_cons]
      omega

/-- A written section is read back as its header and its entries. -/
theorem readLines_writeSection {s : String × List (String × Plain)} (h : ∀ e ∈ s.2, e.2.Fits)
    (rest : List Char) :
    readLines (writeSection s ++ rest) = (readLines rest).map (sectionLines s ++ ·) := by
  have hshape : writeSection s ++ rest
      = '[' :: (writeKey s.1.toList ++ ']' :: '\n' :: (s.2.flatMap writeEntry ++ rest)) := by
    simp [writeSection]
  rw [hshape, readLines_of_readLine (readLine_header _ _)]
  · rw [readLines_entries h, Option.map_map]
    rfl
  · simp only [List.length_cons, List.length_append]
    omega

theorem readLines_nil : readLines [] = some [] := by
  rw [readLines]
  rfl

/-- **The lines that are read are those of the sheet.** -/
theorem readLines_write {sheet : Sheet} (h : ∀ s ∈ sheet, ∀ e ∈ s.2, e.2.Fits) :
    readLines sheet.write = some sheet.lines := by
  fun_induction Sheet.write sheet with
  | case1 => exact readLines_nil
  | case2 s =>
    rw [← List.append_nil (writeSection s), readLines_writeSection (List.forall_mem_singleton.mp h),
      readLines_nil]
    simp [Sheet.lines]
  | case3 s ss hne ih =>
    rw [List.forall_mem_cons] at h
    rw [readLines_writeSection h.1, readLines_of_readLine (readLine_break _) (by simp), ih h.2,
      Sheet.lines]
    · rfl
    · exact hne

/-- The section of a document that a section of a sheet is. -/
def sectionOf (s : String × List (String × Plain)) : Section :=
  ⟨false, [], s.1, s.2.map entryOf⟩

theorem ofLines_entries (es : List Entry) (ls : List Line) :
    Document.ofLines (es.map Line.entry ++ ls)
      = ⟨es ++ (Document.ofLines ls).preamble, (Document.ofLines ls).sections⟩ := by
  induction es with
  | nil => rfl
  | cons e es ih => rw [List.map_cons, List.cons_append, Document.ofLines, ih]; rfl

/-- A header and the entries behind it form a section in front of the others. -/
theorem ofLines_sectionLines (s : String × List (String × Plain)) {ls : List Line}
    {ss : List Section} (h : Document.ofLines ls = ⟨[], ss⟩) :
    Document.ofLines (sectionLines s ++ ls) = ⟨[], sectionOf s :: ss⟩ := by
  have hentries := ofLines_entries (s.2.map entryOf) ls
  rw [List.map_map, h] at hentries
  rw [List.append_nil] at hentries
  simp only [sectionLines, List.cons_append, Document.ofLines, sectionOf]
  exact hentries ▸ rfl

/-- The sections of the lines are those of the sheet. -/
theorem ofLines_lines (sheet : Sheet) :
    Document.ofLines sheet.lines = ⟨[], sheet.map sectionOf⟩ := by
  fun_induction Sheet.lines sheet with
  | case1 => rfl
  | case2 s =>
    rw [← List.append_nil (sectionLines s)]
    exact ofLines_sectionLines s rfl
  | case3 s ss hne ih => exact ofLines_sectionLines s ih

/-! ### Tables -/

/-- The table of a section. -/
def entriesOf (es : List (String × Plain)) : Entries := es.map fun e => (e.1, e.2.value)

@[simp] theorem entriesOf_nil : entriesOf [] = [] := rfl

@[simp] theorem entriesOf_cons (k : String) (p : Plain) (es : List (String × Plain)) :
    entriesOf ((k, p) :: es) = (k, p.value) :: entriesOf es := rfl

/-- The table of a sheet. -/
def Sheet.table (sheet : Sheet) : Entries :=
  sheet.map fun s => (s.1, .table .headed (entriesOf s.2))

theorem lookup_of_not_mem {es : Entries} {k : String} (h : k ∉ es.map Prod.fst) :
    es.lookup k = none := by
  rw [List.lookup_eq_none_iff]
  intro e he
  have hne : k ≠ e.1 := fun hk => h (hk ▸ List.mem_map_of_mem he)
  simpa using hne

/-- A new key is assigned at the end. -/
theorem assign_of_not_mem {es : Entries} {k : String} (h : k ∉ es.map Prod.fst) (v : Value) :
    assign k v es = es ++ [(k, v)] := by
  induction es with
  | nil => rfl
  | cons e es ih =>
    rw [List.map_cons, List.mem_cons, not_or] at h
    rw [assign, if_neg (Ne.symm h.1), ih h.2, List.cons_append]

/-- An entry with a new key is added at the end. -/
theorem addEntry_entryOf {es : Entries} {e : String × Plain} (h : e.1 ∉ es.map Prod.fst) :
    addEntry es (entryOf e) = some (es ++ [(e.1, e.2.value)]) := by
  simp [addEntry, entryOf, amend, lookup_of_not_mem h]

/-- Entries whose keys a table does not have yet come at its end. -/
theorem addEntries_map_entryOf {es : Entries} {added : List (String × Plain)}
    (h : (es.map Prod.fst ++ added.map Prod.fst).Nodup) :
    addEntries es (added.map entryOf) = some (es ++ entriesOf added) := by
  induction added generalizing es with
  | nil => simp [addEntries, entriesOf]
  | cons e added ih =>
    have hfirst : e.1 ∉ es.map Prod.fst := by
      simp only [List.map_cons, List.nodup_append, List.mem_cons] at h
      exact fun hmem => h.2.2 _ hmem _ (.inl rfl) rfl
    -- the invariant of the induction: no key of the rest is assigned yet
    have hrest : ((es ++ [(e.1, e.2.value)]).map Prod.fst ++ added.map Prod.fst).Nodup := by
      simpa using h
    have hstep := ih hrest
    rw [addEntries] at hstep ⊢
    rw [List.map_cons, List.foldlM_cons, addEntry_entryOf hfirst]
    simpa [entriesOf] using hstep

/-- A section with a new name and different keys is added at the end. -/
theorem addSection_sectionOf {es : Entries} {s : String × List (String × Plain)}
    (hname : s.1 ∉ es.map Prod.fst) (hkeys : (s.2.map Prod.fst).Nodup) :
    addSection es (sectionOf s) = some (es ++ [(s.1, .table .headed (entriesOf s.2))]) := by
  have hentries : addEntries [] (s.2.map entryOf) = some (entriesOf s.2) :=
    addEntries_map_entryOf hkeys
  simp [addSection, sectionOf, amend, Section.place, lookup_of_not_mem hname, hentries,
    assign_of_not_mem hname]

/-- Sections whose names a table does not have yet come at its end. -/
theorem foldlM_addSection (es : Entries) {sheet : Sheet}
    (hnames : (es.map Prod.fst ++ sheet.map Prod.fst).Nodup)
    (hkeys : ∀ s ∈ sheet, (s.2.map Prod.fst).Nodup) :
    (sheet.map sectionOf).foldlM addSection es = some (es ++ sheet.table) := by
  induction sheet generalizing es with
  | nil => simp [Sheet.table]
  | cons s sheet ih =>
    rw [List.forall_mem_cons] at hkeys
    have hfirst : s.1 ∉ es.map Prod.fst := by
      simp only [List.map_cons, List.nodup_append, List.mem_cons] at hnames
      exact fun hmem => hnames.2.2 _ hmem _ (.inl rfl) rfl
    have hrest : ((es ++ [(s.1, Value.table .headed (entriesOf s.2))]).map Prod.fst ++
        sheet.map Prod.fst).Nodup := by
      simpa using hnames
    rw [List.map_cons, List.foldlM_cons, addSection_sectionOf hfirst hkeys.1, Option.bind_eq_bind,
      Option.bind_some, ih _ hrest hkeys.2]
    simp [Sheet.table]

/-! ### Breaks and marks -/

/-- Without carriage returns no breaks are joined. -/
theorem joinBreaks_of_not_mem {cs : List Char} (h : '\r' ∉ cs) : joinBreaks cs = cs := by
  fun_induction joinBreaks cs with
  | case1 r ih => simp at h
  | case2 c r hno ih =>
    rw [List.mem_cons, not_or] at h
    rw [ih h.2]
  | case3 => rfl

theorem Plain.forall_mem_write (p : Plain) : ∀ c ∈ p.write, IsWritten c := by
  cases p with
  | text s => exact forall_mem_writeText s.toList
  | natural n =>
    intro c hc
    exact isWritten_of_isBare (by simp [isBare, (Numeral.isDecimal_digits n).all_digits c hc])
  | flag b => cases b <;> exact forall_mem_of_all rfl

theorem forall_mem_writeEntry (e : String × Plain) : ∀ c ∈ writeEntry e, IsWritten c := by
  simp only [writeEntry, List.forall_mem_append]
  exact ⟨forall_mem_writeKey _, forall_mem_of_all rfl, e.2.forall_mem_write,
    List.forall_mem_singleton.mpr (.inr rfl)⟩

theorem forall_mem_writeSection (s : String × List (String × Plain)) :
    ∀ c ∈ writeSection s, IsWritten c := by
  simp only [writeSection, List.forall_mem_cons, List.forall_mem_append, List.forall_mem_flatMap]
  exact ⟨by decide, forall_mem_writeKey _, ⟨by decide, by decide, nofun⟩,
    fun e _ => forall_mem_writeEntry e⟩

/-- A written sheet consists of characters that a document may hold. -/
theorem Sheet.forall_mem_write (sheet : Sheet) : ∀ c ∈ sheet.write, IsWritten c := by
  fun_induction Sheet.write sheet with
  | case1 => nofun
  | case2 s => exact forall_mem_writeSection s
  | case3 s ss hne ih =>
    exact List.forall_mem_append.mpr
      ⟨forall_mem_writeSection s, List.forall_mem_cons.mpr ⟨by decide, ih⟩⟩

/-- **A sheet is read as the table that it stands for**, if no name of a section is repeated and no
key in a section. -/
theorem table?_write {sheet : Sheet} (hfits : ∀ s ∈ sheet, ∀ e ∈ s.2, e.2.Fits)
    (hnames : (sheet.map Prod.fst).Nodup) (hkeys : ∀ s ∈ sheet, (s.2.map Prod.fst).Nodup) :
    table? sheet.write = some sheet.table := by
  have hmark : dropMark sheet.write = sheet.write := by
    fun_cases Sheet.write sheet <;> rfl
  have hbreaks : joinBreaks sheet.write = sheet.write := joinBreaks_of_not_mem fun h => by
    rcases sheet.forall_mem_write _ h with h | h <;> cases h
  rw [table?, hmark, hbreaks, readLines_write hfits]
  simpa [ofLines_lines, Document.table?, addEntries] using foldlM_addSection [] hnames hkeys

end DeviceHost.Toml
