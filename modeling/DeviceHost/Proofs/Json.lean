import DeviceHost.Json.Text
import Mathlib.Data.List.Forall2

/-!
# JSON documents, put together of parts

A document is read in two passes, each of which is a machine that takes one character or one lexeme
at a time. Here both passes are cut into the parts of a document, so that a document can be read by
reading its parts.

* `Token.scan?_append_punctuation` — the lexemes before and behind a punctuation character can be
  found separately: what was found before has no influence (`Scan.step_onto`), and punctuation
  belongs to no other lexeme;
* `Build.foldl_value` — the lexemes of a document hand its tree to the containers that are open
  around it, and leave these as they are (`Build.step_onto`);
* `Node.read?_array`, `Node.read?_members` — the tree of an array or an object, from the trees of
  its parts;
* `Token.scan?_quoted` — a text in quotation marks holds that text, whatever characters it has;
* `Node.read?_chars` — documents without numbers are read back as they were written.
-/

namespace DeviceHost.Json

/-! ### Lexemes, cut at punctuation -/

/-- A scan that goes on behind lexemes found earlier, given last one first. A fault forgets them. -/
def Scan.onto (base : List Token) (s : Scan) : Scan :=
  if s.mode = .failed then s else ⟨s.found ++ base, s.mode⟩

theorem Scan.begin_onto (base found : List Token) (c : Char) :
    begin (found ++ base) c = (begin found c).onto base := by
  simp only [begin]
  split
  · rfl
  · split
    · rfl
    · cases Token.ofPunctuation? c with
      | some t => rfl
      | none =>
        simp only
        split
        · rfl
        · split <;> rfl

theorem Scan.step_onto (base : List Token) (s : Scan) (o : Option Char) :
    (s.onto base).step o = (s.step o).onto base := by
  obtain ⟨found, mode⟩ := s
  cases o with
  | none => cases mode <;> rfl
  | some c =>
    cases mode with
    | gap => exact begin_onto base found c
    | word letters =>
      simp only [onto, step, reduceCtorEq, if_false]
      split
      · rfl
      · cases Token.ofWord? letters.reverse with
        | none => rfl
        | some t => exact begin_onto base (t :: found) c
    | number chars =>
      simp only [onto, step, reduceCtorEq, if_false]
      split
      · rfl
      · cases Token.ofNumber? chars.reverse with
        | none => rfl
        | some t => exact begin_onto base (t :: found) c
    | text units =>
      simp only [onto, step, reduceCtorEq, if_false]
      split
      · rfl
      · split
        · rfl
        · split <;> rfl
    | escape units =>
      simp only [onto, step, reduceCtorEq, if_false]
      split
      · rfl
      · cases escapeChar? c <;> rfl
    | unicode missing n units =>
      rcases hd : Numeral.hexDigit? c with _ | d
      · simp [onto, step, hd, fail]
      · cases missing <;> simp [onto, step, hd]
    | failed => rfl

/-- The lexemes before a part do not matter for the scan of that part. -/
theorem Scan.foldl_onto (base : List Token) (os : List (Option Char)) (s : Scan) :
    os.foldl step (s.onto base) = (os.foldl step s).onto base := by
  induction os generalizing s with
  | nil => rfl
  | cons o os ih => rw [List.foldl_cons, step_onto, ih, List.foldl_cons]

/-- The lexemes of a scan, last one first; a word or a number under way is finished. -/
def Scan.settled? (s : Scan) : Option (List Token) :=
  match s.mode with
  | .gap => some s.found
  | .word letters => (Token.ofWord? letters.reverse).map (· :: s.found)
  | .number chars => (Token.ofNumber? chars.reverse).map (· :: s.found)
  | _ => none

theorem Scan.tokens?_eq (s : Scan) : s.tokens? = s.settled?.map List.reverse := by
  obtain ⟨found, mode⟩ := s
  cases mode <;> simp [tokens?, settled?, Function.comp_def]

/-- A scan that begins with lexemes finds them before those of its own. -/
theorem Scan.tokens?_onto (base : List Token) (s : Scan) :
    (s.onto base).tokens? = s.tokens?.map (base.reverse ++ ·) := by
  obtain ⟨found, mode⟩ := s
  cases mode <;> simp [tokens?, onto, Function.comp_def]

/-- Punctuation belongs to no other lexeme. -/
theorem of_punctuation {c : Char} {t : Token} (h : Token.ofPunctuation? c = some t) :
    isSpace c = false ∧ c ≠ '"' ∧ ¬('a' ≤ c ∧ c ≤ 'z') ∧ isNumeric c = false := by
  have hmem : c ∈ ['{', '}', '[', ']', ':', ','] := by
    by_contra hc
    simp only [List.mem_cons, List.not_mem_nil, or_false, not_or] at hc
    simp [Token.ofPunctuation?, hc] at h
  simp only [List.mem_cons, List.not_mem_nil, or_false] at hmem
  rcases hmem with rfl | rfl | rfl | rfl | rfl | rfl <;> decide

/-- Punctuation is a lexeme as soon as it is met. -/
theorem Scan.begin_punctuation {c : Char} {t : Token} (h : Token.ofPunctuation? c = some t)
    (found : List Token) : begin found c = ⟨t :: found, .gap⟩ := by
  obtain ⟨hspace, hquote, -, -⟩ := of_punctuation h
  simp [begin, hspace, hquote, h]

/-- Punctuation ends the lexeme before it and is the next one. -/
theorem Scan.step_punctuation {s : Scan} {found : List Token} (hs : s.settled? = some found)
    {c : Char} {t : Token} (h : Token.ofPunctuation? c = some t) :
    s.step (some c) = ⟨t :: found, .gap⟩ := by
  obtain ⟨-, -, hword, hnumber⟩ := of_punctuation h
  obtain ⟨found', mode⟩ := s
  cases mode with
  | gap =>
    obtain rfl := Option.some.inj hs
    exact begin_punctuation h _
  | word letters =>
    obtain ⟨w, hw, rfl⟩ := Option.map_eq_some_iff.mp hs
    simp only [step, hword, if_false, hw]
    exact begin_punctuation h _
  | number chars =>
    obtain ⟨n, hn, rfl⟩ := Option.map_eq_some_iff.mp hs
    simp only [step, hnumber, hn]
    exact begin_punctuation h _
  | text units => cases hs
  | escape units => cases hs
  | unicode missing n units => cases hs
  | failed => cases hs

/-- A document may be cut at punctuation that stands between lexemes. -/
theorem Token.scan?_append_punctuation {as : List (Option Char)} {ts : List Token}
    (ha : scan? as = some ts) {c : Char} {t : Token} (hc : ofPunctuation? c = some t)
    (bs : List (Option Char)) :
    scan? (as ++ some c :: bs) = (scan? bs).map (ts ++ t :: ·) := by
  rw [scan?, Scan.tokens?_eq, Option.map_eq_some_iff] at ha
  obtain ⟨found, hfound, rfl⟩ := ha
  -- behind the punctuation the scan goes on as from the start, after what was found
  have hbase : (⟨t :: found, .gap⟩ : Scan) = Scan.onto (t :: found) ⟨[], .gap⟩ := rfl
  rw [scan?, List.foldl_append, List.foldl_cons, Scan.step_punctuation hfound hc, hbase,
    Scan.foldl_onto, Scan.tokens?_onto, scan?]
  simp

/-! ### Texts in quotation marks -/

/-- A unit that stands for one character by itself. -/
def TextUnit.Spells (u : TextUnit) (c : Char) : Prop :=
  ∀ acc r, joinUnits acc (u :: r) = joinUnits (c :: acc) r

theorem TextUnit.spells_char (c : Char) : (TextUnit.char c).Spells c := fun _ _ => rfl

/-- A control character may be spelled by its number. -/
theorem TextUnit.spells_escaped {c : Char} (h : c.toNat < 0x20) :
    (TextUnit.escaped c.toNat).Spells c := by
  intro acc r
  have hhigh : isHighHalf c.toNat = false := by
    simp only [isHighHalf, Bool.and_eq_false_iff, decide_eq_false_iff_not]
    omega
  have hlow : isLowHalf c.toNat = false := by
    simp only [isLowHalf, Bool.and_eq_false_iff, decide_eq_false_iff_not]
    omega
  rw [joinUnits.eq_def]
  simp [hhigh, hlow]

/-- A character inside a text is scanned as one unit that stands for it. -/
theorem Scan.foldl_escaped (found : List Token) (units : List TextUnit) (c : Char) :
    ∃ u : TextUnit, u.Spells c ∧
      ((escaped c).map some).foldl step ⟨found, .text units⟩ = ⟨found, .text (u :: units)⟩ := by
  by_cases hshort : c ∈ ['"', '\\', '\x08', '\x0c', '\n', '\r', '\t']
  · refine ⟨_, TextUnit.spells_char c, ?_⟩
    simp only [List.mem_cons, List.not_mem_nil, or_false] at hshort
    rcases hshort with rfl | rfl | rfl | rfl | rfl | rfl | rfl <;> rfl
  · simp only [List.mem_cons, List.not_mem_nil, or_false, not_or] at hshort
    obtain ⟨hquote, hslash, hback, hfeed, hline, hreturn, htab⟩ := hshort
    by_cases hcontrol : c.toNat < 0x20
    · -- four digits, of which the first two are zeros
      refine ⟨_, TextUnit.spells_escaped hcontrol, ?_⟩
      have hdigit : Numeral.hexDigit? (Numeral.hexDigitLower (c.toNat / 16)) = _ :=
        Numeral.hexDigit?_hexDigitLower (by omega)
      have hdigit' : Numeral.hexDigit? (Numeral.hexDigitLower (c.toNat % 16)) = _ :=
        Numeral.hexDigit?_hexDigitLower (by omega)
      have hzero : Numeral.hexDigit? '0' = some 0 := rfl
      have hvalue : c.toNat / 16 * 16 + c.toNat % 16 = c.toNat := Nat.div_add_mod' _ _
      simp [escaped, hquote, hslash, hback, hfeed, hline, hreturn, htab, hcontrol, step, hdigit,
        hdigit', hzero, hvalue]
    · refine ⟨_, TextUnit.spells_char c, ?_⟩
      simp [escaped, hquote, hslash, hback, hfeed, hline, hreturn, htab, hcontrol, step]

/-- The characters of a text are scanned as units that stand for them. -/
theorem Scan.foldl_flatMap_escaped (found : List Token) (units : List TextUnit) (cs : List Char) :
    ∃ us : List TextUnit, (∀ acc, joinUnits acc us = some (acc.reverse ++ cs)) ∧
      ((cs.flatMap escaped).map some).foldl step ⟨found, .text units⟩
        = ⟨found, .text (us.reverse ++ units)⟩ := by
  induction cs generalizing units with
  | nil => exact ⟨[], fun acc => by simp [joinUnits], rfl⟩
  | cons c cs ih =>
    obtain ⟨u, hu, hstep⟩ := foldl_escaped found units c
    obtain ⟨us, hus, hrest⟩ := ih (u :: units)
    refine ⟨u :: us, fun acc => ?_, ?_⟩
    · rw [hu, hus]
      simp
    · rw [List.flatMap_cons, List.map_append, List.foldl_append, hstep, hrest]
      simp

/-- A text in quotation marks is one lexeme, which holds that text. -/
theorem Token.scan?_quoted (s : String) : scan? ((quoted s).map some) = some [.text (some s)] := by
  obtain ⟨us, hus, hscan⟩ := Scan.foldl_flatMap_escaped [] [] s.toList
  have hunits : ofUnits us.reverse = .text (some s) := by
    rw [ofUnits, List.reverse_reverse, hus]
    simp
  have hopen : Scan.step ⟨[], .gap⟩ (some '"') = ⟨[], .text []⟩ := rfl
  rw [List.append_nil] at hscan
  rw [scan?, quoted, List.map_cons, List.map_append, List.foldl_cons, List.foldl_append, hopen,
    hscan, List.map_singleton, List.foldl_cons, List.foldl_nil]
  simp [Scan.step, Scan.tokens?, hunits]

/-! ### Trees, inside open containers -/

/-- What comes next when the containers below are open around the document. -/
def Build.onto (base : List Frame) : Build → Build
  | .value stack => .value (stack ++ base)
  | .firstItem stack => .firstItem (stack ++ base)
  | .firstKey stack => .firstKey (stack ++ base)
  | .nextKey members stack => .nextKey members (stack ++ base)
  | .colon members k stack => .colon members k (stack ++ base)
  | .afterItem items stack => .afterItem items (stack ++ base)
  | .afterMember members stack => .afterMember members (stack ++ base)
  | .done n => .deliver n base
  | .failed => .failed

/-- A value is delivered to the innermost container, whatever lies outside of it. -/
theorem Build.deliver_onto (base : List Frame) (n : Node) (stack : List Frame) :
    deliver n (stack ++ base) = (deliver n stack).onto base := by
  rcases stack with _ | ⟨_ | _, stack⟩ <;> rfl

theorem Build.begin_onto (base stack : List Frame) (t : Token) :
    begin (stack ++ base) t = (begin stack t).onto base := by
  cases t <;> first | rfl | exact deliver_onto base _ stack

/-- An array that does not end at once goes on as behind a comma. -/
theorem Build.step_firstItem {t : Token} (ht : t ≠ .bracketClose) (stack : List Frame) :
    (firstItem stack).step t = (value (.array [] :: stack)).step t := by
  cases t <;> first | rfl | exact absurd rfl ht

/-- As long as the document is not complete, the containers around it stay as they are. -/
theorem Build.step_onto (base : List Frame) {b : Build} (hb : ∀ n, b ≠ .done n) (t : Token) :
    (b.onto base).step t = (b.step t).onto base := by
  cases b with
  | value stack => exact begin_onto base stack t
  | firstItem stack =>
    by_cases ht : t = .bracketClose
    · subst ht
      exact deliver_onto base _ stack
    · rw [onto, step_firstItem ht, step_firstItem ht]
      exact begin_onto base (.array [] :: stack) t
  | firstKey stack =>
    cases t with
    | braceClose => exact deliver_onto base _ stack
    | _ => rfl
  | nextKey members stack => cases t <;> rfl
  | colon members k stack => cases t <;> rfl
  | afterItem items stack =>
    cases t with
    | bracketClose => exact deliver_onto base _ stack
    | _ => rfl
  | afterMember members stack =>
    cases t with
    | braceClose => exact deliver_onto base _ stack
    | _ => rfl
  | done n => exact absurd rfl (hb n)
  | failed => cases t <;> rfl

theorem Build.step_failed (t : Token) : failed.step t = .failed := by
  cases t <;> rfl

/-- A tree that has failed stays so. -/
theorem Build.foldl_failed (ts : List Token) : ts.foldl step failed = .failed := by
  induction ts with
  | nil => rfl
  | cons t ts ih => rw [List.foldl_cons, step_failed, ih]

/-- Nothing may follow a complete document. -/
theorem Build.step_done (n : Node) (t : Token) : (done n).step t = .failed := by
  cases t <;> rfl

/-- A value that is built on its own is delivered to the containers that are open around it. -/
theorem Build.foldl_onto (base : List Frame) {ts : List Token} {b : Build} {n : Node}
    (h : ts.foldl step b = .done n) : ts.foldl step (b.onto base) = .deliver n base := by
  induction ts generalizing b with
  | nil =>
    obtain rfl : b = .done n := h
    rfl
  | cons t ts ih =>
    have hb : ∀ m, b ≠ .done m := by
      -- a complete document takes no further lexeme
      rintro m rfl
      rw [List.foldl_cons, step_done, foldl_failed] at h
      cases h
    rw [List.foldl_cons, step_onto base hb]
    exact ih h

/-- The lexemes of a document hand its tree to the container around it. -/
theorem Build.foldl_value {ts : List Token} {n : Node} (h : Node.ofTokens? ts = some n)
    (stack : List Frame) : ts.foldl step (.value stack) = .deliver n stack := by
  refine foldl_onto stack (b := .value []) ?_
  rw [Node.ofTokens?] at h
  split at h
  case h_1 m hm =>
    obtain rfl := Option.some.inj h
    exact hm
  case h_2 => cases h

/-! ### Items and members -/

/-- Parts with commas between them, each of which adds one element to a container. -/
theorem Build.foldl_intercalate {β : Type} (before after : List β → Build)
    (hcomma : ∀ found, (after found).step .comma = before found) {parts : List (List Token)}
    {xs : List β}
    (h : List.Forall₂ (fun ts x => ∀ found, ts.foldl step (before found) = after (x :: found))
      parts xs)
    (hne : parts ≠ []) (found : List β) :
    ([.comma].intercalate parts).foldl step (before found) = after (xs.reverse ++ found) := by
  induction h generalizing found with
  | nil => exact absurd rfl hne
  | @cons ts x parts xs hts hrest ih =>
    cases parts with
    | nil =>
      cases hrest
      rw [List.intercalate_singleton, hts]
      rfl
    | cons ts' parts =>
      rw [List.intercalate_cons_cons, List.foldl_append, List.foldl_append, hts, List.foldl_cons,
        hcomma, List.foldl_nil, ih (List.cons_ne_nil ts' parts)]
      simp

/-- Where an element or the end may come, an element is read as where only an element may come. -/
theorem Build.foldl_of_step_eq {b b' c : Build}
    (h : ∀ t, b'.step t ≠ .failed → b.step t = b'.step t) {ts : List Token}
    (hts : ts.foldl step b' = c) (hc : c ≠ .failed) (hb : b' ≠ c) : ts.foldl step b = c := by
  cases ts with
  | nil => exact absurd hts hb
  | cons t ts =>
    rw [List.foldl_cons] at hts ⊢
    have ht : b'.step t ≠ .failed := by
      -- a lexeme out of place would have ended the reading
      intro ht
      rw [ht, foldl_failed] at hts
      exact hc hts.symm
    rw [h t ht, hts]

/-- The lexemes of an array, from those of its items. -/
theorem Node.ofTokens?_array {tss : List (List Token)} {ns : List Node}
    (h : List.Forall₂ (fun ts n => ofTokens? ts = some n) tss ns) :
    ofTokens? (.bracketOpen :: ([.comma].intercalate tss ++ [.bracketClose]))
      = some (.array ns) := by
  by_cases hne : tss = []
  · subst hne
    cases h
    rfl
  · have hparts : List.Forall₂ (fun ts n => ∀ found,
        ts.foldl Build.step (.value [.array found]) = .afterItem (n :: found) []) tss ns :=
      h.imp fun ts n hts found => Build.foldl_value hts [.array found]
    have hitems : ([.comma].intercalate tss).foldl Build.step (.value [.array []])
        = .afterItem (ns.reverse ++ []) [] :=
      Build.foldl_intercalate (fun found => .value [.array found])
        (fun found => .afterItem found []) (fun _ => rfl) hparts hne []
    have hfirst : ([.comma].intercalate tss).foldl Build.step (.firstItem [])
        = .afterItem (ns.reverse ++ []) [] := by
      refine Build.foldl_of_step_eq (fun t ht => ?_) hitems nofun nofun
      refine Build.step_firstItem ?_ []
      rintro rfl
      exact ht rfl
    have hopen : (Build.value []).step .bracketOpen = .firstItem [] := rfl
    rw [ofTokens?, List.foldl_cons, List.foldl_append, hopen, hfirst]
    simp [Build.step, Build.deliver]

/-- The lexemes of a member. -/
def Token.ofMember (m : Option String × List Token) : List Token :=
  .text m.1 :: .colon :: m.2

/-- The lexemes of an object, from those of its members. -/
theorem Node.ofTokens?_object {ms : List (Option String × List Token)}
    {ns : List (Option String × Node)}
    (h : List.Forall₂ (fun m n => m.1 = n.1 ∧ Node.ofTokens? m.2 = some n.2) ms ns) :
    ofTokens? (.braceOpen :: ([.comma].intercalate (ms.map Token.ofMember) ++ [.braceClose]))
      = some (.object ns) := by
  by_cases hne : ms = []
  · subst hne
    cases h
    rfl
  · have hparts : List.Forall₂ (fun ts n => ∀ found,
        ts.foldl Build.step (.nextKey found []) = .afterMember (n :: found) [])
        (ms.map Token.ofMember) ns := by
      refine List.forall₂_map_left_iff.mpr (h.imp ?_)
      rintro ⟨k, ts⟩ ⟨_, n⟩ ⟨rfl, hts⟩ found
      exact Build.foldl_value hts [.object found k]
    have hmembers : ([.comma].intercalate (ms.map Token.ofMember)).foldl Build.step (.nextKey [] [])
        = .afterMember (ns.reverse ++ []) [] :=
      Build.foldl_intercalate (fun found => .nextKey found [])
        (fun found => .afterMember found []) (fun _ => rfl) hparts
        (fun hnil => hne (List.map_eq_nil_iff.mp hnil)) []
    have hfirst : ([.comma].intercalate (ms.map Token.ofMember)).foldl Build.step (.firstKey [])
        = .afterMember (ns.reverse ++ []) [] := by
      refine Build.foldl_of_step_eq (fun t ht => ?_) hmembers nofun nofun
      -- the two differ only in whether the object may end
      cases t <;> first | rfl | exact absurd rfl ht
    have hopen : (Build.value []).step .braceOpen = .firstKey [] := rfl
    rw [ofTokens?, List.foldl_cons, List.foldl_append, hopen, hfirst]
    simp [Build.step, Build.deliver]

/-! ### Documents -/

/-- Documents with commas between them. -/
theorem Token.scan?_intercalate {ds : List (List (Option Char))} {tss : List (List Token)}
    (h : List.Forall₂ (fun d ts => scan? d = some ts) ds tss) :
    scan? ([some ','].intercalate ds) = some ([.comma].intercalate tss) := by
  induction h with
  | nil => rfl
  | @cons d ts ds tss hd hrest ih =>
    cases hrest with
    | nil => rw [List.intercalate_singleton, List.intercalate_singleton, hd]
    | cons hd' hrest' =>
      rw [List.intercalate_cons_cons, List.intercalate_cons_cons, List.append_assoc,
        List.append_assoc, List.singleton_append, List.singleton_append,
        scan?_append_punctuation hd rfl, ih]
      rfl

/-- A document in brackets or braces. -/
theorem Token.scan?_enclosed {d : List (Option Char)} {ts : List Token} (hd : scan? d = some ts)
    {a z : Char} {opening closing : Token} (ha : ofPunctuation? a = some opening)
    (hz : ofPunctuation? z = some closing) :
    scan? (some a :: (d ++ [some z])) = some (opening :: (ts ++ [closing])) := by
  have hnil : scan? [] = some [] := rfl
  have h := scan?_append_punctuation hnil ha (d ++ [some z])
  rw [scan?_append_punctuation hd hz, hnil] at h
  exact h

/-- A document is read by way of its lexemes. -/
theorem Node.read?_eq_some {d : List (Option Char)} {n : Node} :
    read? d = some n ↔ ∃ ts, Token.scan? d = some ts ∧ ofTokens? ts = some n := by
  simp [read?, Option.bind_eq_some_iff]

/-- **An array of documents** is read as the array of their trees. -/
theorem Node.read?_array {ds : List (List (Option Char))} {ns : List Node}
    (h : List.Forall₂ (fun d n => read? d = some n) ds ns) :
    read? (some '[' :: ([some ','].intercalate ds ++ [some ']'])) = some (.array ns) := by
  have htokens : ∃ tss, List.Forall₂ (fun d ts => Token.scan? d = some ts) ds tss ∧
      List.Forall₂ (fun ts n => ofTokens? ts = some n) tss ns := by
    induction h with
    | nil => exact ⟨[], .nil, .nil⟩
    | cons hd _ ih =>
      obtain ⟨ts, hscan, htree⟩ := read?_eq_some.mp hd
      obtain ⟨tss, hscans, htrees⟩ := ih
      exact ⟨ts :: tss, .cons hscan hscans, .cons htree htrees⟩
  obtain ⟨tss, hscans, htrees⟩ := htokens
  exact read?_eq_some.mpr
    ⟨_, Token.scan?_enclosed (Token.scan?_intercalate hscans) rfl rfl, ofTokens?_array htrees⟩

/-- A member of an object: the document of a key, and the document of a value behind a colon. -/
def Node.IsMember (d : List (Option Char)) (n : Option String × Node) : Prop :=
  ∃ key value, d = key ++ some ':' :: value ∧ Token.scan? key = some [.text n.1] ∧
    read? value = some n.2

/-- **An object of documents** is read as the object of their trees, members in order and repeated
names kept. -/
theorem Node.read?_members {ds : List (List (Option Char))} {ns : List (Option String × Node)}
    (h : List.Forall₂ IsMember ds ns) :
    read? (some '{' :: ([some ','].intercalate ds ++ [some '}'])) = some (.object ns) := by
  have htokens : ∃ tss : List (Option String × List Token),
      List.Forall₂ (fun d ts => Token.scan? d = some ts) ds (tss.map Token.ofMember) ∧
      List.Forall₂ (fun m n => m.1 = n.1 ∧ ofTokens? m.2 = some n.2) tss ns := by
    induction h with
    | nil => exact ⟨[], .nil, .nil⟩
    | @cons d n ds ns hm _ ih =>
      obtain ⟨key, value, rfl, hkey, hvalue⟩ := hm
      obtain ⟨ts, hscan, htree⟩ := read?_eq_some.mp hvalue
      obtain ⟨tss, hscans, htrees⟩ := ih
      refine ⟨(n.1, ts) :: tss, .cons ?_ hscans, .cons ⟨rfl, htree⟩ htrees⟩
      rw [Token.scan?_append_punctuation hkey rfl, hscan]
      rfl
  obtain ⟨tss, hscans, htrees⟩ := htokens
  exact read?_eq_some.mpr
    ⟨_, Token.scan?_enclosed (Token.scan?_intercalate hscans) rfl rfl, ofTokens?_object htrees⟩

/-- Members whose keys are written as texts are written. -/
theorem Node.read?_object {ms : List (String × List (Option Char))} {ns : List (String × Node)}
    (h : List.Forall₂ (fun m n => m.1 = n.1 ∧ read? m.2 = some n.2) ms ns) :
    read? (some '{' :: ([some ','].intercalate
        (ms.map fun m => (quoted m.1).map some ++ some ':' :: m.2) ++ [some '}']))
      = some (.object (ns.map fun n => (some n.1, n.2))) := by
  refine read?_members ?_
  rw [List.forall₂_map_left_iff, List.forall₂_map_right_iff]
  refine h.imp fun m n hm => ⟨(quoted m.1).map some, m.2, rfl, ?_, hm.2⟩
  rw [Token.scan?_quoted, hm.1]

/-! ### Documents as they are written -/

mutual

/-- The tree of a document. -/
def node : Json → Node
  | .null => .null
  | .bool b => .bool b
  | .number n => .number (some n)
  | .string s => .string (some s)
  | .array items => .array (itemNodes items)
  | .object members => .object (memberNodes members)

/-- The trees of the items of an array. -/
def itemNodes : List Json → List Node
  | [] => []
  | j :: r => j.node :: itemNodes r

/-- The trees of the members of an object. -/
def memberNodes : List (String × Json) → List (Option String × Node)
  | [] => []
  | (k, j) :: r => (some k, j.node) :: memberNodes r

end

theorem itemNodes_eq_map (js : List Json) : itemNodes js = js.map node := by
  induction js with
  | nil => rfl
  | cons j js ih => rw [itemNodes, ih, List.map_cons]

theorem memberNodes_eq_map (ms : List (String × Json)) :
    memberNodes ms = ms.map fun m => (some m.1, m.2.node) := by
  induction ms with
  | nil => rfl
  | cons m ms ih => rw [memberNodes, ih, List.map_cons]

mutual

/-- The check for faults leaves out nothing: a document without faults has the tree that it was made
of, with every member in its place. -/
theorem node_of_jsonWithin? {depth : Nat} :
    ∀ {n : Node} {j : Json}, n.jsonWithin? depth = some j → j.node = n
  | .null, _, h => by cases h; rfl
  | .bool _, _, h => by cases h; rfl
  | .number _, _, h => by
    obtain ⟨x, rfl, rfl⟩ := Option.map_eq_some_iff.mp h
    rfl
  | .string _, _, h => by
    obtain ⟨s, rfl, rfl⟩ := Option.map_eq_some_iff.mp h
    rfl
  | .array items, _, h => by
    cases depth with
    | zero => cases h
    | succ d =>
      obtain ⟨js, hjs, rfl⟩ := Option.map_eq_some_iff.mp h
      rw [node, itemNodes_of_itemsWithin? hjs]
  | .object members, _, h => by
    cases depth with
    | zero => cases h
    | succ d =>
      obtain ⟨ms, hms, rfl⟩ := Option.map_eq_some_iff.mp h
      rw [node, memberNodes_of_membersWithin? hms]

/-- Items without faults are the items of the tree. -/
theorem itemNodes_of_itemsWithin? {depth : Nat} :
    ∀ {ns : List Node} {js : List Json}, itemsWithin? depth ns = some js → itemNodes js = ns
  | [], _, h => by cases h; rfl
  | n :: ns, _, h => by
    rcases hj : n.jsonWithin? depth with _ | j
    · simp [itemsWithin?, hj] at h
    · simp only [itemsWithin?, hj] at h
      obtain ⟨js, hjs, rfl⟩ := Option.map_eq_some_iff.mp h
      rw [itemNodes, node_of_jsonWithin? hj, itemNodes_of_itemsWithin? hjs]

theorem memberNodes_of_membersWithin? {depth : Nat} :
    ∀ {ns : List (Option String × Node)} {ms : List (String × Json)},
      membersWithin? depth ns = some ms → memberNodes ms = ns
  | [], _, h => by cases h; rfl
  | (k, n) :: ns, _, h => by
    rcases k with _ | k
    · simp [membersWithin?] at h
    · rcases hj : n.jsonWithin? depth with _ | j
      · simp [membersWithin?, hj] at h
      · simp only [membersWithin?, hj] at h
        obtain ⟨ms, hms, rfl⟩ := Option.map_eq_some_iff.mp h
        rw [memberNodes, node_of_jsonWithin? hj, memberNodes_of_membersWithin? hms]

end

/-- A document without faults has the tree that was read. -/
theorem node_of_read? {d : List (Option Char)} {j : Json} (h : Json.read? d = some j) :
    Node.read? d = some j.node := by
  obtain ⟨n, hn, hj⟩ := Option.bind_eq_some_iff.mp h
  rw [hn, node_of_jsonWithin? hj]

/-- Documents without numbers. -/
inductive Numberless : Json → Prop
  | null : Numberless .null
  | bool (b : Bool) : Numberless (.bool b)
  | string (s : String) : Numberless (.string s)
  | array {items : List Json} (h : ∀ j ∈ items, Numberless j) : Numberless (.array items)
  | object {members : List (String × Json)} (h : ∀ m ∈ members, Numberless m.2) :
    Numberless (.object members)

attribute [simp] Numberless.null Numberless.bool Numberless.string

@[simp] theorem numberless_array_iff {items : List Json} :
    (array items).Numberless ↔ ∀ j ∈ items, j.Numberless := by
  refine ⟨fun h => ?_, .array⟩
  cases h with
  | array h => exact h

@[simp] theorem numberless_object_iff {members : List (String × Json)} :
    (object members).Numberless ↔ ∀ m ∈ members, m.2.Numberless := by
  refine ⟨fun h => ?_, .object⟩
  cases h with
  | object h => exact h

/-- The items of an array are written with commas between them. -/
theorem map_some_itemsChars (js : List Json) :
    (itemsChars js).map some = [some ','].intercalate (js.map fun j => j.chars.map some) := by
  induction js with
  | nil => rfl
  | cons j js ih =>
    cases js with
    | nil => simp [itemsChars]
    | cons j' js =>
      have hcons : itemsChars (j :: j' :: js) = j.chars ++ ',' :: itemsChars (j' :: js) := rfl
      rw [hcons, List.map_append, List.map_cons, ih]
      simp

/-- The members of an object are written with commas between them, each with its name in quotes. -/
theorem map_some_membersChars (ms : List (String × Json)) :
    (membersChars ms).map some = [some ','].intercalate
      (ms.map fun m => (quoted m.1).map some ++ some ':' :: m.2.chars.map some) := by
  induction ms with
  | nil => rfl
  | cons m ms ih =>
    cases ms with
    | nil => simp [membersChars]
    | cons m' ms =>
      have hcons : membersChars (m :: m' :: ms)
          = quoted m.1 ++ ':' :: (m.2.chars ++ ',' :: membersChars (m' :: ms)) := rfl
      rw [hcons, List.map_append, List.map_cons, List.map_append, List.map_cons, ih]
      simp

/-- **What is written is read back**: the characters of a document without numbers spell that
document. -/
theorem Node.read?_chars {j : Json} (h : j.Numberless) :
    read? (j.chars.map some) = some j.node := by
  induction h with
  | null => rfl
  | bool b => cases b <;> rfl
  | string s => exact read?_eq_some.mpr ⟨_, Token.scan?_quoted s, rfl⟩
  | @array items _ ih =>
    have hitems : List.Forall₂ (fun d n => read? d = some n)
        (items.map fun j => j.chars.map some) (items.map node) := by
      rw [List.forall₂_map_left_iff, List.forall₂_map_right_iff, List.forall₂_same]
      exact ih
    have hread := read?_array hitems
    rw [chars, node, itemNodes_eq_map, ← hread, List.map_cons, List.map_append,
      map_some_itemsChars]
    rfl
  | @object members _ ih =>
    have hmembers : List.Forall₂ (fun m n => m.1 = n.1 ∧ read? m.2 = some n.2)
        (members.map fun m => (m.1, m.2.chars.map some))
        (members.map fun m => (m.1, m.2.node)) := by
      rw [List.forall₂_map_left_iff, List.forall₂_map_right_iff, List.forall₂_same]
      exact fun m hm => ⟨rfl, ih m hm⟩
    have hread := read?_object hmembers
    rw [List.map_map, List.map_map] at hread
    rw [chars, node, memberNodes_eq_map, List.map_cons, List.map_append, map_some_membersChars]
    exact hread

end DeviceHost.Json
