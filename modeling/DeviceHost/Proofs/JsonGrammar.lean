import DeviceHost.Proofs.JsonLexemes
import DeviceHost.Proofs.Traversal

/-!
# The grammar of JSON documents

Which characters spell a document is said here by rules, one for each kind of value, without the two
machines that read it. An integer that 64 bits can hold, signed or unsigned, stands for itself when
it is written in decimal digits; any other number stands for what the conversion makes of its parts.

* `Node.Spelled` — the rules;
* `Node.read?_of_spelled` — what the rules allow is read;
* `Build.Leaves` — what the rest of a document has to be, in the middle of its reading: the
  containers that are open demand their further elements, innermost first;
* `Build.leaves_step` — one lexeme keeps account of that;
* `Node.read?_eq_some_iff` — a document is read exactly if the rules allow it;
* `Within` — how deep a document is nested;
* `SpelledBy` and `ofText?_eq_some_iff` — the texts that spell a document without faults.
-/

namespace DeviceHost.Json

/-! ### Parts with commas between them -/

theorem intercalate_cons {α : Type} (sep x : List α) (xs : List (List α)) :
    sep.intercalate (x :: xs) = x ++ xs.flatMap (sep ++ ·) := by
  induction xs generalizing x with
  | nil => simp
  | cons y ys ih =>
    rw [List.intercalate_cons_cons, ih]
    simp

theorem map_intercalate {α β : Type} (f : α → β) (sep : List α) (xs : List (List α)) :
    (sep.intercalate xs).map f = (sep.map f).intercalate (xs.map (List.map f)) := by
  cases xs with
  | nil => rfl
  | cons x xs =>
    rw [intercalate_cons, List.map_cons, intercalate_cons]
    simp [List.map_flatMap, List.flatMap_map]

/-! ### Rules -/

/-- A key, with blanks around it. -/
inductive IsKey : List Char → Option String → Prop
  | mk {before w after : List Char} {o : Option String} (hbefore : ∀ c ∈ before, isSpace c = true)
    (hw : SpelledText w o) (hafter : ∀ c ∈ after, isSpace c = true) :
    IsKey (before ++ (w ++ after)) o

/-- A member of an object: its parts, and what they stand for. -/
structure Part where
  /-- the characters of the key -/
  key : List Char
  /-- the name that the key stands for -/
  name : Option String
  /-- the characters of the value -/
  value : List Char
  /-- the tree of the value -/
  node : Node

/-- The characters of a member. -/
def Part.chars (p : Part) : List Char := p.key ++ ':' :: p.value

/-- What characters stand for, by the kind of value. -/
inductive Node.Spelled : List Char → Node → Prop
  | null : Spelled ['n', 'u', 'l', 'l'] .null
  | yes : Spelled ['t', 'r', 'u', 'e'] (.bool true)
  | no : Spelled ['f', 'a', 'l', 's', 'e'] (.bool false)
  /-- an integer that 64 bits can hold -/
  | integer {i : Int} (h : FitsWord i) : Spelled (Numeral.ofInt i) (.number (some (.integer i)))
  /-- any other number -/
  | number {cs : List Char} {l : Literal} (h : l.Spelled cs)
    (hother : ∀ i, FitsWord i → cs ≠ Numeral.ofInt i) : Spelled cs (.number l.number?)
  | text {w : List Char} {o : Option String} (h : SpelledText w o) : Spelled w (.string o)
  | emptyArray {gap : List Char} (h : ∀ c ∈ gap, isSpace c = true) :
    Spelled ('[' :: (gap ++ [']'])) (.array [])
  | array {items : List (List Char × Node)} (hne : items ≠ [])
    (h : ∀ p ∈ items, Spelled p.1 p.2) :
    Spelled ('[' :: ([','].intercalate (items.map Prod.fst) ++ [']']))
      (.array (items.map Prod.snd))
  | emptyObject {gap : List Char} (h : ∀ c ∈ gap, isSpace c = true) :
    Spelled ('{' :: (gap ++ ['}'])) (.object [])
  | object {parts : List Part} (hne : parts ≠ []) (hkeys : ∀ p ∈ parts, IsKey p.key p.name)
    (hvalues : ∀ p ∈ parts, Spelled p.value p.node) :
    Spelled ('{' :: ([','].intercalate (parts.map Part.chars) ++ ['}']))
      (.object (parts.map fun p => (p.name, p.node)))
  /-- a value with blanks around it -/
  | padded {before w after : List Char} {n : Node} (hbefore : ∀ c ∈ before, isSpace c = true)
    (hw : Spelled w n) (hafter : ∀ c ∈ after, isSpace c = true) :
    Spelled (before ++ (w ++ after)) n

/-! ### What the rules allow is read -/

/-- A blank begins neither a word nor a number. -/
theorem of_space {c : Char} (h : isSpace c = true) :
    ¬('a' ≤ c ∧ c ≤ 'z') ∧ isNumeric c = false := by
  simp only [isSpace, Bool.or_eq_true, beq_iff_eq, or_assoc] at h
  rcases h with rfl | rfl | rfl | rfl <;> decide

/-- A blank ends the lexeme before it and adds none. -/
theorem Scan.step_space {s : Scan} {found : List Token} (hs : s.settled? = some found) {c : Char}
    (h : isSpace c = true) : (s.step (some c)).settled? = some found := by
  obtain ⟨hword, hnumber⟩ := of_space h
  have hbegin (found : List Token) : (begin found c).settled? = some found := by
    rw [begin, if_pos h]
    rfl
  obtain ⟨found', mode⟩ := s
  cases mode with
  | gap =>
    obtain rfl := Option.some.inj hs
    exact hbegin _
  | word letters =>
    obtain ⟨t, ht, rfl⟩ := Option.map_eq_some_iff.mp hs
    simp only [step, hword, if_false, ht]
    exact hbegin _
  | number chars =>
    obtain ⟨t, ht, rfl⟩ := Option.map_eq_some_iff.mp hs
    simp only [step, hnumber, ht]
    exact hbegin _
  | _ => cases hs

/-- Blanks at the end add no lexeme. -/
theorem Token.scan?_append_spaces {d : List (Option Char)} {ts : List Token}
    (h : scan? d = some ts) {gap : List Char} (hgap : ∀ c ∈ gap, isSpace c = true) :
    scan? (d ++ gap.map some) = some ts := by
  rw [scan?, Scan.tokens?_eq] at h ⊢
  rw [List.foldl_append]
  generalize d.foldl Scan.step ⟨[], .gap⟩ = s at h
  induction gap generalizing s with
  | nil => exact h
  | cons c gap ih =>
    obtain ⟨hc, hgap⟩ := List.forall_mem_cons.mp hgap
    obtain ⟨found, hfound, rfl⟩ := Option.map_eq_some_iff.mp h
    refine ih hgap _ ?_
    rw [Scan.step_space hfound hc]
    rfl

/-- Blanks around lexemes do not count. -/
theorem Token.scan?_padded {before w after : List Char} {ts : List Token}
    (hbefore : ∀ c ∈ before, isSpace c = true) (h : scan? (w.map some) = some ts)
    (hafter : ∀ c ∈ after, isSpace c = true) :
    scan? ((before ++ (w ++ after)).map some) = some ts := by
  rw [List.map_append, scan?_spaces hbefore, List.map_append, scan?_append_spaces h hafter]

/-- Blanks alone hold no lexeme. -/
theorem Token.scan?_gap {gap : List Char} (h : ∀ c ∈ gap, isSpace c = true) :
    scan? (gap.map some) = some [] := by
  have hnil : scan? [] = some [] := rfl
  exact scan?_append_spaces hnil h

/-- A key is scanned as one text. -/
theorem IsKey.scan? {w : List Char} {o : Option String} (h : IsKey w o) :
    Token.scan? (w.map some) = some [.text o] := by
  obtain ⟨hbefore, hw, hafter⟩ := h
  exact Token.scan?_padded hbefore (Token.scan?_of_spelled (.text hw)) hafter

/-- Whatever the rules allow as a spelling of a tree is read as that tree. -/
theorem Node.read?_of_spelled {cs : List Char} {n : Node} (h : n.Spelled cs) :
    read? (cs.map some) = some n := by
  induction h with
  | null => rfl
  | yes => rfl
  | no => rfl
  | @integer i h =>
    -- the induction is on the rules; an integer that fits into a word is kept exactly
    obtain ⟨x, hx, hread⟩ := read?_ofInt (List.forall_mem_nil _) i
    cases hx with
    | exact => exact hread
    | rounded hout => exact absurd h hout
    | refused hout => exact absurd h hout
  | number h => exact read?_eq_some.mpr ⟨_, Token.scan?_of_spelled (.number h), rfl⟩
  | text h => exact read?_eq_some.mpr ⟨_, Token.scan?_of_spelled (.text h), rfl⟩
  | emptyArray h =>
    have hscan := Token.scan?_enclosed (Token.scan?_gap h) (a := '[') (z := ']') rfl rfl
    rw [List.map_cons, List.map_append]
    exact read?_eq_some.mpr ⟨_, hscan, rfl⟩
  | emptyObject h =>
    have hscan := Token.scan?_enclosed (Token.scan?_gap h) (a := '{') (z := '}') rfl rfl
    rw [List.map_cons, List.map_append]
    exact read?_eq_some.mpr ⟨_, hscan, rfl⟩
  | @array items _ _ ih =>
    have hitems : List.Forall₂ (fun d n => read? d = some n)
        (items.map fun p => p.1.map some) (items.map Prod.snd) := by
      rw [List.forall₂_map_left_iff, List.forall₂_map_right_iff, List.forall₂_same]
      exact ih
    have hread := read?_array hitems
    simpa [map_intercalate, Function.comp_def] using hread
  | @object parts _ hkeys _ ih =>
    have hmembers : List.Forall₂ IsMember (parts.map fun p => p.chars.map some)
        (parts.map fun p => (p.name, p.node)) := by
      rw [List.forall₂_map_left_iff, List.forall₂_map_right_iff, List.forall₂_same]
      intro p hp
      exact ⟨p.key.map some, p.value.map some, by simp [Part.chars], (hkeys p hp).scan?, ih p hp⟩
    have hread := read?_members hmembers
    simpa [map_intercalate, Function.comp_def] using hread
  | padded hbefore _ hafter ih =>
    obtain ⟨ts, hscan, htree⟩ := read?_eq_some.mp ih
    exact read?_eq_some.mpr ⟨ts, Token.scan?_padded hbefore hscan hafter, htree⟩

/-! ### What is read follows the rules -/

/-- A spelled text lexeme follows the rules of texts. -/
theorem Token.Spelled.spelledText {w : List Char} {o : Option String}
    (h : Token.Spelled w (.text o)) : SpelledText w o := by
  cases h with
  | punctuation h => cases h
  | text h => exact h

theorem Literal.Spelled.value {cs : List Char} {l : Literal} (h : l.Spelled cs) :
    (Node.number l.number?).Spelled cs := by
  by_cases hint : ∃ i, FitsWord i ∧ cs = Numeral.ofInt i
  · obtain ⟨i, hi, rfl⟩ := hint
    obtain ⟨ds, hds, hvalue⟩ := ofChars?_ofInt i
    obtain rfl := Option.some.inj ((ofChars?_eq_some_iff.mpr h).symm.trans hds)
    have hkept := kept_number? hvalue
    generalize number? _ = x at hkept
    cases hkept with
    | exact => exact .integer hi
    | rounded hout => exact absurd hi hout
    | refused hout => exact absurd hi hout
  · exact .number h fun i hi hcs => hint ⟨i, hi, hcs⟩

/-- A comma before each of some parts. -/
def commaEach (parts : List (List Char)) : List Char := parts.flatMap (',' :: ·)

theorem commaEach_eq {parts : List (List Char)} (h : parts ≠ []) :
    commaEach parts = ',' :: [','].intercalate parts := by
  cases parts with
  | nil => exact absurd rfl h
  | cons x xs =>
    rw [intercalate_cons, commaEach, List.flatMap_cons]
    rfl

namespace Build

/-- Behind an item of an array come further ones, and then the end of the array and what has to come
behind the whole array. -/
def RestItems (next : Node → List Char → Prop) (items : List Node) (cs : List Char) : Prop :=
  ∃ (gap : List Char) (more : List (List Char × Node)) (rest : List Char),
    cs = gap ++ (commaEach (more.map Prod.fst) ++ ']' :: rest) ∧ (∀ c ∈ gap, isSpace c = true) ∧
    (∀ p ∈ more, p.2.Spelled p.1) ∧ next (.array (items.reverse ++ more.map Prod.snd)) rest

/-- Behind a member of an object come further ones, and then the end of the object and what has to
come behind the whole object. -/
def RestMembers (next : Node → List Char → Prop) (members : List (Option String × Node))
    (cs : List Char) : Prop :=
  ∃ (gap : List Char) (more : List Part) (rest : List Char),
    cs = gap ++ (commaEach (more.map Part.chars) ++ '}' :: rest) ∧
    (∀ c ∈ gap, isSpace c = true) ∧ (∀ p ∈ more, IsKey p.key p.name) ∧
    (∀ p ∈ more, p.node.Spelled p.value) ∧
    next (.object (members.reverse ++ more.map fun p => (p.name, p.node))) rest

/-- What has to come behind a value when these containers are open around it, so that the whole
document has the tree `n`. -/
def After (n : Node) : List Frame → Node → List Char → Prop
  | [] => fun m cs => m = n ∧ ∀ c ∈ cs, isSpace c = true
  | .array items :: stack => fun m => RestItems (After n stack) (m :: items)
  | .object members k :: stack => fun m => RestMembers (After n stack) ((k, m) :: members)

/-- A value comes next. -/
def ValueNext (n : Node) (stack : List Frame) (cs : List Char) : Prop :=
  ∃ w rest m, cs = w ++ rest ∧ m.Spelled w ∧ After n stack m rest

/-- A key comes next, and then a colon and a value. -/
def KeyNext (n : Node) (members : List (Option String × Node)) (stack : List Frame)
    (cs : List Char) : Prop :=
  ∃ key k rest, cs = key ++ ':' :: rest ∧ IsKey key k ∧
    ValueNext n (.object members k :: stack) rest

/-- A punctuation character comes next, and then what is demanded. -/
def MarkNext (c : Char) (next : List Char → Prop) (cs : List Char) : Prop :=
  ∃ gap rest, cs = gap ++ c :: rest ∧ (∀ c ∈ gap, isSpace c = true) ∧ next rest

/-- What the rest of a document has to be, in the middle of its reading, so that the whole document
has the tree `n`. -/
def Leaves (n : Node) : Build → List Char → Prop
  | .value stack, cs => ValueNext n stack cs
  | .firstItem stack, cs =>
    MarkNext ']' (After n stack (.array [])) cs ∨ ValueNext n (.array [] :: stack) cs
  | .firstKey stack, cs => MarkNext '}' (After n stack (.object [])) cs ∨ KeyNext n [] stack cs
  | .nextKey members stack, cs => KeyNext n members stack cs
  | .colon members k stack, cs => MarkNext ':' (ValueNext n (.object members k :: stack)) cs
  | .afterItem items stack, cs => RestItems (After n stack) items cs
  | .afterMember members stack, cs => RestMembers (After n stack) members cs
  | .done m, cs => m = n ∧ ∀ c ∈ cs, isSpace c = true
  | .failed, _ => False

variable {n : Node} {stack : List Frame} {gap w cs : List Char}

/-- What may follow a value depends on the container that it is delivered to. -/
theorem leaves_deliver {m : Node} :
    (deliver m stack).Leaves n cs ↔ After n stack m cs := by
  rcases stack with _ | ⟨_ | _, stack⟩ <;> rfl

/-- The items of an array from one of them on. -/
theorem ValueNext.items {items : List Node} (h : ValueNext n (.array items :: stack) cs) :
    ∃ (more : List (List Char × Node)) (rest : List Char), more ≠ [] ∧
      cs = [','].intercalate (more.map Prod.fst) ++ ']' :: rest ∧
      (∀ p ∈ more, p.2.Spelled p.1) ∧
      After n stack (.array (items.reverse ++ more.map Prod.snd)) rest := by
  obtain ⟨w, _, m, rfl, hw, gap, more, rest, rfl, hgap, hmore, hafter⟩ := h
  -- blanks behind an item belong to it
  have hw' : m.Spelled (w ++ gap) := .padded (List.forall_mem_nil _) hw hgap
  refine ⟨(w ++ gap, m) :: more, rest, List.cons_ne_nil _ _, ?_,
    List.forall_mem_cons.mpr ⟨hw', hmore⟩, ?_⟩
  · rw [List.map_cons, intercalate_cons, commaEach]
    simp
  · simpa using hafter

/-- The members of an object from one of them on. -/
theorem KeyNext.members {members : List (Option String × Node)} (h : KeyNext n members stack cs) :
    ∃ (more : List Part) (rest : List Char), more ≠ [] ∧
      cs = [','].intercalate (more.map Part.chars) ++ '}' :: rest ∧
      (∀ p ∈ more, IsKey p.key p.name) ∧ (∀ p ∈ more, p.node.Spelled p.value) ∧
      After n stack (.object (members.reverse ++ more.map fun p => (p.name, p.node))) rest := by
  obtain ⟨key, k, _, rfl, hkey, w, _, m, rfl, hw, gap, more, rest, rfl, hgap, hkeys, hvalues,
    hafter⟩ := h
  have hw' : m.Spelled (w ++ gap) := .padded (List.forall_mem_nil _) hw hgap
  refine ⟨⟨key, k, w ++ gap, m⟩ :: more, rest, List.cons_ne_nil _ _, ?_,
    List.forall_mem_cons.mpr ⟨hkey, hkeys⟩, List.forall_mem_cons.mpr ⟨hw', hvalues⟩, ?_⟩
  · rw [List.map_cons, intercalate_cons, commaEach]
    simp [Part.chars]
  · simpa using hafter

/-- Where a value is due, a spelled one may stand behind blanks. -/
theorem valueNext_of_deliver {m : Node} (hgap : ∀ c ∈ gap, isSpace c = true) (hw : m.Spelled w)
    (h : (deliver m stack).Leaves n cs) : ValueNext n stack (gap ++ (w ++ cs)) := by
  refine ⟨gap ++ (w ++ []), cs, m, by simp, ?_, leaves_deliver.mp h⟩
  exact .padded hgap hw (List.forall_mem_nil _)

/-- Where a value is due, an opening bracket may stand behind blanks. -/
theorem valueNext_of_firstItem (hgap : ∀ c ∈ gap, isSpace c = true)
    (h : (firstItem stack).Leaves n cs) : ValueNext n stack (gap ++ '[' :: cs) := by
  rcases h with ⟨gap', rest, rfl, hgap', hafter⟩ | h
  · simpa using valueNext_of_deliver hgap (.emptyArray hgap') (leaves_deliver.mpr hafter)
  · obtain ⟨items, rest, hne, rfl, hitems, hafter⟩ := h.items
    simpa using valueNext_of_deliver hgap (.array hne hitems) (leaves_deliver.mpr hafter)

theorem valueNext_of_firstKey (hgap : ∀ c ∈ gap, isSpace c = true)
    (h : (firstKey stack).Leaves n cs) : ValueNext n stack (gap ++ '{' :: cs) := by
  rcases h with ⟨gap', rest, rfl, hgap', hafter⟩ | h
  · simpa using valueNext_of_deliver hgap (.emptyObject hgap') (leaves_deliver.mpr hafter)
  · obtain ⟨parts, rest, hne, rfl, hkeys, hvalues, hafter⟩ := h.members
    simpa using valueNext_of_deliver hgap (.object hne hkeys hvalues) (leaves_deliver.mpr hafter)

/-- Where a key is due, a spelled text may stand behind blanks. -/
theorem keyNext_of_colon {members : List (Option String × Node)} {k : Option String}
    (hgap : ∀ c ∈ gap, isSpace c = true) (hw : SpelledText w k)
    (h : (colon members k stack).Leaves n cs) : KeyNext n members stack (gap ++ (w ++ cs)) := by
  obtain ⟨gap', rest, rfl, hgap', hvalue⟩ := h
  exact ⟨gap ++ (w ++ gap'), k, rest, by simp, .mk hgap hw hgap', hvalue⟩

/-- The lexeme with which a value begins. -/
theorem leaves_begin {t : Token} (hgap : ∀ c ∈ gap, isSpace c = true) (hw : t.Spelled w)
    (h : (begin stack t).Leaves n cs) : ValueNext n stack (gap ++ (w ++ cs)) := by
  cases hw with
  | punctuation ht =>
    cases ht with
    | braceOpen => exact valueNext_of_firstKey hgap h
    | bracketOpen => exact valueNext_of_firstItem hgap h
    | _ => exact absurd h id
  | null => exact valueNext_of_deliver hgap .null h
  | yes => exact valueNext_of_deliver hgap .yes h
  | no => exact valueNext_of_deliver hgap .no h
  | number hl => exact valueNext_of_deliver hgap hl.value h
  | text hw => exact valueNext_of_deliver hgap (.text hw) h

/-- **One lexeme** keeps account of what the document has to be. -/
theorem leaves_step {b : Build} {t : Token} (hgap : ∀ c ∈ gap, isSpace c = true)
    (hw : t.Spelled w) (h : (b.step t).Leaves n cs) : b.Leaves n (gap ++ (w ++ cs)) := by
  cases b with
  | value stack => exact leaves_begin hgap hw h
  | firstItem stack =>
    -- a closing bracket makes the array an empty one
    by_cases ht : t = .bracketClose
    · subst ht
      obtain rfl := hw.eq_of_isPunctuation .bracketClose
      exact .inl ⟨gap, cs, rfl, hgap, leaves_deliver.mp h⟩
    · rw [step_firstItem ht] at h
      exact .inr (leaves_begin hgap hw h)
  | firstKey stack =>
    cases t with
    | braceClose =>
      obtain rfl := hw.eq_of_isPunctuation .braceClose
      exact .inl ⟨gap, cs, rfl, hgap, leaves_deliver.mp h⟩
    | text k => exact .inr (keyNext_of_colon hgap hw.spelledText h)
    | _ => exact absurd h id
  | nextKey members stack =>
    cases t with
    | text k => exact keyNext_of_colon hgap hw.spelledText h
    | _ => exact absurd h id
  | colon members k stack =>
    cases t with
    | colon =>
      obtain rfl := hw.eq_of_isPunctuation .colon
      exact ⟨gap, cs, rfl, hgap, h⟩
    | _ => exact absurd h id
  | afterItem items stack =>
    cases t with
    | comma =>
      obtain rfl := hw.eq_of_isPunctuation .comma
      -- behind a comma the items go on with at least one
      obtain ⟨more, rest, hne, rfl, hmore, hafter⟩ := ValueNext.items h
      refine ⟨gap, more, rest, ?_, hgap, hmore, hafter⟩
      rw [commaEach_eq (by simpa using hne)]
      rfl
    | bracketClose =>
      obtain rfl := hw.eq_of_isPunctuation .bracketClose
      refine ⟨gap, [], cs, rfl, hgap, List.forall_mem_nil _, ?_⟩
      simpa using leaves_deliver.mp h
    | _ => exact absurd h id
  | afterMember members stack =>
    cases t with
    | comma =>
      obtain rfl := hw.eq_of_isPunctuation .comma
      obtain ⟨more, rest, hne, rfl, hkeys, hvalues, hafter⟩ := KeyNext.members h
      refine ⟨gap, more, rest, ?_, hgap, hkeys, hvalues, hafter⟩
      rw [commaEach_eq (by simpa using hne)]
      rfl
    | braceClose =>
      obtain rfl := hw.eq_of_isPunctuation .braceClose
      refine ⟨gap, [], cs, rfl, hgap, List.forall_mem_nil _, List.forall_mem_nil _, ?_⟩
      simpa using leaves_deliver.mp h
    | _ => exact absurd h id
  | done m =>
    rw [step_done] at h
    exact absurd h id
  | failed =>
    rw [step_failed] at h
    exact absurd h id

/-- Lexemes that build a tree were spelled by what the rules allow for it. -/
theorem leaves_of_foldl {b : Build} {ts : List Token} (hcs : Lexes cs ts)
    (h : ts.foldl step b = .done n) : b.Leaves n cs := by
  induction hcs generalizing b with
  | nil hgap =>
    obtain rfl : b = .done n := h
    exact ⟨rfl, hgap⟩
  | cons hgap hw _ ih => exact leaves_step hgap hw (ih h)

end Build

/-- A tree is read only from what the rules allow as its spelling. -/
theorem Node.spelled_of_read? {cs : List Char} {n : Node} (h : read? (cs.map some) = some n) :
    n.Spelled cs := by
  obtain ⟨ts, hscan, htree⟩ := read?_eq_some.mp h
  have hdone : ts.foldl Build.step (.value []) = .done n := Build.foldl_value htree []
  obtain ⟨w, rest, m, rfl, hw, rfl, hrest⟩ :=
    Build.leaves_of_foldl (Token.lexes_of_scan? hscan) hdone
  exact .padded (List.forall_mem_nil _) hw hrest

/-- **A document is read exactly if its characters spell it**, and what is read is what they
spell. -/
theorem Node.read?_eq_some_iff {cs : List Char} {n : Node} :
    read? (cs.map some) = some n ↔ n.Spelled cs :=
  ⟨spelled_of_read?, read?_of_spelled⟩

/-! ### Documents without faults -/

/-- Arrays and objects are nested at most this deep. -/
inductive Within : Nat → Json → Prop
  | null {depth : Nat} : Within depth .null
  | bool {depth : Nat} (b : Bool) : Within depth (.bool b)
  | number {depth : Nat} (n : Number) : Within depth (.number n)
  | string {depth : Nat} (s : String) : Within depth (.string s)
  | array {depth : Nat} {items : List Json} (h : ∀ j ∈ items, Within depth j) :
    Within (depth + 1) (.array items)
  | object {depth : Nat} {members : List (String × Json)} (h : ∀ m ∈ members, Within depth m.2) :
    Within (depth + 1) (.object members)

/-- Items are without faults exactly if each of them is. -/
theorem itemsWithin?_eq_some_iff {depth : Nat} {ns : List Node} {js : List Json} :
    itemsWithin? depth ns = some js ↔
      List.Forall₂ (fun n j => n.jsonWithin? depth = some j) ns js := by
  induction ns generalizing js with
  | nil => simp [itemsWithin?, eq_comm]
  | cons n ns ih =>
    rw [List.forall₂_cons_left_iff]
    rcases hn : n.jsonWithin? depth with _ | j
    · simp [itemsWithin?, hn]
    · simp [itemsWithin?, hn, ih, @eq_comm _ js]

/-- Members are without faults exactly if each of them and its name are. -/
theorem membersWithin?_eq_some_iff {depth : Nat} {ns : List (Option String × Node)}
    {ms : List (String × Json)} :
    membersWithin? depth ns = some ms ↔
      List.Forall₂ (fun n m => n.1 = some m.1 ∧ n.2.jsonWithin? depth = some m.2) ns ms := by
  induction ns generalizing ms with
  | nil => simp [membersWithin?, eq_comm]
  | cons n ns ih =>
    obtain ⟨k, n⟩ := n
    rw [List.forall₂_cons_left_iff]
    rcases k with _ | k
    · simp [membersWithin?]
    · rcases hn : n.jsonWithin? depth with _ | j
      · simp [membersWithin?, hn]
      · simp [membersWithin?, hn, ih, @eq_comm _ ms]

/-- A document that was taken within a depth is not nested deeper. -/
theorem within_of_jsonWithin? :
    ∀ {depth : Nat} {n : Node} {j : Json}, n.jsonWithin? depth = some j → j.Within depth
  | _, .null, _, h => by cases h; exact .null
  | _, .bool b, _, h => by cases h; exact .bool b
  | _, .number _, _, h => by
    obtain ⟨x, rfl, rfl⟩ := Option.map_eq_some_iff.mp h
    exact .number x
  | _, .string _, _, h => by
    obtain ⟨s, rfl, rfl⟩ := Option.map_eq_some_iff.mp h
    exact .string s
  | depth + 1, .array items, _, h => by
    obtain ⟨js, hjs, rfl⟩ := Option.map_eq_some_iff.mp h
    refine .array fun j hj => ?_
    obtain ⟨n, -, hn⟩ := exists_mem_of_forall₂ (itemsWithin?_eq_some_iff.mp hjs) hj
    exact within_of_jsonWithin? hn
  | depth + 1, .object members, _, h => by
    obtain ⟨ms, hms, rfl⟩ := Option.map_eq_some_iff.mp h
    refine .object fun m hm => ?_
    obtain ⟨n, -, -, hn⟩ := exists_mem_of_forall₂ (membersWithin?_eq_some_iff.mp hms) hm
    exact within_of_jsonWithin? hn

theorem Within.jsonWithin?_node {depth : Nat} {j : Json} (h : j.Within depth) :
    j.node.jsonWithin? depth = some j := by
  induction h with
  | null => rfl
  | bool b => rfl
  | number n => rfl
  | string s => rfl
  | @array depth items _ ih =>
    have hitems : itemsWithin? depth (itemNodes items) = some items := by
      rw [itemsWithin?_eq_some_iff, itemNodes_eq_map, List.forall₂_map_left_iff, List.forall₂_same]
      exact ih
    rw [node, Node.jsonWithin?, hitems]
    rfl
  | @object depth members _ ih =>
    have hmembers : membersWithin? depth (memberNodes members) = some members := by
      rw [membersWithin?_eq_some_iff, memberNodes_eq_map, List.forall₂_map_left_iff,
        List.forall₂_same]
      exact fun m hm => ⟨rfl, ih m hm⟩
    rw [node, Node.jsonWithin?, hmembers]
    rfl

/-- A tree is taken as a document exactly if it is the tree of that document, nested within the
depth. -/
theorem Node.jsonWithin?_eq_some_iff {depth : Nat} {n : Node} {j : Json} :
    n.jsonWithin? depth = some j ↔ j.node = n ∧ j.Within depth := by
  refine ⟨fun h => ⟨node_of_jsonWithin? h, within_of_jsonWithin? h⟩, ?_⟩
  rintro ⟨rfl, h⟩
  exact h.jsonWithin?_node

/-- A text spells a document without faults: it follows the rules, and arrays and objects are not
nested too deep. -/
structure SpelledBy (s : String) (j : Json) : Prop where
  spelled : j.node.Spelled s.toList
  within : j.Within depthLimit

/-- **The texts in which a document without faults is found** are those that spell it. -/
theorem ofText?_eq_some_iff {s : String} {j : Json} : ofText? s = some j ↔ j.SpelledBy s := by
  rw [ofText?, read?, Option.bind_eq_some_iff]
  constructor
  · rintro ⟨n, hn, hj⟩
    obtain ⟨rfl, hwithin⟩ := Node.jsonWithin?_eq_some_iff.mp hj
    exact ⟨Node.read?_eq_some_iff.mp hn, hwithin⟩
  · rintro ⟨hspelled, hwithin⟩
    exact ⟨j.node, Node.read?_eq_some_iff.mpr hspelled, hwithin.jsonWithin?_node⟩

/-- A text is refused exactly if it spells no document. -/
theorem ofText?_eq_none_iff {s : String} : ofText? s = none ↔ ∀ j : Json, ¬ j.SpelledBy s := by
  simp only [Option.eq_none_iff_forall_ne_some, ne_eq, ofText?_eq_some_iff]

end DeviceHost.Json
