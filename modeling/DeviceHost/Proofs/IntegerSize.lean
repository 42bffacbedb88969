import DeviceHost.Proofs.Integers
import DeviceHost.Toml.Document

/-!
# Integers of TOML have 64 bits

Every integer that a document says has 64 bits, wherever it stands: as the value of an entry, in an
array, in a table in braces, or in a table that was put together from several sections.

* `Value.Sized` — all integers of a value have 64 bits, and `Entries.Sized` for those of a table;
* `sized_readValue` — the values that are read are like that;
* `Entries.sized_amend` — changing the table that a path leads to keeps to it;
* `sized_table?` — so does the whole table of a text.
-/

namespace DeviceHost.Toml

/-- All integers of a value have 64 bits. -/
inductive Value.Sized : Value → Prop
  | text (s : String) : Sized (.text s)
  | integer {i : Int} (h : (Numeral.Range.signed 64).Holds i) : Sized (.integer i)
  | float (x : Numeral.Floating .double) : Sized (.float x)
  | flag (b : Bool) : Sized (.flag b)
  | moment (m : String) : Sized (.moment m)
  | array {items : List Value} (h : ∀ v ∈ items, Sized v) : Sized (.array items)
  | table {o : Origin} {es : Entries} (h : ∀ e ∈ es, Sized e.2) : Sized (.table o es)
  | tables {elements : List Entries} (h : ∀ es ∈ elements, ∀ e ∈ es, Sized e.2) :
    Sized (.tables elements)

/-- All integers of a table have 64 bits. -/
def Entries.Sized (es : Entries) : Prop := ∀ e ∈ es, e.2.Sized

namespace Value.Sized

theorem holds {i : Int} (h : Sized (.integer i)) : (Numeral.Range.signed 64).Holds i := by
  cases h with
  | integer h => exact h

theorem items {vs : List Value} (h : Sized (.array vs)) : ∀ v ∈ vs, v.Sized := by
  cases h with
  | array h => exact h

theorem entries {o : Origin} {es : Entries} (h : Sized (.table o es)) : es.Sized := by
  cases h with
  | table h => exact h

theorem elements {ts : List Entries} (h : Sized (.tables ts)) : ∀ t ∈ ts, t.Sized := by
  cases h with
  | tables h => exact h

end Value.Sized

/-- All integers of an entry have 64 bits. -/
def Entry.Sized (e : Entry) : Prop := e.value.Sized

/-! ### Words -/

theorem holds_radix? {base : Nat} {cs : List Char} {i : Int} (h : radix? base cs = some i) :
    (Numeral.Range.signed 64).Holds i := by
  rw [radix?] at h
  split at h
  · cases h
  · split at h
    case isTrue hle =>
      obtain rfl := Option.some.inj h
      exact ⟨by omega, Int.ofNat_le.mpr hle⟩
    case isFalse => cases h

/-- An integer is taken only if it fits into 64 bits. -/
theorem holds_integer? {cs : List Char} {i : Int} (h : integer? cs = some i) :
    (Numeral.Range.signed 64).Holds i := by
  rw [integer?.eq_def] at h
  split at h
  · exact holds_radix? h
  · exact holds_radix? h
  · exact holds_radix? h
  · dsimp only at h
    split at h
    · cases h
    · rename_i digits _
      rcases hparse : (Numeral.Range.signed 64).parse ((takeSign cs).1 ++ digits) with e | j
      · rw [hparse] at h
        cases h
      · rw [hparse] at h
        obtain rfl := Option.some.inj h
        exact (Numeral.Range.parse_eq_ok_iff.mp hparse).2

theorem Value.sized_ofWord? {cs : List Char} {v : Value} (h : ofWord? cs = some v) : v.Sized := by
  rw [ofWord?] at h
  split at h
  · exact Option.some.inj h ▸ .flag true
  · split at h
    · exact Option.some.inj h ▸ .flag false
    · split at h
      · rename_i hi
        exact Option.some.inj h ▸ .integer (holds_integer? hi)
      · split at h
        · exact Option.some.inj h ▸ .float _
        · obtain ⟨m, -, rfl⟩ := Option.map_eq_some_iff.mp h
          exact .moment _

/-- A reader of values whose integers have 64 bits. -/
def ReadsSized (read : Reader Value) : Prop :=
  ∀ {cs r : List Char} {v : Value}, read cs = some (v, r) → v.Sized

theorem sized_readWord : ReadsSized readWord := by
  intro cs r v h
  rw [readWord] at h
  split at h
  · rename_i found hlong
    obtain rfl := Option.some.inj h
    split at hlong
    · split at hlong
      · obtain ⟨m, -, hm⟩ := Option.map_eq_some_iff.mp hlong
        obtain ⟨rfl, -⟩ := Prod.mk.inj hm
        exact .moment _
      · cases hlong
    · cases hlong
  · obtain ⟨v', hv', hv⟩ := Option.map_eq_some_iff.mp h
    obtain ⟨rfl, -⟩ := Prod.mk.inj hv
    exact Value.sized_ofWord? hv'

theorem sized_readScalar : ReadsSized readScalar := by
  intro cs r v h
  rw [readScalar.eq_def] at h
  split at h
  · cases h
  · split at h
    · obtain ⟨t, -, ht⟩ := Option.map_eq_some_iff.mp h
      obtain ⟨rfl, -⟩ := Prod.mk.inj ht
      exact .text _
    · exact sized_readWord h

/-! ### Tables -/

namespace Entries

/-- Assigning a sized value keeps the entries sized. -/
theorem sized_assign {k : String} {v : Value} {es : Entries} (hv : v.Sized) (hes : Sized es) :
    Sized (assign k v es) := by
  induction es with
  | nil => exact List.forall_mem_singleton.mpr hv
  | cons e es ih =>
    obtain ⟨he, hes⟩ := List.forall_mem_cons.mp hes
    rw [assign]
    split
    · exact List.forall_mem_cons.mpr ⟨hv, hes⟩
    · exact List.forall_mem_cons.mpr ⟨he, ih hes⟩

/-- What is found in sized entries is sized. -/
theorem Sized.of_lookup {es : Entries} (hes : Sized es) {k : String} {v : Value}
    (h : es.lookup k = some v) : v.Sized := by
  obtain ⟨before, after, rfl, -⟩ := List.lookup_eq_some_iff.mp h
  exact hes (k, v) (by simp)

/-- What is made of the table that a path leads to may be anything whose integers have 64 bits; the
tables around it stay as they are. -/
theorem sized_amend {way : Way} {change : Origin → Entries → Option Entries}
    (hchange : ∀ {o es es'}, Sized es → change o es = some es' → Sized es')
    {path : List String} {o : Origin} {es es' : Entries} (hes : Sized es)
    (h : amend way change path o es = some es') : Sized es' := by
  induction path generalizing o es es' with
  | nil => exact hchange hes h
  | cons k ks ih =>
    rw [amend] at h
    split at h
    case h_1 =>
      obtain ⟨inner, hinner, rfl⟩ := Option.map_eq_some_iff.mp h
      exact sized_assign (.table (ih (List.forall_mem_nil _) hinner)) hes
    case h_2 hlookup =>
      split at h
      case isTrue =>
        obtain ⟨inner, hinner, rfl⟩ := Option.map_eq_some_iff.mp h
        -- the path leads through a table that is there
        have hbegun := (hes.of_lookup hlookup).entries
        exact sized_assign (.table (ih hbegun hinner)) hes
      case isFalse => cases h
    case h_3 elements hlookup =>
      split at h
      case h_1 last hlast =>
        obtain ⟨inner, hinner, rfl⟩ := Option.map_eq_some_iff.mp h
        -- or through the last table of an array, and the others stay
        have helements := (hes.of_lookup hlookup).elements
        have hbegun := helements last (List.mem_of_getLast? hlast)
        refine sized_assign (.tables (List.forall_mem_append.mpr ⟨fun t ht => ?_, ?_⟩)) hes
        · exact helements t (List.dropLast_subset _ ht)
        · exact List.forall_mem_singleton.mpr (ih hbegun hinner)
      case h_2 => cases h
    case h_4 => cases h

/-- An entry that may be added keeps the table sized. -/
theorem sized_addEntry {es es' : Entries} {e : Entry} (hes : Sized es) (he : e.Sized)
    (h : addEntry es e = some es') : Sized es' := by
  rw [addEntry] at h
  refine sized_amend (fun {o inner inner'} hinner hadd => ?_) hes h
  split at hadd
  · cases hadd
  · obtain rfl := Option.some.inj hadd
    exact List.forall_mem_append.mpr ⟨hinner, List.forall_mem_singleton.mpr he⟩

end Entries

/-- What each step of a fold keeps, the whole fold keeps. -/
theorem foldlM_invariant {σ α : Type} {step : σ → α → Option σ} {P : σ → Prop} {Q : α → Prop}
    (hstep : ∀ {s s' a}, P s → Q a → step s a = some s' → P s') {as : List α} {s s' : σ}
    (hs : P s) (has : ∀ a ∈ as, Q a) (h : as.foldlM step s = some s') : P s' := by
  induction as generalizing s with
  | nil => exact Option.some.inj h ▸ hs
  | cons a as ih =>
    obtain ⟨ha, has⟩ := List.forall_mem_cons.mp has
    rw [List.foldlM_cons] at h
    obtain ⟨t, ht, hrest⟩ := Option.bind_eq_some_iff.mp h
    exact ih (hstep hs ha ht) has hrest

theorem Entries.sized_addEntries {es es' : Entries} {added : List Entry} (hes : Sized es)
    (hadded : ∀ e ∈ added, e.Sized) (h : addEntries es added = some es') : Sized es' :=
  foldlM_invariant sized_addEntry hes hadded h

/-! ### Values -/

section Nested

variable {read : Reader Value} (hread : ReadsSized read)
include hread

/-- The items of an array are sized if single values are. -/
theorem sized_readItems {cs r : List Char} {items : List Value}
    (h : readItems read cs = some (items, r)) : ∀ v ∈ items, v.Sized := by
  fun_induction readItems read cs generalizing items with
  | case1 =>
    obtain ⟨rfl, -⟩ := Prod.mk.inj (Option.some.inj h)
    exact List.forall_mem_nil _
  | case3 =>
    rename_i hitem ih
    obtain ⟨t, ht, hitems⟩ := Option.map_eq_some_iff.mp h
    obtain ⟨rfl, rfl⟩ := Prod.mk.inj hitems
    exact List.forall_mem_cons.mpr ⟨hread hitem, ih ht⟩
  | case5 =>
    rename_i hitem
    obtain ⟨rfl, -⟩ := Prod.mk.inj (Option.some.inj h)
    exact List.forall_mem_singleton.mpr (hread hitem)
  | _ => cases h

theorem sized_readEntry {cs r : List Char} {e : Entry} (h : readEntry read cs = some (e, r)) :
    e.Sized := by
  rw [readEntry] at h
  split at h
  · obtain ⟨t, ht, he⟩ := Option.map_eq_some_iff.mp h
    obtain ⟨rfl, -⟩ := Prod.mk.inj he
    exact hread ht
  · cases h

theorem sized_readMembers {cs r : List Char} {es : List Entry}
    (h : readMembers read cs = some (es, r)) : ∀ e ∈ es, e.Sized := by
  fun_induction readMembers read cs generalizing es with
  | case1 =>
    rename_i hentry _ ih
    obtain ⟨t, ht, hes⟩ := Option.map_eq_some_iff.mp h
    obtain ⟨rfl, rfl⟩ := Prod.mk.inj hes
    exact List.forall_mem_cons.mpr ⟨sized_readEntry hread hentry, ih ht⟩
  | case3 =>
    rename_i hentry
    obtain ⟨rfl, -⟩ := Prod.mk.inj (Option.some.inj h)
    exact List.forall_mem_singleton.mpr (sized_readEntry hread hentry)
  | _ => cases h

theorem sized_readBraces {cs r : List Char} {v : Value} (h : readBraces read cs = some (v, r)) :
    v.Sized := by
  rw [readBraces] at h
  split at h
  · obtain ⟨rfl, -⟩ := Prod.mk.inj (Option.some.inj h)
    exact .table (List.forall_mem_nil _)
  · split at h
    · cases h
    · rename_i hmembers
      obtain ⟨t, ht, hv⟩ := Option.map_eq_some_iff.mp h
      obtain ⟨rfl, -⟩ := Prod.mk.inj hv
      have hadded := sized_readMembers hread hmembers
      exact .table (Entries.sized_addEntries (List.forall_mem_nil _) hadded ht)

end Nested

/-- **The integers of a value that is read have 64 bits**, however deep they are in it. -/
theorem sized_readValue (depth : Nat) : ReadsSized (readValue depth) := by
  induction depth with
  | zero => exact sized_readScalar
  | succ depth ih =>
    intro cs r v h
    rw [readValue.eq_def] at h
    split at h
    · rename_i heq
      cases heq
    · cases h
    · rename_i heq
      obtain rfl := Nat.succ.inj heq
      split at h
      · obtain ⟨t, ht, hv⟩ := Option.map_eq_some_iff.mp h
        obtain ⟨rfl, -⟩ := Prod.mk.inj hv
        exact .array (sized_readItems ih ht)
      · split at h
        · exact sized_readBraces ih h
        · exact sized_readScalar h

/-! ### Documents -/

/-- All integers of a line have 64 bits. -/
def Line.Sized (l : Line) : Prop := ∀ e, l = .entry e → e.Sized

theorem sized_readStart {cs r : List Char} {l : Line} (h : readStart cs = some (l, r)) :
    l.Sized := by
  rintro e rfl
  rw [readStart] at h
  split at h
  case h_6 =>
    obtain ⟨t, ht, hl⟩ := Option.map_eq_some_iff.mp h
    obtain ⟨he, -⟩ := Prod.mk.inj hl
    obtain rfl := Line.entry.inj he
    exact sized_readEntry (sized_readValue _) ht
  case h_4 => split at h <;> cases h
  case h_5 => split at h <;> cases h
  all_goals cases h

/-- All lines of a document are sized. -/
theorem sized_readLines {cs : List Char} {ls : List Line} (h : readLines cs = some ls) :
    ∀ l ∈ ls, l.Sized := by
  fun_induction readLines cs generalizing ls with
  | case1 => exact Option.some.inj h ▸ List.forall_mem_nil _
  | case3 =>
    rename_i hline _ ih
    obtain ⟨rest, hrest, rfl⟩ := Option.map_eq_some_iff.mp h
    refine List.forall_mem_cons.mpr ⟨?_, ih hrest⟩
    rw [readLine] at hline
    split at hline
    · cases hline
    · rename_i hstart
      obtain ⟨r, -, hl⟩ := Option.map_eq_some_iff.mp hline
      obtain ⟨rfl, -⟩ := Prod.mk.inj hl
      exact sized_readStart hstart
  | _ => cases h

/-- All integers of a section have 64 bits. -/
def Section.Sized (s : Section) : Prop := ∀ e ∈ s.entries, e.Sized

theorem sized_ofLines {ls : List Line} (h : ∀ l ∈ ls, l.Sized) :
    (∀ e ∈ (Document.ofLines ls).preamble, e.Sized) ∧
      ∀ s ∈ (Document.ofLines ls).sections, s.Sized := by
  induction ls with
  | nil => exact ⟨List.forall_mem_nil _, List.forall_mem_nil _⟩
  | cons l ls ih =>
    obtain ⟨hl, hls⟩ := List.forall_mem_cons.mp h
    obtain ⟨hpreamble, hsections⟩ := ih hls
    -- a header opens a section with the entries that were the preamble of the later lines
    have hstarted (s : Section) (hs : s.entries = (Document.ofLines ls).preamble) :
        ∀ s' ∈ s :: (Document.ofLines ls).sections, s'.Sized := by
      refine List.forall_mem_cons.mpr ⟨?_, hsections⟩
      rwa [Section.Sized, hs]
    cases l with
    | blank => exact ⟨hpreamble, hsections⟩
    | entry e => exact ⟨List.forall_mem_cons.mpr ⟨hl e rfl, hpreamble⟩, hsections⟩
    | header path key => exact ⟨List.forall_mem_nil _, hstarted ⟨false, path, key, _⟩ rfl⟩
    | element path key => exact ⟨List.forall_mem_nil _, hstarted ⟨true, path, key, _⟩ rfl⟩

theorem Entries.sized_place {s : Section} {es es' : Entries} (hes : Sized es) (hs : s.Sized)
    (h : s.place es = some es') : Sized es' := by
  rw [Section.place] at h
  split at h
  case h_1 =>
    obtain ⟨t, ht, rfl⟩ := Option.map_eq_some_iff.mp h
    exact sized_assign (.table (sized_addEntries (List.forall_mem_nil _) hs ht)) hes
  case h_2 hlookup =>
    obtain ⟨t, ht, rfl⟩ := Option.map_eq_some_iff.mp h
    have hbegun := (hes.of_lookup hlookup).entries
    exact sized_assign (.table (sized_addEntries hbegun hs ht)) hes
  case h_3 =>
    obtain ⟨t, ht, rfl⟩ := Option.map_eq_some_iff.mp h
    have htable := sized_addEntries (List.forall_mem_nil _) hs ht
    exact sized_assign (.tables (List.forall_mem_singleton.mpr htable)) hes
  case h_4 hlookup =>
    obtain ⟨t, ht, rfl⟩ := Option.map_eq_some_iff.mp h
    have helements := (hes.of_lookup hlookup).elements
    have htable := sized_addEntries (List.forall_mem_nil _) hs ht
    refine sized_assign (.tables (List.forall_mem_append.mpr ⟨helements, ?_⟩)) hes
    exact List.forall_mem_singleton.mpr htable
  case h_5 => cases h

/-- A section that may be added keeps the table sized. -/
theorem Entries.sized_addSection {es es' : Entries} {s : Section} (hes : Sized es) (hs : s.Sized)
    (h : addSection es s = some es') : Sized es' :=
  sized_amend (fun hinner hplace => sized_place hinner hs hplace) hes h

/-- **The integers of a document have 64 bits.** -/
theorem sized_table? {cs : List Char} {es : Entries} (h : table? cs = some es) : es.Sized := by
  rw [table?] at h
  split at h
  · cases h
  · rename_i ls hlines
    obtain ⟨hpreamble, hsections⟩ := sized_ofLines (sized_readLines hlines)
    rw [Document.table?] at h
    split at h
    · cases h
    · rename_i begun hbegun
      have hfirst := Entries.sized_addEntries (List.forall_mem_nil _) hpreamble hbegun
      exact foldlM_invariant Entries.sized_addSection hfirst hsections h

end DeviceHost.Toml
