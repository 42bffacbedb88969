/-!
# Tables

A table holds at most one value for each text key. It stands for the unordered string maps of the
device model (properties of a protocol, attributes of a resource, driver settings) and for the
indexes of the store and the profile cache.

The entries are kept sorted by key, without repetition, and that is part of the type, so the order
in which entries were put in never shows.

* `get?`, `insert`, `erase`, `ofList`, `toList`, `keys`, `values`, `size` — the operations;
* `get?_insert`, `get?_erase` — each operation read through `get?`.
-/

namespace DeviceHost

universe u

/-- Entries in strictly ascending order of their keys. -/
def Sorted {β : Type u} (es : List (String × β)) : Prop :=
  es.Pairwise fun a b => a.1 < b.1

/-- A finite map from texts, held as its entries in ascending order of keys. -/
structure Table (β : Type u) where
  /-- the entries, by ascending key -/
  entries : List (String × β)
  /-- no key is repeated and the keys ascend -/
  sorted : Sorted entries

namespace Table

variable {β : Type u}

instance [DecidableEq β] : DecidableEq (Table β) := fun a b =>
  if h : a.entries = b.entries then
    .isTrue (by cases a; cases b; cases h; rfl)
  else .isFalse fun e => h (e ▸ rfl)

instance [Repr β] : Repr (Table β) := ⟨fun t n => reprPrec t.entries n⟩

/-- The table without entries. -/
def empty : Table β := ⟨[], .nil⟩

instance : EmptyCollection (Table β) := ⟨empty⟩

instance : Inhabited (Table β) := ⟨empty⟩

/-- The value found in a list of entries. -/
def find (k : String) : List (String × β) → Option β
  | [] => none
  | (k', v) :: es => if k' = k then some v else find k es

/-- The value of a key. -/
def get? (t : Table β) (k : String) : Option β :=
  find k t.entries

/-- Whether a key has a value. -/
def contains (t : Table β) (k : String) : Bool :=
  (t.get? k).isSome

/-- Put an entry in its place; an entry of the same key is replaced. -/
def place (k : String) (v : β) : List (String × β) → List (String × β)
  | [] => [(k, v)]
  | e :: es =>
    if k < e.1 then (k, v) :: e :: es
    else if e.1 = k then (k, v) :: es
    else e :: place k v es

/-- Take the entry of a key out. -/
def drop (k : String) (es : List (String × β)) : List (String × β) :=
  es.filter fun e => e.1 ≠ k

/-- Placing an entry adds nothing beside it. -/
theorem mem_place {k : String} {v : β} {es : List (String × β)} {e : String × β}
    (h : e ∈ place k v es) : e = (k, v) ∨ e ∈ es := by
  induction es with
  | nil => simpa [place] using h
  | cons a es ih =>
    simp only [place] at h
    split at h
    · simpa using h
    · split at h
      · rcases List.mem_cons.1 h with h | h <;> simp [h]
      · rcases List.mem_cons.1 h with h | h
        · simp [h]
        · rcases ih h with h | h <;> simp [h]

theorem sorted_place (k : String) (v : β) {es : List (String × β)} (h : Sorted es) :
    Sorted (place k v es) := by
  induction es with
  | nil => exact List.pairwise_singleton _ _
  | cons a es ih =>
    have ha := List.pairwise_cons.1 h
    simp only [place]
    split
    case isTrue hk =>
      refine List.pairwise_cons.2 ⟨fun e he => ?_, h⟩
      rcases List.mem_cons.1 he with he | he
      · exact he ▸ hk
      · exact String.lt_trans hk (ha.1 e he)
    case isFalse hk =>
      split
      case isTrue he =>
        refine List.pairwise_cons.2 ⟨fun e h' => ?_, ha.2⟩
        exact he ▸ ha.1 e h'
      case isFalse he =>
        refine List.pairwise_cons.2 ⟨fun e h' => ?_, ih ha.2⟩
        rcases mem_place h' with h' | h'
        · subst h'
          rcases String.le_total a.1 k with hle | hle
          · rcases Decidable.em (a.1 < k) with hlt | hlt
            · exact hlt
            · exact absurd (String.le_antisymm hle (String.not_lt.1 hlt)) he
          · exact absurd (String.le_antisymm (String.not_lt.1 hk) hle) he
        · exact ha.1 e h'

/-- Give a key a value; an earlier value of the key is replaced. -/
def insert (t : Table β) (k : String) (v : β) : Table β :=
  ⟨place k v t.entries, sorted_place k v t.sorted⟩

/-- Remove a key. -/
def erase (t : Table β) (k : String) : Table β :=
  ⟨drop k t.entries, t.sorted.filter _⟩

/-- The table of a list of entries; of repeated keys the last entry counts. -/
def ofList (es : List (String × β)) : Table β :=
  es.foldl (fun t e => t.insert e.1 e.2) empty

/-- The entries, by ascending key. -/
def toList (t : Table β) : List (String × β) := t.entries

/-- The keys, ascending. -/
def keys (t : Table β) : List String := t.entries.map Prod.fst

/-- The values, by ascending key. -/
def values (t : Table β) : List β := t.entries.map Prod.snd

/-- The number of entries. -/
def size (t : Table β) : Nat := t.entries.length

/-- Whether there is no entry. -/
def isEmpty (t : Table β) : Bool := t.entries.isEmpty

/-! ### Every operation, read through `get?` -/

@[simp] theorem get?_empty (k : String) : (empty : Table β).get? k = none := rfl

/-- After an entry is placed its key finds it, every other key what it found before. -/
theorem find_place (k k' : String) (v : β) (es : List (String × β)) :
    find k' (place k v es) = if k = k' then some v else find k' es := by
  induction es with
  | nil => simp [place, find]
  | cons a es ih =>
    simp only [place]
    split
    · simp [find]
    · split
      case isTrue he => by_cases hk : k = k' <;> simp_all [find]
      case isFalse he =>
        simp only [find, ih]
        by_cases ha : a.1 = k'
        · by_cases hk : k = k' <;> simp_all
        · simp [ha]

@[simp] theorem get?_insert (t : Table β) (k k' : String) (v : β) :
    (t.insert k v).get? k' = if k = k' then some v else t.get? k' :=
  find_place k k' v t.entries

/-- A dropped key finds nothing, every other key what it found before. -/
theorem find_drop (k k' : String) (es : List (String × β)) :
    find k' (drop k es) = if k = k' then none else find k' es := by
  induction es with
  | nil => simp [drop, find]
  | cons a es ih =>
    by_cases ha : a.1 = k
    · have : drop k (a :: es) = drop k es := by simp [drop, ha]
      rw [this, ih]
      by_cases hk : k = k' <;> simp_all [find]
    · have : drop k (a :: es) = a :: drop k es := by simp [drop, ha]
      rw [this]
      simp only [find, ih]
      by_cases hk : k = k' <;> simp_all

@[simp] theorem get?_erase (t : Table β) (k k' : String) :
    (t.erase k).get? k' = if k = k' then none else t.get? k' :=
  find_drop k k' t.entries

end Table

end DeviceHost
