import DeviceHost.Table
import Mathlib.Data.List.Basic

/-!
# Tables, counted and listed

`get?` says what a table holds under each key. Here the other views of a table are tied to it: its
entries and values (`mem_entries`, `mem_values`), its keys (`keys_nodup`), and its size, which an
insertion raises by one exactly when the key is new and a removal lowers by one exactly when the key
is there (`size_insert`, `size_erase`). Tables that hold the same are the same, so the order in
which entries were put in does not show (`ext_get?`, `ofList_of_perm`).

Both counts need the order of the entries: `place` stops at the first larger key and never looks
behind it, and only the order says that the key does not occur there.
-/

namespace DeviceHost

universe u

/-- The last item of a list that qualifies. -/
theorem find?_reverse_eq_some_iff {β : Type u} {l : List β} {p : β → Bool} {x : β} :
    l.reverse.find? p = some x ↔
      p x ∧ ∃ before after, l = before ++ x :: after ∧ ∀ y ∈ after, p y = false := by
  rw [List.find?_eq_some_iff_append]
  constructor
  · rintro ⟨hx, after, before, hsplit, hafter⟩
    refine ⟨hx, before.reverse, after.reverse, ?_, fun y hy => ?_⟩
    · rw [← List.reverse_reverse l, hsplit]
      simp
    · simpa using hafter y (List.mem_reverse.mp hy)
  · rintro ⟨hx, before, after, rfl, hafter⟩
    refine ⟨hx, after.reverse, before.reverse, by simp, fun y hy => ?_⟩
    simpa using hafter y (List.mem_reverse.mp hy)

/-- Something qualifies in a list that is one item longer, given what comes before and after it: the
last item, or one that is not the last. -/
theorem exists_split_concat_iff {β : Type} {l : List β} {y : β}
    {P : List β → β → List β → Prop} :
    (∃ before x after, l ++ [y] = before ++ x :: after ∧ P before x after) ↔
      P l y [] ∨ ∃ before x after, l = before ++ x :: after ∧ P before x (after ++ [y]) := by
  constructor
  · rintro ⟨before, x, after, hsplit, hx⟩
    rcases List.eq_nil_or_concat after with rfl | ⟨after, last, rfl⟩
    · obtain ⟨rfl, hy⟩ := List.append_inj' hsplit rfl
      obtain ⟨rfl, -⟩ := List.cons.inj hy
      exact .inl hx
    · rw [List.concat_eq_append] at hsplit hx
      rw [← List.cons_append, ← List.append_assoc] at hsplit
      obtain ⟨rfl, hy⟩ := List.append_inj' hsplit rfl
      obtain ⟨rfl, -⟩ := List.cons.inj hy
      exact .inr ⟨before, x, after, rfl, hx⟩
  · rintro (hy | ⟨before, x, after, rfl, hx⟩)
    · exact ⟨l, y, [], rfl, hy⟩
    · exact ⟨before, x, after ++ [y], by simp, hx⟩

namespace Table

variable {β : Type u}

/-! ### Entries and keys -/

theorem mem_of_find {k : String} {v : β} {es : List (String × β)} (h : find k es = some v) :
    (k, v) ∈ es := by
  induction es with
  | nil => cases h
  | cons e es ih =>
    obtain ⟨k', v'⟩ := e
    simp only [find] at h
    split at h
    · rename_i hk
      obtain rfl := Option.some.inj h
      rw [hk]
      exact List.mem_cons_self ..
    · exact List.mem_cons_of_mem _ (ih h)

/-- In sorted entries every one of them is found by its key. -/
theorem find_of_mem {k : String} {v : β} {es : List (String × β)} (hs : Sorted es)
    (h : (k, v) ∈ es) : find k es = some v := by
  induction es with
  | nil => cases h
  | cons e es ih =>
    obtain ⟨hlt, htail⟩ := List.pairwise_cons.mp hs
    rcases List.mem_cons.mp h with rfl | h
    · simp [find]
    · have hk : e.1 < k := hlt (k, v) h
      have hne : e.1 ≠ k := fun he => String.lt_irrefl k (he ▸ hk)
      rw [find, if_neg hne]
      exact ih htail h

/-- A key that is smaller than all others is not there. -/
theorem find_eq_none_of_lt {k : String} {es : List (String × β)} (h : ∀ e ∈ es, k < e.1) :
    find k es = none := by
  rcases hf : find k es with _ | v
  · rfl
  · exact absurd (h _ (mem_of_find hf)) (String.lt_irrefl k)

/-- The entries of a table are what its keys lead to. -/
theorem mem_entries {t : Table β} {k : String} {v : β} :
    (k, v) ∈ t.entries ↔ t.get? k = some v :=
  ⟨find_of_mem t.sorted, mem_of_find⟩

/-- The values of a table are those that some key leads to. -/
theorem mem_values {t : Table β} {v : β} : v ∈ t.values ↔ ∃ k, t.get? k = some v := by
  constructor
  · intro h
    obtain ⟨e, he, rfl⟩ := List.mem_map.mp h
    exact ⟨e.1, mem_entries.mp he⟩
  · rintro ⟨k, hk⟩
    exact List.mem_map.mpr ⟨(k, v), mem_entries.mpr hk, rfl⟩

theorem keys_nodup (t : Table β) : t.keys.Nodup := by
  refine List.pairwise_map.mpr (t.sorted.imp ?_)
  intro a b hab heq
  exact String.lt_irrefl b.1 (heq ▸ hab)

/-- Values that are kept under a key of their own are not repeated. -/
theorem values_nodup {t : Table β} {key : β → String} (h : ∀ k v, t.get? k = some v → key v = k) :
    (t.values.map key).Nodup := by
  have hkeys : t.values.map key = t.keys := by
    rw [values, keys, List.map_map]
    exact List.map_congr_left fun e he => h e.1 e.2 (mem_entries.mp he)
  rw [hkeys]
  exact t.keys_nodup

/-- The values are those of the keys. -/
theorem values_eq_filterMap (t : Table β) : t.values = t.keys.filterMap t.get? := by
  have hget : ∀ e ∈ t.entries, t.get? e.1 = some e.2 := fun e he => mem_entries.mp he
  rw [keys, List.filterMap_map]
  exact (List.filterMap_eq_map_iff_forall_eq_some.mpr hget).symm

/-- The keys of a table are those that lead somewhere. -/
theorem mem_keys {t : Table β} {k : String} : k ∈ t.keys ↔ (t.get? k).isSome := by
  rw [keys, List.mem_map, Option.isSome_iff_exists]
  constructor
  · rintro ⟨e, he, rfl⟩
    exact ⟨e.2, mem_entries.mp he⟩
  · rintro ⟨v, hv⟩
    exact ⟨(k, v), mem_entries.mpr hv, rfl⟩

/-! ### Size -/

/-- A placed entry adds one to the length, unless it replaces one. -/
theorem length_place (k : String) (v : β) {es : List (String × β)} (hs : Sorted es) :
    (place k v es).length = if (find k es).isSome then es.length else es.length + 1 := by
  induction es with
  | nil => simp [place, find]
  | cons e es ih =>
    obtain ⟨hlt, htail⟩ := List.pairwise_cons.mp hs
    simp only [place]
    split
    · -- the key comes before all others, so it is new
      rename_i hk
      have hnone : find k (e :: es) = none := by
        refine find_eq_none_of_lt fun a ha => ?_
        rcases List.mem_cons.mp ha with rfl | ha
        · exact hk
        · exact String.lt_trans hk (hlt a ha)
      simp [hnone]
    · split
      · rename_i hk
        simp [find, hk]
      · rename_i hk
        rw [List.length_cons, ih htail, find, if_neg hk]
        split <;> simp

theorem length_drop (k : String) {es : List (String × β)} (hs : Sorted es) :
    (drop k es).length + (if (find k es).isSome then 1 else 0) = es.length := by
  induction es with
  | nil => rfl
  | cons e es ih =>
    obtain ⟨hlt, htail⟩ := List.pairwise_cons.mp hs
    have ih := ih htail
    by_cases hk : e.1 = k
    · -- the entry goes, and behind it the key does not occur again
      have hnone : find k es = none := find_eq_none_of_lt (hk ▸ hlt)
      have hdrop : drop k (e :: es) = drop k es := by simp [drop, hk]
      rw [hnone] at ih
      rw [hdrop, find, if_pos hk, List.length_cons]
      simpa using ih
    · have hdrop : drop k (e :: es) = e :: drop k es := by simp [drop, hk]
      rw [hdrop, find, if_neg hk, List.length_cons, List.length_cons]
      omega

theorem size_insert (t : Table β) (k : String) (v : β) :
    (t.insert k v).size = if (t.get? k).isSome then t.size else t.size + 1 :=
  length_place k v t.sorted

theorem size_erase (t : Table β) (k : String) :
    (t.erase k).size + (if (t.get? k).isSome then 1 else 0) = t.size :=
  length_drop k t.sorted

/-! ### Tables made of lists -/

/-- Two tables that hold the same are the same: the order of the entries follows from the keys. -/
theorem ext_get? {t u : Table β} (h : ∀ k, t.get? k = u.get? k) : t = u := by
  have hnodup : ∀ v : Table β, v.entries.Nodup := fun v => by
    refine v.sorted.imp ?_
    rintro a _ hab rfl
    exact String.lt_irrefl a.1 hab
  have hperm : t.entries.Perm u.entries := by
    refine (List.perm_ext_iff_of_nodup (hnodup t) (hnodup u)).mpr fun e => ?_
    rw [mem_entries, mem_entries, h]
  have hentries : t.entries = u.entries :=
    hperm.eq_of_pairwise (fun a b _ _ hab hba => absurd (String.lt_trans hab hba)
      (String.lt_irrefl _)) t.sorted u.sorted
  obtain ⟨es, hs⟩ := t
  obtain rfl : es = u.entries := hentries
  rfl

/-- Of two values for one key the later one counts. -/
theorem insert_insert (t : Table β) (k : String) (v w : β) :
    (t.insert k v).insert k w = t.insert k w := by
  refine ext_get? fun k' => ?_
  rw [get?_insert, get?_insert, get?_insert]
  split <;> rfl

/-- A value that is there already changes nothing. -/
theorem insert_of_get? {t : Table β} {k : String} {v : β} (h : t.get? k = some v) :
    t.insert k v = t := by
  refine ext_get? fun k' => ?_
  rw [get?_insert]
  split
  · rename_i hk
    rw [← hk, h]
  · rfl

/-- Of the entries inserted under a key the last one counts. -/
theorem get?_foldl_insert (es : List (String × β)) (t : Table β) (k : String) :
    (es.foldl (fun t e => t.insert e.1 e.2) t).get? k
      = ((es.reverse.find? fun e => e.1 = k).map Prod.snd).or (t.get? k) := by
  induction es generalizing t with
  | nil => rfl
  | cons e es ih =>
    rw [List.foldl_cons, ih, List.reverse_cons, List.find?_append, get?_insert]
    by_cases hk : e.1 = k
    · cases es.reverse.find? fun e => e.1 = k <;> simp [hk]
    · cases es.reverse.find? fun e => e.1 = k <;> simp [hk]

/-- A key that is put in is there, with the value of one of its entries. -/
theorem exists_mem_get?_foldl_insert {es : List (String × β)} {k : String} (h : ∃ v, (k, v) ∈ es)
    (t : Table β) :
    ∃ v, (k, v) ∈ es ∧ (es.foldl (fun t e => t.insert e.1 e.2) t).get? k = some v := by
  obtain ⟨v, hv⟩ := h
  obtain ⟨⟨k', v'⟩, he⟩ : ∃ e, (es.reverse.find? fun e => e.1 = k) = some e := by
    rw [← Option.isSome_iff_exists, List.find?_isSome]
    exact ⟨(k, v), List.mem_reverse.mpr hv, by simp⟩
  obtain rfl : k' = k := by simpa using List.find?_some he
  refine ⟨v', List.mem_reverse.mp (List.mem_of_find?_eq_some he), ?_⟩
  rw [get?_foldl_insert, he]
  rfl

/-- Entries that are there already change nothing. -/
theorem foldl_insert_of_get? {es : List (String × β)} {t : Table β}
    (h : ∀ e ∈ es, t.get? e.1 = some e.2) : es.foldl (fun t e => t.insert e.1 e.2) t = t := by
  induction es with
  | nil => rfl
  | cons e es ih =>
    obtain ⟨he, hes⟩ := List.forall_mem_cons.mp h
    rw [List.foldl_cons, insert_of_get? he, ih hes]

/-- Of entries of one key the last one counts. -/
theorem get?_ofList (es : List (String × β)) (k : String) :
    (ofList es).get? k = (es.reverse.find? fun e => e.1 = k).map Prod.snd := by
  rw [ofList, get?_foldl_insert, get?_empty, Option.or_none]

/-- A key of a listed table leads to the last value that is listed for it. -/
theorem get?_ofList_eq_some_iff {es : List (String × β)} {k : String} {v : β} :
    (ofList es).get? k = some v ↔
      ∃ before after, es = before ++ (k, v) :: after ∧ ∀ e ∈ after, e.1 ≠ k := by
  rw [get?_ofList, Option.map_eq_some_iff]
  constructor
  · rintro ⟨e, he, rfl⟩
    obtain ⟨hk, before, after, rfl, hafter⟩ := find?_reverse_eq_some_iff.mp he
    obtain rfl := of_decide_eq_true hk
    exact ⟨before, after, rfl, fun e he => of_decide_eq_false (hafter e he)⟩
  · rintro ⟨before, after, rfl, hafter⟩
    exact ⟨(k, v), find?_reverse_eq_some_iff.mpr
      ⟨decide_eq_true rfl, before, after, rfl, fun e he => decide_eq_false (hafter e he)⟩, rfl⟩

/-- A table that is made of a list has exactly the listed keys. -/
theorem mem_keys_ofList {es : List (String × β)} {k : String} :
    k ∈ (ofList es).keys ↔ k ∈ es.map Prod.fst := by
  rw [mem_keys, Option.isSome_iff_exists, List.mem_map]
  constructor
  · rintro ⟨v, hv⟩
    obtain ⟨before, after, rfl, -⟩ := get?_ofList_eq_some_iff.mp hv
    exact ⟨(k, v), by simp, rfl⟩
  · rintro ⟨⟨k, v⟩, hmem, rfl⟩
    obtain ⟨w, -, hw⟩ := exists_mem_get?_foldl_insert ⟨v, hmem⟩ empty
    exact ⟨w, hw⟩

/-- The entries before an entry are those with smaller keys. -/
theorem mem_earlier_iff {t : Table β} {earlier later : List (String × β)}
    {e : String × β} (h : t.toList = earlier ++ e :: later) {k : String} {v : β} :
    (k, v) ∈ earlier ↔ t.get? k = some v ∧ k < e.1 := by
  have hsorted : Sorted (earlier ++ e :: later) := h ▸ t.sorted
  obtain ⟨-, hrest, hbelow⟩ := List.pairwise_append.mp hsorted
  obtain ⟨habove, -⟩ := List.pairwise_cons.mp hrest
  have hget : t.get? k = some v ↔ (k, v) ∈ earlier ++ e :: later := by
    rw [← h]
    exact mem_entries.symm
  rw [hget]
  constructor
  · intro hmem
    exact ⟨List.mem_append_left _ hmem, hbelow _ hmem e (List.mem_cons_self ..)⟩
  · rintro ⟨hmem, hlt⟩
    rcases List.mem_append.mp hmem with hmem | hmem
    · exact hmem
    · rcases List.mem_cons.mp hmem with rfl | hmem
      · exact absurd hlt (String.lt_irrefl k)
      · exact absurd (habove _ hmem) (String.lt_asymm hlt)

/-- The entries of a table make that table, in whatever order they come. -/
theorem ofList_of_perm {es : List (String × β)} {t : Table β} (h : es.Perm t.toList) :
    ofList es = t := by
  have hheld : ∀ {k : String} {v : β}, (k, v) ∈ es ↔ t.get? k = some v := fun {k v} =>
    h.mem_iff.trans mem_entries
  refine ext_get? fun k => Option.ext fun v => ?_
  rw [← hheld]
  constructor
  · intro hget
    obtain ⟨before, after, rfl, -⟩ := get?_ofList_eq_some_iff.mp hget
    simp
  · intro hmem
    obtain ⟨v', hmem', hget⟩ := exists_mem_get?_foldl_insert ⟨v, hmem⟩ empty
    -- the table has one value for the key
    have hvalue : v' = v := Option.some.inj ((hheld.mp hmem').symm.trans (hheld.mp hmem))
    exact hvalue ▸ hget

end Table

end DeviceHost
