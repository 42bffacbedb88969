import DeviceHost.Proofs.Table
import DeviceHost.Store

/-!
# What a store holds

The other views of a store are tied to `get?` here: the list of its devices (`mem_list`,
`list_sorted`, `list_nodup`), its size (`size_insert`, `size_remove`), and a whole store made from a
list of devices, of which the last one of each identifier counts (`get?_ofList`).

A store is `Filed` if every device is under its own identifier. The type of stores does not say so,
but nothing that is ever done to a store breaks it.
-/

namespace DeviceHost

namespace Store

/-! ### Every device under its own identifier -/

/-- Every device is under its own identifier. -/
def Filed (s : Store) : Prop :=
  ∀ i d, s.get? i = some d → d.id = i

theorem filed_empty : Filed empty := by
  intro i d h
  cases h

/-- An insertion leaves every device under its own identifier. -/
theorem Filed.insert {s : Store} (hs : Filed s) (d : Device) : Filed (s.insert d) := by
  intro i e h
  rw [get?_insert] at h
  split at h
  · obtain rfl := Option.some.inj h
    assumption
  · exact hs i e h

theorem Filed.remove {s : Store} (hs : Filed s) (id : String) : Filed (s.remove id).2 := by
  intro i d h
  rw [get?_remove] at h
  split at h
  · cases h
  · exact hs i d h

/-- Insertions one after the other leave every device under its own identifier. -/
theorem Filed.foldl_insert {s : Store} (hs : Filed s) (ds : List Device) :
    Filed (ds.foldl Store.insert s) := by
  induction ds generalizing s with
  | nil => exact hs
  | cons d ds ih => exact ih (hs.insert d)

theorem filed_ofList (ds : List Device) : Filed (ofList ds) :=
  filed_empty.foldl_insert ds

/-! ### Many devices at once -/

/-- Of the devices inserted under an identifier the last one is stored. -/
theorem get?_foldl_insert (ds : List Device) (s : Store) (i : String) :
    (ds.foldl Store.insert s).get? i = (ds.reverse.find? fun d => d.id = i).or (s.get? i) := by
  induction ds generalizing s with
  | nil => rfl
  | cons d ds ih =>
    rw [List.foldl_cons, ih, List.reverse_cons, List.find?_append, get?_insert, Option.or_assoc]
    congr 1
    by_cases h : d.id = i <;> simp [h]

/-- Of the devices of one identifier the last one counts. -/
theorem get?_ofList (ds : List Device) (i : String) :
    (ofList ds).get? i = ds.reverse.find? fun d => d.id = i := by
  rw [ofList, get?_foldl_insert, get?_empty, Option.or_none]

/-- A store that is made of a list has devices of that list only. -/
theorem mem_of_get?_ofList {ds : List Device} {i : String} {d : Device}
    (h : (ofList ds).get? i = some d) : d ∈ ds ∧ d.id = i := by
  rw [get?_ofList] at h
  exact ⟨List.mem_reverse.mp (List.mem_of_find?_eq_some h), by simpa using List.find?_some h⟩

/-- A store that is made of a list has a device under every listed identifier. -/
theorem isSome_get?_ofList {ds : List Device} {d : Device} (h : d ∈ ds) :
    ((ofList ds).get? d.id).isSome := by
  rw [get?_ofList, List.find?_isSome]
  exact ⟨d, List.mem_reverse.mpr h, by simp⟩

/-! ### The list -/

theorem list_empty : empty.list = [] :=
  List.mergeSort_nil

/-- The list holds exactly the devices that are stored under some identifier. -/
theorem mem_list {s : Store} {d : Device} : d ∈ s.list ↔ ∃ i, s.get? i = some d := by
  rw [list, List.mem_mergeSort]
  exact Table.mem_values

/-- The list holds exactly the devices that are stored under their own identifier. -/
theorem Filed.mem_list {s : Store} (hs : Filed s) {d : Device} :
    d ∈ s.list ↔ s.get? d.id = some d := by
  rw [Store.mem_list]
  constructor
  · rintro ⟨i, h⟩
    rwa [hs i d h]
  · intro h
    exact ⟨d.id, h⟩

/-- The list is in the order of the names. -/
theorem list_sorted (s : Store) : s.list.Pairwise fun a b => a.name ≤ b.name := by
  have h : s.list.Pairwise fun a b => decide (a.name ≤ b.name) = true := by
    refine List.pairwise_mergeSort ?_ ?_ _
    · intro a b c hab hbc
      exact decide_eq_true (String.le_trans (of_decide_eq_true hab) (of_decide_eq_true hbc))
    · intro a b
      rcases String.le_total a.name b.name with h | h <;> simp [h]
  exact h.imp of_decide_eq_true

/-- No two devices of the list have one identifier. -/
theorem Filed.list_nodup {s : Store} (hs : Filed s) : (s.list.map Device.id).Nodup := by
  have hperm : (s.list.map Device.id).Perm (s.devices.values.map Device.id) :=
    (List.mergeSort_perm _ _).map _
  rw [hperm.nodup_iff]
  exact Table.values_nodup hs

/-! ### The size -/

/-- An insertion adds one to the size, unless it replaces a device. -/
theorem size_insert (s : Store) (d : Device) :
    (s.insert d).size = if (s.get? d.id).isSome then s.size else s.size + 1 :=
  Table.size_insert ..

/-- The removal of a stored device takes one from the size. -/
theorem size_remove {s : Store} {id : String} {d : Device} (h : s.get? id = some d) :
    (s.remove id).2.size + 1 = s.size := by
  have hsize := Table.size_erase s.devices id
  have hsome : (s.devices.get? id).isSome := by
    rw [show s.devices.get? id = some d from h]
    rfl
  rw [if_pos hsome] at hsize
  rw [remove, h]
  exact hsize

end Store

end DeviceHost
