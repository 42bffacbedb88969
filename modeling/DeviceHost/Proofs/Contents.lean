import DeviceHost.Proofs.NameIndex
import Mathlib.Data.Finmap

/-!
# A store is a finite map

Beside the index of names, a store holds nothing but one device for each of some identifiers.
Whoever only puts devices in, takes them out, loads, clears, looks identifiers up, lists and counts,
cannot tell it from a plain finite map.

* `Call`, `Answer` — what a store is asked, and what it answers;
* `DeviceMap.Step` — how a finite map behaves when it is asked the same: it is a relation, because
  the order of devices of one name in a list is left open;
* `contents` — the finite map that a store stands for, with one lemma for each way to change a
  store;
* `step_answer` — one call to the store is one step of its contents;
* `answersAsMap` — so any number of calls is as many steps.
-/

namespace DeviceHost

/-! ## What a store is asked -/

namespace Store

/-- Something that a store is asked to do or to tell. -/
inductive Call
  /-- to change -/
  | change (a : Action)
  /-- for the device of an identifier -/
  | get (id : String)
  /-- for all devices -/
  | list
  /-- for the number of devices -/
  | size
  /-- whether there are no devices -/
  | isEmpty

/-- What a store answers. -/
inductive Answer
  /-- nothing -/
  | done
  /-- what has changed -/
  | outcome (o : PutOutcome)
  /-- a device, or that there is none -/
  | device (d : Option Device)
  /-- devices, in order -/
  | devices (ds : List Device)
  /-- a number -/
  | count (n : Nat)
  /-- yes or no -/
  | truth (b : Bool)

/-- What a store answers to a call. -/
def answer (s : Store) : Call → Answer
  | .change (.put d) => .outcome (s.put d).1
  | .change (.remove id) => .device (s.remove id).1
  | .change (.load ds) => .count (ofList ds).size
  | .change .clear => .done
  | .get id => .device (s.get? id)
  | .list => .devices s.list
  | .size => .count s.size
  | .isEmpty => .truth s.isEmpty

/-- The store after a call. -/
def afterCall (s : Store) : Call → Store
  | .change a => a.apply s
  | _ => s

/-- What a store answers to one call after the other. -/
def answers (s : Store) : List Call → List Answer
  | [] => []
  | c :: cs => s.answer c :: (s.afterCall c).answers cs

/-- The store after one call after the other. -/
def afterCalls (s : Store) (cs : List Call) : Store :=
  cs.foldl afterCall s

end Store

/-! ## How a finite map behaves -/

/-- A finite map from identifiers to devices. -/
abbrev DeviceMap : Type := Finmap fun _ : String => Device

/-- Two devices are reached over the same protocols: as many of them, and one by one with the same
name and the same properties. -/
def Device.ReachedAlike (a b : Device) : Prop :=
  List.Forall₂ (fun p q : Protocol => p.name = q.name ∧ ∀ key, p.property? key = q.property? key)
    a.protocols b.protocols

/-- A device is the last one of its identifier in a list. -/
def Device.IsLast (d : Device) (ds : List Device) : Prop :=
  ∃ before after, ds = before ++ d :: after ∧ ∀ e ∈ after, e.id ≠ d.id

namespace DeviceMap

open Store (Call Answer)

/-- The devices of a map, one for each identifier that it has. -/
def values (M : DeviceMap) : Multiset Device := M.entries.map Sigma.snd

/-- What a map may answer to a call, and the map after it. -/
inductive Step : DeviceMap → Call → Answer → DeviceMap → Prop
  /-- a device is put in under an identifier that was not there -/
  | created {M : DeviceMap} {d : Device} (absent : M.lookup d.id = none) :
    Step M (.change (.put d)) (.outcome .created) (M.insert d.id d)
  /-- a device is put in, and what was there was reached in the same way -/
  | refreshed {M : DeviceMap} {d old : Device} (present : M.lookup d.id = some old)
    (alike : old.ReachedAlike d) :
    Step M (.change (.put d)) (.outcome .updatedRemoteOnly) (M.insert d.id d)
  /-- a device is put in, and what was there was reached in another way -/
  | updated {M : DeviceMap} {d old : Device} (present : M.lookup d.id = some old)
    (differ : ¬ old.ReachedAlike d) :
    Step M (.change (.put d)) (.outcome .updatedLocally) (M.insert d.id d)
  /-- an identifier is taken out, and what was there is handed over -/
  | removed (M : DeviceMap) (id : String) :
    Step M (.change (.remove id)) (.device (M.lookup id)) (M.erase id)
  /-- everything is replaced by the last device of each identifier -/
  | loaded {M N : DeviceMap} {ds : List Device}
    (latest : ∀ i d, N.lookup i = some d ↔ d.id = i ∧ d.IsLast ds) :
    Step M (.change (.load ds)) (.count (ds.map Device.id).toFinset.card) N
  /-- everything is taken out -/
  | cleared (M : DeviceMap) : Step M (.change .clear) .done ∅
  /-- an identifier is looked up -/
  | found (M : DeviceMap) (id : String) : Step M (.get id) (.device (M.lookup id)) M
  /-- the devices are listed, one for each identifier, in the order of their names -/
  | listed {M : DeviceMap} {ds : List Device} (all : (ds : Multiset Device) = M.values)
    (sorted : ds.Pairwise fun a b => a.name ≤ b.name) : Step M .list (.devices ds) M
  /-- the identifiers are counted -/
  | counted (M : DeviceMap) : Step M .size (.count M.keys.card) M
  /-- it is told whether there are any -/
  | tested {M : DeviceMap} {b : Bool} (meaning : b = true ↔ M = ∅) : Step M .isEmpty (.truth b) M

/-- What a map may answer to one call after the other, and the map after them. -/
inductive Steps : DeviceMap → List Call → List Answer → DeviceMap → Prop
  /-- nothing is asked -/
  | none (M : DeviceMap) : Steps M [] [] M
  /-- one call, and then others -/
  | more {M M' M'' : DeviceMap} {c : Call} {cs : List Call} {a : Answer} {as : List Answer}
    (first : Step M c a M') (later : Steps M' cs as M'') : Steps M (c :: cs) (a :: as) M''

end DeviceMap

/-! ## The contents of a store -/

/-- Two devices have the same protocols exactly if they are reached alike. -/
theorem Device.sameProtocols_iff_reachedAlike {a b : Device} :
    a.sameProtocols b = true ↔ a.ReachedAlike b := by
  rw [sameProtocols_iff, ReachedAlike]
  constructor
  · intro h
    rw [h]
    exact List.forall₂_same.mpr fun p _ => ⟨rfl, fun _ => rfl⟩
  · intro h
    refine List.forall₂_eq_eq_eq ▸ h.imp fun p q hpq => ?_
    obtain ⟨name, properties⟩ := p
    obtain ⟨name', properties'⟩ := q
    obtain ⟨rfl, hproperties⟩ := hpq
    obtain rfl : properties = properties' := Table.ext_get? hproperties
    rfl

namespace Store

/-- The finite map that a store stands for. -/
def contents (s : Store) : DeviceMap where
  entries := (s.devices.entries.map fun e => (⟨e.1, e.2⟩ : Sigma fun _ => Device) : List _)
  nodupKeys := by
    rw [Multiset.coe_nodupKeys, List.NodupKeys, List.keys, List.map_map]
    exact s.devices.keys_nodup

theorem lookup_contents (s : Store) (i : String) : s.contents.lookup i = s.get? i := by
  refine Option.ext fun d => ?_
  rw [← Option.mem_def, Finmap.mem_lookup_iff, get?, ← Table.mem_entries, contents,
    Multiset.mem_coe, List.mem_map]
  constructor
  · rintro ⟨e, he, hd⟩
    cases hd
    exact he
  · intro he
    exact ⟨(i, d), he, rfl⟩

/-- What a store has under its identifiers says what its contents are. -/
theorem contents_eq {s : Store} {M : DeviceMap} (h : ∀ i, s.get? i = M.lookup i) :
    s.contents = M :=
  Finmap.ext_lookup fun i => (s.lookup_contents i).trans (h i)

theorem contents_empty : empty.contents = ∅ := rfl

theorem contents_insert (s : Store) (d : Device) :
    (s.insert d).contents = s.contents.insert d.id d := by
  refine contents_eq fun i => ?_
  rw [get?_insert]
  by_cases hi : d.id = i
  · rw [if_pos hi, ← hi, Finmap.lookup_insert]
  · rw [if_neg hi, Finmap.lookup_insert_of_ne _ (Ne.symm hi), lookup_contents]

theorem contents_remove (s : Store) (id : String) :
    (s.remove id).2.contents = s.contents.erase id := by
  refine contents_eq fun i => ?_
  rw [get?_remove]
  by_cases hi : id = i
  · rw [if_pos hi, ← hi, Finmap.lookup_erase]
  · rw [if_neg hi, Finmap.lookup_erase_ne (Ne.symm hi), lookup_contents]

/-- The list of a store is that of the values of its map, in the order of the identifiers. -/
theorem values_contents (s : Store) : s.contents.values = s.list := by
  have hvalues : s.contents.values = s.devices.values := by
    rw [DeviceMap.values, contents, Multiset.map_coe, List.map_map]
    rfl
  rw [hvalues]
  exact (Multiset.coe_eq_coe.mpr (List.mergeSort_perm _ _)).symm

/-- The size of a store is the number of keys of its map. -/
theorem card_keys_contents (s : Store) : s.contents.keys.card = s.size := by
  change ((s.devices.entries.map _).map Sigma.fst).length = s.devices.entries.length
  rw [List.length_map, List.length_map]

theorem isEmpty_iff (s : Store) : s.isEmpty = true ↔ s.contents = ∅ := by
  rw [isEmpty, Table.isEmpty, List.isEmpty_iff]
  constructor
  · intro h
    refine contents_eq fun i => ?_
    rw [get?, Table.get?, h]
    rfl
  · intro h
    have hsize : s.size = 0 := by rw [← card_keys_contents, h, Finmap.keys_empty, Finset.card_empty]
    exact List.eq_nil_of_length_eq_zero hsize

/-! ### A whole store at once -/

/-- In a whole store an identifier leads to its last device in the list. -/
theorem get?_ofList_eq_some_iff {ds : List Device} {i : String} {d : Device} :
    (ofList ds).get? i = some d ↔ d.id = i ∧ d.IsLast ds := by
  rw [get?_ofList, find?_reverse_eq_some_iff]
  constructor
  · rintro ⟨hid, before, after, hsplit, hafter⟩
    obtain rfl : d.id = i := of_decide_eq_true hid
    exact ⟨rfl, before, after, hsplit, fun e he => of_decide_eq_false (hafter e he)⟩
  · rintro ⟨rfl, before, after, hsplit, hafter⟩
    exact ⟨decide_eq_true rfl, before, after, hsplit, fun e he => decide_eq_false (hafter e he)⟩

/-- A store that is made of a list has exactly the listed identifiers. -/
theorem keys_contents_ofList (ds : List Device) :
    (ofList ds).contents.keys = (ds.map Device.id).toFinset := by
  ext i
  rw [Finmap.mem_keys, ← Finmap.lookup_isSome, lookup_contents, List.mem_toFinset, List.mem_map]
  constructor
  · intro h
    obtain ⟨d, hd⟩ := Option.isSome_iff_exists.mp h
    exact ⟨d, mem_of_get?_ofList hd⟩
  · rintro ⟨d, hd, rfl⟩
    exact isSome_get?_ofList hd

/-- The number of devices of a whole store is the number of different identifiers. -/
theorem size_ofList (ds : List Device) :
    (ofList ds).size = (ds.map Device.id).toFinset.card := by
  rw [← card_keys_contents, keys_contents_ofList]

/-- Loading is clearing and then putting the devices in, one after the other. -/
theorem afterCall_load (s : Store) (ds : List Device) :
    s.afterCall (.change (.load ds)) =
      s.afterCalls (.change .clear :: ds.map fun d => .change (.put d)) := by
  rw [afterCalls, List.foldl_cons, List.foldl_map]
  rfl

/-! ## Calls -/

/-- **One call to a store is one step of its contents.** -/
theorem step_answer (s : Store) (c : Call) :
    s.contents.Step c (s.answer c) (s.afterCall c).contents := by
  cases c with
  | change a =>
    cases a with
    | put d =>
      have hnext : (s.afterCall (.change (.put d))).contents = s.contents.insert d.id d :=
        s.contents_insert d
      rw [hnext, answer, put, outcomeOf]
      rcases hold : s.get? d.id with _ | old
      · exact .created ((s.lookup_contents d.id).trans hold)
      · have hpresent : s.contents.lookup d.id = some old := (s.lookup_contents d.id).trans hold
        dsimp only
        split
        · rename_i hsame
          exact .refreshed hpresent (Device.sameProtocols_iff_reachedAlike.mp hsame)
        · rename_i hdiffer
          exact .updated hpresent fun halike =>
            hdiffer (Device.sameProtocols_iff_reachedAlike.mpr halike)
    | remove id =>
      have hnext : (s.afterCall (.change (.remove id))).contents = s.contents.erase id :=
        s.contents_remove id
      rw [hnext, answer, remove_fst, ← lookup_contents]
      exact .removed s.contents id
    | load ds =>
      -- the loaded list is described by what each identifier leads to
      rw [answer, size_ofList]
      refine .loaded fun i d => ?_
      rw [lookup_contents]
      exact get?_ofList_eq_some_iff
    | clear => exact .cleared s.contents
  | get id =>
    rw [answer, ← lookup_contents]
    exact .found s.contents id
  | list => exact .listed s.values_contents.symm s.list_sorted
  | size =>
    rw [answer, ← card_keys_contents]
    exact .counted s.contents
  | isEmpty => exact .tested s.isEmpty_iff

/-- Every list of calls is answered as the map answers it, step by step. -/
theorem steps_answers (s : Store) (cs : List Call) :
    s.contents.Steps cs (s.answers cs) (s.afterCalls cs).contents := by
  induction cs generalizing s with
  | nil => exact .none s.contents
  | cons c cs ih => exact .more (s.step_answer c) (ih (s.afterCall c))

/-- **A store is a finite map**: what a new store answers to any calls, one after the other, is what
a finite map answers that is empty at first, and the map after the calls is what the store holds
then. Besides, loading always leads to the store that clearing it and then putting the devices in
leads to. -/
theorem answersAsMap (cs : List Call) :
    DeviceMap.Steps ∅ cs (empty.answers cs) (empty.afterCalls cs).contents ∧
      (∀ i, (empty.afterCalls cs).contents.lookup i = (empty.afterCalls cs).get? i) ∧
      ∀ ds, (empty.afterCalls cs).afterCall (.change (.load ds)) =
        (empty.afterCalls cs).afterCalls (.change .clear :: ds.map fun d => .change (.put d)) :=
  ⟨contents_empty ▸ empty.steps_answers cs, fun i => lookup_contents _ i,
    fun ds => afterCall_load _ ds⟩

end Store

end DeviceHost
